import Gridwalk.Main
import Gridwalk.Directory
import Gridwalk.Session
import Gridwalk.Proofs.Sessions
import Gridwalk.Proofs.Agreement
import Gridwalk.Proofs.Requests
import Gridwalk.Proofs.ImplicitZeros
import Gridwalk.Proofs.Columns
import Gridwalk.Proofs.DriverIndependence
import Gridwalk.Proofs.BoundingBox
import Gridwalk.Proofs.VisitedCells
import Gridwalk.Proofs.Endings
import Gridwalk.Proofs.StepLimits
import Gridwalk.Proofs.OneLine
import Gridwalk.Proofs.CommandOutcome
import Gridwalk.Proofs.FailingOutput
import Gridwalk.Proofs.Lines
import Gridwalk.Proofs.Rows
import Gridwalk.Proofs.FailedSteps
import Gridwalk.Proofs.History
import Gridwalk.Proofs.LineByLine
import Gridwalk.Proofs.Causality
import Gridwalk.Proofs.Tracing
import Gridwalk.Proofs.CommandLine
import Gridwalk.Proofs.Diagnostics
import Gridwalk.Proofs.Listings
import Gridwalk.Proofs.Decimals
import Gridwalk.Proofs.Pipes
import Gridwalk.Proofs.Transcripts
import Gridwalk.Proofs.Capacity
import Gridwalk.Proofs.Flushing
import Gridwalk.Proofs.Growth
import Gridwalk.Proofs.Literals
import Gridwalk.Proofs.ReadingSteps
import Gridwalk.Proofs.IntegerLines
import Gridwalk.Proofs.Characters
import Gridwalk.Proofs.Failures
import Gridwalk.Proofs.Retries
import Gridwalk.Proofs.Segments
import Gridwalk.Proofs.Terminators
import Gridwalk.Proofs.Countdown
import Gridwalk.Proofs.OptionOrder
