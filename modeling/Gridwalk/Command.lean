import Gridwalk.Listing
import Gridwalk.Options
import Gridwalk.Run

/-!
# The command

Reads a program file and runs or lists it. The outcome is an exit status, what standard
output received and the text for standard error. Output is the program's alone; journal,
statistics and faults go to standard error, in this order.
-/
namespace Gridwalk

/-- The texts of the two clock readings that the statistics show. -/
structure Readings where
  elapsed : List Char
  rate : List Char
  deriving DecidableEq, Repr, Inhabited

/-- What the command meets when it is called. -/
structure Surroundings where
  /-- The contents of a file, or what the system says about its failure. -/
  files : String → Except String (List UInt8)
  input : Source
  output : Device
  readings : Readings

structure Report where
  status : Nat
  output : List UInt8
  messages : List Char
  deriving DecidableEq, Repr, Inhabited

namespace Command

def name : List Char := "zerostack2d".toList

def notice (text : List Char) : List Char := name ++ [':', ' '] ++ text ++ ['\n']

def faultNotice (f : Fault) : List Char := notice f.report.toList

def misuseStatus : Nat := 2

def stepLimitStatus : Nat := 5

def brokenListingStatus : Nat := 101

def load (files : String → Except String (List UInt8)) (path : String) : Except Fault Grid :=
  match files path with
  | .error cause => .error (.unreadableProgram path cause)
  | .ok bytes =>
    match Utf8.decode bytes with
    | none => .error (.unreadableProgram path Utf8.invalid)
    | some text => .ok (Grid.parse text)

def journalText (journal : List Entry) : List Char :=
  journal.flatMap fun entry => entry.line ++ ['\n']

def statistics (steps : Nat) (readings : Readings) : List Char :=
  "Run statistics:\n".toList ++
  "  Steps:      ".toList ++ Decimal.writeNat steps ++ ['\n'] ++
  "  Elapsed:    ".toList ++ readings.elapsed ++ ['\n'] ++
  "  Steps/sec:  ".toList ++ readings.rate ++ ['\n']

/-- How the result of a run is told: the exit status and a notice unless the program halted. -/
def verdict : Except Fault Outcome → Nat × List Char
  | .ok (.halted _) => (0, [])
  | .ok (.stepLimit steps) =>
    (stepLimitStatus,
      notice ("step limit of ".toList ++ Decimal.writeNat steps ++ " reached before halt".toList))
  | .error f => (f.exitStatus, faultNotice f)

def brokenListing (cause : String) : List Char :=
  "failed printing to stdout: ".toList ++ cause.toList ++ ['\n']

/-- Prints a listing. Here a failing output is no fault of a run and has a status of its own. -/
def list (grid : Grid) (output : Device) : Report :=
  match ({ device := output } : Sink).publish (Utf8.encode (Listing.disassemble grid)) with
  | (none, sink) => { status := 0, output := sink.received, messages := [] }
  | (some cause, sink) =>
    { status := brokenListingStatus, output := sink.received, messages := brokenListing cause }

/-- The machine that the options ask for, before its first step. -/
def machine (o : Options) (grid : Grid) (input : Source) (output : Device) : Machine :=
  (Machine.start grid input output).configure { stepLimit := o.stepLimit, trace := o.trace }

def report (o : Options) (readings : Readings) (result : Except Fault Outcome) (m : Machine) :
    Report :=
  let (status, final) := verdict result
  { status
    output := m.output.received
    messages :=
      journalText m.journal.toList ++
      (if o.stats then statistics m.steps readings else []) ++ final }

/-- Carries out a request; `none` if the program is still running after `fuel` steps. Without
a program nothing happens. -/
def carryOut (fuel : Nat) (s : Surroundings) (o : Options) : Option Report :=
  match o.program with
  | none => some { status := 0, output := [], messages := [] }
  | some path =>
    match load s.files path with
    | .error f => some { status := f.exitStatus, output := [], messages := faultNotice f }
    | .ok grid =>
      if o.disassemble then some (list grid s.output)
      else
        (machine o grid s.input s.output).run fuel |>.map fun (result, m) =>
          report o s.readings result m

def usage : List Char :=
  "Usage: zerostack2d [--step-limit N] [--trace] [--stats] [--disassemble] [PROGRAM]\n".toList

/-- The whole command. Misuse is found before anything is read or run. -/
def invoke (fuel : Nat) (s : Surroundings) (args : List String) : Option Report :=
  match Options.parse args with
  | .misuse => some { status := misuseStatus, output := [], messages := usage }
  | .help => some { status := 0, output := Utf8.encode usage, messages := [] }
  | .proceed o => carryOut fuel s o

end Command

end Gridwalk
