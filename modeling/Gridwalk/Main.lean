import Gridwalk.Clock
import Gridwalk.Command

/-!
# The program

Carries the command out on the real standard streams, one step at a time: a line is fetched
when an instruction is about to read it, and output goes out after the step that wrote it.
-/
namespace Gridwalk.Main

/-- The system's words for a failure, with its error number. -/
def causeText : IO.Error → String
  | .alreadyExists _ code details | .otherError code details | .resourceBusy code details
  | .resourceVanished code details | .unsupportedOperation code details
  | .hardwareFault code details | .unsatisfiedConstraints code details
  | .illegalOperation code details | .protocolError code details | .timeExpired code details
  | .interrupted _ code details | .noFileOrDirectory _ code details
  | .invalidArgument _ code details | .permissionDenied _ code details
  | .resourceExhausted _ code details | .inappropriateType _ code details
  | .noSuchThing _ code details => details ++ " (os error " ++ toString code ++ ")"
  | .unexpectedEof => "unexpected end of file"
  | .userError text => text

def contentsOf (path : String) : IO (Except String (List UInt8)) := do
  try
    let file ← IO.FS.Handle.mk path .read
    return .ok (← file.readBinToEnd).toList
  catch failure => return .error (causeText failure)

/-- The bytes through the next line end, latest first, and what stopped the reading early. -/
partial def fetchLine (input : IO.FS.Stream) (taken : List UInt8) :
    IO (List UInt8 × Source) := do
  try
    let chunk ← input.read 1
    match chunk.toList with
    | b :: _ =>
      if b = Source.lineFeed then return (b :: taken, .eof)
      else fetchLine input (b :: taken)
    | [] => return (taken, .eof)
  catch failure => return (taken, .broken (causeText failure))

def send (bytes : List UInt8) : IO (Option String) := do
  try
    let output ← IO.getStdout
    output.write bytes.toByteArray
    output.flush
    return none
  catch failure => return some (causeText failure)

def tell (text : List Char) : IO Unit := do
  (← IO.getStderr).putStr (String.ofList text)

/-- Whether the next step reads a line. -/
def awaitsInput (m : Machine) : Bool :=
  !m.halted && (Instruction.decode m.cell == .readChar || Instruction.decode m.cell == .readInt)

/-- Steps to the end of the run, with nothing held back between two steps. -/
partial def walk (o : Options) (m : Machine) : IO (Except Fault Outcome × Nat) := do
  if o.stepLimit.any (· ≤ m.steps) then return (.ok (.stepLimit m.steps), m.steps)
  if o.trace then tell (m.entry.line ++ ['\n'])
  let m ←
    if awaitsInput m then
      let (taken, rest) ← fetchLine (← IO.getStdin) []
      pure { m with input := Source.prepend taken.reverse rest }
    else pure m
  let (result, m) := m.step
  let written := m.output.bytes.toList
  if !written.isEmpty then
    if let some cause ← send written then return (.error (.output cause), m.steps)
  let m := { m with output := { device := .working } }
  match result with
  | .error f => return (.error f, m.steps)
  | .ok .halted => return (.ok (.halted m.steps), m.steps)
  | .ok .running => walk o m

def execute (o : Options) (grid : Grid) : IO Nat := do
  let start ← IO.monoNanosNow
  let machine := Command.machine { o with trace := false } grid .eof .working
  let (result, steps) ← walk o machine
  if o.stats then
    let span := (← IO.monoNanosNow) - start
    tell (Command.statistics steps
      { elapsed := Clock.elapsed span, rate := Clock.rate steps span })
  let (status, notice) := Command.verdict result
  tell notice
  return status

def carryOut (o : Options) : IO Nat := do
  let some path := o.program | return 0
  let contents ← contentsOf path
  match Command.load (fun _ => contents) path with
  | .error f =>
    tell (Command.faultNotice f)
    return f.exitStatus
  | .ok grid =>
    if o.disassemble then
      match ← send (Utf8.encode (Listing.disassemble grid)) with
      | none => return 0
      | some cause =>
        tell (Command.brokenListing cause)
        return Command.brokenListingStatus
    else execute o grid

end Gridwalk.Main

def main (args : List String) : IO UInt32 := do
  match Gridwalk.Options.parse args with
  | .misuse =>
    Gridwalk.Main.tell Gridwalk.Command.usage
    return UInt32.ofNat Gridwalk.Command.misuseStatus
  | .help =>
    IO.print (String.ofList Gridwalk.Command.usage)
    return 0
  | .proceed options => return UInt32.ofNat (← Gridwalk.Main.carryOut options)
