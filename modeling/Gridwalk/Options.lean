import Gridwalk.Text.Decimal

/-!
# Command-line options

Options may stand before or after the program, and after `--` everything is a program path.
Nothing may be given twice, and names are never abbreviated. All misuse is alike: what
exactly was wrong does not matter to the outcome.
-/
namespace Gridwalk

structure Options where
  program : Option String := none
  stepLimit : Option Nat := none
  trace : Bool := false
  stats : Bool := false
  disassemble : Bool := false
  deriving DecidableEq, Repr, Inhabited

inductive Setting where
  | program (path : String)
  | stepLimit (limit : Nat)
  | trace
  | stats
  | disassemble
  deriving DecidableEq, Repr, Inhabited

inductive Request where
  | proceed (options : Options)
  | help
  | misuse
  deriving DecidableEq, Repr, Inhabited

namespace Options

/-- Adds a setting; `none` if it was already there. -/
def add (o : Options) : Setting → Option Options
  | .program path => if o.program.isNone then some { o with program := some path } else none
  | .stepLimit limit =>
    if o.stepLimit.isNone then some { o with stepLimit := some limit } else none
  | .trace => if o.trace then none else some { o with trace := true }
  | .stats => if o.stats then none else some { o with stats := true }
  | .disassemble => if o.disassemble then none else some { o with disassemble := true }

def limit? (text : List Char) : Option Setting :=
  match Decimal.readCount text with
  | .ok limit => some (.stepLimit limit)
  | .error _ => none

/-- A program path, which may be anything but empty. -/
def path? (text : List Char) : Option Setting :=
  if text = [] then none else some (.program (String.ofList text))

/-- The text after `start`, if that is how `text` begins. -/
def after? : List Char → List Char → Option (List Char)
  | [], text => some text
  | _ :: _, [] => none
  | a :: start, b :: text => if a = b then after? start text else none

/-- A lone dash is a path like any other. -/
def looksLikeOption (text : List Char) : Bool := text.head? = some '-' && text ≠ ['-']

/-- An argument that is complete in itself. -/
def single? (arg : List Char) : Option Setting :=
  if arg = "--trace".toList then some .trace
  else if arg = "--stats".toList then some .stats
  else if arg = "--disassemble".toList then some .disassemble
  else
    match after? "--step-limit=".toList arg with
    | some value => limit? value
    | none => if looksLikeOption arg then none else path? arg

def asksForHelp (arg : List Char) : Bool :=
  arg = "--help".toList || (after? "-h".toList arg).isSome

def readPaths (o : Options) (args : List (List Char)) : Request :=
  match args.foldlM (fun o arg => (path? arg).bind o.add) o with
  | some o => .proceed o
  | none => .misuse

/-- Reads the arguments one after another, the first that is wrong decides. -/
def read (o : Options) : List (List Char) → Request
  | [] => .proceed o
  | arg :: rest =>
    if arg = ['-', '-'] then o.readPaths rest
    else if asksForHelp arg then .help
    else if arg = "--step-limit".toList then
      match rest with
      | [] => .misuse
      | value :: rest =>
        if value.head? = some '-' then .misuse
        else
          match (limit? value).bind o.add with
          | some o => read o rest
          | none => .misuse
    else
      match (single? arg).bind o.add with
      | some o => read o rest
      | none => .misuse

def parse (args : List String) : Request := read {} (args.map String.toList)

end Options

end Gridwalk
