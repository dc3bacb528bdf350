import Gridwalk.Machine

/-!
# Runs

A run steps until the machine halts, a step fails or the step limit is used up, and then
flushes the output once, however it ended. Without a limit it need not end, so such a run is
given fuel, and running dry is an answer of its own that says nothing about the program.
-/
namespace Gridwalk

inductive Outcome where
  | halted (steps : Nat)
  | stepLimit (steps : Nat)
  deriving DecidableEq, Repr, Inhabited

/-- Why a series of steps came to its end. -/
inductive Stop where
  | halted
  | failed (fault : Fault)
  /-- All steps allowed were taken and the machine could go on. -/
  | spent
  deriving DecidableEq, Repr, Inhabited

namespace Machine

/-- At most `n` steps, fewer if the machine halts or fails before. -/
def cruise : Nat → Machine → Stop × Machine
  | 0, m => (if m.halted then .halted else .spent, m)
  | n + 1, m =>
    match m.step with
    | (.error f, m) => (.failed f, m)
    | (.ok .halted, m) => (.halted, m)
    | (.ok .running, m) => cruise n m

/-- The flush that ends every run. A fault of the run itself hides one of the flush. -/
def finish (result : Except Fault Outcome) (m : Machine) : Except Fault Outcome × Machine :=
  match m.flush, result with
  | (_, m), .error f => (.error f, m)
  | (.error f, m), .ok _ => (.error f, m)
  | (.ok (), m), .ok outcome => (.ok outcome, m)

def settle : Stop → Machine → Except Fault Outcome × Machine
  | .halted, m => finish (.ok (.halted m.steps)) m
  | .failed f, m => finish (.error f) m
  | .spent, m => finish (.ok (.stepLimit m.steps)) m

/-- A run that may take steps until `limit` of them are counted. The count goes back to the
first step ever, so a machine that is past the limit stops at once. -/
def runWithin (limit : Nat) (m : Machine) : Except Fault Outcome × Machine :=
  let (stop, m) := cruise (limit - m.steps) m
  settle stop m

/-- A run without a limit; `none` if it is still going on after `fuel` steps. -/
def runFreely (fuel : Nat) (m : Machine) : Option (Except Fault Outcome × Machine) :=
  match cruise fuel m with
  | (.spent, _) => none
  | (stop, m) => some (settle stop m)

/-- A run as the machine is configured. Fuel matters only without a step limit. -/
def run (fuel : Nat) (m : Machine) : Option (Except Fault Outcome × Machine) :=
  match m.config.stepLimit with
  | some limit => some (m.runWithin limit)
  | none => m.runFreely fuel

end Machine

end Gridwalk
