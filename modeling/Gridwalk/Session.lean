import Gridwalk.Run

/-!
# Sessions

A machine stays usable whatever its last answer was, so it can be driven by any sequence of
steps, runs and changes of its configuration.
-/
namespace Gridwalk

inductive Call where
  | step
  | run
  | configure (config : Config)
  deriving DecidableEq, Repr, Inhabited

inductive Reply where
  | stepped (result : Except Fault Status)
  | ran (result : Except Fault Outcome)
  | configured

namespace Machine

/-- One call; `none` if it is a run that is still going on after `fuel` steps. -/
def perform (fuel : Nat) (m : Machine) : Call → Option (Reply × Machine)
  | .step => let (result, m) := m.step; some (.stepped result, m)
  | .run => (m.run fuel).map fun (result, m) => (.ran result, m)
  | .configure config => some (.configured, m.configure config)

def performAll (fuel : Nat) (m : Machine) : List Call → Option (List Reply × Machine)
  | [] => some ([], m)
  | call :: rest => do
    let (reply, m) ← m.perform fuel call
    let (replies, m) ← m.performAll fuel rest
    some (reply :: replies, m)

end Machine

end Gridwalk
