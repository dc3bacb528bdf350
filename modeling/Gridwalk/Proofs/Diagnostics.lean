import Gridwalk.Proofs.CommandLine
import Gridwalk.Proofs.Rows
import Gridwalk.Proofs.Tracing

/-!
# Diagnostics beside a run

The trace and the statistics only put text of their own before the messages of a run. Status
and output stay as they are, and where nothing is run there is nothing to tell.
-/
namespace Gridwalk

namespace Options

variable {o : Options} {args args' : List String} (hargs : parse args = .proceed o)

include hargs

end Options

namespace Command

section Run

variable {o : Options} {grid : Grid} {input : Source} {output : Device} {fuel : Nat}

end Run

section Program

variable {s : Surroundings} {o : Options} {program : String} {grid : Grid}
  (hprogram : o.program = some program) (hload : load s.files program = .ok grid)
  (hlist : o.disassemble = false)

include hprogram hload hlist

end Program

end Command

end Gridwalk
