/-!
# Output

A sink takes bytes one by one and keeps those it accepted. What it refuses and which flushes
fail is up to the device behind it. The sink remembers how much it held at every flush.
-/
namespace Gridwalk

/-- How the receiver of the output behaves, as causes of failure. -/
structure Device where
  /-- Asked for each byte: the number of the write call and the bytes held so far. -/
  refuse : Nat → Nat → Option String
  /-- Asked for each flush: the number of the flush call and the bytes held. -/
  refuseFlush : Nat → Nat → Option String

namespace Device

def working : Device := ⟨fun _ _ => none, fun _ _ => none⟩

/-- Accepts bytes until it holds `capacity` of them. -/
def capped (capacity : Nat) (cause : String) : Device :=
  ⟨fun _ held => if held < capacity then none else some cause, fun _ _ => none⟩

/-- Takes every byte into a buffer that can never be emptied. -/
def full (cause : String) : Device :=
  ⟨fun _ _ => none, fun _ held => if held = 0 then none else some cause⟩

end Device

structure Sink where
  device : Device
  bytes : Array UInt8 := #[]
  /-- Write calls so far, failed ones included. -/
  writes : Nat := 0
  /-- For every flush call so far, failed ones included, the number of bytes held. -/
  flushes : Array Nat := #[]
  /-- Bytes held at the last flush that succeeded: so many have reached the receiver. -/
  delivered : Nat := 0

namespace Sink

/-- Offers bytes until one is refused; those before it stay. -/
def offer (device : Device) (call : Nat) : Array UInt8 → List UInt8 → Option String × Array UInt8
  | held, [] => (none, held)
  | held, b :: rest =>
    match device.refuse call held.size with
    | some cause => (some cause, held)
    | none => offer device call (held.push b) rest

/-- One write call. The result is the cause of its failure, if any. -/
def write (piece : List UInt8) (s : Sink) : Option String × Sink :=
  let (failure, bytes) := offer s.device s.writes s.bytes piece
  (failure, { s with bytes, writes := s.writes + 1 })

def flush (s : Sink) : Option String × Sink :=
  let held := s.bytes.size
  match s.device.refuseFlush s.flushes.size held with
  | some cause => (some cause, { s with flushes := s.flushes.push held })
  | none => (none, { s with flushes := s.flushes.push held, delivered := held })

/-- Writes a piece and flushes it. Nothing is flushed when the write fails. -/
def publish (piece : List UInt8) (s : Sink) : Option String × Sink :=
  match s.write piece with
  | (some cause, s) => (some cause, s)
  | (none, s) => s.flush

def received (s : Sink) : List UInt8 := s.bytes.toList.take s.delivered

end Sink

end Gridwalk
