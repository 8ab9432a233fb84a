/-!
Contract: the clocks from which idle times are read.

Owns:
- a clock as the sequence of its readings, in nanoseconds since 1970;
- clocks that stand still and clocks that move by the same step at every reading.

No clock is promised to run forwards.

Does not own: the text of a reading.
-/

namespace SocketGateway

/-- A clock: what each of its readings gives, and how many were taken so far. -/
structure Clock where
  reading : Nat → Int64
  taken : Nat := 0

namespace Clock

/-- The next reading of a clock. -/
def now (clock : Clock) : Int64 := clock.reading clock.taken

def advance (clock : Clock) : Clock := { clock with taken := clock.taken + 1 }

/-- The clock that always shows `time`. -/
def fixed (time : Int64) : Clock where
  reading := fun _ => time

/-- The clock that shows `start` first and moves by `step` with every reading, within a word. -/
def stepping (start step : Int64) : Clock where
  reading := fun count => start + step * Int64.ofNat count

def readings (clock : Clock) (count : Nat) : List Int64 :=
  (List.range count).map fun offset => clock.reading (clock.taken + offset)

end Clock

end SocketGateway
