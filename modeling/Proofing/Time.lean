import Proofing.Json.Decode
/-
  Proofing — points in time, in seconds since the epoch.

  Differences stop at zero and sums at the last point that 64 bits can name, so
  a validity that never ends within reach expires exactly there.
-/
namespace Proofing

/-- Seconds since the epoch. -/
structure Timestamp where
  seconds : UInt64
  deriving DecidableEq, Repr

namespace Timestamp

/-- The epoch itself. -/
def epoch : Timestamp := ⟨0⟩

/-- The seconds from `t` to `now`, none of them if `now` is not later. -/
def elapsed (t now : Timestamp) : UInt64 :=
  if now.seconds ≤ t.seconds then 0 else now.seconds - t.seconds

/-- The point `duration` seconds after `t`, or the last one. -/
def after (t : Timestamp) (duration : UInt64) : Timestamp :=
  ⟨UInt64.ofNat (min (t.seconds.toNat + duration.toNat) (UInt64.size - 1))⟩

/-- At `now`, `duration` seconds have passed since `t`. -/
def expired (t : Timestamp) (duration : UInt64) (now : Timestamp) : Bool :=
  (t.after duration).seconds ≤ now.seconds

/-- The number of seconds with their unit. -/
def toString (t : Timestamp) : String :=
  ToString.toString t.seconds.toNat ++ "s"

instance : ToString Timestamp := ⟨Timestamp.toString⟩

instance : Coded Timestamp :=
  ⟨fun t => Coded.encode t.seconds, fun j => (Coded.decode j).map Timestamp.mk⟩

end Timestamp

end Proofing
