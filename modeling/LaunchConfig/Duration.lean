/-!
Durations with a resolution of one nanosecond.
-/
namespace LaunchConfig

def nanosPerSecond : Nat := 1000000000

/-- Whole seconds and the nanoseconds of a last, unfinished second. -/
structure Duration where
  secs : UInt64
  nanos : UInt32
  nanos_lt : nanos.toNat < nanosPerSecond
  deriving DecidableEq

namespace Duration

def ofSeconds (secs : UInt64) : Duration :=
  ⟨secs, 0, by decide⟩

instance : Inhabited Duration := ⟨ofSeconds 0⟩

/-- Seconds and any number of nanoseconds. Full seconds among the nanoseconds are carried, as long
as the sum is a number of 64 bits. -/
def ofParts? (secs : UInt64) (nanos : UInt32) : Option Duration :=
  let carried := secs.toNat + nanos.toNat / nanosPerSecond
  if carried < UInt64.size then
    some ⟨UInt64.ofNat carried, UInt32.ofNat (nanos.toNat % nanosPerSecond), by
      have below : nanos.toNat % nanosPerSecond < nanosPerSecond := Nat.mod_lt _ (by decide)
      rw [UInt32.toNat_ofNat_of_lt' (Nat.lt_trans below (by decide))]
      exact below⟩
  else none

/-- A number of milliseconds, at most the largest number of 64 bits. -/
def ofMillis (millis : UInt64) : Duration :=
  (ofParts? (millis / 1000) ((millis % 1000).toUInt32 * 1000000)).getD default

def isZero (duration : Duration) : Bool :=
  duration.secs == 0 && duration.nanos == 0

end Duration

end LaunchConfig
