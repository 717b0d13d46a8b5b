/-!
Lengths of time, in whole seconds and nanoseconds.
-/

namespace TunnelKeeper

structure Duration where
  /-- The whole seconds. -/
  seconds : UInt64
  /-- The nanoseconds beyond them. -/
  nanoseconds : Nat
  nanoseconds_lt : nanoseconds < 1000000000
  deriving DecidableEq

namespace Duration

/-- So many whole seconds. -/
def ofSeconds (seconds : UInt64) : Duration := ⟨seconds, 0, by decide⟩

def zero : Duration := ofSeconds 0

instance : Inhabited Duration := ⟨zero⟩

/-- So many seconds and nanoseconds, of which a thousand million carry into the seconds. None if
the seconds grow too many. -/
def make? (seconds : UInt64) (nanoseconds : Nat) : Option Duration :=
  let total := seconds.toNat + nanoseconds / 1000000000
  if total < UInt64.size then
    some ⟨UInt64.ofNat total, nanoseconds % 1000000000, Nat.mod_lt _ (by decide)⟩
  else none

/-- The length less what is beyond its whole seconds. -/
def whole (d : Duration) : Duration := ofSeconds d.seconds

@[simp] theorem whole_ofSeconds (s : UInt64) : (ofSeconds s).whole = ofSeconds s := rfl

end Duration

end TunnelKeeper
