namespace Archiver

/-- The gap kept between the starts of requests, and the first time that is still free. -/
structure Pacer where
  interval : Nat
  nextFree : Option Nat
deriving DecidableEq

def Pacer.start (interval : Nat) : Pacer := ⟨interval, none⟩

/-- The time given to a request that asks at `now`: the next free one, or now. -/
def Pacer.slot (p : Pacer) (now : Nat) : Nat :=
  match p.nextFree with
  | none => now
  | some free => max now free

def Pacer.reserve (p : Pacer) (now : Nat) : Nat × Pacer :=
  (p.slot now, { p with nextFree := some (p.slot now + p.interval) })

/-- The last time given to `count` requests that ask together. -/
def Pacer.reserveAll (p : Pacer) (now : Nat) : Nat → Nat × Pacer
  | 0 => (now, p)
  | 1 => p.reserve now
  | count + 1 => (p.reserve now).2.reserveAll now count

end Archiver
