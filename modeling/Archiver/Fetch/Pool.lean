namespace Archiver

/-- A bounded number of places for items in work. -/
structure Pool (α : Type) where
  size : Nat
  held : List α

/-- A pool has at least one place. -/
def Pool.ofSize {α : Type} (size : Nat) : Pool α := ⟨max size 1, []⟩

def Pool.free {α : Type} (p : Pool α) : Nat := p.size - p.held.length

/-- Takes a place for the item, unless it would have to wait for one. -/
def Pool.admit? {α : Type} (p : Pool α) (item : α) : Option (Pool α) :=
  if p.held.length < p.size then some { p with held := p.held ++ [item] } else none

/-- Gives back one place that the item holds. -/
def Pool.release {α : Type} [DecidableEq α] (p : Pool α) (item : α) : Pool α :=
  { p with held := p.held.erase item }

end Archiver
