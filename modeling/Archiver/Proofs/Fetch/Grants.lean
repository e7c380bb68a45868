import Mathlib.Data.List.Forall2
import Archiver.Fetch.Pacing

namespace Archiver

/-- The pacer after requests that ask one after the other. -/
def Pacer.after (p : Pacer) : List Nat → Pacer
  | [] => p
  | ask :: asks => (p.reserve ask).2.after asks

/-- The times that a pacer gives to requests that ask one after the other. -/
def Pacer.grants (p : Pacer) : List Nat → List Nat
  | [] => []
  | ask :: asks => (p.reserve ask).1 :: (p.reserve ask).2.grants asks

/-- Each time is followed by a gap before the next one. -/
def Spaced (gap : Nat) (times : List Nat) : Prop := times.Pairwise fun s t => s + gap ≤ t

/-- How times are given to requests that ask for one: the first at once, each further one as soon as
it asks and the gap behind the one before it is over. So nobody is served before it asks or before
one that has asked earlier, and no other times with such gaps serve anybody sooner. -/
structure GrantLaw (gap : Nat) (asks times : List Nat) : Prop where
  first : times.head? = asks.head?
  next : ∀ i ask time, asks[i + 1]? = some ask → times[i]? = some time →
    times[i + 1]? = some (max ask (time + gap))
  asked : List.Forall₂ (· ≤ ·) asks times
  spaced : Spaced gap times
  least : ∀ others, List.Forall₂ (· ≤ ·) asks others → Spaced gap others →
    List.Forall₂ (· ≤ ·) times others

section Grants

variable (p : Pacer) (asks : List Nat) (ask : Nat)

theorem le_slot : ask ≤ p.slot ask := by
  unfold Pacer.slot
  split
  · exact Nat.le_refl _
  · exact Nat.le_max_left _ _

theorem free_le_slot {free : Nat} (h : p.nextFree = some free) : free ≤ p.slot ask := by
  rw [Pacer.slot, h]
  exact Nat.le_max_right _ _

theorem slot_reserve (before : Nat) :
    (p.reserve before).2.slot ask = max ask (p.slot before + p.interval) := rfl

theorem after_concat : p.after (asks ++ [ask]) = ((p.after asks).reserve ask).2 := by
  induction asks generalizing p with
  | nil => rfl
  | cons first rest ih => exact ih _

theorem grants_concat : p.grants (asks ++ [ask]) = p.grants asks ++ [(p.after asks).slot ask] := by
  induction asks generalizing p with
  | nil => rfl
  | cons first rest ih => exact congrArg _ (ih _)

theorem grants_next {i time : Nat} (hask : asks[i + 1]? = some ask)
    (htime : (p.grants asks)[i]? = some time) :
    (p.grants asks)[i + 1]? = some (max ask (time + p.interval)) := by
  induction asks generalizing p i with
  | nil => cases hask
  | cons first rest ih =>
    rw [List.getElem?_cons_succ] at hask
    rw [Pacer.grants, List.getElem?_cons_succ]
    cases i with
    | zero =>
      obtain rfl : p.slot first = time := Option.some.inj htime
      cases rest with
      | nil => cases hask
      | cons second rest =>
        obtain rfl : second = ask := Option.some.inj hask
        exact congrArg some (slot_reserve p second first)
    | succ i => exact ih (p.reserve first).2 hask htime

theorem asked_grants : List.Forall₂ (· ≤ ·) asks (p.grants asks) := by
  induction asks generalizing p with
  | nil => exact .nil
  | cons first rest ih => exact .cons (le_slot p first) (ih _)

theorem free_le_grants {free : Nat} (h : p.nextFree = some free) :
    ∀ time ∈ p.grants asks, free ≤ time := by
  induction asks generalizing p free with
  | nil => exact fun _ ht => nomatch ht
  | cons first rest ih =>
    have hfirst := free_le_slot p first h
    refine List.forall_mem_cons.mpr ⟨hfirst, fun time ht => ?_⟩
    have hrest := ih (p.reserve first).2 rfl time ht
    omega

theorem spaced_grants : Spaced p.interval (p.grants asks) := by
  induction asks generalizing p with
  | nil => exact .nil
  | cons first rest ih =>
    exact List.pairwise_cons.mpr ⟨free_le_grants (p.reserve first).2 rest rfl, ih (p.reserve first).2⟩

/-- Times with gaps, all of them free, are no sooner than the ones that are given. -/
theorem grants_least {others : List Nat} (hasks : List.Forall₂ (· ≤ ·) asks others)
    (hspaced : Spaced p.interval others)
    (hfree : ∀ free, p.nextFree = some free → ∀ time ∈ others, free ≤ time) :
    List.Forall₂ (· ≤ ·) (p.grants asks) others := by
  induction hasks generalizing p with
  | nil => exact .nil
  | @cons first time rest others hfirst _ ih =>
    obtain ⟨hgap, hothers⟩ := List.pairwise_cons.mp hspaced
    have hslot : p.slot first ≤ time := by
      unfold Pacer.slot
      split
      · exact hfirst
      · next free hnext => exact Nat.max_le.mpr ⟨hfirst, hfree free hnext time List.mem_cons_self⟩
    refine .cons hslot (ih (p.reserve first).2 hothers fun free hnext later hlater => ?_)
    obtain rfl : p.slot first + p.interval = free := Option.some.inj hnext
    have hlate := hgap later hlater
    omega

end Grants

/-- Whatever the gap and the times at which requests ask, a new pacer gives them times by the law. -/
theorem grantLaw_start (gap : Nat) (asks : List Nat) :
    GrantLaw gap asks ((Pacer.start gap).grants asks) where
  first := by cases asks <;> rfl
  next _ _ _ hask htime := grants_next (.start gap) asks _ hask htime
  asked := asked_grants _ _
  spaced := spaced_grants (.start gap) asks
  least _ hasks hspaced := grants_least (.start gap) asks hasks hspaced fun _ h => nomatch h

end Archiver
