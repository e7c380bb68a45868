import Archiver.Harvest.Schedule

namespace Archiver

/-- One run comes from another by moves, whatever their order. -/
inductive Run.Reaches (plan : Plan) (around : Surroundings) (r : Run) : Run → Prop where
  | refl : Reaches plan around r r
  | step {a b : Run} {move : Move} (h : Reaches plan around r a)
      (hs : a.step plan around move = some b) : Reaches plan around r b

variable {plan : Plan} {around : Surroundings}

/-- What holds at the start and is kept by every move holds of every run that is reached. -/
theorem Run.Reaches.invariant {P : Run → Prop} {r s : Run} (h : r.Reaches plan around s)
    (hr : P r) (hp : ∀ {a b : Run} {move : Move}, P a → a.step plan around move = some b → P b) :
    P s := by
  induction h with
  | refl => exact hr
  | step _ hs ih => exact hp ih hs

theorem Run.Reaches.trans {r s t : Run} (h : r.Reaches plan around s)
    (ht : s.Reaches plan around t) : r.Reaches plan around t := by
  induction ht with
  | refl => exact h
  | step _ hs ih => exact .step ih hs

/-- The scheduler makes moves of the run and nothing else. -/
theorem drive_reaches (fuel : Nat) (turns : List Move) (r : Run) :
    r.Reaches plan around (Run.drive plan around fuel turns r) := by
  fun_induction Run.drive plan around fuel turns r with
  | case1 turns r => exact .refl
  | case2 r fuel move turns s hs ih => exact (Run.Reaches.refl.step hs).trans ih
  | case3 r fuel move turns hs ih => exact ih
  | case4 r fuel move turns hm ih => exact ih
  | case5 fuel r hm s hs ih =>
    have hmove : r.step plan around .coordinate = some s := hs
    exact (Run.Reaches.refl.step hmove).trans ih
  | case6 => exact .refl
  | case7 => exact .refl
  | case8 fuel r hm hc s hs he ih =>
    obtain ⟨time, _, hwait⟩ := Option.bind_eq_some_iff.mp hs
    have hmove : r.step plan around (.wait time) = some s := hwait
    exact (Run.Reaches.refl.step hmove).trans ih

/-- What harvesting a frontier comes to is reached from the start of the run. -/
theorem harvest_reaches (plan : Plan) (around : Surroundings) (diff cancelled : Bool)
    (frontier : List FrontierEntry) (files : Files) (store : ProgressStore) :
    (Run.start plan diff cancelled frontier files store).Reaches plan around
      (harvest plan around diff cancelled frontier files store) :=
  drive_reaches _ _ _

def Run.hasCompleted (r : Run) : Bool :=
  match r.phase with
  | .ended (.ok .completed) => true
  | _ => false

theorem phase_of_hasCompleted {r : Run} (h : r.hasCompleted = true) : r.phase = .ended (.ok .completed) := by
  unfold Run.hasCompleted at h
  split at h
  · assumption
  · cases h

theorem length_drop_le {α : Type} {size : Nat} (hs : 0 < size) (a : α) (rest : List α) :
    ((a :: rest).drop size).length ≤ rest.length := by
  simp only [List.length_drop, List.length_cons]
  omega

theorem cutAll_flatten {α : Type} {size : Nat} (hs : 0 < size) (fuel : Nat) (queue : List α)
    (hf : queue.length ≤ fuel) : (cutAll size fuel queue).flatten = queue := by
  induction fuel generalizing queue with
  | zero =>
    rw [List.eq_nil_of_length_eq_zero (Nat.le_zero.mp hf)]
    rfl
  | succ fuel ih =>
    cases queue with
    | nil => rfl
    | cons a rest =>
      have hdrop := Nat.le_trans (length_drop_le hs a rest) (Nat.le_of_succ_le_succ hf)
      rw [cutAll, List.flatten_cons, ih _ hdrop, List.take_append_drop]

/-- The batches of a queue are the queue, in order. -/
theorem batchesOf_flatten {α : Type} {size : Nat} (hs : 0 < size) (queue : List α) :
    (batchesOf size queue).flatten = queue :=
  cutAll_flatten hs _ queue (Nat.le_refl _)

/-- More steps than a queue is long cut it no further. -/
theorem cutAll_fuel {α : Type} {size : Nat} (hs : 0 < size) {fuel fuel' : Nat} {queue : List α}
    (hf : queue.length ≤ fuel) (hf' : queue.length ≤ fuel') :
    cutAll size fuel queue = cutAll size fuel' queue := by
  induction fuel generalizing fuel' queue with
  | zero =>
    rw [List.eq_nil_of_length_eq_zero (Nat.le_zero.mp hf)]
    cases fuel' <;> rfl
  | succ fuel ih =>
    cases queue with
    | nil => cases fuel' <;> rfl
    | cons a rest =>
      obtain ⟨fuel', rfl⟩ := Nat.exists_eq_succ_of_ne_zero (Nat.ne_zero_of_lt hf')
      have hdrop := length_drop_le hs a rest
      rw [cutAll, cutAll, ih (Nat.le_trans hdrop (Nat.le_of_succ_le_succ hf))
        (Nat.le_trans hdrop (Nat.le_of_succ_le_succ hf'))]

/-- The first batch is the front of the queue, and the others are the batches of the rest. -/
theorem batchesOf_eq_cons {α : Type} {size : Nat} (hs : 0 < size) {queue batch : List α}
    {later : List (List α)} (h : batchesOf size queue = batch :: later) :
    queue ≠ [] ∧ batch = queue.take size ∧ later = batchesOf size (queue.drop size) := by
  cases queue with
  | nil => cases h
  | cons a rest =>
    rw [batchesOf, List.length_cons, cutAll, cutAll_fuel hs (length_drop_le hs a rest) (Nat.le_refl _),
      ← batchesOf] at h
    obtain ⟨rfl, rfl⟩ := List.cons.inj h
    exact ⟨List.cons_ne_nil _ _, rfl, rfl⟩

end Archiver
