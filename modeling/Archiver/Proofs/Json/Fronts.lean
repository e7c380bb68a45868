import Archiver.Proofs.Json.Extension

namespace Archiver

/-- The three readers leave the end of a text; a list of items or members ends in its bracket. -/
structure ReadsFront (f : Nat) : Prop where
  value : ∀ {s v r}, readJsonValue f s = some (v, r) → r <:+ s
  items : ∀ {s v r}, readJsonItems f s = some (v, r) → ']' :: r <:+ s
  members : ∀ {s v r}, readJsonMembers f s = some (v, r) → '}' :: r <:+ s

theorem suffix_of_skipJsonBlanks {s r : List Char} {c : Char} (h : skipJsonBlanks s = c :: r) :
    c :: r <:+ s :=
  h ▸ skipJsonBlanks_suffix s

theorem suffix_after_skipJsonBlanks {s r : List Char} {c : Char} (h : skipJsonBlanks s = c :: r) :
    r <:+ s :=
  (List.suffix_cons c r).trans (suffix_of_skipJsonBlanks h)

variable {f : Nat} {s r : List Char}

theorem ReadsItems.front {vs : List JsonValue} (h : ReadsItems f s vs r) (front : ReadsFront f) :
    ']' :: r <:+ s := by
  cases h with
  | last read close => exact (suffix_of_skipJsonBlanks close).trans (front.value read)
  | more read comma items =>
    have left := (front.items items).trans (suffix_after_skipJsonBlanks comma)
    exact left.trans (front.value read)

theorem ReadsMember.front {m : Option (List Char) × JsonValue} (h : ReadsMember f s m r)
    (front : ReadsFront f) : r <:+ s := by
  obtain ⟨quote, name, colon, read⟩ := h
  have afterKey := (readJsonString_suffix name).trans (suffix_after_skipJsonBlanks quote)
  exact ((front.value read).trans (suffix_after_skipJsonBlanks colon)).trans afterKey

theorem ReadsMembers.front {ms : List (Option (List Char) × JsonValue)} (h : ReadsMembers f s ms r)
    (front : ReadsFront f) : '}' :: r <:+ s := by
  cases h with
  | last member close => exact (suffix_of_skipJsonBlanks close).trans (member.front front)
  | more member comma members =>
    have left := (front.members members).trans (suffix_after_skipJsonBlanks comma)
    exact left.trans (member.front front)

theorem ReadsValue.front {v : JsonValue} (h : ReadsValue f s v r) (front : ReadsFront f) :
    r <:+ s := by
  cases h with
  | string read => exact (readJsonString_suffix read).trans (List.suffix_cons _ _)
  | noItems close => exact (suffix_after_skipJsonBlanks close).trans (List.suffix_cons _ _)
  | items more read =>
    have inside := (List.suffix_cons _ _).trans (front.items read)
    exact inside.trans (List.suffix_cons _ _)
  | noMembers close => exact (suffix_after_skipJsonBlanks close).trans (List.suffix_cons _ _)
  | members more read =>
    have inside := (List.suffix_cons _ _).trans (front.members read)
    exact inside.trans (List.suffix_cons _ _)
  | word known read => exact (after_suffix read).trans (List.suffix_cons _ _)
  | minus read => exact (readJsonNumber_suffix read).trans (List.suffix_cons _ _)
  | number other read => exact readJsonNumber_suffix read

theorem readsFront (f : Nat) : ReadsFront f := by
  induction f with
  | zero =>
    refine ⟨?_, ?_, ?_⟩
    · intro s v r h
      simp [readJsonValue] at h
    · intro s v r h
      simp [readJsonItems] at h
    · intro s v r h
      simp [readJsonMembers] at h
  | succ f front =>
    refine ⟨?_, ?_, ?_⟩
    · intro s v r h
      exact ((readsValue_of h).front front).trans (skipJsonBlanks_suffix s)
    · intro s v r h
      exact (readsItems_of h).front front
    · intro s v r h
      exact (readsMembers_of h).front front

theorem readJsonValue_brace {f : Nat} {s r : List Char} {v : JsonValue}
    (h : readJsonValue f ('{' :: s) = some (v, r)) : v.isClosed = true ∧ '}' :: r <:+ '{' :: s := by
  cases f with
  | zero => simp [readJsonValue] at h
  | succ f =>
    have hs : skipJsonBlanks ('{' :: s) = '{' :: s := by simp [skipJsonBlanks, isJsonBlank]
    have reads := hs ▸ readsValue_of h
    cases reads with
    | noMembers close =>
      exact ⟨rfl, (suffix_of_skipJsonBlanks close).trans (List.suffix_cons _ _)⟩
    | members more read =>
      exact ⟨rfl, ((readsFront f).members read).trans (List.suffix_cons _ _)⟩
    | word known read => simp [jsonWords] at known
    | number other read => simp at other

theorem readJson?_eq_some {s : List Char} {v : JsonValue} (h : readJson? s = some v) :
    ∃ r, readJsonValue (s.length + 1) s = some (v, r) ∧ skipJsonBlanks r = [] := by
  unfold readJson? at h
  split at h
  · next v' r hv =>
    split at h
    · next hr =>
      cases h
      exact ⟨r, hv, by simpa using hr⟩
    · simp at h
  · simp at h

/-- An object is not read from a part of its text that leaves out more than blanks. -/
theorem readJson?_brace_cut {s t : List Char} {w : JsonValue}
    (h : readJson? ('{' :: s ++ t) = some w) (ht : skipJsonBlanks t ≠ []) :
    readJson? ('{' :: s) = none := by
  cases hp : readJson? ('{' :: s) with
  | none => rfl
  | some v =>
    obtain ⟨r, hr, _⟩ := readJson?_eq_some hp
    obtain ⟨r', hr', hblank⟩ := readJson?_eq_some h
    have hon := (readsOn _).value hr (Or.inl (readJsonValue_brace hr).1) t
      (('{' :: s ++ t).length + 1) (by simp)
    rw [hon] at hr'
    cases hr'
    have hall : ∀ c ∈ r ++ t, isJsonBlank c = true := by
      simpa [skipJsonBlanks, List.dropWhile_eq_nil_iff] using hblank
    refine absurd ?_ ht
    simpa [skipJsonBlanks, List.dropWhile_eq_nil_iff] using
      fun c hc => hall c (List.mem_append_right r hc)

/-- The text of an object ends in its brace, blanks aside. -/
theorem readJson?_brace_last {s : List Char} {c : Char} (hc : isJsonBlank c = false)
    (hb : c ≠ '}') : readJson? ('{' :: (s ++ [c])) = none := by
  cases hp : readJson? ('{' :: (s ++ [c])) with
  | none => rfl
  | some v =>
    obtain ⟨r, hr, hblank⟩ := readJson?_eq_some hp
    obtain ⟨front, hfront⟩ := (readJsonValue_brace hr).2
    have hlast := congrArg List.getLast? hfront
    rw [← List.cons_append, List.getLast?_append, List.getLast?_append] at hlast
    cases hend : r.getLast? with
    | none =>
      have hnil := List.getLast?_eq_none_iff.mp hend
      subst hnil
      simp at hlast
      exact absurd hlast.symm hb
    | some d =>
      have hall : ∀ c ∈ r, isJsonBlank c = true := by
        simpa [skipJsonBlanks, List.dropWhile_eq_nil_iff] using hblank
      have hd := hall d (List.mem_of_getLast? hend)
      rw [List.getLast?_cons, hend] at hlast
      simp at hlast
      rw [hlast, hc] at hd
      simp at hd

end Archiver
