import Archiver.Proofs.Json.Readings

namespace Archiver

/-- True for a value whose end shows without what follows it. -/
def JsonValue.isClosed : JsonValue → Bool
  | .number _ => false
  | _ => true

/-- The three readers find the same in a longer text, with any more fuel. -/
structure ReadsOn (f : Nat) : Prop where
  value : ∀ {s v r}, readJsonValue f s = some (v, r) → (v.isClosed = true ∨ r ≠ []) →
    ∀ t g, f ≤ g → readJsonValue g (s ++ t) = some (v, r ++ t)
  items : ∀ {s v r}, readJsonItems f s = some (v, r) →
    ∀ t g, f ≤ g → readJsonItems g (s ++ t) = some (v, r ++ t)
  members : ∀ {s v r}, readJsonMembers f s = some (v, r) →
    ∀ t g, f ≤ g → readJsonMembers g (s ++ t) = some (v, r ++ t)

theorem ne_nil_of_skipJsonBlanks {s r : List Char} {c : Char} (h : skipJsonBlanks s = c :: r) :
    s ≠ [] := by
  rintro rfl
  simp [skipJsonBlanks] at h

theorem readJsonValue_not_blank {f : Nat} {s r : List Char} {v : JsonValue}
    (h : readJsonValue f s = some (v, r)) : skipJsonBlanks s ≠ [] := by
  intro hs
  cases f with
  | zero => simp [readJsonValue] at h
  | succ f => simp [readJsonValue, hs] at h

theorem readJsonItems_not_blank {f : Nat} {s r : List Char} {vs : List JsonValue}
    (h : readJsonItems f s = some (vs, r)) : skipJsonBlanks s ≠ [] := by
  cases f with
  | zero => simp [readJsonItems] at h
  | succ f =>
    cases readsItems_of h with
    | last read _ => exact readJsonValue_not_blank read
    | more read _ _ => exact readJsonValue_not_blank read

theorem ReadsMember.not_blank {f : Nat} {s r : List Char} {m : Option (List Char) × JsonValue}
    (h : ReadsMember f s m r) : skipJsonBlanks s ≠ [] := by
  obtain ⟨quote, _, _, _⟩ := h
  simp [quote]

theorem readJsonMembers_not_blank {f : Nat} {s r : List Char}
    {ms : List (Option (List Char) × JsonValue)}
    (h : readJsonMembers f s = some (ms, r)) : skipJsonBlanks s ≠ [] := by
  cases f with
  | zero => simp [readJsonMembers] at h
  | succ f =>
    cases readsMembers_of h with
    | last member _ => exact member.not_blank
    | more member _ _ => exact member.not_blank

/-- What does not close at once does not close in a longer text either. -/
theorem not_close_append {rest : List Char} {c : Char} (more : ∀ r, skipJsonBlanks rest ≠ c :: r)
    (shown : skipJsonBlanks rest ≠ []) (t r : List Char) : skipJsonBlanks (rest ++ t) ≠ c :: r := by
  obtain ⟨d, rest', hd⟩ := List.exists_cons_of_ne_nil shown
  have hne : d ≠ c := fun hne => more rest' (hne ▸ hd)
  simp [skipJsonBlanks_append hd t, hne]

variable {f g : Nat} {s r : List Char}

theorem ReadsItems.on {vs : List JsonValue} (h : ReadsItems f s vs r) (on : ReadsOn f)
    (t : List Char) (hg : f ≤ g) : ReadsItems g (s ++ t) vs (r ++ t) := by
  cases h with
  | last read close =>
    have shown := ne_nil_of_skipJsonBlanks close
    exact .last (on.value read (Or.inr shown) t g hg) (skipJsonBlanks_append close t)
  | more read comma items =>
    have shown := ne_nil_of_skipJsonBlanks comma
    exact .more (on.value read (Or.inr shown) t g hg) (skipJsonBlanks_append comma t)
      (on.items items t g hg)

theorem ReadsMember.on {m : Option (List Char) × JsonValue} (h : ReadsMember f s m r)
    (shown : r ≠ []) (on : ReadsOn f) (t : List Char) (hg : f ≤ g) :
    ReadsMember g (s ++ t) m (r ++ t) := by
  obtain ⟨quote, name, colon, read⟩ := h
  exact .mk (skipJsonBlanks_append quote t) (readJsonString_append name t)
    (skipJsonBlanks_append colon t) (on.value read (Or.inr shown) t g hg)

theorem ReadsMembers.on {ms : List (Option (List Char) × JsonValue)} (h : ReadsMembers f s ms r)
    (on : ReadsOn f) (t : List Char) (hg : f ≤ g) : ReadsMembers g (s ++ t) ms (r ++ t) := by
  cases h with
  | last member close =>
    have shown := ne_nil_of_skipJsonBlanks close
    exact .last (member.on shown on t hg) (skipJsonBlanks_append close t)
  | more member comma members =>
    have shown := ne_nil_of_skipJsonBlanks comma
    exact .more (member.on shown on t hg) (skipJsonBlanks_append comma t)
      (on.members members t g hg)

theorem ReadsValue.on {v : JsonValue} (h : ReadsValue f s v r) (ends : v.isClosed = true ∨ r ≠ [])
    (on : ReadsOn f) (t : List Char) (hg : f ≤ g) : ReadsValue g (s ++ t) v (r ++ t) := by
  cases h with
  | string read => exact .string (readJsonString_append read t)
  | noItems close => exact .noItems (skipJsonBlanks_append close t)
  | items more read =>
    exact .items (not_close_append more (readJsonItems_not_blank read) t) (on.items read t g hg)
  | noMembers close => exact .noMembers (skipJsonBlanks_append close t)
  | members more read =>
    exact .members (not_close_append more (readJsonMembers_not_blank read) t)
      (on.members read t g hg)
  | word known read => exact .word known (after_append read t)
  | minus read =>
    have shown := ends.resolve_left (by simp [JsonValue.isClosed])
    exact .minus (readJsonNumber_append read shown t)
  | number other read =>
    have shown := ends.resolve_left (by simp [JsonValue.isClosed])
    exact .number other (readJsonNumber_append read shown t)

theorem readsOn (f : Nat) : ReadsOn f := by
  induction f with
  | zero =>
    refine ⟨?_, ?_, ?_⟩
    · intro s v r h
      simp [readJsonValue] at h
    · intro s v r h
      simp [readJsonItems] at h
    · intro s v r h
      simp [readJsonMembers] at h
  | succ f on =>
    -- each reader calls the others with less fuel, so the three go through together
    refine ⟨?_, ?_, ?_⟩
    · intro s v r h ends t g hg
      obtain ⟨g, rfl⟩ : ∃ g', g = g' + 1 := ⟨g - 1, by omega⟩
      have reads := readsValue_of h
      obtain ⟨c, rest, hs⟩ := List.exists_cons_of_ne_nil (readJsonValue_not_blank h)
      rw [hs] at reads
      refine ReadsValue.read ?_
      rw [skipJsonBlanks_append hs t]
      exact reads.on ends on t (by omega)
    · intro s v r h t g hg
      obtain ⟨g, rfl⟩ : ∃ g', g = g' + 1 := ⟨g - 1, by omega⟩
      exact ((readsItems_of h).on on t (by omega)).read
    · intro s v r h t g hg
      obtain ⟨g, rfl⟩ : ∃ g', g = g' + 1 := ⟨g - 1, by omega⟩
      exact ((readsMembers_of h).on on t (by omega)).read

end Archiver
