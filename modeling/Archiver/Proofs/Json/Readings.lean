import Archiver.Proofs.Json.Scalars

namespace Archiver

/-- The words that stand for values, each apart from its first letter. -/
def jsonWords : List (Char × List Char × JsonValue) :=
  [('n', "ull".toList, .null), ('t', "rue".toList, .bool true), ('f', "alse".toList, .bool false)]

/-- The ways to read a value from its first character on. -/
inductive ReadsValue (f : Nat) : List Char → JsonValue → List Char → Prop where
  | string {rest r : List Char} {text : Option (List Char)}
      (read : readJsonString rest = some (text, r)) : ReadsValue f ('"' :: rest) (.string text) r
  | noItems {rest r : List Char} (close : skipJsonBlanks rest = ']' :: r) :
      ReadsValue f ('[' :: rest) (.array []) r
  | items {rest r : List Char} {vs : List JsonValue} (more : ∀ r', skipJsonBlanks rest ≠ ']' :: r')
      (read : readJsonItems f rest = some (vs, r)) : ReadsValue f ('[' :: rest) (.array vs) r
  | noMembers {rest r : List Char} (close : skipJsonBlanks rest = '}' :: r) :
      ReadsValue f ('{' :: rest) (.object []) r
  | members {rest r : List Char} {ms : List (Option (List Char) × JsonValue)}
      (more : ∀ r', skipJsonBlanks rest ≠ '}' :: r')
      (read : readJsonMembers f rest = some (ms, r)) : ReadsValue f ('{' :: rest) (.object ms) r
  | word {c : Char} {word rest r : List Char} {v : JsonValue} (known : (c, word, v) ∈ jsonWords)
      (read : after? word rest = some r) : ReadsValue f (c :: rest) v r
  | minus {rest n r : List Char} (read : readJsonNumber rest = some (n, r)) :
      ReadsValue f ('-' :: rest) (.number ('-' :: n)) r
  | number {c : Char} {rest n r : List Char} (other : c ∉ ['"', '[', '{', 'n', 't', 'f', '-'])
      (read : readJsonNumber (c :: rest) = some (n, r)) : ReadsValue f (c :: rest) (.number n) r

/-- The ways to read the items of an array up to its bracket. -/
inductive ReadsItems (f : Nat) : List Char → List JsonValue → List Char → Prop where
  | last {s rest r : List Char} {v : JsonValue} (read : readJsonValue f s = some (v, rest))
      (close : skipJsonBlanks rest = ']' :: r) : ReadsItems f s [v] r
  | more {s rest rest' r : List Char} {v : JsonValue} {vs : List JsonValue}
      (read : readJsonValue f s = some (v, rest)) (comma : skipJsonBlanks rest = ',' :: rest')
      (items : readJsonItems f rest' = some (vs, r)) : ReadsItems f s (v :: vs) r

/-- The one way to read a member of an object. -/
inductive ReadsMember (f : Nat) : List Char → Option (List Char) × JsonValue → List Char → Prop where
  | mk {s rest afterKey afterColon r : List Char} {key : Option (List Char)} {v : JsonValue}
      (quote : skipJsonBlanks s = '"' :: rest) (name : readJsonString rest = some (key, afterKey))
      (colon : skipJsonBlanks afterKey = ':' :: afterColon)
      (read : readJsonValue f afterColon = some (v, r)) : ReadsMember f s (key, v) r

/-- The ways to read the members of an object up to its brace. -/
inductive ReadsMembers (f : Nat) :
    List Char → List (Option (List Char) × JsonValue) → List Char → Prop where
  | last {s rest r : List Char} {m : Option (List Char) × JsonValue} (member : ReadsMember f s m rest)
      (close : skipJsonBlanks rest = '}' :: r) : ReadsMembers f s [m] r
  | more {s rest rest' r : List Char} {m : Option (List Char) × JsonValue}
      {ms : List (Option (List Char) × JsonValue)} (member : ReadsMember f s m rest)
      (comma : skipJsonBlanks rest = ',' :: rest') (members : readJsonMembers f rest' = some (ms, r)) :
      ReadsMembers f s (m :: ms) r

theorem readsWord_of {f : Nat} {c : Char} {word rest r : List Char} {v v' : JsonValue}
    (known : (c, word, v) ∈ jsonWords)
    (h : (after? word rest).map (fun r => (v, r)) = some (v', r)) :
    ReadsValue f (c :: rest) v' r := by
  obtain ⟨r', read, he⟩ := Option.map_eq_some_iff.mp h
  cases he
  exact .word known read

theorem readsValue_of {f : Nat} {s r : List Char} {v : JsonValue}
    (h : readJsonValue (f + 1) s = some (v, r)) : ReadsValue f (skipJsonBlanks s) v r := by
  rw [readJsonValue] at h
  cases hs : skipJsonBlanks s with
  | nil => simp [hs] at h
  | cons c rest =>
    simp only [hs, beq_iff_eq] at h
    by_cases hstring : c = '"'
    · subst hstring
      rw [if_pos rfl] at h
      obtain ⟨⟨text, r'⟩, hw, he⟩ := Option.map_eq_some_iff.mp h
      cases he
      exact .string hw
    rw [if_neg hstring] at h
    by_cases hitems : c = '['
    · subst hitems
      rw [if_pos rfl] at h
      split at h
      · next hclose =>
        cases h
        exact .noItems hclose
      · next hmore =>
        obtain ⟨⟨vs, r'⟩, hw, he⟩ := Option.map_eq_some_iff.mp h
        cases he
        exact .items hmore hw
    rw [if_neg hitems] at h
    by_cases hmembers : c = '{'
    · subst hmembers
      rw [if_pos rfl] at h
      split at h
      · next hclose =>
        cases h
        exact .noMembers hclose
      · next hmore =>
        obtain ⟨⟨ms, r'⟩, hw, he⟩ := Option.map_eq_some_iff.mp h
        cases he
        exact .members hmore hw
    rw [if_neg hmembers] at h
    by_cases hnull : c = 'n'
    · subst hnull
      rw [if_pos rfl] at h
      exact readsWord_of (by simp [jsonWords]) h
    rw [if_neg hnull] at h
    by_cases htrue : c = 't'
    · subst htrue
      rw [if_pos rfl] at h
      exact readsWord_of (by simp [jsonWords]) h
    rw [if_neg htrue] at h
    by_cases hfalse : c = 'f'
    · subst hfalse
      rw [if_pos rfl] at h
      exact readsWord_of (by simp [jsonWords]) h
    rw [if_neg hfalse] at h
    by_cases hminus : c = '-'
    · subst hminus
      rw [if_pos rfl] at h
      obtain ⟨⟨n, r'⟩, hw, he⟩ := Option.map_eq_some_iff.mp h
      cases he
      exact .minus hw
    · rw [if_neg hminus] at h
      obtain ⟨⟨n, r'⟩, hw, he⟩ := Option.map_eq_some_iff.mp h
      cases he
      exact .number (by simp [*]) hw

theorem ReadsValue.read {f : Nat} {s r : List Char} {v : JsonValue}
    (h : ReadsValue f (skipJsonBlanks s) v r) : readJsonValue (f + 1) s = some (v, r) := by
  rw [readJsonValue]
  generalize skipJsonBlanks s = s' at h
  cases h with
  | string read => simp [read]
  | noItems close => simp [close]
  | items more read => simp [read]
  | noMembers close => simp [close]
  | members more read => simp [read]
  | word known read =>
    simp only [jsonWords, List.mem_cons, Prod.mk.injEq, List.not_mem_nil, or_false] at known
    obtain ⟨rfl, rfl, rfl⟩ | ⟨rfl, rfl, rfl⟩ | ⟨rfl, rfl, rfl⟩ := known
    all_goals simpa using read
  | minus read => simp [read]
  | number other read =>
    simp only [List.mem_cons, List.not_mem_nil, or_false, not_or] at other
    simp [other, read]

theorem readsItems_of {f : Nat} {s r : List Char} {vs : List JsonValue}
    (h : readJsonItems (f + 1) s = some (vs, r)) : ReadsItems f s vs r := by
  rw [readJsonItems] at h
  split at h
  · simp at h
  next v rest read =>
  split at h
  · next rest' comma =>
    obtain ⟨⟨ws, r'⟩, items, he⟩ := Option.map_eq_some_iff.mp h
    cases he
    exact .more read comma items
  · next rest' close =>
    cases h
    exact .last read close
  · simp at h

theorem ReadsItems.read {f : Nat} {s r : List Char} {vs : List JsonValue}
    (h : ReadsItems f s vs r) : readJsonItems (f + 1) s = some (vs, r) := by
  rw [readJsonItems]
  cases h with
  | last read close => simp [read, close]
  | more read comma items => simp [read, comma, items]

theorem readsMembers_of {f : Nat} {s r : List Char} {ms : List (Option (List Char) × JsonValue)}
    (h : readJsonMembers (f + 1) s = some (ms, r)) : ReadsMembers f s ms r := by
  rw [readJsonMembers] at h
  split at h
  · next rest quote =>
    split at h
    · simp at h
    next key afterKey name =>
    split at h
    · next afterColon colon =>
      split at h
      · simp at h
      next v afterValue read =>
      have member := ReadsMember.mk quote name colon read
      split at h
      · next rest' comma =>
        obtain ⟨⟨ws, r'⟩, members, he⟩ := Option.map_eq_some_iff.mp h
        cases he
        exact .more member comma members
      · next rest' close =>
        cases h
        exact .last member close
      · simp at h
    · simp at h
  · simp at h

theorem ReadsMembers.read {f : Nat} {s r : List Char}
    {ms : List (Option (List Char) × JsonValue)} (h : ReadsMembers f s ms r) :
    readJsonMembers (f + 1) s = some (ms, r) := by
  rw [readJsonMembers]
  cases h with
  | last member close =>
    obtain ⟨quote, name, colon, read⟩ := member
    simp [quote, name, colon, read, close]
  | more member comma members =>
    obtain ⟨quote, name, colon, read⟩ := member
    simp [quote, name, colon, read, comma, members]

end Archiver
