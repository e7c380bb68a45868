import Archiver.Proofs.Json.Scalars
import Archiver.Proofs.Url.Input

namespace Archiver

/-- The login of an authority and the text after it. -/
def loginOf (s : List Char) : List Char × List Char := (splitLogin true s).getD ([], s)

/-- The port, if a colon comes first, and the text after it. -/
def portOf (scheme : List Char) : List Char → Except UrlError (Option Nat × List Char)
  | ':' :: digits => parsePort scheme digits
  | s => .ok (none, s)

/-- Reads host and port of an authority whose login has been read. -/
def readPlace (scheme login place : List Char) : Except UrlError (Authority × List Char) :=
  let (text, after) := takeHostText true false place
  if text = [] then .error .noHost
  else do
    let host ← parseHostText true text
    let (port, rest) ← portOf scheme after
    .ok (⟨(parseLogin login).1, (parseLogin login).2, some host, port⟩, rest)

variable {scheme : List Char}

theorem takeHostText_ends {c : Char} (hc : endsAuthority true c = true) (inside : Bool)
    (s : List Char) : takeHostText true inside (c :: s) = ([], c :: s) := by
  simp [takeHostText, hc]

theorem ok_bind {ε α β : Type} (a : α) (f : α → Except ε β) : (Except.ok a >>= f) = f a := rfl

theorem error_bind {ε α β : Type} (e : ε) (f : α → Except ε β) :
    (Except.error e >>= f) = Except.error e := rfl

theorem portOf_of_ne {s : List Char} (h : ∀ rest, s = ':' :: rest → False) :
    portOf scheme s = .ok (none, s) := by
  unfold portOf
  split
  · exact (h _ rfl).elim
  · rfl

/-- The authority of a special scheme: a login, then a host that is not empty, then a port. -/
theorem parseAuthority_eq (hs : isSpecialScheme scheme = true) (s : List Char) :
    parseAuthority scheme s = readPlace scheme (loginOf s).1 (loginOf s).2 := by
  unfold parseAuthority loginOf readPlace
  simp only [hs]
  rcases hlogin : splitLogin true s with _ | ⟨login, rest⟩ <;>
    simp only [ok_bind, error_bind, Option.getD_none, Option.getD_some]
  on_goal 2 => split
  case some.isTrue hempty =>
    -- Behind an empty login that the authority's end follows there is no host.
    cases rest with
    | nil => simp at hempty
    | cons c rest =>
      simp only [Bool.and_eq_true, List.head?_cons, Option.any_some] at hempty
      rw [takeHostText_ends hempty.2]
      rfl
  all_goals
    generalize takeHostText true false _ = taken
    obtain ⟨text, after⟩ := taken
    cases text with
    | nil => rfl
    | cons c text =>
      cases hhost : parseHostText true (c :: text) with
      | error cause => rfl
      | ok host =>
        simp only [Except.map, ok_bind, List.isEmpty_cons, Bool.false_and, Option.isNone_some,
          Bool.false_eq_true, if_false, reduceCtorEq]
        split
        · rfl
        · next hcolon => rw [portOf_of_ne hcolon, ok_bind]

/-- Whether an authority can be read, and what stands in it. -/
theorem parseAuthority_ok_iff (hs : isSpecialScheme scheme = true) {s r : List Char}
    {a : Authority} : parseAuthority scheme s = .ok (a, r) ↔
      ∃ text after host port, takeHostText true false (loginOf s).2 = (text, after) ∧ text ≠ [] ∧
        parseHostText true text = .ok host ∧ portOf scheme after = .ok (port, r) ∧
        a = ⟨(parseLogin (loginOf s).1).1, (parseLogin (loginOf s).1).2, some host, port⟩ := by
  rw [parseAuthority_eq hs, readPlace]
  rcases takeHostText true false (loginOf s).2 with ⟨text, after⟩
  constructor
  · intro h
    simp only at h
    split at h
    · cases h
    next hne =>
    cases hhost : parseHostText true text with
    | error cause => rw [hhost] at h; cases h
    | ok host =>
      rw [hhost, ok_bind] at h
      cases hport : portOf scheme after with
      | error cause => rw [hport] at h; cases h
      | ok parts =>
        rw [hport, ok_bind] at h
        cases h
        exact ⟨text, after, host, parts.1, rfl, hne, hhost, hport, rfl⟩
  · rintro ⟨_, _, host, port, hpair, hne, hhost, hport, rfl⟩
    cases hpair
    simp only [if_neg hne, hhost, ok_bind, hport]

section Tail

variable {c : Char} {s t : List Char}

theorem takeWhile_append_stop {p : Char → Bool} (hc : p c = false) (s t : List Char) :
    (s ++ c :: t).takeWhile p = s.takeWhile p := by
  induction s with
  | nil => simp [hc]
  | cons d s ih => rw [List.cons_append, List.takeWhile_cons, List.takeWhile_cons, ih]

theorem endsAuthority_iff : endsAuthority true c = true ↔
    c = '/' ∨ c = '?' ∨ c = '#' ∨ c = '\\' := by
  simp [endsAuthority, or_assoc]

theorem not_digit_of_ends (hc : endsAuthority true c = true) : isAsciiDigit c = false := by
  obtain rfl | rfl | rfl | rfl := endsAuthority_iff.mp hc <;> decide

/-- A login is read in front of what ends an authority. -/
theorem loginOf_append (hc : endsAuthority true c = true) (s t : List Char) :
    loginOf (s ++ c :: t) = ((loginOf s).1, (loginOf s).2 ++ c :: t) := by
  have hstop : (!endsAuthority true c) = false := by simp [hc]
  have harea := takeWhile_append_stop (p := fun c => !endsAuthority true c) hstop s t
  have hdrop : (s ++ c :: t).drop (s.takeWhile fun c => !endsAuthority true c).length =
      s.drop (s.takeWhile fun c => !endsAuthority true c).length ++ c :: t :=
    List.drop_append_of_le_length (List.takeWhile_prefix _).length_le
  unfold loginOf splitLogin
  simp only [harea, hdrop]
  split <;> simp

theorem takeHostText_append (hc : endsAuthority true c = true) (inside : Bool) (s t : List Char) :
    takeHostText true inside (s ++ c :: t) =
      ((takeHostText true inside s).1, (takeHostText true inside s).2 ++ c :: t) := by
  induction s generalizing inside with
  | nil => simp [takeHostText_ends hc, takeHostText]
  | cons d s ih =>
    simp only [List.cons_append, takeHostText]
    split
    · rfl
    · simp [ih]

theorem parsePort_append (hc : endsAuthority true c = true) {r : List Char} {port : Option Nat}
    (h : parsePort scheme s = .ok (port, r)) (t : List Char) :
    parsePort scheme (s ++ c :: t) = .ok (port, r ++ c :: t) := by
  have hdigit := not_digit_of_ends hc
  unfold parsePort at h ⊢
  simp only [takeWhile_append_stop hdigit, dropWhile_append_stop hdigit] at h ⊢
  have hends : (c == '/' || c == '\\' || c == '?' || c == '#') = true := by
    obtain rfl | rfl | rfl | rfl := endsAuthority_iff.mp hc <;> rfl
  cases hrest : s.dropWhile isAsciiDigit with
  | nil =>
    simp only [hrest, List.nil_append, hends] at h ⊢
    split_ifs at h ⊢ <;> cases h <;> rfl
  | cons d rest =>
    simp only [hrest, List.cons_append] at h ⊢
    split_ifs at h ⊢ <;> cases h <;> rfl

theorem portOf_append (hc : endsAuthority true c = true) {r : List Char} {port : Option Nat}
    (h : portOf scheme s = .ok (port, r)) (t : List Char) :
    portOf scheme (s ++ c :: t) = .ok (port, r ++ c :: t) := by
  by_cases hcolon : ∃ digits, s = ':' :: digits
  · obtain ⟨digits, rfl⟩ := hcolon
    exact parsePort_append hc h t
  · rw [portOf_of_ne fun rest hrest => hcolon ⟨rest, hrest⟩] at h
    cases h
    refine portOf_of_ne fun rest hrest => ?_
    cases s with
    | nil =>
      obtain ⟨rfl, -⟩ := List.cons.inj hrest
      exact absurd hc (by decide)
    | cons d s =>
      obtain ⟨rfl, -⟩ := List.cons.inj hrest
      exact hcolon ⟨s, rfl⟩

/-- An authority is read in front of a slash, a question mark or a number sign. -/
theorem parseAuthority_append (hs : isSpecialScheme scheme = true)
    (hc : endsAuthority true c = true) {a : Authority} {r : List Char}
    (h : parseAuthority scheme s = .ok (a, r)) (t : List Char) :
    parseAuthority scheme (s ++ c :: t) = .ok (a, r ++ c :: t) := by
  obtain ⟨text, after, host, port, htext, hne, hhost, hport, ha⟩ := (parseAuthority_ok_iff hs).mp h
  refine (parseAuthority_ok_iff hs).mpr
    ⟨text, after ++ c :: t, host, port, ?_, hne, hhost, portOf_append hc hport t, ?_⟩
  · rw [loginOf_append hc, takeHostText_append hc, htext]
  · rw [loginOf_append hc, ha]

end Tail

section Rest

variable {c : Char} {s r : List Char}

theorem mem_of_loginOf (h : c ∈ (loginOf s).2) : c ∈ s := by
  unfold loginOf splitLogin at h
  simp only at h
  split at h
  · simp only [Option.getD_some, List.mem_append, List.mem_reverse] at h
    rcases h with h | h
    · exact List.takeWhile_subset _ (List.mem_reverse.mp (List.takeWhile_subset _ h))
    · exact List.mem_of_mem_drop h
  · exact h

theorem mem_of_takeHostText {special inside : Bool} (h : c ∈ (takeHostText special inside s).2) :
    c ∈ s := by
  induction s generalizing inside with
  | nil => simp [takeHostText] at h
  | cons d s ih =>
    simp only [takeHostText] at h
    split at h
    · exact h
    · exact List.mem_cons_of_mem _ (ih h)

theorem mem_of_portOf {port : Option Nat} (hport : portOf scheme s = .ok (port, r)) (h : c ∈ r) :
    c ∈ s := by
  by_cases hcolon : ∃ digits, s = ':' :: digits
  · obtain ⟨digits, rfl⟩ := hcolon
    have hrest : r = digits.dropWhile isAsciiDigit := by
      change parsePort scheme digits = _ at hport
      unfold parsePort at hport
      simp only at hport
      split_ifs at hport <;> cases hport <;> rfl
    exact List.mem_cons_of_mem _ (List.dropWhile_subset _ (hrest ▸ h))
  · rw [portOf_of_ne fun rest hrest => hcolon ⟨rest, hrest⟩] at hport
    cases hport
    exact h

/-- What is left behind an authority stood in the text. -/
theorem mem_of_parseAuthority (hs : isSpecialScheme scheme = true) {a : Authority}
    (hread : parseAuthority scheme s = .ok (a, r)) (h : c ∈ r) : c ∈ s := by
  obtain ⟨text, after, host, port, htext, -, -, hport, -⟩ := (parseAuthority_ok_iff hs).mp hread
  have hafter : c ∈ (takeHostText true false (loginOf s).2).2 := by
    rw [htext]
    exact mem_of_portOf hport h
  exact mem_of_loginOf (mem_of_takeHostText hafter)

end Rest

end Archiver
