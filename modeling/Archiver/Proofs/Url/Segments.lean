import Archiver.Proofs.Url.Path
import Archiver.Proofs.Url.Percent

namespace Archiver

/-- What follows a dot in front of a text, the dot plain or escaped. -/
def afterDot? : List Char → Option (List Char)
  | '.' :: s => some s
  | '%' :: '2' :: 'e' :: s => some s
  | '%' :: '2' :: 'E' :: s => some s
  | _ => none

section Dots

variable {c : Char} {s : List Char}

theorem asciiLower_of_high (h : 128 ≤ c.toNat) : asciiLower c = c := by
  have hupper : isAsciiUpper c = false := by
    simp only [isAsciiUpper, Bool.and_eq_false_iff, decide_eq_false_iff_not,
      UInt32.le_iff_toNat_le]
    exact Or.inr fun hz => Nat.not_lt.mpr (Nat.le_trans h hz) (by decide)
  rw [asciiLower, hupper]
  rfl

theorem asciiLower_eq_iff (c : Char) : (asciiLower c = '.' ↔ c = '.') ∧
    (asciiLower c = '%' ↔ c = '%') ∧ (asciiLower c = '2' ↔ c = '2') ∧
    (asciiLower c = 'e' ↔ c = 'e' ∨ c = 'E') := by
  by_cases hc : c.toNat < 128
  · have hall : ∀ n < 128, (asciiLower (Char.ofNat n) = '.' ↔ Char.ofNat n = '.') ∧
        (asciiLower (Char.ofNat n) = '%' ↔ Char.ofNat n = '%') ∧
        (asciiLower (Char.ofNat n) = '2' ↔ Char.ofNat n = '2') ∧
        (asciiLower (Char.ofNat n) = 'e' ↔ Char.ofNat n = 'e' ∨ Char.ofNat n = 'E') := by decide
    have hn := hall c.toNat hc
    rwa [Char.ofNat_toNat] at hn
  · have hE : c ≠ 'E' := by
      rintro rfl
      exact hc (by decide)
    rw [asciiLower_of_high (Nat.not_lt.mp hc)]
    simp [hE]

theorem afterDot_eq_some_iff {rest : List Char} : afterDot? s = some rest ↔
    s = '.' :: rest ∨ s = '%' :: '2' :: 'e' :: rest ∨ s = '%' :: '2' :: 'E' :: rest := by
  constructor
  · intro h
    unfold afterDot? at h
    split at h <;> cases h <;> simp
  · rintro (rfl | rfl | rfl) <;> rfl

theorem isDot_iff : isDot s = true ↔ afterDot? s = some [] := by
  simp only [isDot, Bool.or_eq_true, beq_iff_eq, afterDot_eq_some_iff, List.map_eq_cons_iff,
    List.map_eq_nil_iff, asciiLower_eq_iff]
  grind

theorem isDoubleDot_iff : isDoubleDot s = true ↔ (afterDot? s).bind afterDot? = some [] := by
  have hone : ".%2e".toList = ['.', '%', '2', 'e'] := rfl
  have htwo : "%2e.".toList = ['%', '2', 'e', '.'] := rfl
  have hboth : "%2e%2e".toList = ['%', '2', 'e', '%', '2', 'e'] := rfl
  simp only [isDoubleDot, hone, htwo, hboth, Bool.or_eq_true, beq_iff_eq, List.map_eq_cons_iff,
    List.map_eq_nil_iff, asciiLower_eq_iff]
  constructor
  · rintro (((⟨_, _, rfl, rfl, _, _, rfl, rfl, rfl⟩ |
      ⟨_, _, rfl, rfl, _, _, rfl, rfl, _, _, rfl, rfl, _, _, rfl, rfl | rfl, rfl⟩) |
      ⟨_, _, rfl, rfl, _, _, rfl, rfl, _, _, rfl, rfl | rfl, _, _, rfl, rfl, rfl⟩) |
      ⟨_, _, rfl, rfl, _, _, rfl, rfl, _, _, rfl, rfl | rfl, _, _, rfl, rfl, _, _, rfl, rfl, _, _,
        rfl, rfl | rfl, rfl⟩) <;> rfl
  · intro h
    obtain ⟨rest, hs, hrest⟩ := Option.bind_eq_some_iff.mp h
    rw [afterDot_eq_some_iff] at hs hrest
    rcases hs with rfl | rfl | rfl <;> rcases hrest with rfl | rfl | rfl <;> simp

/-- No character is escaped to a dot's escape, as a dot stays. -/
theorem not_dot_of_escape {d : Char} (hd : staysInPath d = false) {b : UInt8}
    (hb : b ∈ encodeChar d) (hhigh : upperHexDigit (b.toNat / 16) = '2') :
    upperHexDigit (b.toNat % 16) ≠ 'e' ∧ upperHexDigit (b.toNat % 16) ≠ 'E' := by
  have hall : ∀ n < 16, (upperHexDigit n = '2' → n = 2) ∧ upperHexDigit n ≠ 'e' ∧
      (upperHexDigit n = 'E' → n = 14) := by decide
  have hbyte := b.toNat_lt
  have htwo := (hall (b.toNat / 16) (by omega)).1 hhigh
  obtain ⟨-, hsmall, hcapital⟩ := hall (b.toNat % 16) (by omega)
  refine ⟨hsmall, fun hlow => ?_⟩
  have hcode : b.toNat = 46 := by
    have := hcapital hlow
    omega
  have hchar : d.toNat = '.'.toNat :=
    (eq_of_mem_encodeChar hb (by rw [UInt8.lt_iff_toNat_lt, hcode]; decide)).trans hcode
  rw [Char.toNat_inj.mp hchar] at hd
  cases hd

theorem afterDot_percentEncode (s : List Char) :
    afterDot? (percentEncode staysInPath s) = (afterDot? s).map (percentEncode staysInPath) := by
  cases h : afterDot? s with
  | some rest =>
    rw [afterDot_eq_some_iff] at h
    rcases h with rfl | rfl | rfl <;> simp only [percentEncode_cons] <;> rfl
  | none =>
    rw [Option.map_none, Option.eq_none_iff_forall_ne_some]
    intro rest hrest
    -- an escape of a dot that was not there before would be the escape of something else
    have hescape : ∀ x, (x = 'e' ∨ x = 'E') →
        percentEncode staysInPath s = '%' :: '2' :: x :: rest → False := by
      intro x hx hs
      rcases percentEncode_eq_cons hs with ⟨s₁, rfl, hs₁⟩ | ⟨-, d, -, hd, b, hb, t, ht⟩
      · rcases percentEncode_eq_cons hs₁ with ⟨s₂, rfl, hs₂⟩ | ⟨hne, -⟩
        · rcases percentEncode_eq_cons hs₂ with ⟨s₃, rfl, -⟩ | ⟨hne, -⟩
          · rcases hx with rfl | rfl <;> cases h
          · rcases hx with rfl | rfl <;> cases hne
        · cases hne
      · obtain ⟨hhigh, hlow, -⟩ : '2' = _ ∧ x = _ ∧ rest = t := by simpa using ht
        obtain ⟨hsmall, hcapital⟩ := not_dot_of_escape hd hb hhigh.symm
        rcases hx with rfl | rfl
        · exact hsmall hlow.symm
        · exact hcapital hlow.symm
    rw [afterDot_eq_some_iff] at hrest
    rcases hrest with hs | hs | hs
    · rcases percentEncode_eq_cons hs with ⟨s, rfl, -⟩ | ⟨hne, -⟩
      · cases h
      · cases hne
    · exact hescape 'e' (Or.inl rfl) hs
    · exact hescape 'E' (Or.inr rfl) hs

/-- Escaping makes no dot segment and unmakes none. -/
theorem isDot_percentEncode (s : List Char) : isDot (percentEncode staysInPath s) = isDot s := by
  rw [Bool.eq_iff_iff, isDot_iff, isDot_iff, afterDot_percentEncode, Option.map_eq_some_iff]
  simp [percentEncode_eq_nil]

theorem isDoubleDot_percentEncode (s : List Char) :
    isDoubleDot (percentEncode staysInPath s) = isDoubleDot s := by
  rw [Bool.eq_iff_iff, isDoubleDot_iff, isDoubleDot_iff, afterDot_percentEncode]
  cases hs : afterDot? s with
  | none => simp
  | some rest => simp [afterDot_percentEncode, percentEncode_eq_nil]

end Dots

/-- A segment in the form in which a path keeps it: escaped, without a slash, and no dot segment. -/
structure IsSegment (segment : List Char) : Prop where
  kept : ∀ c ∈ segment, staysInPath c = true
  plain : ∀ c ∈ segment, isSlash c = false
  not_dot : isDot segment = false
  not_double_dot : isDoubleDot segment = false

/-- Segments with a slash in front of each. -/
def slashed (segments : List (List Char)) : List Char := segments.flatMap ('/' :: ·)

/-- The path of segments; without any it is a slash. -/
def pathOfSegments (segments : List (List Char)) : List Char :=
  if segments = [] then ['/'] else slashed segments

section Segments

variable {scheme s : List Char} {ps stack : List (List Char)}

theorem segment_empty : IsSegment [] := ⟨by simp, by simp, by decide, by decide⟩

theorem segment_percentEncode (hs : ∀ c ∈ s, isSlash c = false) (hdot : isDot s = false)
    (hdouble : isDoubleDot s = false) : IsSegment (percentEncode staysInPath s) where
  kept _ := kept_of_mem_percentEncode keepsEscapes_path
  plain c hc := by
    have hdigit : ∀ n < 16, isSlash (upperHexDigit n) = false := by decide
    rcases mem_percentEncode hc with ⟨hc, -⟩ | rfl | ⟨n, hn, rfl⟩
    · exact hs c hc
    · decide
    · exact hdigit n hn
  not_dot := (isDot_percentEncode s).trans hdot
  not_double_dot := (isDoubleDot_percentEncode s).trans hdouble

theorem mem_of_mem_popSegment {p : List Char} (h : p ∈ popSegment stack) : p ∈ stack := by
  cases stack with
  | nil => cases h
  | cons last front =>
    rw [popSegment] at h
    split at h
    · exact h
    · exact List.mem_cons_of_mem _ h

/-- Reading segments leaves segments. -/
theorem segments_addSegments (hstack : ∀ p ∈ stack, IsSegment p)
    (hps : ∀ p ∈ ps, ∀ c ∈ p, isSlash c = false) :
    ∀ p ∈ addSegments false stack ps, IsSegment p := by
  induction ps generalizing stack with
  | nil => exact hstack
  | cons segment ps ih =>
    have hrest : ∀ p ∈ ps, ∀ c ∈ p, isSlash c = false := fun p hp =>
      hps p (List.mem_cons_of_mem segment hp)
    have hempty : ∀ stack : List (List Char), (∀ p ∈ stack, IsSegment p) →
        ∀ p ∈ if ps.isEmpty = true then [] :: stack else stack, IsSegment p := by
      intro stack hstack p hp
      split at hp
      · rcases List.mem_cons.mp hp with rfl | hp
        · exact segment_empty
        · exact hstack p hp
      · exact hstack p hp
    rw [addSegments_cons]
    split
    · exact ih (hempty _ fun p hp => hstack p (mem_of_mem_popSegment hp)) hrest
    split
    · exact ih (hempty _ hstack) hrest
    · next hdouble hdot =>
      refine ih (fun p hp => ?_) hrest
      rcases List.mem_cons.mp hp with rfl | hp
      · exact segment_percentEncode (hps segment List.mem_cons_self) (Bool.not_eq_true _ ▸ hdot)
          (Bool.not_eq_true _ ▸ hdouble)
      · exact hstack p hp

/-- Segments are read as they stand. -/
theorem addSegments_of_segments (hps : ∀ p ∈ ps, IsSegment p) (stack : List (List Char)) :
    addSegments false stack ps = ps.reverse ++ stack := by
  induction ps generalizing stack with
  | nil => rfl
  | cons p ps ih =>
    have hp := hps p List.mem_cons_self
    rw [addSegments_cons, hp.not_double_dot, hp.not_dot, percentEncode_of_kept hp.kept]
    simp only [Bool.false_eq_true, if_false]
    rw [ih fun q hq => hps q (List.mem_cons_of_mem p hq)]
    simp

theorem splitAll_append_slashed {sep : Char → Bool} (hsep : sep '/' = true) {p : List Char}
    (hp : ∀ c ∈ p, sep c = false) (hps : ∀ q ∈ ps, ∀ c ∈ q, sep c = false) :
    splitAll sep (p ++ slashed ps) = p :: ps := by
  induction ps generalizing p with
  | nil => simpa [slashed] using splitAll_of_not_mem hp
  | cons q ps ih =>
    have hq := ih (hps q List.mem_cons_self) fun r hr => hps r (List.mem_cons_of_mem q hr)
    rw [slashed, List.flatMap_cons, List.cons_append, splitAll_append_sep hsep,
      splitAll_of_not_mem hp]
    exact congrArg _ hq

theorem splitAll_slashed {sep : Char → Bool} (hsep : sep '/' = true)
    (hps : ∀ q ∈ ps, ∀ c ∈ q, sep c = false) : splitAll sep (slashed ps) = [] :: ps :=
  splitAll_append_slashed (p := []) hsep (fun _ hc => by cases hc) hps

theorem tidySegments_of_segments (hps : ∀ p ∈ ps, IsSegment p) (stack : List (List Char)) :
    tidySegments stack ps = (ps.filter (!·.isEmpty)).reverse ++ stack := by
  induction ps generalizing stack with
  | nil => rfl
  | cons p ps ih =>
    have hp := hps p List.mem_cons_self
    have hdot : (p == ['.']) = false := by
      rw [beq_eq_false_iff_ne]
      rintro rfl
      cases hp.not_dot
    have hdouble : (p == ['.', '.']) = false := by
      rw [beq_eq_false_iff_ne]
      rintro rfl
      cases hp.not_double_dot
    have hrest := ih fun q hq => hps q (List.mem_cons_of_mem p hq)
    rw [tidySegments, hdot, hdouble]
    cases p with
    | nil => exact hrest stack
    | cons c p => simp [hrest]

theorem tidyPath_slashed (hps : ∀ p ∈ ps, IsSegment p) :
    tidyPath (slashed ps) = pathOfSegments (ps.filter (!·.isEmpty)) := by
  have hplain : ∀ p ∈ ps, ∀ c ∈ p, (c == '/') = false := fun p hp c hc =>
    (Bool.or_eq_false_iff.mp ((hps p hp).plain c hc)).1
  have htidy : tidySegments [] ([] :: ps) = (ps.filter (!·.isEmpty)).reverse :=
    (tidySegments_of_segments (List.forall_mem_cons.mpr ⟨segment_empty, hps⟩) []).trans
      (List.append_nil _)
  unfold tidyPath
  rw [splitAll_slashed (by decide) hplain, htidy]
  generalize ps.filter (!·.isEmpty) = kept
  cases hkept : kept.reverse with
  | nil =>
    rw [List.reverse_eq_nil_iff] at hkept
    rw [hkept]
    rfl
  | cons last front =>
    have hne : kept ≠ [] := fun h => by simp [h] at hkept
    rw [pathOfSegments, if_neg hne, ← List.reverse_reverse kept, hkept]
    rfl

/-- The canonical path of segments is the path of those that are not empty. -/
theorem canonicalPath_slashed (hps : ∀ p ∈ ps, IsSegment p) :
    canonicalPath (slashed ps) = pathOfSegments (ps.filter (!·.isEmpty)) := by
  have hkept : ∀ p ∈ ps.filter (!·.isEmpty), IsSegment p := fun p hp =>
    hps p (List.mem_filter.mp hp).1
  have hplain : ∀ p ∈ ps.filter (!·.isEmpty), ∀ c ∈ p, (c == '/') = false := fun p hp c hc =>
    (Bool.or_eq_false_iff.mp ((hkept p hp).plain c hc)).1
  rw [canonicalPath, tidyPath_slashed hps]
  generalize ps.filter (!·.isEmpty) = kept at hkept hplain
  by_cases hne : kept = []
  · subst hne
    decide
  · rw [pathOfSegments, if_neg hne, splitAll_slashed (by decide) hplain, List.drop_one,
      List.tail_cons, addSegments_of_segments hkept, List.append_nil, pathOfStack,
      List.reverse_reverse]
    rfl

/-- The text of a path comes to segments. -/
theorem webPath_eq_slashed (s : List Char) :
    ∃ ps, (∀ p ∈ ps, IsSegment p) ∧ webPath s = slashed ps := by
  have hpieces : ∀ p ∈ splitAll isSlash s, ∀ c ∈ p, isSlash c = false := fun p hp c hc =>
    (mem_of_mem_splitAll hp hc).2
  have hnone : ∀ p ∈ ([] : List (List Char)), IsSegment p := fun p hp => by cases hp
  have hstack := segments_addSegments hnone hpieces
  exact ⟨(addSegments false [] (splitAll isSlash s)).reverse,
    fun p hp => hstack p (List.mem_reverse.mp hp), rfl⟩

end Segments

/-- The segments of a canonical path: none of them is empty. -/
def AreCanonical (segments : List (List Char)) : Prop :=
  ∀ p ∈ segments, IsSegment p ∧ p ≠ []

section Canonical

variable {scheme s : List Char} {segments : List (List Char)}

theorem exists_canonical_segments (hweb : isWebScheme scheme = true) (s : List Char) :
    ∃ segments, AreCanonical segments ∧
      canonicalPath (parsePathStart scheme s).1 = pathOfSegments segments := by
  obtain ⟨ps, hps, hpath⟩ := webPath_eq_slashed (dropSlash (takePath s).1)
  refine ⟨ps.filter (!·.isEmpty), fun p hp => ?_, ?_⟩
  · obtain ⟨hmem, hne⟩ := List.mem_filter.mp hp
    exact ⟨hps p hmem, by simpa using hne⟩
  · rw [parsePathStart_path hweb, hpath, canonicalPath_slashed hps]

/-- A path of canonical segments is what follows a slash, be it nothing. -/
theorem pathOfSegments_eq_slashed (h : AreCanonical segments) :
    ∃ p ps, (∀ q ∈ p :: ps, IsSegment q) ∧ pathOfSegments segments = slashed (p :: ps) ∧
      (p :: ps).filter (!·.isEmpty) = segments := by
  cases segments with
  | nil => exact ⟨[], [], by simpa using segment_empty, rfl, rfl⟩
  | cons p ps =>
    refine ⟨p, ps, fun q hq => (h q hq).1, if_neg (List.cons_ne_nil p ps), ?_⟩
    exact List.filter_eq_self.mpr fun q hq => by simpa using (h q hq).2

theorem webPath_dropSlash {p : List Char} {ps : List (List Char)}
    (hps : ∀ q ∈ p :: ps, IsSegment q) :
    webPath (dropSlash (slashed (p :: ps))) = slashed (p :: ps) := by
  have hplain : ∀ q ∈ p :: ps, ∀ c ∈ q, isSlash c = false := fun q hq => (hps q hq).plain
  have hdrop : dropSlash (slashed (p :: ps)) = p ++ slashed ps := rfl
  rw [hdrop, webPath, splitAll_append_slashed (by decide) (hplain p List.mem_cons_self)
    (fun q hq => hplain q (List.mem_cons_of_mem p hq)), addSegments_of_segments hps,
    List.append_nil, pathOfStack, List.reverse_reverse]
  rfl

theorem mem_slashed {c : Char} {ps : List (List Char)} (h : c ∈ slashed ps) :
    c = '/' ∨ ∃ p ∈ ps, c ∈ p := by
  obtain ⟨p, hp, hc⟩ := List.mem_flatMap.mp h
  exact (List.mem_cons.mp hc).imp_right fun hc => ⟨p, hp, hc⟩

theorem pathText_slashed {ps : List (List Char)} (hps : ∀ p ∈ ps, IsSegment p) :
    IsPathText (slashed ps) := by
  constructor
  · intro h
    rcases mem_slashed h with h | ⟨p, hp, hc⟩
    · cases h
    · cases (hps p hp).kept _ hc
  · intro h
    rcases mem_slashed h with h | ⟨p, hp, hc⟩
    · cases h
    · cases (hps p hp).kept _ hc

theorem parsePathFrom_tail (hs : IsPathText s) (stack : List (List Char)) :
    (parsePathFrom scheme stack s).2 = [] := by
  change s.dropWhile (fun c => c != '?' && c != '#') = []
  rw [List.dropWhile_eq_nil_iff]
  intro c hc
  have hquery : c ≠ '?' := fun h => hs.1 (h ▸ hc)
  have hfragment : c ≠ '#' := fun h => hs.2 (h ▸ hc)
  simp [hquery, hfragment]

/-- Nothing is left behind the text of a path. -/
theorem parsePathStart_tail (hweb : isWebScheme scheme = true) (hs : IsPathText s) :
    (parsePathStart scheme s).2 = [] := by
  unfold parsePathStart
  rw [(special_of_web hweb).1]
  cases s with
  | nil => rfl
  | cons c s =>
    have hs' : IsPathText s :=
      ⟨fun h => hs.1 (List.mem_cons_of_mem c h), fun h => hs.2 (List.mem_cons_of_mem c h)⟩
    simp only [Bool.true_and, Bool.not_true, Bool.false_and, Bool.false_eq_true, if_false]
    split
    · exact parsePathFrom_tail hs' []
    · exact parsePathFrom_tail hs []

/-- A path of canonical segments is read as they stand, and is its own canonical form. -/
theorem canonical_path_fixed (hweb : isWebScheme scheme = true) (h : AreCanonical segments) :
    parsePathStart scheme (pathOfSegments segments) = (pathOfSegments segments, []) ∧
      canonicalPath (pathOfSegments segments) = pathOfSegments segments := by
  obtain ⟨p, ps, hps, hpath, hkept⟩ := pathOfSegments_eq_slashed h
  rw [hpath]
  refine ⟨Prod.ext ?_ (parsePathStart_tail hweb (pathText_slashed hps)), ?_⟩
  · rw [parsePathStart_path hweb, takePath_self (pathText_slashed hps), webPath_dropSlash hps]
  · rw [canonicalPath_slashed hps, hkept, hpath]

end Canonical

end Archiver
