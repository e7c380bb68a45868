import Archiver.Archive.Document

namespace Archiver

/-- What a backslash and a character behind it mean in a quoted text: a quote or a backslash itself;
of any other character `other` tells. -/
def pairMeaning? (other : Char → Option (List Char)) (c : Char) : Option (List Char) :=
  if c = '"' ∨ c = '\\' then some [c] else other c

/-- Reads a quoted text up to the first quote that belongs to no pair, and gives what is behind it. -/
def readScalar? (other : Char → Option (List Char)) : List Char → Option (List Char × List Char)
  | [] => none
  | '"' :: rest => some ([], rest)
  | ['\\'] => none
  | '\\' :: c :: rest => (readScalar? other rest).bind fun read =>
    (pairMeaning? other c).map fun text => (text ++ read.1, read.2)
  | c :: rest => (readScalar? other rest).map fun read => (c :: read.1, read.2)

/-- Reads a value that begins with a quote. -/
def readQuoted? (other : Char → Option (List Char)) : List Char → Option (List Char × List Char)
  | '"' :: rest => readScalar? other rest
  | _ => none

/-- The reader of a value that knows no pairs but the quote and the backslash. -/
def noOther : Char → Option (List Char) := fun _ => none

/-- No pair means more characters than it has. -/
def ShortPairs (other : Char → Option (List Char)) : Prop :=
  ∀ c text, other c = some text → text.length ≤ 2

/-- The value of a text, with something behind it, is read to its end and as the text. -/
def ReadsBack (other : Char → Option (List Char)) (text rest : List Char) : Prop :=
  readQuoted? other (quotedText text ++ rest) = some (text, rest)

/-- Each backslash of a text stands before a character with which it means just what is there. -/
inductive IsClear (other : Char → Option (List Char)) : List Char → Prop where
  | nil : IsClear other []
  | char {c : Char} {s : List Char} (hc : c ≠ '\\') (hs : IsClear other s) : IsClear other (c :: s)
  | pair {c : Char} {s : List Char} (hquote : c ≠ '"') (hbackslash : c ≠ '\\')
      (hother : other c = some ['\\', c]) (hs : IsClear other s) : IsClear other ('\\' :: c :: s)

section Reading

variable {other : Char → Option (List Char)} {s value rest : List Char} {c : Char}

theorem readScalar_char (hquote : c ≠ '"') (hbackslash : c ≠ '\\') (s : List Char) :
    readScalar? other (c :: s) = (readScalar? other s).map fun read => (c :: read.1, read.2) := by
  rw [readScalar?]
  · exact hquote
  · rintro rfl
    exact absurd rfl hbackslash
  · rintro _ _ rfl
    exact absurd rfl hbackslash

theorem readScalar_pair (s : List Char) : readScalar? other ('\\' :: c :: s) = some (value, rest) ↔
    ∃ text behind, pairMeaning? other c = some text ∧
      readScalar? other s = some (behind, rest) ∧ value = text ++ behind := by
  rw [readScalar?, Option.bind_eq_some_iff]
  constructor
  · rintro ⟨⟨behind, rest'⟩, hread, hpair⟩
    obtain ⟨text, htext, heq⟩ := Option.map_eq_some_iff.mp hpair
    cases heq
    exact ⟨text, behind, htext, hread, rfl⟩
  · rintro ⟨text, behind, htext, hread, rfl⟩
    exact ⟨(behind, rest), hread, by rw [htext]; rfl⟩

/-- What is behind a value is shorter than the value with what is behind it. -/
theorem length_readScalar (h : readScalar? other s = some (value, rest)) :
    rest.length < s.length := by
  induction s using readScalar?.induct generalizing value with
  | case1 => cases h
  | case2 tail => cases h; simp
  | case3 => cases h
  | case4 c tail ih =>
    obtain ⟨_, behind, -, hread, -⟩ := (readScalar_pair tail).mp h
    have := ih hread
    simp only [List.length_cons]
    omega
  | case5 c tail hquote hlast hpair ih =>
    rw [readScalar?] at h
    · obtain ⟨read, hread, heq⟩ := Option.map_eq_some_iff.mp h
      obtain ⟨-, rfl⟩ := Prod.mk.inj heq
      have := ih hread
      simp only [List.length_cons]
      omega
    · exact hquote
    · exact hlast
    · exact hpair

theorem pairMeaning_self (h : c = '"' ∨ c = '\\') : pairMeaning? other c = some [c] := if_pos h

theorem pairMeaning_other (hquote : c ≠ '"') (hbackslash : c ≠ '\\') :
    pairMeaning? other c = other c :=
  if_neg fun h => h.elim hquote hbackslash

end Reading

section Writing

variable {other : Char → Option (List Char)} {s value rest : List Char} {c : Char}

theorem escapeQuotes_quote (s : List Char) :
    escapeQuotes ('"' :: s) = '\\' :: '"' :: escapeQuotes s := rfl

theorem escapeQuotes_cons (h : c ≠ '"') (s : List Char) :
    escapeQuotes (c :: s) = c :: escapeQuotes s := by
  rw [escapeQuotes, List.flatMap_cons, if_neg (by simpa using h)]
  rfl

/-- What is read of the value of a text, its opening quote aside, if it is read to its end. -/
def ValueRead (other : Char → Option (List Char)) (rest s value : List Char) : Prop :=
  readScalar? other (escapeQuotes s ++ '"' :: rest) = some (value, rest)

theorem valueRead_char (hc : c ≠ '\\') : ValueRead other rest (c :: s) value ↔
    ∃ behind, ValueRead other rest s behind ∧ value = c :: behind := by
  unfold ValueRead
  by_cases hquote : c = '"'
  · subst hquote
    rw [escapeQuotes_quote, List.cons_append, List.cons_append, readScalar_pair]
    constructor
    · rintro ⟨_, behind, ⟨⟩, hread, rfl⟩
      exact ⟨behind, hread, rfl⟩
    · rintro ⟨behind, hread, rfl⟩
      exact ⟨['"'], behind, rfl, hread, rfl⟩
  · rw [escapeQuotes_cons hquote, List.cons_append, readScalar_char hquote hc, Option.map_eq_some_iff]
    constructor
    · rintro ⟨read, hread, heq⟩
      obtain ⟨rfl, rfl⟩ := Prod.mk.inj heq
      exact ⟨read.1, hread, rfl⟩
    · rintro ⟨behind, hread, rfl⟩
      exact ⟨(behind, rest), hread, rfl⟩

/-- A backslash at the end of a text takes the closing quote for its own, and more is read than the
value. -/
theorem not_valueRead_backslash : ¬ ValueRead other rest ['\\'] value := by
  intro h
  obtain ⟨_, behind, -, hread, -⟩ := (readScalar_pair rest).mp h
  exact absurd (length_readScalar hread) (Nat.lt_irrefl _)

/-- A backslash in front of a quote makes a pair with the backslash of the quote, which then closes the
value. -/
theorem valueRead_pair : ValueRead other rest ('\\' :: c :: s) value ↔
    c ≠ '"' ∧ ∃ text behind, pairMeaning? other c = some text ∧
      ValueRead other rest s behind ∧ value = text ++ behind := by
  unfold ValueRead
  rw [escapeQuotes_cons (by decide)]
  by_cases hquote : c = '"'
  · subst hquote
    refine ⟨fun h => ?_, fun h => absurd rfl h.1⟩
    rw [escapeQuotes_quote, List.cons_append, List.cons_append, readScalar_pair] at h
    obtain ⟨_, behind, -, hread, -⟩ := h
    have hrest : escapeQuotes s ++ '"' :: rest = rest := (Prod.mk.inj (Option.some.inj hread)).2
    have hlength := congrArg List.length hrest
    simp only [List.length_append, List.length_cons] at hlength
    omega
  · rw [escapeQuotes_cons hquote, List.cons_append, List.cons_append, readScalar_pair]
    exact (and_iff_right hquote).symm

/-- A clear text is read from its value, whatever stands behind it. -/
theorem valueRead_of_clear (h : IsClear other s) (rest : List Char) : ValueRead other rest s s := by
  induction h with
  | nil => rfl
  | char hc hs ih => exact (valueRead_char hc).mpr ⟨_, ih, rfl⟩
  | @pair c s hquote hbackslash hother hs ih =>
    have hmeaning := (pairMeaning_other hquote hbackslash).trans hother
    exact valueRead_pair.mpr ⟨hquote, ['\\', c], s, hmeaning, ih, rfl⟩

/-- A value that is read to its end gives no more characters than the text has, and gives the text
only if that is clear. -/
theorem clear_of_valueRead (hshort : ShortPairs other) (h : ValueRead other rest s value) :
    value.length ≤ s.length ∧ (value = s → IsClear other s) := by
  induction hn : s.length using Nat.strongRecOn generalizing s value with
  | ind n ih =>
  cases s with
  | nil =>
    cases h
    exact ⟨Nat.zero_le _, fun _ => .nil⟩
  | cons c s =>
    rw [List.length_cons] at hn
    by_cases hc : c = '\\'
    case neg =>
      obtain ⟨behind, hread, rfl⟩ := (valueRead_char hc).mp h
      obtain ⟨hlength, hclear⟩ := ih _ (by omega) hread rfl
      exact ⟨by rw [List.length_cons]; omega, fun heq => .char hc (hclear (List.cons.inj heq).2)⟩
    subst hc
    cases s with
    | nil => exact absurd h not_valueRead_backslash
    | cons c s =>
      rw [List.length_cons] at hn
      obtain ⟨hquote, text, behind, htext, hread, rfl⟩ := valueRead_pair.mp h
      obtain ⟨hlength, hclear⟩ := ih _ (by omega) hread rfl
      rw [List.length_append]
      by_cases hbackslash : c = '\\'
      · -- a pair of backslashes means one of them, and nothing makes up for the other
        obtain rfl : [c] = text :=
          Option.some.inj ((pairMeaning_self (Or.inr hbackslash)).symm.trans htext)
        rw [List.length_singleton]
        refine ⟨by omega, fun heq => ?_⟩
        have := congrArg List.length heq
        simp only [List.length_append, List.length_cons, List.length_nil] at this
        omega
      · rw [pairMeaning_other hquote hbackslash] at htext
        have htwo := hshort c text htext
        refine ⟨by omega, fun heq => ?_⟩
        have hsum := congrArg List.length heq
        simp only [List.length_append, List.length_cons] at hsum
        have hparts : text ++ behind = ['\\', c] ++ s := heq
        obtain ⟨rfl, rfl⟩ := List.append_inj hparts
          (by simp only [List.length_cons, List.length_nil]; omega)
        exact .pair hquote hbackslash htext (hclear rfl)

theorem readsBack_iff_clear (hshort : ShortPairs other) (s rest : List Char) :
    ReadsBack other s rest ↔ IsClear other s := by
  have hvalue : ReadsBack other s rest ↔ ValueRead other rest s s := by
    rw [ReadsBack, quotedText, List.cons_append, List.append_assoc]
    rfl
  rw [hvalue]
  exact ⟨fun h => (clear_of_valueRead hshort h).2 rfl, fun h => valueRead_of_clear h rest⟩

/-- Where nothing but the quote and the backslash makes a pair, a clear text has no backslash. -/
theorem clear_noOther_iff : IsClear noOther s ↔ '\\' ∉ s := by
  constructor
  · intro h
    induction h with
    | nil => exact List.not_mem_nil
    | char hc hs ih => exact fun h => (List.mem_cons.mp h).elim (fun h => hc h.symm) ih
    | pair hquote hbackslash hother => cases hother
  · intro h
    induction s with
    | nil => exact .nil
    | cons c s ih =>
      rw [List.mem_cons, not_or] at h
      exact .char (Ne.symm h.1) (ih h.2)

end Writing

/-- In the document of an article the values of title and category are read to their ends and as their
texts just when these are clear: for a reader that knows no pairs but the quote and the backslash, when
they hold no backslash; for one that knows others, when each backslash stands before a character with
which it means itself. -/
theorem quoted_values_read_back_iff (e : Extraction) (captured : Timestamp) :
    ∃ tail, renderDocument e captured =
      rule ++ ((frontMatter e captured).take 2).flatMap (· ++ ['\n']) ++ "title: ".toList ++
        (quotedText e.title ++ ("\ncategory: ".toList ++
          (quotedText (e.metadata.category.getD "unknown".toList) ++ '\n' :: tail))) ∧
    (ReadsBack noOther e.title ("\ncategory: ".toList ++
        (quotedText (e.metadata.category.getD "unknown".toList) ++ '\n' :: tail)) ↔
      '\\' ∉ e.title) ∧
    (ReadsBack noOther (e.metadata.category.getD "unknown".toList) ('\n' :: tail) ↔
      '\\' ∉ e.metadata.category.getD "unknown".toList) ∧
    ∀ other, ShortPairs other →
      (ReadsBack other e.title ("\ncategory: ".toList ++
          (quotedText (e.metadata.category.getD "unknown".toList) ++ '\n' :: tail)) ↔
        IsClear other e.title) ∧
      (ReadsBack other (e.metadata.category.getD "unknown".toList) ('\n' :: tail) ↔
        IsClear other (e.metadata.category.getD "unknown".toList)) := by
  have hnone : ShortPairs noOther := fun _ _ h => nomatch h
  refine ⟨((frontMatter e captured).drop 4).flatMap (· ++ ['\n']) ++ rule ++
    '\n' :: (e.markdown ++ ['\n']), ?_, ?_, ?_, fun other hother => ⟨?_, ?_⟩⟩
  · simp [renderDocument, frontMatter]
  · rw [readsBack_iff_clear hnone, clear_noOther_iff]
  · rw [readsBack_iff_clear hnone, clear_noOther_iff]
  · exact readsBack_iff_clear hother _ _
  · exact readsBack_iff_clear hother _ _

/-- A reader that takes a backslash before any other character for itself. -/
def keepOther : Char → Option (List Char) := fun c => some ['\\', c]

/-- An article whose title has a quote and a backslash in it and whose category ends in one. -/
def slashedArticle : Extraction :=
  ⟨⟨"https://[::1]/n/5"⟩, "Text".toList, some .wholeBody,
    ⟨some "\"\\t".toList, some "\\".toList, false, none⟩⟩

/-- Its title comes back from one reader and not from the other, its category from neither. -/
theorem quoted_values_read_back_iff_slashed :
    ShortPairs keepOther ∧ ∃ tail,
    ReadsBack keepOther slashedArticle.title ("\ncategory: \"\\\"\n".toList ++ tail) ∧
    ¬ ReadsBack noOther slashedArticle.title ("\ncategory: \"\\\"\n".toList ++ tail) ∧
    ¬ ReadsBack keepOther "\\".toList ('\n' :: tail) := by
  have hkeep : ShortPairs keepOther := fun c text h => by
    cases h
    exact Nat.le_refl _
  have htitle : IsClear keepOther slashedArticle.title :=
    .char (by decide) (.pair (by decide) (by decide) rfl .nil)
  have hcategory : ¬ IsClear keepOther "\\".toList := fun h => by
    cases h with
    | char hc => exact hc rfl
  obtain ⟨tail, -, hstrict, -, hall⟩ := quoted_values_read_back_iff slashedArticle ⟨0, 0⟩
  obtain ⟨hread, hread'⟩ := hall keepOther hkeep
  exact ⟨hkeep, tail, hread.mpr htitle, fun h => hstrict.mp h (by decide),
    fun h => hcategory (hread'.mp h)⟩

/-- An article of a page whose headline ends in a backslash. -/
def driveArticle : Extraction :=
  extract 4 Stage.chain ⟨"https://[::1]/n/5"⟩ (parseDocument "<h1>C:\\</h1><p>Open now.".toList)

/-- The value of its title does not end where it should: read alone it has no end, and read in its
document it ends at the quote in front of the category. -/
theorem backslash_runs_on :
    driveArticle.success = true ∧ driveArticle.title = "C:\\".toList ∧
    "title: ".toList ++ quotedText driveArticle.title ∈ frontMatter driveArticle ⟨0, 0⟩ ∧
    readQuoted? noOther (quotedText driveArticle.title) = none ∧
    readQuoted? noOther (quotedText driveArticle.title ++ "\ncategory: \"unknown\"".toList) =
      some ("C:\"\ncategory: ".toList, "unknown\"".toList) := by
  have htitle : driveArticle.title = "C:\\".toList := by decide +kernel
  refine ⟨by decide +kernel, htitle, by simp [frontMatter], ?_, ?_⟩
  · rw [htitle]
    decide
  · rw [htitle]
    decide

end Archiver
