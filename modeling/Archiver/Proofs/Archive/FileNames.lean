import Archiver.Archive.Document
import Archiver.Proofs.Text.Utf8

namespace Archiver

/-- Of the beginnings of a text with at most so many characters and so many bytes, the longest. -/
structure IsLongestFit (characters bytes : Nat) (s name : List Char) : Prop where
  front : name <+: s
  fewCharacters : name.length ≤ characters
  fewBytes : (encodeUtf8 name).length ≤ bytes
  longest : ∀ t, t <+: s → t.length ≤ characters → (encodeUtf8 t).length ≤ bytes →
    t.length ≤ name.length

section Bytes

variable {limit characters bytes : Nat} {s t name : List Char}

theorem length_encodeChar (c : Char) : (encodeChar c).length = charBytes c := by
  unfold encodeChar charBytes
  simp only
  repeat' split
  all_goals rfl

theorem length_encodeUtf8_cons (c : Char) (s : List Char) :
    (encodeUtf8 (c :: s)).length = charBytes c + (encodeUtf8 s).length := by
  rw [encodeUtf8_cons, List.length_append, length_encodeChar]

/-- Characters below U+0080 have one byte each. -/
theorem length_encodeUtf8_ascii (h : ∀ c ∈ s, c.toNat < 0x80) : (encodeUtf8 s).length = s.length := by
  induction s with
  | nil => rfl
  | cons c s ih =>
    obtain ⟨hc, hs⟩ := List.forall_mem_cons.mp h
    rw [length_encodeUtf8_cons, charBytes, if_pos hc, ih hs, List.length_cons, Nat.add_comm]

theorem takeBytes_isPrefix (limit : Nat) (s : List Char) : takeBytes limit s <+: s := by
  induction s generalizing limit with
  | nil => exact List.prefix_rfl
  | cons c s ih =>
    rw [takeBytes]
    split
    · exact List.cons_prefix_cons.mpr ⟨rfl, ih _⟩
    · exact List.nil_prefix

theorem length_takeBytes_le (limit : Nat) (s : List Char) :
    (encodeUtf8 (takeBytes limit s)).length ≤ limit := by
  induction s generalizing limit with
  | nil => exact Nat.zero_le _
  | cons c s ih =>
    rw [takeBytes]
    split
    · next hc =>
      have := ih (limit - charBytes c)
      rw [length_encodeUtf8_cons]
      omega
    · exact Nat.zero_le _

/-- What fits of a text is taken. -/
theorem prefix_takeBytes (h : t <+: s) (hbytes : (encodeUtf8 t).length ≤ limit) :
    t <+: takeBytes limit s := by
  induction s generalizing t limit with
  | nil => exact h
  | cons c s ih =>
    cases t with
    | nil => exact List.nil_prefix
    | cons d t =>
      obtain ⟨rfl, ht⟩ := List.cons_prefix_cons.mp h
      rw [length_encodeUtf8_cons] at hbytes
      rw [takeBytes, if_pos (by omega)]
      exact List.cons_prefix_cons.mpr ⟨rfl, ih ht (by omega)⟩

theorem isLongestFit_takeBytes (characters bytes : Nat) (s : List Char) :
    IsLongestFit characters bytes s (takeBytes bytes (s.take characters)) := by
  have hfront := takeBytes_isPrefix bytes (s.take characters)
  refine ⟨hfront.trans (List.take_prefix _ _), ?_, length_takeBytes_le _ _,
    fun t ht hlength hbytes => ?_⟩
  · exact Nat.le_trans hfront.length_le (List.length_take_le _ _)
  · exact (prefix_takeBytes (List.prefix_take_iff.mpr ⟨ht, hlength⟩) hbytes).length_le

theorem IsLongestFit.unique (h : IsLongestFit characters bytes s name)
    (h' : IsLongestFit characters bytes s t) : name = t := by
  have hle := h'.longest name h.front h.fewCharacters h.fewBytes
  have hge := h.longest t h'.front h'.fewCharacters h'.fewBytes
  exact (List.prefix_of_prefix_length_le h.front h'.front hle).eq_of_length
    (Nat.le_antisymm hle hge)

theorem isLongestFit_self (hcharacters : s.length ≤ characters)
    (hbytes : (encodeUtf8 s).length ≤ bytes) : IsLongestFit characters bytes s s :=
  ⟨List.prefix_rfl, hcharacters, hbytes, fun _ ht _ _ => ht.length_le⟩

end Bytes

/-- One text is another with each run of blanks turned into one hyphen. -/
inductive Hyphenated : List Char → List Char → Prop where
  | nil : Hyphenated [] []
  | char {c : Char} {s t : List Char} (hc : isBlank c = false) (hs : Hyphenated s t) :
      Hyphenated (c :: s) (c :: t)
  | run {blanks s t : List Char} (hne : blanks ≠ []) (hblanks : ∀ c ∈ blanks, isBlank c = true)
      (hend : ∀ c ∈ s.head?, isBlank c = false) (hs : Hyphenated s t) :
      Hyphenated (blanks ++ s) ('-' :: t)

section Cleaning

variable {s t : List Char} {c : Char}

theorem hyphenate_blanks {blanks : List Char} (h : ∀ c ∈ blanks, isBlank c = true) (s : List Char) :
    hyphenate true (blanks ++ s) = hyphenate true s := by
  induction blanks with
  | nil => rfl
  | cons c blanks ih =>
    obtain ⟨hc, hblanks⟩ := List.forall_mem_cons.mp h
    rw [List.cons_append, hyphenate, if_pos hc, if_pos rfl, ih hblanks]

theorem hyphenate_end (h : ∀ c ∈ s.head?, isBlank c = false) :
    hyphenate true s = hyphenate false s := by
  cases s with
  | nil => rfl
  | cons c s => simp [hyphenate, h c rfl]

theorem Hyphenated.eq (h : Hyphenated s t) : t = hyphenate false s := by
  induction h with
  | nil => rfl
  | char hc hs ih => rw [hyphenate, if_neg (by simp [hc]), ih]
  | @run blanks s t hne hblanks hend hs ih =>
    obtain ⟨c, blanks, rfl⟩ := List.exists_cons_of_ne_nil hne
    obtain ⟨hc, hblanks⟩ := List.forall_mem_cons.mp hblanks
    rw [List.cons_append, hyphenate, if_pos hc, if_neg (by simp), hyphenate_blanks hblanks,
      hyphenate_end hend, ih]

/-- Behind an open run the blanks that come first still belong to it. -/
theorem hyphenated_both (s : List Char) : Hyphenated s (hyphenate false s) ∧
    ∃ blanks rest, s = blanks ++ rest ∧ (∀ c ∈ blanks, isBlank c = true) ∧
      (∀ c ∈ rest.head?, isBlank c = false) ∧ Hyphenated rest (hyphenate true s) := by
  induction s with
  | nil => exact ⟨.nil, [], [], rfl, by simp, by simp, .nil⟩
  | cons c s ih =>
    obtain ⟨hclosed, blanks, rest, rfl, hblanks, hend, hopen⟩ := ih
    by_cases hc : isBlank c = true
    · have hrun : ∀ d ∈ c :: blanks, isBlank d = true := List.forall_mem_cons.mpr ⟨hc, hblanks⟩
      refine ⟨?_, c :: blanks, rest, rfl, hrun, hend, ?_⟩
      · rw [hyphenate, if_pos hc, if_neg (by simp)]
        exact .run (List.cons_ne_nil _ _) hrun hend hopen
      · rwa [hyphenate, if_pos hc, if_pos rfl]
    · rw [Bool.not_eq_true] at hc
      have hchar : Hyphenated (c :: (blanks ++ rest)) (c :: hyphenate false (blanks ++ rest)) :=
        .char hc hclosed
      rw [hyphenate, hyphenate, if_neg (by simp [hc]), if_neg (by simp [hc])]
      exact ⟨hchar, [], _, rfl, by simp, by simpa using hc, hchar⟩

theorem hyphenated_iff : Hyphenated s t ↔ t = hyphenate false s :=
  ⟨Hyphenated.eq, fun h => h ▸ (hyphenated_both s).1⟩

theorem Hyphenated.mem (h : Hyphenated s t) (hc : c ∈ t) : c = '-' ∨ c ∈ s ∧ isBlank c = false := by
  induction h with
  | nil => cases hc
  | char hd hs ih =>
    rcases List.mem_cons.mp hc with rfl | hc
    · exact Or.inr ⟨List.mem_cons_self, hd⟩
    · exact (ih hc).imp_right fun h => ⟨List.mem_cons_of_mem _ h.1, h.2⟩
  | run hne hblanks hend hs ih =>
    rcases List.mem_cons.mp hc with rfl | hc
    · exact Or.inl rfl
    · exact (ih hc).imp_right fun h => ⟨List.mem_append_right _ h.1, h.2⟩

theorem hyphenated_self (h : ∀ c ∈ s, isBlank c = false) : Hyphenated s s := by
  induction s with
  | nil => exact .nil
  | cons c s ih =>
    obtain ⟨hc, hs⟩ := List.forall_mem_cons.mp h
    exact .char hc (ih hs)

end Cleaning

/-- A character that stands for no directory and is neither reserved, nor a control, nor a blank. -/
def isFileChar (c : Char) : Bool := !isReserved c && !isControl c && !isBlank c

section Sanitizing

variable {v s name : List Char} {c : Char}

theorem isFileChar_iff : isFileChar c = true ↔
    isReserved c = false ∧ isControl c = false ∧ isBlank c = false := by
  simp [isFileChar, and_assoc]

theorem fileChar_of_mem_sanitize (h : c ∈ sanitizeFileName v) : isFileChar c = true := by
  have hmem : c ∈ hyphenate false (dropForbidden v) :=
    List.mem_of_mem_take ((takeBytes_isPrefix _ _).subset h)
  rcases (hyphenated_both (dropForbidden v)).1.mem hmem with rfl | ⟨hkept, hblank⟩
  · decide
  · have hallowed := (List.mem_filter.mp hkept).2
    simp only [Bool.not_eq_true', Bool.or_eq_false_iff] at hallowed
    exact isFileChar_iff.mpr ⟨hallowed.2, hallowed.1, hblank⟩

theorem dropForbidden_self (h : ∀ c ∈ s, isFileChar c = true) : dropForbidden s = s := by
  refine List.filter_eq_self.mpr fun c hc => ?_
  obtain ⟨hreserved, hcontrol, -⟩ := isFileChar_iff.mp (h c hc)
  rw [hreserved, hcontrol]
  rfl

theorem sanitize_eq_iff : name = sanitizeFileName v ↔
    ∃ cleaned, Hyphenated (dropForbidden v) cleaned ∧ IsLongestFit 80 120 cleaned name := by
  have hfit := isLongestFit_takeBytes 80 120 (hyphenate false (dropForbidden v))
  constructor
  · rintro rfl
    exact ⟨_, hyphenated_iff.mpr rfl, hfit⟩
  · rintro ⟨cleaned, hcleaned, hname⟩
    rw [hyphenated_iff] at hcleaned
    subst hcleaned
    exact hname.unique hfit

/-- A text that is fit for a file name is left as it is. -/
theorem sanitize_self (h : ∀ c ∈ s, isFileChar c = true) (hcharacters : s.length ≤ 80)
    (hbytes : (encodeUtf8 s).length ≤ 120) : sanitizeFileName s = s := by
  have hblank : ∀ c ∈ s, isBlank c = false := fun c hc => (isFileChar_iff.mp (h c hc)).2.2
  refine (sanitize_eq_iff.mpr ⟨s, ?_, isLongestFit_self hcharacters hbytes⟩).symm
  rw [dropForbidden_self h]
  exact hyphenated_self hblank

theorem sanitize_sanitize (v : List Char) :
    sanitizeFileName (sanitizeFileName v) = sanitizeFileName v := by
  obtain ⟨_, -, hfit⟩ := sanitize_eq_iff.mp (rfl : sanitizeFileName v = sanitizeFileName v)
  exact sanitize_self (fun _ hc => fileChar_of_mem_sanitize hc) hfit.fewCharacters hfit.fewBytes

end Sanitizing

/-- A text of characters for file names, of at most so many bytes. -/
structure FitsName (limit : Nat) (s : List Char) : Prop where
  characters : ∀ c ∈ s, isFileChar c = true
  bytes : (encodeUtf8 s).length ≤ limit

section Names

variable {m n : Nat} {s t : List Char}

theorem FitsName.append (hs : FitsName m s) (ht : FitsName n t) : FitsName (m + n) (s ++ t) := by
  refine ⟨List.forall_mem_append.mpr ⟨hs.characters, ht.characters⟩, ?_⟩
  have hm := hs.bytes
  have hn := ht.bytes
  rw [encodeUtf8_append, List.length_append]
  omega

theorem FitsName.le (h : FitsName m s) (hle : m ≤ n) : FitsName n s :=
  ⟨h.characters, Nat.le_trans h.bytes hle⟩

instance (limit : Nat) (s : List Char) : Decidable (FitsName limit s) :=
  decidable_of_iff (s.all isFileChar = true ∧ (encodeUtf8 s).length ≤ limit)
    ⟨fun h => ⟨List.all_eq_true.mp h.1, h.2⟩, fun h => ⟨List.all_eq_true.mpr h.1, h.2⟩⟩

theorem FitsName.noSlash (h : FitsName n s) : '/' ∉ s := fun hmem =>
  absurd (h.characters _ hmem) (by decide)

theorem fits_sanitize (v : List Char) : FitsName 120 (sanitizeFileName v) :=
  ⟨fun _ hc => fileChar_of_mem_sanitize hc, length_takeBytes_le _ _⟩

theorem fits_slugName (url : CanonicalUrl) : FitsName 60 (slugName url) := by
  unfold slugName
  split
  · decide
  · cases url.slug with
    | none => decide
    | some slug =>
      refine ⟨fun c hc => ?_, length_takeBytes_le 60 (sanitizeFileName slug)⟩
      exact (fits_sanitize slug).characters c ((takeBytes_isPrefix _ _).subset hc)

theorem fits_titleName (title : List Char) : FitsName 120 (titleName title) := by
  unfold titleName
  split
  · decide
  · exact fits_sanitize title

end Names

end Archiver
