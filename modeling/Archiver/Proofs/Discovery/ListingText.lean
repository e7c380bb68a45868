import Archiver.Proofs.Discovery.Entities

namespace Archiver

/-- A location of a listing, and whether it stands there as character data. -/
structure ListedLocation where
  text : List Char
  isData : Bool
deriving DecidableEq

/-- What a location in a listing has to be to be told apart from the marks around it. -/
structure ListedLocation.Valid (l : ListedLocation) : Prop where
  some : l.text ≠ []
  noBlank : l.text.any isBlank = false
  noMark : '<' ∉ l.text
  noEnd : l.isData = true → ¬ "]]>".toList <:+: l.text

def AllBlank (s : List Char) : Prop := ∀ c ∈ s, isBlank c = true

instance (s : List Char) : Decidable (AllBlank s) :=
  decidable_of_iff (s.all isBlank = true) List.all_eq_true

/-- The texts of a location in a listing: written with entities, or as character data. -/
inductive LocationText : ListedLocation → List Char → Prop where
  | plain {text written before after : List Char} (h : WrittenBy namedEntities text written)
      (hb : AllBlank before) (ha : AllBlank after) :
      LocationText ⟨text, false⟩
        ("<loc>".toList ++ (before ++ (written ++ (after ++ "</loc>".toList))))
  | data {text before inner inner' after : List Char} (hb : AllBlank before) (hi : AllBlank inner)
      (hi' : AllBlank inner') (ha : AllBlank after) :
      LocationText ⟨text, true⟩ ("<loc>".toList ++ (before ++ ("<![CDATA[".toList ++ (inner ++
        (text ++ (inner' ++ ("]]>".toList ++ (after ++ "</loc>".toList))))))))

/-- The listings of locations, with any text between and around them that does not open one. -/
inductive ListingText : List ListedLocation → List Char → Prop where
  | nil {rest : List Char} (h : ¬ "<loc>".toList <:+: rest) : ListingText [] rest
  | cons {l : ListedLocation} {ls : List ListedLocation} {before item rest : List Char}
      (h : ¬ "<loc>".toList <:+: before) (hl : LocationText l item) (hrest : ListingText ls rest) :
      ListingText (l :: ls) (before ++ (item ++ rest))

/-- A reader that reads nothing but where a location opens, and does not stay there. -/
structure ReadsLocations (reader : List Char → Option (List Char × List Char)) : Prop where
  opens : ∀ s, ¬ "<loc>".toList <+: s → reader s = none
  moves : ∀ s found rest, reader s = some (found, rest) → rest.length < s.length

/-- All that a reader finds in a text. -/
def foundBy (reader : List Char → Option (List Char × List Char)) (s : List Char) :
    List (List Char) := scanAll reader s.length s

variable {reader : List Char → Option (List Char × List Char)}
  {s t text written found rest before inner inner' after : List Char} {c : Char}
  {l : ListedLocation} {ls : List ListedLocation}

section Scan

theorem scanAll_fuel (hr : ReadsLocations reader) {fuel more : Nat} (hf : s.length ≤ fuel)
    (hm : s.length ≤ more) : scanAll reader fuel s = scanAll reader more s := by
  induction fuel generalizing s more with
  | zero =>
    obtain rfl := List.eq_nil_of_length_eq_zero (Nat.le_zero.mp hf)
    cases more <;> rfl
  | succ fuel ih =>
    cases s with
    | nil => cases more <;> rfl
    | cons c s =>
      rw [List.length_cons] at hf hm
      obtain ⟨more, rfl⟩ := Nat.exists_eq_add_of_lt (Nat.lt_of_lt_of_le (Nat.succ_pos _) hm)
      rw [Nat.zero_add] at hm ⊢
      rw [scanAll, scanAll]
      cases hread : reader (c :: s) with
      | none => exact ih (by omega) (by omega)
      | some found =>
        have hmoves := hr.moves _ _ _ hread
        rw [List.length_cons] at hmoves
        exact congrArg (found.1 :: ·) (ih (by omega) (by omega))

theorem foundBy_some (hr : ReadsLocations reader) (h : reader s = some (found, rest)) :
    foundBy reader s = found :: foundBy reader rest := by
  have hmoves := hr.moves _ _ _ h
  cases s with
  | nil => cases hmoves
  | cons c s =>
    rw [List.length_cons] at hmoves
    rw [foundBy, List.length_cons, scanAll, h]
    exact congrArg (found :: ·) (scanAll_fuel hr (by omega) (Nat.le_refl _))

theorem foundBy_none (h : reader (c :: s) = none) : foundBy reader (c :: s) = foundBy reader s := by
  rw [foundBy, List.length_cons, scanAll, h]
  rfl

theorem foundBy_of_head (hr : ReadsLocations reader) (h : c ≠ '<') (s : List Char) :
    foundBy reader (c :: s) = foundBy reader s := by
  apply foundBy_none (hr.opens _ _)
  intro hopen
  exact h (List.cons_prefix_cons.mp hopen).1.symm

/-- A reader passes over what holds no mark. -/
theorem foundBy_append (hr : ReadsLocations reader) (ht : '<' ∉ t) (s : List Char) :
    foundBy reader (t ++ s) = foundBy reader s := by
  induction t with
  | nil => rfl
  | cons c t ih =>
    obtain ⟨hc, ht⟩ := not_or.mp (mt List.mem_cons.mpr ht)
    rw [List.cons_append, foundBy_of_head hr (Ne.symm hc), ih ht]

/-- A reader passes over a mark of another kind. -/
theorem foundBy_mark (hr : ReadsLocations reader) (h : c ≠ 'l') (s : List Char) :
    foundBy reader ('<' :: c :: s) = foundBy reader (c :: s) := by
  apply foundBy_none (hr.opens _ _)
  intro hopen
  exact h (List.cons_prefix_cons.mp (List.cons_prefix_cons.mp hopen).2).1.symm

/-- No location opens across the end of a text after which there is a mark. -/
theorem not_open_between (ht : ¬ "<loc>".toList <:+: c :: t)
    (hs : s = [] ∨ ∃ rest, s = '<' :: rest) : ¬ "<loc>".toList <+: c :: (t ++ s) := by
  intro hopen
  rcases List.prefix_or_prefix_of_prefix hopen (List.prefix_append (c :: t) s) with h | ⟨u, hu⟩
  · exact ht h.isInfix
  · have hrest : u <+: s := by
      rw [← hu] at hopen
      exact (List.prefix_append_right_inj (c :: t)).mp hopen
    cases u with
    | nil =>
      rw [List.append_nil] at hu
      exact ht (hu ▸ List.infix_refl _)
    | cons d u =>
      have hd : d ∈ "loc>".toList := by
        have htail : t ++ d :: u = "loc>".toList := (List.cons.inj hu).2
        rw [← htail]
        exact List.mem_append_right t List.mem_cons_self
      rcases hs with rfl | ⟨rest, rfl⟩
      · exact absurd (List.prefix_nil.mp hrest) (List.cons_ne_nil _ _)
      · rw [(List.cons_prefix_cons.mp hrest).1] at hd
        exact absurd hd (by decide)

/-- A reader passes over a text that opens no location, up to the mark after it. -/
theorem foundBy_between (hr : ReadsLocations reader) (ht : ¬ "<loc>".toList <:+: t)
    (hs : s = [] ∨ ∃ rest, s = '<' :: rest) : foundBy reader (t ++ s) = foundBy reader s := by
  induction t with
  | nil => rfl
  | cons c t ih =>
    rw [List.cons_append, foundBy_none (hr.opens _ fun h => not_open_between ht hs h)]
    exact ih fun h => ht (List.infix_cons_iff.mpr (Or.inr h))

end Scan

section Blanks

/-- Blanks around a text without blanks are trimmed. -/
theorem trim_append (hb : AllBlank before) (ha : AllBlank after) (hne : text ≠ [])
    (ht : ∀ c ∈ text, isBlank c = false) : trim (before ++ (text ++ after)) = text := by
  have hhead : ∀ c ∈ (text ++ after).head?, isBlank c = false := by
    rw [List.head?_append_of_ne_nil _ hne]
    exact fun c hc => ht c (List.mem_of_head? hc)
  rw [trim, trimStart_append hb hhead, trimEnd_append ha]
  exact fun c hc => ht c (List.mem_of_getLast? hc)

theorem length_trimStart_le (s : List Char) : (trimStart s).length ≤ s.length :=
  (List.dropWhile_suffix isBlank).length_le

end Blanks

section Readers

theorem length_dataBeforeClose (h : dataBeforeClose s = some (found, rest)) :
    rest.length < s.length := by
  induction s generalizing found with
  | nil => cases h
  | cons c s ih =>
    rw [dataBeforeClose] at h
    split at h
    · next close hclose =>
      cases h
      obtain ⟨inside, hend, hlast⟩ := Option.bind_eq_some_iff.mp hclose
      have h₁ := length_after hend
      have h₂ := length_after hlast
      have h₃ := length_trimStart_le inside
      have h₄ : 0 < "]]>".toList.length := by decide
      omega
    · obtain ⟨parts, hparts, heq⟩ := Option.map_eq_some_iff.mp h
      cases heq
      exact Nat.lt_succ_of_lt (ih hparts)

theorem readsLocations_plain : ReadsLocations plainLocation? := by
  constructor
  · intro s h
    rw [plainLocation?, after_eq_none_iff.mpr h]
    rfl
  · intro s found rest h
    obtain ⟨inside, hopen, hread⟩ := Option.bind_eq_some_iff.mp h
    simp only at hread
    split at hread
    · cases hread
    · obtain ⟨last, hlast, heq⟩ := Option.bind_eq_some_iff.mp hread
      cases heq
      have h₁ := length_after hopen
      have h₂ := length_after hlast
      have h₃ := length_trimStart_le inside
      have h₄ := length_trimStart_le ((trimStart inside).drop
        ((trimStart inside).takeWhile fun c => c != '<' && !isBlank c).length)
      have h₅ : 0 < "<loc>".toList.length := by decide
      rw [List.length_drop] at h₄
      omega

theorem readsLocations_data : ReadsLocations dataLocation? := by
  constructor
  · intro s h
    rw [dataLocation?, after_eq_none_iff.mpr h]
    rfl
  · intro s found rest h
    obtain ⟨inside, hopen, h⟩ := Option.bind_eq_some_iff.mp h
    obtain ⟨data, hdata, hread⟩ := Option.bind_eq_some_iff.mp h
    have h₁ := length_after hopen
    have h₂ := length_after hdata
    have h₃ := length_trimStart_le inside
    have h₄ := length_dataBeforeClose hread
    omega

/-- True of the characters that a location in plain text is made of. -/
def isPlain (c : Char) : Bool := c != '<' && !isBlank c

theorem isPlain_iff : isPlain c = true ↔ c ≠ '<' ∧ isBlank c = false := by simp [isPlain]

theorem after_head_append (head s : List Char) : after? head (head ++ s) = some s :=
  after_eq_some_iff.mpr rfl

theorem head_of_plain (hne : written ≠ []) (hw : ∀ c ∈ written, isPlain c = true) (s : List Char) :
    ∀ c ∈ (written ++ s).head?, c ≠ '<' ∧ isBlank c = false := by
  rw [List.head?_append_of_ne_nil _ hne]
  exact fun c hc => isPlain_iff.mp (hw c (List.mem_of_head? hc))

/-- Plain text ends at a blank or a mark. -/
theorem takeWhile_plain (ha : AllBlank after) (hw : ∀ c ∈ written, isPlain c = true)
    (s : List Char) : (written ++ (after ++ '<' :: s)).takeWhile isPlain = written := by
  rw [List.takeWhile_append_of_pos hw]
  cases after with
  | nil => exact List.append_nil written
  | cons c after =>
    have hc : ¬ isPlain c = true := by simp [isPlain, ha c List.mem_cons_self]
    rw [List.cons_append, List.takeWhile_cons_of_neg hc, List.append_nil]

theorem plainLocation_plain (hb : AllBlank before) (ha : AllBlank after) (hne : written ≠ [])
    (hw : ∀ c ∈ written, isPlain c = true) (s : List Char) :
    plainLocation? ("<loc>".toList ++ (before ++ (written ++ (after ++ ("</loc>".toList ++ s))))) =
      some (written, s) := by
  have hstart := trimStart_append (s := written ++ (after ++ ("</loc>".toList ++ s))) hb fun c hc =>
    (head_of_plain hne hw _ c hc).2
  have htake : (written ++ (after ++ ("</loc>".toList ++ s))).takeWhile
      (fun c => c != '<' && !isBlank c) = written := takeWhile_plain ha hw _
  have hend := trimStart_append (s := "</loc>".toList ++ s) ha fun c hc => by
    cases hc
    decide
  have hsome : written.isEmpty = false := by simpa using hne
  rw [plainLocation?, after_head_append, Option.bind_eq_bind, Option.bind_some]
  simp only [hstart, htake, hsome, List.drop_left, hend, after_head_append]
  rfl

theorem dataLocation_plain (hb : AllBlank before) (hne : written ≠ [])
    (hw : ∀ c ∈ written, isPlain c = true) (s : List Char) :
    dataLocation? ("<loc>".toList ++ (before ++ (written ++ s))) = none := by
  have hhead := head_of_plain hne hw s
  have hstart := trimStart_append (s := written ++ s) hb fun c hc => (hhead c hc).2
  have hnone : after? "<![CDATA[".toList (written ++ s) = none := by
    rw [after_eq_none_iff]
    rintro ⟨rest, hrest⟩
    exact (hhead '<' (by rw [← hrest]; rfl)).1 rfl
  rw [dataLocation?, after_head_append, Option.bind_eq_bind, Option.bind_some, hstart, hnone]
  rfl

theorem plainLocation_data (hb : AllBlank before) (s : List Char) :
    plainLocation? ("<loc>".toList ++ (before ++ ("<![CDATA[".toList ++ s))) = none := by
  have hstart := trimStart_append (s := "<![CDATA[".toList ++ s) hb fun c hc => by
    cases hc
    decide
  rw [plainLocation?, after_head_append, Option.bind_eq_bind, Option.bind_some]
  simp only [hstart]
  rfl

/-- The end of character data does not begin before it. -/
theorem not_end_before (ht : ¬ "]]>".toList <:+: c :: text) (s : List Char) :
    ¬ "]]>".toList <+: c :: (text ++ ("]]>".toList ++ s)) := by
  have hmark : "]]>".toList = [']', ']', '>'] := rfl
  rw [hmark] at ht ⊢
  intro h
  match text with
  | [] => simp [List.cons_prefix_cons] at h
  | [d] => simp [List.cons_prefix_cons] at h
  | d :: e :: text =>
    simp only [List.cons_append, List.cons_prefix_cons, List.nil_prefix, and_true] at h
    obtain ⟨rfl, rfl, rfl⟩ := h
    exact ht (List.prefix_append [']', ']', '>'] text).isInfix

/-- Character data goes on to the first place where it may end. -/
theorem dataBeforeClose_append (ha : AllBlank after) (ht : ¬ "]]>".toList <:+: text)
    (s : List Char) :
    dataBeforeClose (text ++ ("]]>".toList ++ (after ++ ("</loc>".toList ++ s)))) =
      some (text, s) := by
  have hend := trimStart_append (s := "</loc>".toList ++ s) ha fun c hc => by
    cases hc
    decide
  induction text with
  | nil =>
    have hclose : (after? "]]>".toList ("]]>".toList ++ (after ++ ("</loc>".toList ++ s)))).bind
        (fun rest => after? "</loc>".toList (trimStart rest)) = some s := by
      rw [after_head_append, Option.bind_some, hend, after_head_append]
    obtain ⟨c, t, hcons⟩ : ∃ c t,
        "]]>".toList ++ (after ++ ("</loc>".toList ++ s)) = c :: t := ⟨_, _, rfl⟩
    rw [hcons] at hclose
    rw [List.nil_append, hcons, dataBeforeClose, hclose]
  | cons c text ih =>
    have hnone := after_eq_none_iff.mpr (not_end_before ht (after ++ ("</loc>".toList ++ s)))
    have hrest := ih fun h => ht (List.infix_cons_iff.mpr (Or.inr h))
    rw [List.cons_append, dataBeforeClose, hnone, hrest]
    rfl

theorem dataLocation_data (hb : AllBlank before) (ha : AllBlank after)
    (ht : ¬ "]]>".toList <:+: text) (s : List Char) :
    dataLocation? ("<loc>".toList ++ (before ++ ("<![CDATA[".toList ++
      (text ++ ("]]>".toList ++ (after ++ ("</loc>".toList ++ s))))))) = some (text, s) := by
  have hstart := trimStart_append (s := "<![CDATA[".toList ++
    (text ++ ("]]>".toList ++ (after ++ ("</loc>".toList ++ s))))) hb fun c hc => by
      cases hc
      decide
  rw [dataLocation?, after_head_append, Option.bind_eq_bind, Option.bind_some, hstart,
    after_head_append]
  exact dataBeforeClose_append ha ht s

end Readers

section Item

theorem foundBy_open (hr : ReadsLocations reader) (h : reader ("<loc>".toList ++ s) = none) :
    foundBy reader ("<loc>".toList ++ s) = foundBy reader s := by
  have hskip : foundBy reader ('<' :: ("loc>".toList ++ s)) = foundBy reader ("loc>".toList ++ s) :=
    foundBy_none h
  exact hskip.trans (foundBy_append hr (by decide) s)

theorem foundBy_close (hr : ReadsLocations reader) (s : List Char) :
    foundBy reader ("</loc>".toList ++ s) = foundBy reader s :=
  (foundBy_mark hr (by decide) _).trans (foundBy_append (t := "/loc>".toList) hr (by decide) s)

theorem foundBy_data (hr : ReadsLocations reader) (s : List Char) :
    foundBy reader ("<![CDATA[".toList ++ s) = foundBy reader s :=
  (foundBy_mark hr (by decide) _).trans (foundBy_append (t := "![CDATA[".toList) hr (by decide) s)

theorem AllBlank.no_mark (h : AllBlank before) : '<' ∉ before :=
  fun hmem => absurd (h '<' hmem) (by decide)

theorem no_mark_of_plain (h : ∀ c ∈ written, isPlain c = true) : '<' ∉ written :=
  fun hmem => (isPlain_iff.mp (h '<' hmem)).1 rfl

theorem written_plain (h : WrittenBy namedEntities text written)
    (ht : ∀ c ∈ text, isPlain c = true) : ∀ c ∈ written, isPlain c = true := by
  have hnames : ∀ e ∈ namedEntities, e.2.all isPlain = true := by decide
  induction h with
  | nil => exact ht
  | same _ _ ih =>
    obtain ⟨hc, ht⟩ := List.forall_mem_cons.mp ht
    exact List.forall_mem_cons.mpr ⟨hc, ih ht⟩
  | named hmem _ ih =>
    obtain ⟨-, ht⟩ := List.forall_mem_cons.mp ht
    exact List.forall_mem_append.mpr ⟨List.all_eq_true.mp (hnames _ hmem), ih ht⟩

theorem written_ne_nil (h : WrittenBy namedEntities text written) (ht : text ≠ []) :
    written ≠ [] := by
  have hnames : ∀ e ∈ namedEntities, e.2 ≠ [] := by decide
  cases h with
  | nil => exact absurd rfl ht
  | same => exact List.cons_ne_nil _ _
  | named hmem _ => exact List.append_ne_nil_of_left_ne_nil (hnames _ hmem) _

/-- What shares no character with a part of a text is found in the rest of it. -/
theorem infix_of_append {part b s : List Char} (hp : part ≠ []) (hb : ∀ c ∈ b, c ∉ part)
    (h : part <:+: b ++ s) : part <:+: s := by
  induction b with
  | nil => exact h
  | cons c b ih =>
    obtain ⟨hc, hb⟩ := List.forall_mem_cons.mp hb
    rcases List.infix_cons_iff.mp h with h | h
    · obtain ⟨d, rest, rfl⟩ := List.exists_cons_of_ne_nil hp
      exact absurd (List.mem_cons.mpr (Or.inl (List.cons_prefix_cons.mp h).1.symm)) hc
    · exact ih hb h

/-- Blanks around a text do not complete the end of character data. -/
theorem no_end_append (hi : AllBlank inner) (hi' : AllBlank inner')
    (ht : ¬ "]]>".toList <:+: text) : ¬ "]]>".toList <:+: inner ++ (text ++ inner') := by
  have hmark : ∀ {b : List Char}, AllBlank b → ∀ c ∈ b, c ∉ "]]>".toList := by
    intro b hb c hc hmem
    have hblank : ("]]>".toList.any isBlank) = true := List.any_eq_true.mpr ⟨c, hmem, hb c hc⟩
    exact absurd hblank (by decide)
  intro h
  have hfront := infix_of_append (by decide) (hmark hi) h
  rw [← List.reverse_infix, List.reverse_append] at hfront
  refine ht (List.reverse_infix.mp (infix_of_append (by decide) ?_ hfront))
  intro c hc hmem
  exact hmark hi' c (List.mem_reverse.mp hc) (List.mem_reverse.mp hmem)

theorem ListedLocation.Valid.not_blank (hv : l.Valid) : ∀ c ∈ l.text, isBlank c = false := by
  simpa using hv.noBlank

theorem ListedLocation.Valid.plain (hv : l.Valid) : ∀ c ∈ l.text, isPlain c = true :=
  fun c hc => isPlain_iff.mpr ⟨fun he => hv.noMark (he ▸ hc), hv.not_blank c hc⟩

/-- The reader of character data finds the locations that stand as such. -/
theorem data_found (hv : l.Valid) {item : List Char} (hl : LocationText l item) (s : List Char) :
    (foundBy dataLocation? (item ++ s)).map trim =
      (if l.isData then [l.text] else []) ++ (foundBy dataLocation? s).map trim := by
  cases hl with
  | @plain text written before after hwritten hb ha =>
    have hw := written_plain hwritten hv.plain
    have hnone := dataLocation_plain hb (written_ne_nil hwritten hv.some) hw
      (after ++ ("</loc>".toList ++ s))
    simp only [List.append_assoc]
    rw [foundBy_open readsLocations_data hnone, foundBy_append readsLocations_data hb.no_mark,
      foundBy_append readsLocations_data (no_mark_of_plain hw),
      foundBy_append readsLocations_data ha.no_mark, foundBy_close readsLocations_data]
    rfl
  | @data text before inner inner' after hb hi hi' ha =>
    have hread := dataLocation_data hb ha (no_end_append hi hi' (hv.noEnd rfl)) s
    simp only [List.append_assoc] at hread ⊢
    rw [foundBy_some readsLocations_data hread, List.map_cons,
      trim_append hi hi' hv.some hv.not_blank]
    rfl

/-- The reader of plain text finds the locations that are written with entities. -/
theorem plain_found (hv : l.Valid) {item : List Char} (hl : LocationText l item) (s : List Char) :
    (foundBy plainLocation? (item ++ s)).map (fun f => decodeEntities (trim f)) =
      (if l.isData then [] else [l.text]) ++
        (foundBy plainLocation? s).map fun f => decodeEntities (trim f) := by
  cases hl with
  | @plain text written before after hwritten hb ha =>
    have hw := written_plain hwritten hv.plain
    have hread := plainLocation_plain hb ha (written_ne_nil hwritten hv.some) hw s
    have htrim : trim written = written := by
      have hnone : AllBlank [] := nofun
      have h := trim_append hnone hnone (written_ne_nil hwritten hv.some) fun c hc =>
        (isPlain_iff.mp (hw c hc)).2
      rwa [List.append_nil, List.nil_append] at h
    simp only [List.append_assoc]
    rw [foundBy_some readsLocations_plain hread, List.map_cons, htrim,
      decodeEntities_written hwritten]
    rfl
  | @data text before inner inner' after hb hi hi' ha =>
    have hnone := plainLocation_data hb (inner ++ (text ++ (inner' ++ ("]]>".toList ++
      (after ++ ("</loc>".toList ++ s))))))
    simp only [List.append_assoc]
    rw [foundBy_open readsLocations_plain hnone, foundBy_append readsLocations_plain hb.no_mark,
      foundBy_data readsLocations_plain, foundBy_append readsLocations_plain hi.no_mark,
      foundBy_append readsLocations_plain hv.noMark,
      foundBy_append readsLocations_plain hi'.no_mark,
      foundBy_append (t := "]]>".toList) readsLocations_plain (by decide),
      foundBy_append readsLocations_plain ha.no_mark, foundBy_close readsLocations_plain]
    rfl

end Item

/-- Each reader finds the locations of its own kind, in their order. -/
theorem listing_found {document : List Char} (hv : ∀ l ∈ ls, l.Valid)
    (h : ListingText ls document) :
    (foundBy dataLocation? document).map trim = (ls.filter (·.isData)).map (·.text) ∧
      (foundBy plainLocation? document).map (fun f => decodeEntities (trim f)) =
        (ls.filter (!·.isData)).map (·.text) := by
  induction h with
  | @nil rest hbetween =>
    have hnone : ∀ {reader}, ReadsLocations reader → foundBy reader rest = [] := by
      intro reader hr
      have hskip := foundBy_between hr hbetween (Or.inl rfl)
      rwa [List.append_nil] at hskip
    rw [hnone readsLocations_data, hnone readsLocations_plain]
    exact ⟨rfl, rfl⟩
  | @cons l ls before item rest hbetween hl _ ih =>
    obtain ⟨hvl, hv⟩ := List.forall_mem_cons.mp hv
    obtain ⟨hdata, hplain⟩ := ih hv
    have hopen : item ++ rest = [] ∨ ∃ s, item ++ rest = '<' :: s := by
      cases hl <;> exact Or.inr ⟨_, rfl⟩
    rw [foundBy_between readsLocations_data hbetween hopen,
      foundBy_between readsLocations_plain hbetween hopen, data_found hvl hl, plain_found hvl hl,
      hdata, hplain]
    cases hkind : l.isData <;> simp [hkind]

theorem dropRepeats_eq {α : Type} [BEq α] [LawfulBEq α] (seen items : List α) :
    dropRepeats seen items = (items.filter fun a => !seen.contains a).eraseDups := by
  induction items generalizing seen with
  | nil => rfl
  | cons a rest ih =>
    rw [dropRepeats]
    split
    · next h =>
      rw [ih, List.filter_cons_of_neg (by simpa using h)]
    · next h =>
      have hseen : ∀ b ∈ rest, (!(a :: seen).contains b) = (!b == a && !seen.contains b) := by
        intro b _
        rw [List.contains_cons, Bool.not_or]
      rw [ih, List.filter_cons_of_pos (by simpa using h), List.eraseDups_cons, List.filter_filter,
        List.filter_congr hseen]

theorem dropRepeats_nil {α : Type} [BEq α] [LawfulBEq α] (items : List α) :
    dropRepeats [] items = items.eraseDups := by
  have h := dropRepeats_eq [] items
  rwa [List.filter_eq_self.mpr fun a _ => by simp] at h

/-- Extracting the locations of a listing gives back those that stand as character data, in their
order, and then those in plain text, each text where it comes first; and decoding gives back any
text from any form in which it is written. -/
theorem extractLocations_listing {document : List Char} (hv : ∀ l ∈ ls, l.Valid)
    (h : ListingText ls document) :
    extractLocations document =
        ((ls.filter (·.isData) ++ ls.filter (!·.isData)).map (·.text)).eraseDups ∧
      ∀ text written, WrittenBy namedEntities text written → decodeEntities written = text := by
  refine ⟨?_, fun text written hwritten => decodeEntities_written hwritten⟩
  obtain ⟨hdata, hplain⟩ := listing_found hv h
  have hsome : ∀ text ∈ (ls.filter (·.isData) ++ ls.filter (!·.isData)).map (·.text),
      (!text.isEmpty) = true := by
    rw [List.forall_mem_map, List.forall_mem_append]
    have hl : ∀ l ∈ ls, (!l.text.isEmpty) = true := fun l hl => by simpa using (hv l hl).some
    exact ⟨fun l hl' => hl l (List.mem_of_mem_filter hl'),
      fun l hl' => hl l (List.mem_of_mem_filter hl')⟩
  have hfound : extractLocations document =
      dropRepeats [] (((foundBy dataLocation? document).map trim ++
        (foundBy plainLocation? document).map fun f => decodeEntities (trim f)).filter
          (!·.isEmpty)) := rfl
  rw [hfound, hdata, hplain, ← List.map_append, List.filter_eq_self.mpr hsome, dropRepeats_nil]

/-- A location with a text that looks like a name, one in character data that ends in brackets, and
the latter in plain text again. -/
theorem extractLocations_listing_names :
    let first := "https://a.test/?x=1&y=&lt;".toList
    let second := "https://a.test/]]".toList
    extractLocations ("<urlset><loc> https://a.test/?x=1&amp;y=&amp;lt;\n</loc></url><loc>\n" ++
        "<![CDATA[ https://a.test/]] ]]></loc><loc>https://a.test/]]</loc></urlset>").toList =
      [second, first] ∧ decodeEntities (escapeEntities first) = first := by
  intro first second
  have hv : ∀ l ∈ [⟨first, false⟩, ⟨second, true⟩, ⟨second, false⟩], ListedLocation.Valid l := by
    simp only [List.forall_mem_cons]
    exact ⟨⟨by decide, by decide, by decide, nofun⟩, ⟨by decide, by decide, by decide,
      fun _ => by decide +kernel⟩, ⟨by decide, by decide, by decide, nofun⟩, nofun⟩
  have hone : LocationText ⟨first, false⟩ ("<loc>".toList ++ ([' '] ++ (escapeEntities first ++
      (['\n'] ++ "</loc>".toList)))) :=
    .plain (writtenBy_escapeEntities first) (by decide) (by decide)
  have htwo : LocationText ⟨second, true⟩ ("<loc>".toList ++ (['\n'] ++ ("<![CDATA[".toList ++
      ([' '] ++ (second ++ ([' '] ++ ("]]>".toList ++ ([] ++ "</loc>".toList)))))))) :=
    .data (by decide) (by decide) (by decide) (by decide)
  have hthree : LocationText ⟨second, false⟩ ("<loc>".toList ++ ([] ++ (escapeEntities second ++
      ([] ++ "</loc>".toList)))) :=
    .plain (writtenBy_escapeEntities second) (by decide) (by decide)
  have hend : ListingText [] "</urlset>".toList := .nil (by decide +kernel)
  have hbefore : ∀ part ∈ ["<urlset>".toList, "</url>".toList, []], ¬ "<loc>".toList <:+: part := by
    decide +kernel
  simp only [List.forall_mem_cons] at hbefore
  obtain ⟨h₁, h₂, h₃, -⟩ := hbefore
  obtain ⟨hlocations, hdecode⟩ :=
    extractLocations_listing hv (.cons h₁ hone (.cons h₂ htwo (.cons h₃ hthree hend)))
  refine ⟨(congrArg extractLocations ?_).trans (hlocations.trans ?_),
    hdecode _ _ (writtenBy_escapeEntities first)⟩
  · decide +kernel
  · decide +kernel

end Archiver
