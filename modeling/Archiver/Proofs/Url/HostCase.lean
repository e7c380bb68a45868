import Archiver.Proofs.Url.HostText

namespace Archiver

theorem mem_of_search {table : CharTable} {n fuel lo hi : Nat} {r : CharRun}
    (h : table.search n fuel lo hi = some r) : r ∈ table.toList ∧ r.holds n = true := by
  induction fuel generalizing lo hi with
  | zero => cases h
  | succ fuel ih =>
    rw [CharTable.search] at h
    split_ifs at h
    simp only at h
    split at h
    · cases h
    next r' hr' =>
    split_ifs at h with hlow hhigh hholds
    · exact ih h
    · exact ih h
    · cases h
      exact ⟨Array.mem_toList_iff.mpr (Array.mem_of_getElem? hr'), hholds⟩

/-- The sign of the kelvin, the one character beyond ASCII whose lower case is ASCII. -/
def kelvinSign : Char := '\u212A'

/-- The run of the kelvin sign alone. -/
def kelvinRun : CharRun := ⟨0x212A, 0x212A, 1, 0x6B⟩

/-- A run leads to characters beyond ASCII. -/
def CharRun.LeadsBeyond (r : CharRun) : Prop :=
  128 ≤ r.target ∧ (r.target + (r.last - r.first) < 0xD800 ∨
    0xDFFF < r.target ∧ r.target + (r.last - r.first) < 0x110000)

instance (r : CharRun) : Decidable r.LeadsBeyond := inferInstanceAs (Decidable (_ ∧ _))

section LowerCase

variable {c d : Char} {s : List Char}

set_option maxRecDepth 100000 in
theorem lowercaseTable_runs : ∀ r ∈ lowercaseTable.toList, r = kelvinRun ∨ r.LeadsBeyond := by
  have hall : lowercaseTable.toList.all (fun r => r = kelvinRun ∨ r.LeadsBeyond) = true := by
    unfold lowercaseTable CharTable.read
    rw [String.toList_ofList]
    decide +kernel
  intro r hr
  exact of_decide_eq_true (List.all_eq_true.mp hall r hr)

/-- Where the ASCII in the lower case of a character comes from. -/
theorem eq_of_mem_lowerChar (hd : d ∈ lowerChar c) (hascii : isAscii d = true) :
    isAscii c = true ∧ d = asciiLower c ∨ c = kelvinSign ∧ d = 'k' ∨ c = 'İ' ∧ d = 'i' := by
  unfold lowerChar at hd
  split at hd
  · next hc => exact Or.inl ⟨hc, List.mem_singleton.mp hd⟩
  next hc =>
  split at hd
  · next hdot =>
    have hc' : c = 'İ' := Char.ext (beq_iff_eq.mp hdot)
    rcases List.mem_cons.mp hd with rfl | hd
    · exact Or.inr (Or.inr ⟨hc', rfl⟩)
    · rw [List.mem_singleton.mp hd] at hascii
      cases hascii
  · split at hd
    · next r hr =>
      obtain ⟨hmem, hholds⟩ := mem_of_search hr
      rw [List.mem_singleton.mp hd] at hascii ⊢
      simp only [CharRun.holds, Bool.and_eq_true, decide_eq_true_eq] at hholds
      obtain ⟨⟨hfirst, hlast⟩, -⟩ := hholds
      rcases lowercaseTable_runs r hmem with rfl | ⟨hhigh, hvalid⟩
      · have hkelvin : c = kelvinSign := Char.toNat_inj.mp (Nat.le_antisymm hlast hfirst)
        exact Or.inr (Or.inl ⟨hkelvin, by rw [hkelvin]; rfl⟩)
      · have hcode : (Char.ofNat (r.map c.toNat)).toNat = r.target + (c.toNat - r.first) :=
          toNat_ofNat_of_valid (by
            rw [CharRun.map]
            simp only [Bool.or_eq_true, Bool.and_eq_true, decide_eq_true_eq]
            omega)
        have hsmall := isAscii_iff.mp hascii
        omega
    · rw [List.mem_singleton.mp hd] at hascii
      exact absurd hascii hc

/-- The lower case of a text is that of its characters, a capital sigma apart. -/
theorem mem_lowerFrom {before : List Char} (hd : d ∈ lowerFrom before s)
    (hascii : isAscii d = true) : ∃ c ∈ s, d ∈ lowerChar c := by
  induction s generalizing before with
  | nil => cases hd
  | cons c s ih =>
    rw [lowerFrom, List.mem_append] at hd
    rcases hd with hd | hd
    · split at hd
      · have hsigma : d = 'ς' ∨ d = 'σ' := by
          simp only at hd
          split at hd
          · exact Or.inl (List.mem_singleton.mp hd)
          · exact Or.inr (List.mem_singleton.mp hd)
        obtain rfl | rfl := hsigma <;> cases hascii
      · exact ⟨c, List.mem_cons_self, hd⟩
    · obtain ⟨c', hc', hd⟩ := ih hd
      exact ⟨c', List.mem_cons_of_mem c hc', hd⟩

theorem low_asciiLower (h : isAscii c = true) : IsLowAscii (asciiLower c) := by
  have hall : ∀ n < 128, isAscii (asciiLower (Char.ofNat n)) = true ∧
      isAsciiUpper (asciiLower (Char.ofNat n)) = false := by decide
  have hc := hall c.toNat (isAscii_iff.mp h)
  rw [Char.ofNat_toNat] at hc
  exact ⟨hc.1, hc.2⟩

theorem low_of_mem_lowercase (hd : d ∈ lowercase s) (hascii : isAscii d = true) :
    IsLowAscii d := by
  obtain ⟨c, -, hd⟩ := mem_lowerFrom hd hascii
  rcases eq_of_mem_lowerChar hd hascii with ⟨hc, rfl⟩ | ⟨-, rfl⟩ | ⟨-, rfl⟩
  · exact low_asciiLower hc
  · exact ⟨by decide, by decide⟩
  · exact ⟨by decide, by decide⟩

theorem lowerChar_ne_nil (c : Char) : lowerChar c ≠ [] := by
  unfold lowerChar
  split
  · exact List.cons_ne_nil _ _
  · split
    · exact List.cons_ne_nil _ _
    · split <;> exact List.cons_ne_nil _ _

theorem ascii_or_kelvin_of_lowerChar (h : ∀ d ∈ lowerChar c, isAscii d = true) :
    isAscii c = true ∨ c = kelvinSign := by
  obtain ⟨d, rest, hd⟩ := List.exists_cons_of_ne_nil (lowerChar_ne_nil c)
  have hmem : d ∈ lowerChar c := hd ▸ List.mem_cons_self
  rcases eq_of_mem_lowerChar hmem (h d hmem) with ⟨hc, -⟩ | ⟨hc, -⟩ | ⟨rfl, -⟩
  · exact Or.inl hc
  · exact Or.inr hc
  · -- the dot over a dotted capital I is not ASCII
    cases h '\u0307' (by decide)

set_option maxRecDepth 100000 in
theorem mapHostChar_kelvinSign : mapHostChar kelvinSign = some ['k'] := by
  have hrun : hostCharRuns.find? kelvinSign.toNat = some kelvinRun := by
    unfold hostCharRuns CharTable.read
    rw [String.toList_ofList]
    decide +kernel
  simp only [mapHostChar, show isAscii kelvinSign = false by decide, hrun]
  rfl

set_option maxRecDepth 100000 in
theorem lowerChar_kelvinSign : lowerChar kelvinSign = ['k'] := by
  have hrun : lowercaseTable.find? kelvinSign.toNat = some kelvinRun := by
    unfold lowercaseTable CharTable.read
    rw [String.toList_ofList]
    decide +kernel
  simp only [lowerChar, show isAscii kelvinSign = false by decide,
    show (kelvinSign.val == 0x130) = false by decide, hrun]
  rfl

/-- A character whose lower case is ASCII stands in a host name for its lower case. -/
theorem mapHostChar_of_lowerChar (h : ∀ d ∈ lowerChar c, isAscii d = true) :
    mapHostChar c = some (lowerChar c) := by
  rcases ascii_or_kelvin_of_lowerChar h with hc | rfl
  · rw [mapHostChar, lowerChar, if_pos hc, if_pos hc]
  · rw [mapHostChar_kelvinSign, lowerChar_kelvinSign]

theorem lowerFrom_of_ascii_image {before : List Char}
    (h : ∀ d ∈ lowerFrom before s, isAscii d = true) :
    lowerFrom before s = s.flatMap lowerChar ∧ ∀ c ∈ s, ∀ d ∈ lowerChar c, isAscii d = true := by
  induction s generalizing before with
  | nil => exact ⟨rfl, fun _ hc => nomatch hc⟩
  | cons c s ih =>
    have hsigma : (c == 'Σ') = false := by
      rw [beq_eq_false_iff_ne]
      rintro rfl
      rw [lowerFrom] at h
      simp only [beq_self_eq_true, if_true] at h
      split at h
      · cases h 'ς' (List.mem_append_left _ List.mem_cons_self)
      · cases h 'σ' (List.mem_append_left _ List.mem_cons_self)
    rw [lowerFrom, hsigma] at h ⊢
    simp only [Bool.false_eq_true, if_false, List.mem_append] at h ⊢
    obtain ⟨hrest, hchars⟩ := ih fun d hd => h d (Or.inr hd)
    exact ⟨by rw [hrest, List.flatMap_cons],
      List.forall_mem_cons.mpr ⟨fun d hd => h d (Or.inl hd), hchars⟩⟩

/-- A text whose lower case is ASCII is the same host name as its lower case. -/
theorem hostToAscii_lowercase (h : ∀ d ∈ lowercase s, isAscii d = true) :
    hostToAscii? (lowercase s) = hostToAscii? s := by
  obtain ⟨hlower, hchars⟩ := lowerFrom_of_ascii_image h
  have hmapped : s.mapM mapHostChar = some (s.map lowerChar) := by
    rw [mapM_eq_some_iff, List.forall₂_map_right_iff, List.forall₂_same]
    exact fun c hc => mapHostChar_of_lowerChar (hchars c hc)
  unfold hostToAscii?
  rw [hmapped, mapM_mapHostChar_of_low fun d hd => low_of_mem_lowercase hd (h d hd)]
  simp only [Option.bind_eq_bind, Option.bind_some, flatten_mapHostChar_of_low]
  rw [lowercase, hlower, List.flatMap_def]

end LowerCase

/-- Stands in the domain of a host pattern. -/
def IsDomainChar (c : Char) : Prop := isAlphanumeric c = true ∨ c = '.' ∨ c = '-'

instance (c : Char) : Decidable (IsDomainChar c) := inferInstanceAs (Decidable (_ ∨ _))

/-- A host pattern that is written, but for its case, as the host of a canonical form is: in ASCII,
and if it ends in a number, as the address that it comes to. -/
structure HostFits (pattern : List Char) : Prop where
  ascii : ∀ c ∈ lowercase pattern, isAscii c = true
  address : endsInNumber (lowercase pattern) = true →
    ∃ address < 4294967296, lowercase pattern = ipv4Text address

section Domain

variable {c d : Char} {s t : List Char}

theorem IsDomainChar.asciiLower (h : IsDomainChar c) (hascii : isAscii c = true) :
    IsDomainChar (asciiLower c) ∧ IsNameChar c := by
  have hall : ∀ n < 128, IsDomainChar (Char.ofNat n) →
      IsDomainChar (Archiver.asciiLower (Char.ofNat n)) ∧
        isRefusedInHost (Char.ofNat n) = false := by decide
  have hc := hall c.toNat (isAscii_iff.mp hascii)
  rw [Char.ofNat_toNat] at hc
  exact ⟨(hc h).1, hascii, (hc h).2⟩

theorem domainChar_of_mem_lowercase (hs : ∀ c ∈ s, IsDomainChar c) (hd : d ∈ lowercase s)
    (hascii : isAscii d = true) : IsDomainChar d := by
  obtain ⟨c, hmem, hd⟩ := mem_lowerFrom hd hascii
  rcases eq_of_mem_lowerChar hd hascii with ⟨hc, rfl⟩ | ⟨-, rfl⟩ | ⟨-, rfl⟩
  · exact ((hs c hmem).asciiLower hc).1
  · decide
  · decide

theorem not_mem_domain (hs : ∀ c ∈ s, IsDomainChar c) (hd : ¬ IsDomainChar d) : d ∉ s :=
  fun hmem => hd (hs d hmem)

theorem decode_of_domain (hs : ∀ c ∈ s, IsDomainChar c) :
    decodeUtf8? (percentDecode s) = some s := by
  rw [percentDecode_of_not_mem (not_mem_domain hs (by decide)), decodeUtf8?_encodeUtf8]

/-- Without brackets a host is a name, or the address that a name comes to. -/
theorem parseHostText_of_not_mem (hs : '[' ∉ s) : parseHostText true s =
    match (decodeUtf8? (percentDecode s)).bind hostToAscii? with
    | none => .error .badName
    | some name =>
      if name.isEmpty then .error .noHost
      else if endsInNumber name then
        match readIpv4? name with
        | some address => .ok (.ipv4 address)
        | none => .error .badIpv4
      else .ok (.name name) := by
  unfold parseHostText
  split
  · exact absurd List.mem_cons_self hs
  · rfl

theorem parseHostText_congr (hs : '[' ∉ s) (ht : '[' ∉ t)
    (h : (decodeUtf8? (percentDecode s)).bind hostToAscii? =
      (decodeUtf8? (percentDecode t)).bind hostToAscii?) :
    parseHostText true s = parseHostText true t := by
  rw [parseHostText_of_not_mem hs, parseHostText_of_not_mem ht, h]

/-- A domain whose lower case is ASCII is the same host as its lower case. -/
theorem parseHostText_lowercase (hs : ∀ c ∈ s, IsDomainChar c)
    (hascii : ∀ d ∈ lowercase s, isAscii d = true) :
    parseHostText true (lowercase s) = parseHostText true s := by
  have hlower : ∀ d ∈ lowercase s, IsDomainChar d := fun d hd =>
    domainChar_of_mem_lowercase hs hd (hascii d hd)
  refine parseHostText_congr (not_mem_domain hlower (by decide)) (not_mem_domain hs (by decide)) ?_
  rw [decode_of_domain hlower, decode_of_domain hs, Option.bind_some, Option.bind_some,
    hostToAscii_lowercase hascii]

/-- What a domain in lower case ASCII is read as. -/
theorem host_of_low_domain {host : Host} (hs : ∀ c ∈ s, IsDomainChar c)
    (hlow : ∀ c ∈ s, IsLowAscii c) (h : parseHostText true s = .ok host) :
    endsInNumber s = true ∧ (∃ address < 4294967296, host = .ipv4 address) ∨
      endsInNumber s = false ∧ host = .name s := by
  rw [parseHostText_of_not_mem (not_mem_domain hs (by decide)), decode_of_domain hs,
    Option.bind_some] at h
  split at h
  · cases h
  next name hname =>
  obtain rfl := hostToAscii_of_low hlow hname
  split_ifs at h with hempty hend
  · split at h
    · next hread =>
      cases h
      exact Or.inl ⟨hend, _, lt_of_readIpv4 hread, rfl⟩
    · cases h
  · cases h
    exact Or.inr ⟨Bool.not_eq_true _ ▸ hend, rfl⟩

theorem text_of_hostFits {host : Host} (hs : ∀ c ∈ s, IsDomainChar c) (hfits : HostFits s)
    (h : parseHostText true s = .ok host) : host.text = lowercase s := by
  have hlower : ∀ d ∈ lowercase s, IsDomainChar d ∧ IsLowAscii d := fun d hd =>
    ⟨domainChar_of_mem_lowercase hs hd (hfits.ascii d hd),
      low_of_mem_lowercase hd (hfits.ascii d hd)⟩
  rw [← parseHostText_lowercase hs hfits.ascii] at h
  rcases host_of_low_domain (fun d hd => (hlower d hd).1) (fun d hd => (hlower d hd).2) h with
    ⟨hend, -⟩ | ⟨-, rfl⟩
  · -- the address is the one that the pattern writes
    obtain ⟨address, hlt, htext⟩ := hfits.address hend
    rw [htext] at h ⊢
    cases (plainHost_ipv4 hlt).reread.symm.trans h
    rfl
  · rfl

/-- The host of a canonical form is its pattern in lower case just when the pattern fits. -/
theorem host_text_eq_iff {old host : Host} (hs : ∀ c ∈ s, IsDomainChar c)
    (hold : parseHostText true s = .ok old)
    (hhost : parseHostText true (lowercase old.text) = .ok host) :
    host.text = lowercase s ↔ HostFits s := by
  have hplain := plainHost_of_parse hold hhost
  constructor
  · intro htext
    have hlow : ∀ c ∈ lowercase s, IsLowAscii c := fun c hc => hplain.low c (htext ▸ hc)
    refine ⟨fun c hc => (hlow c hc).ascii, fun hend => ?_⟩
    have hread := hplain.reread
    rw [htext] at hread
    rcases host_of_low_domain (fun c hc => domainChar_of_mem_lowercase hs hc (hlow c hc).ascii)
      hlow hread with ⟨-, address, hlt, rfl⟩ | ⟨hname, -⟩
    · exact ⟨address, hlt, htext.symm⟩
    · rw [hend] at hname
      cases hname
  · intro hfits
    have htext := text_of_hostFits hs hfits hold
    rw [htext, lowercase_of_low fun c hc => low_of_mem_lowercase hc (hfits.ascii c hc),
      parseHostText_lowercase hs hfits.ascii, hold] at hhost
    cases hhost
    exact htext

end Domain

end Archiver
