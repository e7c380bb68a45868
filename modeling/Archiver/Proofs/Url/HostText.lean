import Archiver.Proofs.Url.Authority
import Archiver.Proofs.Url.Ipv4
import Archiver.Proofs.Url.Ipv6
import Archiver.Proofs.Url.Percent

namespace Archiver

section Characters

variable {c d : Char} {s t : List Char}

theorem IsNameChar.ne (h : IsNameChar c) (hd : isRefusedInHost d = true) : c ≠ d := by
  rintro rfl
  rw [h.allowed] at hd
  cases hd

theorem IsNameChar.visible (h : IsNameChar c) : IsVisible c := by
  have hascii : c.val < 0x80 := by simpa [isAscii] using h.ascii
  have hallowed := h.allowed
  simp only [isRefusedInHost, Bool.or_eq_false_iff, decide_eq_false_iff_not, UInt32.not_le,
    beq_eq_false_iff_ne] at hallowed
  obtain ⟨⟨hlow, hdelete⟩, -⟩ := hallowed
  refine ⟨hlow, UInt32.lt_of_le_of_ne ?_ hdelete⟩
  rw [UInt32.lt_iff_toNat_lt] at hascii
  rw [UInt32.le_iff_toNat_le]
  exact Nat.le_of_lt_succ hascii

theorem IsNameChar.stays (h : IsNameChar c) : endsAuthority true c = false := by
  rw [← Bool.not_eq_true, endsAuthority_iff]
  rintro (rfl | rfl | rfl | rfl) <;> exact h.ne (by decide) rfl

/-- Characters that no host ends with are taken as they come. -/
theorem takeHostText_of_stays (inside : Bool) (hs : ∀ c ∈ s, endsAuthority true c = false ∧
    c ≠ '[' ∧ c ≠ ']' ∧ (inside = true ∨ c ≠ ':')) (t : List Char) :
    takeHostText true inside (s ++ t) =
      (s ++ (takeHostText true inside t).1, (takeHostText true inside t).2) := by
  induction s with
  | nil => rfl
  | cons c s ih =>
    obtain ⟨hends, hopen, hclose, hcolon⟩ := hs c List.mem_cons_self
    have hstop : (endsAuthority true c || (c == ':' && !inside)) = false := by
      rw [hends, Bool.false_or]
      rcases hcolon with rfl | hcolon
      · simp
      · simp [hcolon]
    simp only [List.cons_append, takeHostText, hstop, Bool.false_eq_true, if_false, beq_iff_eq,
      hopen, hclose, ih fun d hd => hs d (List.mem_cons_of_mem c hd)]

theorem takeHostText_at_end {rest : List Char} (hrest : rest = [] ∨ rest.head? = some ':') :
    takeHostText true false rest = ([], rest) := by
  cases rest with
  | nil => rfl
  | cons c rest =>
    have hc : c = ':' := by simpa using hrest
    rw [hc]
    rfl

end Characters

/-- A host whose text is read as that host, where a port or nothing follows. -/
structure IsPlainHost (host : Host) : Prop where
  reread : parseHostText true host.text = .ok host
  low : ∀ c ∈ host.text, IsLowAscii c
  visible : ∀ c ∈ host.text, IsVisible c
  stays : ∀ c ∈ host.text, endsAuthority true c = false ∧ c ≠ '@'
  taken : ∀ rest, rest = [] ∨ rest.head? = some ':' →
    takeHostText true false (host.text ++ rest) = (host.text, rest)
  nonempty : host.text ≠ []

/-- Lower case is no matter to such a text. -/
theorem IsPlainHost.reread_lowercase {host : Host} (h : IsPlainHost host) :
    parseHostText true (lowercase host.text) = .ok host := by
  rw [lowercase_of_low h.low, h.reread]

section Names

variable {s name : List Char}

/-- A name that ends in a number is read as an address. -/
theorem parseHostText_of_address {address : Nat} (hs : s.head? ≠ some '[')
    (h : (decodeUtf8? (percentDecode s)).bind hostToAscii? = some name) (hne : name ≠ [])
    (hend : endsInNumber name = true) (hread : readIpv4? name = some address) :
    parseHostText true s = .ok (.ipv4 address) := by
  unfold parseHostText
  split
  · exact absurd rfl hs
  · simp only [if_true, h, List.isEmpty_iff, hne, if_false, hend, hread]

theorem decode_of_nameChars (hs : ∀ c ∈ s, IsNameChar c) :
    decodeUtf8? (percentDecode s) = some s := by
  rw [percentDecode_of_not_mem fun h => (hs '%' h).ne (by decide) rfl, decodeUtf8?_encodeUtf8]

theorem head_of_nameChars (hs : ∀ c ∈ s, IsNameChar c) : s.head? ≠ some '[' := fun h =>
  (hs '[' (List.mem_of_mem_head? h)).ne (by decide) rfl

theorem takeHostText_of_nameChars (hs : ∀ c ∈ s, IsNameChar c) {rest : List Char}
    (hrest : rest = [] ∨ rest.head? = some ':') :
    takeHostText true false (s ++ rest) = (s, rest) := by
  rw [takeHostText_of_stays false (fun c hc => ⟨(hs c hc).stays, (hs c hc).ne (by decide),
    (hs c hc).ne (by decide), Or.inr ((hs c hc).ne (by decide))⟩), takeHostText_at_end hrest,
    List.append_nil]

theorem plainHost_of_nameChars {host : Host} (hread : parseHostText true host.text = .ok host)
    (hname : ∀ c ∈ host.text, IsNameChar c) (hlow : ∀ c ∈ host.text, IsLowAscii c)
    (hne : host.text ≠ []) : IsPlainHost host where
  reread := hread
  low := hlow
  visible c hc := (hname c hc).visible
  stays c hc := ⟨(hname c hc).stays, (hname c hc).ne (by decide)⟩
  taken _ := takeHostText_of_nameChars hname
  nonempty := hne

end Names

section Addresses

theorem nameChar_of_digit {c : Char} (h : isAsciiDigit c = true ∨ c = '.') :
    IsNameChar c ∧ IsLowAscii c ∧ c ≠ 'x' := by
  have hall : ∀ n < 128, isAsciiDigit (Char.ofNat n) = true ∨ Char.ofNat n = '.' →
      isAscii (Char.ofNat n) = true ∧ isRefusedInHost (Char.ofNat n) = false ∧
        isAsciiUpper (Char.ofNat n) = false ∧ Char.ofNat n ≠ 'x' := by decide
  have hlt : c.toNat < 128 := by
    rcases h with h | rfl
    · simp only [isAsciiDigit, Bool.and_eq_true, decide_eq_true_eq, UInt32.le_iff_toNat_le] at h
      exact Nat.lt_of_le_of_lt h.2 (by decide)
    · decide
  have hc := hall c.toNat hlt
  rw [Char.ofNat_toNat] at hc
  obtain ⟨hascii, hallowed, hlower, hx⟩ := hc h
  exact ⟨⟨hascii, hallowed⟩, ⟨hascii, hlower⟩, hx⟩

theorem plainHost_ipv4 {address : Nat} (h : address < 4294967296) :
    IsPlainHost (.ipv4 address) := by
  have hchars : ∀ c ∈ ipv4Text address, IsNameChar c ∧ IsLowAscii c ∧ c ≠ 'x' := fun c hc =>
    nameChar_of_digit (ipv4_chars hc)
  have hname : ∀ c ∈ ipv4Text address, IsNameChar c := fun c hc => (hchars c hc).1
  have hlow : ∀ c ∈ ipv4Text address, IsLowAscii c := fun c hc => (hchars c hc).2.1
  have hne : ipv4Text address ≠ [] := by simp [ipv4Text_eq]
  have hdecode : (decodeUtf8? (percentDecode (ipv4Text address))).bind hostToAscii? =
      some (ipv4Text address) := by
    rw [decode_of_nameChars hname, Option.bind_some]
    exact hostToAscii_of_plain hlow hname fun hx => (hchars 'x' hx).2.2 rfl
  refine plainHost_of_nameChars ?_ hname hlow hne
  exact parseHostText_of_address (head_of_nameChars hname) hdecode hne
    (endsInNumber_ipv4Text address) (readIpv4_ipv4Text h)

theorem lowHex_stays {c : Char} (h : IsLowHex c ∨ c = ':') :
    IsVisible c ∧ IsLowAscii c ∧ endsAuthority true c = false ∧ c ≠ '@' ∧ c ≠ '[' ∧ c ≠ ']' := by
  have hall : ∀ n < 128, isHexDigit (Char.ofNat n) = true ∨ Char.ofNat n = ':' →
      (0x20 < (Char.ofNat n).val ∧ (Char.ofNat n).val < 0x7F) ∧
        endsAuthority true (Char.ofNat n) = false ∧ Char.ofNat n ≠ '@' ∧ Char.ofNat n ≠ '[' ∧
        Char.ofNat n ≠ ']' := by decide
  have hlow : IsLowAscii c := by
    rcases h with h | rfl
    · exact h.low
    · exact ⟨by decide, by decide⟩
  have hc := hall c.toNat (isAscii_iff.mp hlow.ascii)
  rw [Char.ofNat_toNat] at hc
  obtain ⟨hvisible, hrest⟩ := hc (h.imp_left IsLowHex.hex)
  exact ⟨hvisible, hlow, hrest⟩

theorem parseHostText_ipv6 {pieces : List Nat} (h : IsIpv6 pieces) :
    parseHostText true (Host.ipv6 pieces).text = .ok (.ipv6 pieces) := by
  have hreverse : (ipv6Text pieces ++ [']']).reverse = ']' :: (ipv6Text pieces).reverse := by simp
  unfold parseHostText Host.text
  simp only [hreverse, List.reverse_reverse, readIpv6_ipv6Text h]

/-- What is in brackets is taken with its colons. -/
theorem takeHostText_ipv6 (pieces : List Nat) {rest : List Char}
    (hrest : rest = [] ∨ rest.head? = some ':') :
    takeHostText true false ((Host.ipv6 pieces).text ++ rest) =
      ((Host.ipv6 pieces).text, rest) := by
  have hinside := takeHostText_of_stays true (s := ipv6Text pieces) (fun c hc => by
    obtain ⟨-, -, hends, -, hopen, hclose⟩ := lowHex_stays (ipv6_chars hc)
    exact ⟨hends, hopen, hclose, Or.inl rfl⟩) (']' :: rest)
  have hclose : takeHostText true true (']' :: rest) = ([']'], rest) := by
    simp [takeHostText, takeHostText_at_end hrest, show endsAuthority true ']' = false by decide]
  rw [hclose] at hinside
  rw [Host.text, List.cons_append, List.append_assoc, List.singleton_append, takeHostText,
    if_neg (by decide)]
  simp only [beq_self_eq_true, if_true, hinside]

theorem plainHost_ipv6 {pieces : List Nat} (h : IsIpv6 pieces) : IsPlainHost (.ipv6 pieces) := by
  have hchars : ∀ c ∈ (Host.ipv6 pieces).text, IsVisible c ∧ IsLowAscii c ∧
      endsAuthority true c = false ∧ c ≠ '@' := by
    intro c hc
    have hplace : c = '[' ∨ c ∈ ipv6Text pieces ∨ c = ']' := by simpa [Host.text] using hc
    rcases hplace with rfl | hc | rfl
    · exact ⟨⟨by decide, by decide⟩, ⟨by decide, by decide⟩, by decide, by decide⟩
    · obtain ⟨hvisible, hlow, hends, hat, -⟩ := lowHex_stays (ipv6_chars hc)
      exact ⟨hvisible, hlow, hends, hat⟩
    · exact ⟨⟨by decide, by decide⟩, ⟨by decide, by decide⟩, by decide, by decide⟩
  exact
    { reread := parseHostText_ipv6 h
      low := fun c hc => (hchars c hc).2.1
      visible := fun c hc => (hchars c hc).1
      stays := fun c hc => (hchars c hc).2.2
      taken := fun _ => takeHostText_ipv6 pieces
      nonempty := List.cons_ne_nil _ _ }

end Addresses

section Reparse

variable {s : List Char} {old host : Host}

/-- What a host is read from. -/
theorem parseHostText_cases (h : parseHostText true s = .ok host) :
    (∃ pieces, host = .ipv6 pieces ∧ IsIpv6 pieces) ∨
    (∃ address, host = .ipv4 address ∧ address < 4294967296) ∨
    ∃ name, host = .name name ∧ name ≠ [] ∧
      (decodeUtf8? (percentDecode s)).bind hostToAscii? = some name := by
  unfold parseHostText at h
  split at h
  · split at h
    · split at h
      · next hread =>
        cases h
        exact Or.inl ⟨_, rfl, ipv6_of_readIpv6 hread⟩
      · cases h
    · cases h
  · rw [if_pos rfl] at h
    split at h
    · cases h
    next name hname =>
    split at h
    · cases h
    next hne =>
    split at h
    · split at h
      · next hread =>
        cases h
        exact Or.inr (Or.inl ⟨_, rfl, lt_of_readIpv4 hread⟩)
      · cases h
    · cases h
      exact Or.inr (Or.inr ⟨name, rfl, by simpa using hne, hname⟩)

/-- A host that was read from the lower case of a host that was read before. -/
theorem plainHost_of_parse (hold : parseHostText true s = .ok old)
    (h : parseHostText true (lowercase old.text) = .ok host) : IsPlainHost host := by
  rcases parseHostText_cases hold with ⟨pieces, rfl, hpieces⟩ | ⟨address, rfl, haddress⟩ |
    ⟨name, rfl, -, hname⟩
  · have hplain := plainHost_ipv6 hpieces
    cases hplain.reread_lowercase.symm.trans h
    exact hplain
  · have hplain := plainHost_ipv4 haddress
    cases hplain.reread_lowercase.symm.trans h
    exact hplain
  · -- A name is ASCII by now, but its lower case may well be another host: an address, even.
    obtain ⟨decoded, -, hname⟩ := Option.bind_eq_some_iff.mp hname
    have hchars := nameChar_of_hostToAscii hname
    rw [Host.text, lowercase_of_ascii fun c hc => (hchars c hc).ascii] at h
    have hlower : ∀ c ∈ name.map asciiLower, IsNameChar c ∧ IsLowAscii c := by
      intro c hc
      obtain ⟨d, hd, rfl⟩ := List.mem_map.mp hc
      exact nameChar_asciiLower (hchars d hd)
    rcases parseHostText_cases h with ⟨pieces, rfl, hpieces⟩ | ⟨address, rfl, haddress⟩ |
      ⟨name', rfl, hne, hname'⟩
    · exact plainHost_ipv6 hpieces
    · exact plainHost_ipv4 haddress
    · rw [decode_of_nameChars fun c hc => (hlower c hc).1, Option.bind_some] at hname'
      obtain rfl := hostToAscii_of_low (fun c hc => (hlower c hc).2) hname'
      exact plainHost_of_nameChars h (fun c hc => (hlower c hc).1) (fun c hc => (hlower c hc).2) hne

end Reparse

end Archiver
