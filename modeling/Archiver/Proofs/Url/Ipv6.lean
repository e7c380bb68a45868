import Archiver.Proofs.Url.HostName
import Archiver.Url.Address

namespace Archiver

section HexDigits

variable {c : Char} {n : Nat} {s : List Char}

/-- A digit that hexadecimal numbers are written with: no capital letter. -/
structure IsLowHex (c : Char) : Prop where
  hex : isHexDigit c = true
  low : IsLowAscii c

theorem lowHex_digitChar (h : n < 16) :
    IsLowHex n.digitChar ∧ (hexValue? n.digitChar).getD 0 = n := by
  have hall : ∀ n < 16, isHexDigit n.digitChar = true ∧ isAscii n.digitChar = true ∧
      isAsciiUpper n.digitChar = false ∧ (hexValue? n.digitChar).getD 0 = n := by decide
  obtain ⟨hhex, hascii, hlower, hvalue⟩ := hall n h
  exact ⟨⟨hhex, hascii, hlower⟩, hvalue⟩

theorem lowHex_of_mem_hexNatText (h : c ∈ hexNatText n) : IsLowHex c := by
  induction n using Nat.strongRecOn with
  | ind n ih =>
    rw [hexNatText, Nat.toDigits_eq_if (by decide)] at h
    split at h
    · next hn =>
      rw [List.mem_singleton.mp h]
      exact (lowHex_digitChar hn).1
    · rcases List.mem_append.mp h with h | h
      · exact ih (n / 16) (by omega) h
      · rw [List.mem_singleton.mp h]
        exact (lowHex_digitChar (Nat.mod_lt n (by decide))).1

theorem hexNatText_ne_nil (n : Nat) : hexNatText n ≠ [] := Nat.toDigits_ne_nil

theorem hexNumber_append (s : List Char) (c : Char) :
    hexNumber (s ++ [c]) = hexNumber s * 16 + (hexValue? c).getD 0 := by
  simp [hexNumber]

theorem hexNumber_hexNatText (n : Nat) : hexNumber (hexNatText n) = n := by
  induction n using Nat.strongRecOn with
  | ind n ih =>
    rw [hexNatText, Nat.toDigits_eq_if (by decide)]
    split
    · next hn =>
      have hnumber := hexNumber_append [] n.digitChar
      rw [(lowHex_digitChar hn).2] at hnumber
      exact hnumber.trans (Nat.zero_add n)
    · have hfront := ih (n / 16) (by omega)
      rw [hexNatText] at hfront
      rw [hexNumber_append, hfront, (lowHex_digitChar (Nat.mod_lt n (by decide))).2]
      omega

theorem hexValue_getD_lt (c : Char) : (hexValue? c).getD 0 < 16 := by
  unfold hexValue? isAsciiDigit
  simp only [Bool.and_eq_true, decide_eq_true_eq, UInt32.le_iff_toNat_le]
  have hval : c.val.toNat = c.toNat := rfl
  rw [hval]
  split_ifs with h1 h2 h3
  · have : c.toNat ≤ 57 := h1.2
    simp only [Option.getD_some]
    omega
  · have : c.toNat ≤ 102 := h2.2
    simp only [Option.getD_some]
    omega
  · have : c.toNat ≤ 70 := h3.2
    simp only [Option.getD_some]
    omega
  · decide

theorem hexNumber_lt (s : List Char) : hexNumber s < 16 ^ s.length := by
  induction s using List.reverseRecOn with
  | nil => decide
  | append_singleton s c ih =>
    have hdigit := hexValue_getD_lt c
    rw [hexNumber_append, List.length_append, List.length_singleton, Nat.pow_succ]
    omega

theorem hexNumber_lt_of_length (h : s.length ≤ 4) : hexNumber s < 65536 :=
  (hexNumber_lt s).trans_le (Nat.pow_le_pow_right (by decide) h)

end HexDigits

section Pieces

variable {fuel p : Nat} {acc ps : List Nat} {gap : Option Nat} {t : List Char}

theorem length_hexNatText (h : p < 65536) : (hexNatText p).length ≤ 4 :=
  (Nat.length_toDigits_le_iff (by decide) (by decide)).mpr h

/-- The digits of a piece are read up to a colon or the end. -/
theorem takeWhile_hexNatText (h : p < 65536) (ht : t.head? = none ∨ t.head? = some ':') :
    ((hexNatText p ++ t).take 4).takeWhile isHexDigit = hexNatText p := by
  have hstop : (t.take (4 - (hexNatText p).length)).takeWhile isHexDigit = [] := by
    cases t with
    | nil => simp
    | cons c t =>
      have hc : c = ':' := by simpa using ht
      cases 4 - (hexNatText p).length with
      | zero => rfl
      | succ k => simp [hc, show isHexDigit ':' = false by decide]
  rw [List.take_append, List.take_of_length_le (length_hexNatText h),
    List.takeWhile_append_of_pos fun c hc => (lowHex_of_mem_hexNatText hc).hex, hstop,
    List.append_nil]

/-- One piece is read, and what its end or a colon behind it calls for. -/
theorem readIpv6Pieces_piece (h : p < 65536) (hacc : acc.length < 8) :
    (t.head? = none ∨ t.head? = some ':') → readIpv6Pieces (fuel + 1) (hexNatText p ++ t) acc gap =
      match t with
      | [] => some (acc ++ [p], gap)
      | _ :: rest => if rest.isEmpty then none else readIpv6Pieces fuel rest (acc ++ [p]) gap := by
  intro ht
  have hdigits := takeWhile_hexNatText h ht
  have hdrop : (hexNatText p ++ t).drop (hexNatText p).length = t := List.drop_left
  have hvalue := hexNumber_hexNatText p
  obtain ⟨c, cs, hcs⟩ := List.exists_cons_of_ne_nil (hexNatText_ne_nil p)
  have hc : (c == ':') = false := by
    rw [beq_eq_false_iff_ne]
    rintro rfl
    cases (lowHex_of_mem_hexNatText (hcs ▸ List.mem_cons_self)).hex
  rw [hcs, List.cons_append] at hdigits hdrop
  rw [hcs] at hvalue
  rw [hcs, List.cons_append]
  cases t with
  | nil =>
    simp only [readIpv6Pieces, Nat.not_le.mpr hacc, hc, Bool.false_eq_true, if_false, hdigits,
      hdrop, hvalue]
  | cons d rest =>
    have hd : d = ':' := by simpa using ht
    subst hd
    simp only [readIpv6Pieces, Nat.not_le.mpr hacc, hc, Bool.false_eq_true, if_false, hdigits,
      hdrop, hvalue]

theorem intercalate_hexNatText_ne_nil (p : Nat) (ps : List Nat) :
    [':'].intercalate ((p :: ps).map hexNatText) ≠ [] := by
  cases ps with
  | nil => simpa using hexNatText_ne_nil p
  | cons q ps => simp [List.intercalate_cons_cons, hexNatText_ne_nil]

/-- Pieces up to the end of the text. -/
theorem readIpv6Pieces_join (hps : ∀ p ∈ ps, p < 65536) (hacc : acc.length + ps.length ≤ 8)
    (hfuel : ([':'].intercalate (ps.map hexNatText)).length < fuel) :
    readIpv6Pieces fuel ([':'].intercalate (ps.map hexNatText)) acc gap = some (acc ++ ps, gap) := by
  induction ps generalizing fuel acc with
  | nil =>
    cases fuel with
    | zero => cases hfuel
    | succ fuel => simp [readIpv6Pieces]
  | cons p ps ih =>
    cases fuel with
    | zero => omega
    | succ fuel =>
      have hp := hps p List.mem_cons_self
      rw [List.length_cons] at hacc
      cases ps with
      | nil =>
        rw [List.map_singleton, List.intercalate_singleton, ← List.append_nil (hexNatText p),
          readIpv6Pieces_piece hp (by omega) (Or.inl rfl)]
      | cons q ps =>
        rw [List.map_cons, List.map_cons, List.intercalate_cons_cons, List.append_assoc,
          List.singleton_append] at hfuel ⊢
        rw [readIpv6Pieces_piece hp (by omega) (Or.inr rfl), ← List.map_cons]
        rw [← List.map_cons] at hfuel
        simp only [List.isEmpty_iff, intercalate_hexNatText_ne_nil, if_false]
        simp only [List.length_append, List.length_cons] at hfuel
        rw [ih (fun r hr => hps r (List.mem_cons_of_mem p hr)) (by simp at hacc ⊢; omega) (by omega),
          List.append_assoc, List.singleton_append]

/-- Pieces up to a double colon. -/
theorem readIpv6Pieces_gap (fuel : Nat) (acc : List Nat) (hps : ∀ p ∈ ps, p < 65536)
    (hne : ps ≠ []) (hacc : acc.length + ps.length < 8)
    (hfuel : ([':'].intercalate (ps.map hexNatText) ++ ':' :: ':' :: t).length < fuel) :
    ∃ fuel', t.length < fuel' ∧
      readIpv6Pieces fuel ([':'].intercalate (ps.map hexNatText) ++ ':' :: ':' :: t) acc none =
        readIpv6Pieces fuel' t (acc ++ ps ++ [0]) (some (acc.length + ps.length + 1)) := by
  induction ps generalizing fuel acc with
  | nil => exact absurd rfl hne
  | cons p ps ih =>
    cases fuel with
    | zero => cases hfuel
    | succ fuel =>
      have hp := hps p List.mem_cons_self
      rw [List.length_cons] at hacc
      cases ps with
      | nil =>
        rw [List.map_singleton, List.intercalate_singleton] at hfuel ⊢
        rw [readIpv6Pieces_piece hp (by omega) (Or.inr rfl)]
        simp only [List.length_append, List.length_cons, List.length_nil] at hfuel hacc
        -- the second colon is a step of its own
        obtain ⟨fuel', rfl⟩ : ∃ fuel', fuel = fuel' + 1 := ⟨fuel - 1, by omega⟩
        refine ⟨fuel', by omega, ?_⟩
        simp only [List.isEmpty_cons, Bool.false_eq_true, if_false, readIpv6Pieces,
          List.length_append, List.length_singleton]
        rw [if_neg (by omega)]
        rfl
      | cons q ps =>
        rw [List.map_cons, List.map_cons, List.intercalate_cons_cons, List.append_assoc,
          List.append_assoc, List.singleton_append, ← List.map_cons] at hfuel ⊢
        rw [readIpv6Pieces_piece hp (by omega) (Or.inr rfl)]
        simp only [List.isEmpty_iff, List.append_eq_nil_iff, reduceCtorEq, and_false, if_false]
        simp only [List.length_append, List.length_cons] at hfuel hacc
        obtain ⟨fuel', hfuel', hread⟩ := ih fuel (acc ++ [p])
          (fun r hr => hps r (List.mem_cons_of_mem p hr)) (List.cons_ne_nil q ps)
          (by simp only [List.length_append, List.length_cons, List.length_nil]; omega)
          (by simp only [List.length_append, List.length_cons]; omega)
        refine ⟨fuel', hfuel', hread.trans ?_⟩
        simp only [List.append_assoc, List.singleton_append, List.length_append, List.length_cons,
          List.length_nil]
        congr 2
        omega

end Pieces

section Characters

theorem lowHex_of_mem_intercalate {c : Char} {ps : List Nat}
    (h : c ∈ [':'].intercalate (ps.map hexNatText)) : IsLowHex c ∨ c = ':' := by
  rcases mem_of_mem_intercalate h with rfl | ⟨piece, hpiece, hc⟩
  · exact Or.inr rfl
  · obtain ⟨p, -, rfl⟩ := List.mem_map.mp hpiece
    exact Or.inl (lowHex_of_mem_hexNatText hc)

theorem ipv6_chars {c : Char} {pieces : List Nat} (h : c ∈ ipv6Text pieces) :
    IsLowHex c ∨ c = ':' := by
  unfold ipv6Text at h
  simp only at h
  split at h
  · exact lowHex_of_mem_intercalate h
  · simp only [List.mem_append, List.mem_cons] at h
    rcases h with h | rfl | rfl | h
    · exact lowHex_of_mem_intercalate h
    · exact Or.inr rfl
    · exact Or.inr rfl
    · exact lowHex_of_mem_intercalate h

end Characters

section Zeros

variable {pieces : List Nat} {i n : Nat}

theorem drop_length_takeWhile (q : Nat → Bool) (pieces : List Nat) :
    pieces.drop (pieces.takeWhile q).length = pieces.dropWhile q := by
  induction pieces with
  | nil => rfl
  | cons p pieces ih => by_cases hp : q p = true <;> simp [hp, ih]

theorem eq_zeros (pieces : List Nat) (i : Nat) :
    pieces = pieces.take i ++
      List.replicate ((pieces.drop i).takeWhile (· == 0)).length 0 ++
        pieces.drop (i + ((pieces.drop i).takeWhile (· == 0)).length) := by
  have hzeros : (pieces.drop i).takeWhile (· == 0) =
      List.replicate ((pieces.drop i).takeWhile (· == 0)).length 0 :=
    List.eq_replicate_iff.mpr ⟨rfl, fun p hp => by simpa using List.mem_takeWhile_imp hp⟩
  rw [← hzeros, ← List.drop_drop, drop_length_takeWhile, List.append_assoc,
    List.takeWhile_append_dropWhile, List.take_append_drop]

/-- The zeros that are left out are zeros, and at least two. -/
theorem longestZeros_eq_some (h : longestZeros pieces = some (i, n)) :
    2 ≤ n ∧ pieces = pieces.take i ++ List.replicate n 0 ++ pieces.drop (i + n) := by
  have hrun : 2 ≤ n ∧ n = ((pieces.drop i).takeWhile (· == 0)).length := by
    -- whatever run is the best so far: it is a whole run, and not of one zero
    refine List.foldlRecOn (motive := fun best => ∀ i n, best = some (i, n) →
      2 ≤ n ∧ n = ((pieces.drop i).takeWhile (· == 0)).length) (List.range pieces.length) _
        ?_ ?_ i n h
    · intro i n h
      cases h
    · intro best ih j _ i n h
      cases best with
      | none =>
        simp only at h
        split_ifs at h with htwo
        cases h
        exact ⟨htwo, rfl⟩
      | some best =>
        obtain ⟨k, m⟩ := best
        simp only at h
        split_ifs at h with hless
        · cases h
          have := (ih k m rfl).1
          exact ⟨by omega, rfl⟩
        · exact ih i n h
  obtain ⟨htwo, rfl⟩ := hrun
  exact ⟨htwo, eq_zeros pieces i⟩

end Zeros

/-- Eight numbers of sixteen bits. -/
structure IsIpv6 (pieces : List Nat) : Prop where
  count : pieces.length = 8
  bounded : ∀ p ∈ pieces, p < 65536

/-- The pieces with the zeros that were left out. -/
def closeGap : Option (List Nat × Option Nat) → Option (List Nat)
  | none => none
  | some (pieces, some gap) =>
    some (pieces.take gap ++ List.replicate (8 - pieces.length) 0 ++ pieces.drop gap)
  | some (pieces, none) => if pieces.length == 8 then some pieces else none

section Reading

variable {s t : List Char} {c d : Char} {pieces : List Nat}

theorem readIpv6_colons (t : List Char) :
    readIpv6? (':' :: ':' :: t) = closeGap (readIpv6Pieces (t.length + 1) t [0] (some 1)) := rfl

theorem readIpv6_of_ne (hc : c ≠ ':') : readIpv6? (c :: d :: t) =
    closeGap (readIpv6Pieces ((c :: d :: t).length + 1) (c :: d :: t) [] none) := by
  unfold readIpv6?
  split
  · next h => cases h
  · next h => cases h
  · next h => exact absurd (List.cons.inj h).1 hc
  · next h => exact absurd (List.cons.inj h).1 hc
  · rfl

/-- A text that begins with a piece and is more than one digit. -/
theorem readIpv6_of_piece (p : Nat) (ps : List Nat) (t : List Char)
    (h : 2 ≤ ([':'].intercalate ((p :: ps).map hexNatText) ++ t).length) :
    readIpv6? ([':'].intercalate ((p :: ps).map hexNatText) ++ t) =
      closeGap (readIpv6Pieces (([':'].intercalate ((p :: ps).map hexNatText) ++ t).length + 1)
        ([':'].intercalate ((p :: ps).map hexNatText) ++ t) [] none) := by
  have hhead : ∃ rest, [':'].intercalate ((p :: ps).map hexNatText) = hexNatText p ++ rest := by
    cases ps with
    | nil => exact ⟨[], by simp⟩
    | cons q ps =>
      exact ⟨[':'] ++ [':'].intercalate ((q :: ps).map hexNatText), by
        rw [List.map_cons, List.map_cons, List.intercalate_cons_cons, List.append_assoc]⟩
  obtain ⟨rest, hrest⟩ := hhead
  obtain ⟨c, cs, hcs⟩ := List.exists_cons_of_ne_nil (hexNatText_ne_nil p)
  rw [hrest, hcs, List.cons_append, List.cons_append] at h ⊢
  have hc : c ≠ ':' := by
    rintro rfl
    cases (lowHex_of_mem_hexNatText (hcs ▸ List.mem_cons_self)).hex
  cases htail : cs ++ rest ++ t with
  | nil =>
    rw [htail] at h
    simp at h
  | cons d tail => exact readIpv6_of_ne hc

theorem closeGap_zeros {front back : List Nat} {n : Nat} (hn : 2 ≤ n)
    (h : front.length + n + back.length = 8) :
    closeGap (some (front ++ [0] ++ back, some (front.length + 1))) =
      some (front ++ List.replicate n 0 ++ back) := by
  have hlength : (front ++ [0]).length = front.length + 1 := by simp
  have htake : (front ++ [0] ++ back).take (front.length + 1) = front ++ [0] := by
    rw [← hlength]
    exact List.take_left
  have hdrop : (front ++ [0] ++ back).drop (front.length + 1) = back := by
    rw [← hlength]
    exact List.drop_left
  have hzeros : List.replicate n 0 = 0 :: List.replicate (8 - (front ++ [0] ++ back).length) 0 := by
    rw [← List.replicate_succ]
    congr 1
    simp only [List.length_append, List.length_singleton]
    omega
  rw [closeGap, htake, hdrop, hzeros]
  simp

/-- An address is read as it is written. -/
theorem readIpv6_ipv6Text (h : IsIpv6 pieces) : readIpv6? (ipv6Text pieces) = some pieces := by
  unfold ipv6Text
  simp only
  split
  · next hnone =>
    match pieces, h with
    | p :: q :: ps, h =>
      have htwo : 2 ≤ ([':'].intercalate ((p :: q :: ps).map hexNatText) ++ []).length := by
        have hp := List.length_pos_iff.mpr (hexNatText_ne_nil p)
        simp only [List.map_cons, List.intercalate_cons_cons, List.length_append,
          List.length_singleton]
        omega
      have hread := readIpv6_of_piece p (q :: ps) [] htwo
      rw [List.append_nil] at hread
      rw [hread, readIpv6Pieces_join h.bounded (by simpa using h.count.le) (Nat.lt_succ_self _),
        List.nil_append, closeGap, h.count]
      rfl
    | [_], h => cases h.count
    | [], h => cases h.count
  · next i n hsome =>
    obtain ⟨htwo, hzeros⟩ := longestZeros_eq_some hsome
    have hfront : ∀ p ∈ pieces.take i, p < 65536 := fun p hp => h.bounded p (List.mem_of_mem_take hp)
    have hback : ∀ p ∈ pieces.drop (i + n), p < 65536 := fun p hp =>
      h.bounded p (List.mem_of_mem_drop hp)
    have hcount := congrArg List.length hzeros
    rw [h.count, List.length_append, List.length_append, List.length_replicate] at hcount
    conv_rhs => rw [hzeros]
    -- of the address only its length counts from here on
    generalize pieces.take i = front at hfront hcount ⊢
    generalize pieces.drop (i + n) = back at hback hcount ⊢
    rw [← closeGap_zeros htwo hcount.symm]
    cases front with
    | nil =>
      rw [List.map_nil, List.intercalate_nil, List.nil_append, readIpv6_colons,
        readIpv6Pieces_join hback (by simp at hcount ⊢; omega) (Nat.lt_succ_self _)]
      rfl
    | cons p ps =>
      rw [readIpv6_of_piece p ps _ (by simp; omega)]
      obtain ⟨fuel, hfuel, hread⟩ := readIpv6Pieces_gap _ [] hfront (List.cons_ne_nil p ps)
        (by simp at hcount ⊢; omega) (Nat.lt_succ_self _)
      rw [hread, readIpv6Pieces_join hback (by simp at hcount ⊢; omega) hfuel]
      simp

theorem le_of_readTailBytes {k : Nat} {bytes : List Nat} (h : readTailBytes k s = some bytes) :
    ∀ b ∈ bytes, b ≤ 255 := by
  induction k generalizing s bytes with
  | zero =>
    rw [readTailBytes] at h
    split_ifs at h
    cases h
    simp
  | succ k ih =>
    rw [readTailBytes] at h
    simp only at h
    split at h
    · cases h
    next hbad =>
    obtain ⟨rest, -, h⟩ := Option.bind_eq_some_iff.mp h
    obtain ⟨bytes', hbytes', rfl⟩ := Option.map_eq_some_iff.mp h
    simp only [Bool.or_eq_true, decide_eq_true_eq, not_or, Nat.not_lt] at hbad
    intro b hb
    rcases List.mem_cons.mp hb with rfl | hb
    · exact hbad.1.2
    · exact ih hbytes' b hb

/-- At most eight numbers of sixteen bits. -/
structure IsPartIpv6 (pieces : List Nat) : Prop where
  count : pieces.length ≤ 8
  bounded : ∀ p ∈ pieces, p < 65536

theorem partIpv6_append {acc : List Nat} {p : Nat} (h : IsPartIpv6 acc) (hacc : acc.length < 8)
    (hp : p < 65536) : IsPartIpv6 (acc ++ [p]) := by
  refine ⟨by simp only [List.length_append, List.length_singleton]; omega, fun q hq => ?_⟩
  rcases List.mem_append.mp hq with hq | hq
  · exact h.bounded q hq
  · rwa [List.mem_singleton.mp hq]

theorem partIpv6_of_readIpv6Pieces {fuel : Nat} {acc ps : List Nat} {gap gap' : Option Nat}
    (h : readIpv6Pieces fuel s acc gap = some (ps, gap')) (hacc : IsPartIpv6 acc) :
    IsPartIpv6 ps := by
  induction fuel generalizing s acc gap with
  | zero => cases h
  | succ fuel ih =>
    cases s with
    | nil =>
      cases h
      exact hacc
    | cons c rest =>
      simp only [readIpv6Pieces] at h
      have hvalue : hexNumber (((c :: rest).take 4).takeWhile isHexDigit) < 65536 :=
        hexNumber_lt_of_length ((List.takeWhile_prefix _).length_le.trans (List.length_take_le _ _))
      split at h
      · cases h
      next hfull =>
      have hnext := partIpv6_append hacc (Nat.not_le.mp hfull) hvalue
      split at h
      · split at h
        · cases h
        · exact ih h (partIpv6_append hacc (Nat.not_le.mp hfull) (by decide))
      · split at h
        · cases h
          exact hnext
        · split at h
          · cases h
          next hroom =>
          simp only [Bool.or_eq_true, decide_eq_true_eq, not_or, Nat.not_lt] at hroom
          split at h
          · next a b c d hbytes =>
            -- four bytes at the end make two pieces
            cases h
            have hle := le_of_readTailBytes hbytes
            have ha := hle a (by simp)
            have hb := hle b (by simp)
            have hc := hle c (by simp)
            have hd := hle d (by simp)
            have hfirst := partIpv6_append hacc (by omega) (show a * 256 + b < 65536 by omega)
            have hsecond := partIpv6_append hfirst
              (by simp only [List.length_append, List.length_singleton]; omega)
              (show c * 256 + d < 65536 by omega)
            rwa [List.append_assoc] at hsecond
          · cases h
        · split at h
          · cases h
          · exact ih h hnext
        · cases h

theorem ipv6_of_closeGap {read : Option (List Nat × Option Nat)}
    (hread : ∀ ps gap, read = some (ps, gap) → IsPartIpv6 ps) (h : closeGap read = some pieces) :
    IsIpv6 pieces := by
  match read, h with
  | some (ps, some gap), h =>
    obtain ⟨hcount, hbounded⟩ := hread ps _ rfl
    cases h
    refine ⟨by simp; omega, fun p hp => ?_⟩
    simp only [List.mem_append, List.mem_replicate] at hp
    rcases hp with (hp | ⟨-, rfl⟩) | hp
    · exact hbounded p (List.mem_of_mem_take hp)
    · decide
    · exact hbounded p (List.mem_of_mem_drop hp)
  | some (ps, none), h =>
    rw [closeGap] at h
    split at h
    · next hcount =>
      cases h
      exact ⟨beq_iff_eq.mp hcount, (hread _ _ rfl).bounded⟩
    · cases h

/-- What is read is an address. -/
theorem ipv6_of_readIpv6 (h : readIpv6? s = some pieces) : IsIpv6 pieces := by
  unfold readIpv6? at h
  split at h
  · cases h
  · cases h
  · next t =>
    change closeGap (readIpv6Pieces (t.length + 1) t [0] (some 1)) = some pieces at h
    exact ipv6_of_closeGap (fun ps gap hread =>
      partIpv6_of_readIpv6Pieces hread ⟨by decide, by decide⟩) h
  · cases h
  · change closeGap (readIpv6Pieces (s.length + 1) s [] none) = some pieces at h
    exact ipv6_of_closeGap (fun ps gap hread =>
      partIpv6_of_readIpv6Pieces hread ⟨by decide, by decide⟩) h

end Reading

end Archiver
