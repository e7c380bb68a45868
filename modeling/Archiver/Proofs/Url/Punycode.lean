import Mathlib.Data.List.Induction
import Mathlib.Data.List.TakeWhile
import Mathlib.Tactic.Ring
import Archiver.Url.Punycode

namespace Archiver

section Digits

theorem threshold_bounds (k bias : Nat) : 1 ≤ threshold k bias ∧ threshold k bias ≤ 26 := by
  unfold threshold
  split
  · omega
  · split <;> omega

/-- A digit that is no upper case letter is the digit of its value. -/
theorem eq_punycodeDigit {c : Char} {d : Nat} (h : punycodeValue? c = some d)
    (hupper : isAsciiUpper c = false) : c = punycodeDigit d ∧ d < 36 := by
  have hback : Char.ofNat c.toNat = c := Char.ofNat_toNat c
  unfold punycodeValue? at h
  split at h
  · next hdigit =>
    simp only [isAsciiDigit, Bool.and_eq_true, decide_eq_true_eq, UInt32.le_iff_toNat_le] at hdigit
    have hlow : 48 ≤ c.toNat := hdigit.1
    have hhigh : c.toNat ≤ 57 := hdigit.2
    cases h
    refine ⟨?_, by omega⟩
    rw [punycodeDigit, if_neg (by omega), show 22 + (c.toNat - 22) = c.toNat by omega, hback]
  · split at h
    · next hletter =>
      simp only [isAsciiLower, Bool.and_eq_true, decide_eq_true_eq, UInt32.le_iff_toNat_le]
        at hletter
      have hlow : 97 ≤ c.toNat := hletter.1
      have hhigh : c.toNat ≤ 122 := hletter.2
      cases h
      refine ⟨?_, by omega⟩
      rw [punycodeDigit, if_pos (by omega), show 97 + (c.toNat - 97) = c.toNat by omega, hback]
    · rw [hupper] at h
      cases h

/-- The digits that were read as a delta are the ones that write it. -/
theorem deltaDigits_of_readDelta {fuel i w k bias i' : Nat} {s rest : List Char}
    (h : readDelta fuel s i w k bias = some (i', rest)) (hs : ∀ c ∈ s, isAsciiUpper c = false) :
    ∃ q, i' = i + q * w ∧ s = deltaDigits fuel q k bias ++ rest := by
  induction fuel generalizing s i w k with
  | zero => cases h
  | succ fuel ih =>
    cases s with
    | nil => cases h
    | cons c s =>
      obtain ⟨hpos, hmost⟩ := threshold_bounds k bias
      rw [readDelta] at h
      cases hvalue : punycodeValue? c with
      | none => rw [hvalue] at h; cases h
      | some d =>
        obtain ⟨hc, hd⟩ := eq_punycodeDigit hvalue (hs c (by simp))
        simp only [hvalue] at h
        split_ifs at h with hlarge hlast hwide
        · cases h
          refine ⟨d, rfl, ?_⟩
          rw [deltaDigits, if_pos hlast, hc]
          rfl
        · obtain ⟨q, hi, hrest⟩ := ih h fun c hc => hs c (by simp [hc])
          refine ⟨d + (36 - threshold k bias) * q, ?_, ?_⟩
          · rw [hi]
            ring
          · have hmod : (d + (36 - threshold k bias) * q - threshold k bias) %
                (36 - threshold k bias) = d - threshold k bias := by
              rw [Nat.sub_add_comm (by omega), Nat.add_mul_mod_self_left]
              exact Nat.mod_eq_of_lt (by omega)
            have hdiv : (d + (36 - threshold k bias) * q - threshold k bias) /
                (36 - threshold k bias) = q := by
              rw [Nat.sub_add_comm (by omega), Nat.add_mul_div_left _ _ (by omega),
                Nat.div_eq_of_lt (by omega), Nat.zero_add]
            have hge : threshold k bias ≤ d + (36 - threshold k bias) * q :=
              (Nat.not_lt.mp hlast).trans (Nat.le_add_right _ _)
            rw [deltaDigits, if_neg (Nat.not_lt.mpr hge), hmod, hdiv, List.cons_append, ← hrest, hc,
              Nat.add_sub_cancel' (Nat.not_lt.mp hlast)]

theorem mem_deltaDigits {fuel q k bias : Nat} {c : Char} (h : c ∈ deltaDigits fuel q k bias) :
    ∃ d < 36, c = punycodeDigit d := by
  obtain ⟨hpos, hmost⟩ := threshold_bounds k bias
  induction fuel generalizing q k with
  | zero => cases h
  | succ fuel ih =>
    rw [deltaDigits] at h
    split at h
    · exact ⟨q, by omega, by simpa using h⟩
    · rcases List.mem_cons.mp h with rfl | h
      · have := Nat.mod_lt (q - threshold k bias) (show 0 < 36 - threshold k bias by omega)
        exact ⟨_, by omega, rfl⟩
      · obtain ⟨hpos', hmost'⟩ := threshold_bounds (k + 36) bias
        exact ih h hpos' hmost'

end Digits

/-- A text being put together from its ASCII characters: its code points, the least that may come
next, and the place from which on the next may stand. -/
structure Insertion where
  codes : List Nat
  next : Nat
  place : Nat

/-- A delta counts the places passed over, and a code point once around. -/
def Insertion.insert (st : Insertion) (delta : Nat) : Insertion :=
  let count := st.codes.length + 1
  let place := (st.place + delta) % count
  let next := st.next + (st.place + delta) / count
  ⟨st.codes.take place ++ next :: st.codes.drop place, next, place + 1⟩

def Insertion.start (codes : List Nat) : Insertion := ⟨codes, 128, 0⟩

/-- The digits of deltas, from a count of characters and a bias on. -/
def deltaText (basic : Nat) : Nat → Nat → List Nat → List Char
  | _, _, [] => []
  | count, bias, delta :: deltas =>
    deltaDigits 64 delta 36 bias ++
      deltaText basic (count + 1) (adaptBias delta (count + 1) (count == basic)) deltas

/-- The bias after deltas. -/
def biasAfter (basic : Nat) : Nat → Nat → List Nat → Nat
  | _, bias, [] => bias
  | count, _, delta :: deltas =>
    biasAfter basic (count + 1) (adaptBias delta (count + 1) (count == basic)) deltas

section Deltas

variable {st st' : Insertion}

theorem deltaText_append (basic count bias : Nat) (deltas deltas' : List Nat) :
    deltaText basic count bias (deltas ++ deltas') = deltaText basic count bias deltas ++
      deltaText basic (count + deltas.length) (biasAfter basic count bias deltas) deltas' := by
  induction deltas generalizing count bias with
  | nil => rfl
  | cons delta deltas ih =>
    rw [List.cons_append, deltaText, ih, deltaText, biasAfter, List.append_assoc,
      List.length_cons, Nat.add_assoc, Nat.add_comm 1]

theorem mem_deltaText {basic count bias : Nat} {deltas : List Nat} {c : Char}
    (h : c ∈ deltaText basic count bias deltas) : ∃ d < 36, c = punycodeDigit d := by
  induction deltas generalizing count bias with
  | nil => cases h
  | cons delta deltas ih =>
    rcases List.mem_append.mp h with h | h
    · exact mem_deltaDigits h
    · exact ih h

theorem insert_place_le (st : Insertion) (delta : Nat) :
    (st.place + delta) % (st.codes.length + 1) ≤ st.codes.length :=
  Nat.le_of_lt_succ (Nat.mod_lt _ (Nat.succ_pos _))

theorem length_insert (st : Insertion) (delta : Nat) :
    (st.insert delta).codes.length = st.codes.length + 1 := by
  have hplace := insert_place_le st delta
  simp only [Insertion.insert, List.length_append, List.length_take, List.length_cons,
    List.length_drop]
  omega

/-- The last code point inserted is the last of the highest. -/
structure Insertion.Tops (st : Insertion) : Prop where
  le_next : ∀ x ∈ st.codes, x ≤ st.next
  lt_next : ∀ x ∈ st.codes.drop st.place, x < st.next
  last : st.place = 0 ∧ st.next = 128 ∨
    0 < st.place ∧ 128 ≤ st.next ∧ st.codes[st.place - 1]? = some st.next

theorem tops_start {codes : List Nat} (h : ∀ x ∈ codes, x < 128) :
    (Insertion.start codes).Tops where
  le_next x hx := (h x hx).le
  lt_next x hx := h x (List.mem_of_mem_drop hx)
  last := Or.inl ⟨rfl, rfl⟩

theorem drop_insert (st : Insertion) (delta : Nat) :
    (st.insert delta).codes.drop (st.insert delta).place =
      st.codes.drop ((st.place + delta) % (st.codes.length + 1)) := by
  have hplace := insert_place_le st delta
  simp only [Insertion.insert]
  rw [List.drop_append, List.length_take, Nat.min_eq_left hplace, List.drop_eq_nil_of_le
    (by rw [List.length_take]; omega), Nat.add_sub_cancel_left]
  rfl

theorem tops_insert (h : st.Tops) (delta : Nat) : (st.insert delta).Tops := by
  have hplace := insert_place_le st delta
  have hnext : st.next ≤ (st.insert delta).next := Nat.le_add_right _ _
  have hlow : 128 ≤ st.next := by
    rcases h.last with ⟨-, hn⟩ | ⟨-, hn, -⟩ <;> omega
  refine ⟨fun x hx => ?_, fun x hx => ?_, Or.inr ⟨Nat.succ_pos _, hlow.trans hnext, ?_⟩⟩
  · rcases List.mem_append.mp hx with hx | hx
    · exact (h.le_next x (List.mem_of_mem_take hx)).trans hnext
    · rcases List.mem_cons.mp hx with rfl | hx
      · exact le_rfl
      · exact (h.le_next x (List.mem_of_mem_drop hx)).trans hnext
  · rw [drop_insert] at hx
    change x < st.next + (st.place + delta) / (st.codes.length + 1)
    by_cases hround : st.place + delta < st.codes.length + 1
    · -- The same code point again, further on: nothing as high stands behind it.
      rw [Nat.mod_eq_of_lt hround] at hx
      have hbehind : st.codes.drop (st.place + delta) ⊆ st.codes.drop st.place := by
        rw [← List.drop_drop]
        exact List.drop_subset _ _
      rw [Nat.div_eq_of_lt hround]
      exact h.lt_next x (hbehind hx)
    · have hmore : 0 < (st.place + delta) / (st.codes.length + 1) :=
        Nat.div_pos (Nat.not_lt.mp hround) (Nat.succ_pos _)
      have hle := h.le_next x (List.mem_of_mem_drop hx)
      omega
  · simp only [Insertion.insert]
    rw [Nat.add_sub_cancel, List.getElem?_append_right (by rw [List.length_take]; omega),
      List.length_take, Nat.min_eq_left hplace, Nat.sub_self]
    rfl

/-- The code points alone tell where the last one was inserted. -/
theorem tops_unique (h : st.Tops) (h' : st'.Tops) (hcodes : st.codes = st'.codes) : st = st' := by
  -- the next is the highest code point, and the place is behind its last one
  have htop : ∀ {a b : Insertion}, a.Tops → b.Tops → a.codes = b.codes → a.next ≤ b.next := by
    intro a b ha hb hab
    rcases ha.last with ⟨-, hn⟩ | ⟨-, -, hat⟩
    · rcases hb.last with ⟨-, hn'⟩ | ⟨-, hn', -⟩ <;> omega
    · exact hb.le_next _ (hab ▸ List.mem_of_getElem? hat)
  have hplaces : ∀ {a b : Insertion}, a.Tops → b.Tops → a.codes = b.codes → a.next = b.next →
      b.place ≤ a.place := by
    intro a b ha hb hab hnext
    rcases hb.last with ⟨hb0, -⟩ | ⟨hpos, -, hat⟩
    · omega
    · by_contra hlt
      have hbehind : b.next ∈ a.codes.drop a.place := by
        refine List.mem_of_getElem? (i := b.place - 1 - a.place) ?_
        rw [List.getElem?_drop, hab, Nat.add_sub_cancel' (by omega), hat]
      exact absurd (ha.lt_next _ hbehind) (by omega)
  have hnext := le_antisymm (htop h h' hcodes) (htop h' h hcodes.symm)
  have hplace := le_antisymm (hplaces h' h hcodes.symm hnext.symm) (hplaces h h' hcodes hnext)
  obtain ⟨codes, next, place⟩ := st
  obtain ⟨codes', next', place'⟩ := st'
  cases hcodes
  cases hnext
  cases hplace
  rfl

/-- An insertion can be taken back in one way. -/
theorem insert_unique (h : st.Tops) (h' : st'.Tops) {delta delta' : Nat}
    (heq : st.insert delta = st'.insert delta') : st = st' ∧ delta = delta' := by
  have hlength : st.codes.length = st'.codes.length := by
    have := congrArg (fun a => a.codes.length) heq
    simp only [length_insert] at this
    omega
  have hplace : (st.place + delta) % (st.codes.length + 1) =
      (st'.place + delta') % (st'.codes.length + 1) :=
    Nat.succ.inj (congrArg Insertion.place heq)
  have hnext : st.next + (st.place + delta) / (st.codes.length + 1) =
      st'.next + (st'.place + delta') / (st'.codes.length + 1) := congrArg Insertion.next heq
  have hcodes : st.codes = st'.codes := by
    have hsplit := congrArg Insertion.codes heq
    have hfront : (st.codes.take ((st.place + delta) % (st.codes.length + 1))).length =
        (st'.codes.take ((st'.place + delta') % (st'.codes.length + 1))).length := by
      rw [List.length_take, List.length_take, hplace, hlength]
    obtain ⟨htake, hdrop⟩ := List.append_inj hsplit hfront
    rw [← List.take_append_drop ((st.place + delta) % (st.codes.length + 1)) st.codes, htake,
      (List.cons.inj hdrop).2, List.take_append_drop]
  obtain rfl := tops_unique h h' hcodes
  have hround := Nat.add_left_cancel hnext
  have hvalue : st.place + delta = st.place + delta' := by
    rw [← Nat.div_add_mod (st.place + delta) (st.codes.length + 1), hround, hplace,
      Nat.div_add_mod]
  exact ⟨rfl, Nat.add_left_cancel hvalue⟩

theorem tops_foldl {codes : List Nat} (h : ∀ x ∈ codes, x < 128) (deltas : List Nat) :
    (deltas.foldl Insertion.insert (.start codes)).Tops := by
  induction deltas using List.reverseRecOn with
  | nil => exact tops_start h
  | append_singleton deltas delta ih =>
    rw [List.foldl_append, List.foldl_cons, List.foldl_nil]
    exact tops_insert ih delta

/-- A text is put together from ASCII characters in one way. -/
theorem deltas_unique {basic basic' deltas deltas' : List Nat} (hb : ∀ x ∈ basic, x < 128)
    (hb' : ∀ x ∈ basic', x < 128)
    (h : (deltas.foldl Insertion.insert (.start basic)).codes =
      (deltas'.foldl Insertion.insert (.start basic')).codes) :
    basic = basic' ∧ deltas = deltas' := by
  have heq := tops_unique (tops_foldl hb deltas) (tops_foldl hb' deltas') h
  clear h
  -- from the end: the last insertions agree, and so does what they were made to
  induction deltas using List.reverseRecOn generalizing deltas' with
  | nil =>
    induction deltas' using List.reverseRecOn with
    | nil => exact ⟨congrArg Insertion.codes heq, rfl⟩
    | append_singleton deltas' delta' =>
      rw [List.foldl_append, List.foldl_cons, List.foldl_nil] at heq
      cases congrArg Insertion.place heq
  | append_singleton deltas delta ih =>
    induction deltas' using List.reverseRecOn with
    | nil =>
      rw [List.foldl_append, List.foldl_cons, List.foldl_nil] at heq
      cases congrArg Insertion.place heq
    | append_singleton deltas' delta' =>
      rw [List.foldl_append, List.foldl_append] at heq
      obtain ⟨hst, rfl⟩ := insert_unique (tops_foldl hb deltas) (tops_foldl hb' deltas') heq
      obtain ⟨rfl, rfl⟩ := ih hst
      exact ⟨rfl, rfl⟩

end Deltas

section Decoding

theorem toNat_ofNat_of_valid {n : Nat}
    (h : ¬ (decide (0x10FFFF < n) || decide (0xD800 ≤ n) && decide (n < 0xE000)) = true) :
    (Char.ofNat n).toNat = n := by
  simp only [Bool.or_eq_true, Bool.and_eq_true, decide_eq_true_eq] at h
  have hvalid : n.isValidChar := by
    unfold Nat.isValidChar
    omega
  rw [Char.ofNat, dif_pos hvalid]
  rfl

/-- Decoding inserts what the deltas say. -/
theorem deltas_of_decode {basic fuel n i bias : Nat} {s out d : List Char} {first : Bool}
    (h : decodePunycodeFrom fuel s out n i bias first = some d)
    (hfirst : first = (out.length == basic)) (hcount : basic ≤ out.length)
    (hs : ∀ c ∈ s, isAsciiUpper c = false) :
    ∃ deltas, s = deltaText basic out.length bias deltas ∧
      (deltas.foldl Insertion.insert ⟨out.map Char.toNat, n, i⟩).codes = d.map Char.toNat := by
  induction fuel generalizing s out n i bias first with
  | zero => cases h
  | succ fuel ih =>
    rw [decodePunycodeFrom] at h
    split_ifs at h with hempty
    · cases h
      exact ⟨[], List.isEmpty_iff.mp hempty, rfl⟩
    · cases hread : readDelta 64 s i 1 36 bias with
      | none => rw [hread] at h; cases h
      | some parts =>
        obtain ⟨i', rest⟩ := parts
        obtain ⟨q, hi, htext⟩ := deltaDigits_of_readDelta hread hs
        rw [Nat.mul_one] at hi
        simp only [hread] at h
        split_ifs at h with hvalid
        have hrest : ∀ c ∈ rest, isAsciiUpper c = false := fun c hc =>
          hs c (by rw [htext]; exact List.mem_append_right _ hc)
        have hlength : (out.take (i' % (out.length + 1)) ++ Char.ofNat (n + i' / (out.length + 1)) ::
            out.drop (i' % (out.length + 1))).length = out.length + 1 := by
          have := Nat.mod_lt i' (Nat.succ_pos out.length)
          simp only [List.length_append, List.length_take, List.length_cons, List.length_drop]
          omega
        obtain ⟨deltas, hdeltas, hcodes⟩ := ih h (by rw [hlength]; simp; omega)
          (by rw [hlength]; omega) hrest
        refine ⟨q :: deltas, ?_, ?_⟩
        · rw [deltaText, ← hfirst, htext, hdeltas, hlength, hi, Nat.add_sub_cancel_left]
        · have hcode := toNat_ofNat_of_valid hvalid
          rw [List.foldl_cons, ← hcodes]
          simp [Insertion.insert, ← hi, hcode]

end Decoding

/-- In the midst of a pass for the code point `m`, with `pre` behind and `rest` ahead: what has been
inserted, and where the delta points to. -/
structure Scans (pre rest : List Nat) (m : Nat) (st : PunycodeState) (ins : Insertion) : Prop where
  next_eq : st.next = m
  codes_eq : ins.codes = pre.filter (· ≤ m) ++ rest.filter (· < m)
  count_eq : st.count = ins.codes.length
  sum_eq : ins.next * (st.count + 1) + (ins.place + st.delta) =
    m * (st.count + 1) + (pre.filter (· ≤ m)).length

section Encoding

variable {pre : List Nat} {m : Nat} {st : PunycodeState} {ins : Insertion}

theorem div_mod_of_sum {n v m p c : Nat} (h : n * c + v = m * c + p) (hp : p < c) :
    n + v / c = m ∧ v % c = p := by
  have hle : n ≤ m := by
    by_contra hlt
    have : (m + 1) * c ≤ n * c := Nat.mul_le_mul_right _ (by omega)
    rw [Nat.add_mul] at this
    omega
  obtain ⟨k, rfl⟩ := Nat.exists_eq_add_of_le hle
  have hv : v = p + k * c := by
    rw [Nat.add_mul] at h
    omega
  rw [hv, Nat.add_mul_div_right _ _ (by omega), Nat.add_mul_mod_self_right, Nat.div_eq_of_lt hp,
    Nat.mod_eq_of_lt hp, Nat.zero_add]
  exact ⟨rfl, rfl⟩

/-- Where a code point of the pass stands, the delta inserts it. -/
theorem scans_insert {rest : List Nat} (h : Scans pre (m :: rest) m st ins) (bias : Nat) :
    Scans (pre ++ [m]) rest m ⟨m, 0, bias, st.count + 1⟩ (ins.insert st.delta) := by
  have hplace : (pre.filter (· ≤ m)).length < st.count + 1 := by
    rw [h.count_eq, h.codes_eq, List.length_append]
    omega
  obtain ⟨hnext, hmod⟩ := div_mod_of_sum h.sum_eq hplace
  have hcodes : ins.codes = pre.filter (· ≤ m) ++ rest.filter (· < m) := by
    rw [h.codes_eq]
    simp
  have hinsert : ins.insert st.delta =
      ⟨pre.filter (· ≤ m) ++ m :: rest.filter (· < m), m, (pre.filter (· ≤ m)).length + 1⟩ := by
    unfold Insertion.insert
    simp only [← h.count_eq, hnext, hmod]
    rw [hcodes, List.take_left, List.drop_left]
  rw [hinsert]
  refine ⟨rfl, ?_, ?_, ?_⟩
  · simp
  · rw [h.count_eq, hcodes]
    simp
    omega
  · simp

/-- A lower code point is passed over and counted. -/
theorem scans_lower {x : Nat} {rest : List Nat} (h : Scans pre (x :: rest) m st ins) (hx : x < m) :
    Scans (pre ++ [x]) rest m { st with delta := st.delta + 1 } ins := by
  refine ⟨h.next_eq, ?_, h.count_eq, ?_⟩
  · rw [h.codes_eq]
    simp [hx, hx.le]
  · have hsum := h.sum_eq
    simp only [List.filter_append, List.filter_cons, hx.le, decide_true, if_true, List.filter_nil,
      List.length_append, List.length_singleton]
    omega

/-- A higher code point is left for a later pass. -/
theorem scans_higher {x : Nat} {rest : List Nat} (h : Scans pre (x :: rest) m st ins)
    (hx : m < x) : Scans (pre ++ [x]) rest m st ins := by
  refine ⟨h.next_eq, ?_, h.count_eq, ?_⟩
  · rw [h.codes_eq]
    simp [Nat.not_le.mpr hx, Nat.not_lt.mpr hx.le]
  · rw [h.sum_eq]
    simp [Nat.not_le.mpr hx]

/-- A pass writes the deltas that insert the code points it stands for. -/
theorem encodePass_law (basic : Nat) {rest : List Char}
    (h : Scans pre (rest.map Char.toNat) m st ins) :
    ∃ deltas, (encodePass basic rest st).1 = deltaText basic st.count st.bias deltas ∧
      (encodePass basic rest st).2.bias = biasAfter basic st.count st.bias deltas ∧
      (encodePass basic rest st).2.count = st.count + deltas.length ∧
      Scans (pre ++ rest.map Char.toNat) [] m (encodePass basic rest st).2
        (deltas.foldl Insertion.insert ins) := by
  induction rest generalizing pre st ins with
  | nil =>
    rw [List.map_nil, List.append_nil]
    exact ⟨[], rfl, rfl, rfl, h⟩
  | cons c rest ih =>
    rw [List.map_cons] at h
    rw [encodePass, List.map_cons, List.append_cons, h.next_eq]
    rcases Nat.lt_trichotomy c.toNat m with hlt | heq | hgt
    · rw [if_pos hlt]
      have hscan := scans_lower h hlt
      rw [h.next_eq] at hscan
      exact ih hscan
    · rw [if_neg (by omega), if_pos (by simpa using heq)]
      rw [heq] at h ⊢
      obtain ⟨deltas, htext, hbias, hcount, hscan⟩ :=
        ih (scans_insert h (adaptBias st.delta (st.count + 1) (st.count == basic)))
      refine ⟨st.delta :: deltas, ?_, hbias, ?_, hscan⟩
      · rw [deltaText]
        exact congrArg _ htext
      · rw [List.length_cons, Nat.add_comm deltas.length, ← Nat.add_assoc]
        exact hcount
    · rw [if_neg (by omega), if_neg (by simp; omega)]
      exact ih (scans_higher h hgt)

/-- Between two passes: all code points below the next have been inserted. -/
structure Between (codes : List Nat) (st : PunycodeState) (ins : Insertion) : Prop where
  codes_eq : ins.codes = codes.filter (· < st.next)
  count_eq : st.count = ins.codes.length
  sum_eq : ins.next * (st.count + 1) + (ins.place + st.delta) = st.next * (st.count + 1)

theorem foldl_min_spec (n : Nat) (ns : List Nat) :
    ns.foldl min n ∈ n :: ns ∧ ∀ x ∈ n :: ns, ns.foldl min n ≤ x := by
  induction ns generalizing n with
  | nil => simp
  | cons k ns ih =>
    obtain ⟨hmem, hle⟩ := ih (min n k)
    rw [List.foldl_cons]
    constructor
    · rcases List.mem_cons.mp hmem with h | h
      · rcases min_choice n k with hm | hm <;> rw [hm] at h <;> simp [hm, h]
      · exact List.mem_cons_of_mem _ (List.mem_cons_of_mem _ h)
    · intro x hx
      have hmin := hle _ List.mem_cons_self
      rcases List.mem_cons.mp hx with rfl | hx
      · exact hmin.trans (min_le_left _ _)
      rcases List.mem_cons.mp hx with rfl | hx
      · exact hmin.trans (min_le_right _ _)
      · exact hle x (List.mem_cons_of_mem _ hx)

/-- A pass begins at the least code point that is left. -/
theorem scans_of_between {codes : List Nat} (h : Between codes st ins) (hle : st.next ≤ m)
    (hleast : ∀ x ∈ codes, st.next ≤ x → m ≤ x) :
    Scans [] codes m ⟨m, st.delta + (m - st.next) * (st.count + 1), st.bias, st.count⟩ ins := by
  obtain ⟨k, rfl⟩ := Nat.exists_eq_add_of_le hle
  refine ⟨rfl, ?_, h.count_eq, ?_⟩
  · rw [h.codes_eq]
    refine List.filter_congr fun x hx => ?_
    have := hleast x hx
    rw [decide_eq_decide]
    omega
  · have hsum := h.sum_eq
    change ins.next * (st.count + 1) + (ins.place + (st.delta + (st.next + k - st.next) *
      (st.count + 1))) = (st.next + k) * (st.count + 1) + 0
    rw [Nat.add_sub_cancel_left, Nat.add_mul]
    omega

theorem between_of_scans {codes : List Nat} (h : Scans codes [] m st ins) :
    Between codes ⟨st.next + 1, st.delta + 1, st.bias, st.count⟩ ins := by
  have hcodes : ins.codes = codes.filter (· ≤ m) := by
    rw [h.codes_eq, List.filter_nil, List.append_nil]
  refine ⟨?_, h.count_eq, ?_⟩
  · rw [hcodes, h.next_eq]
    exact List.filter_congr fun x _ => by rw [decide_eq_decide, Nat.lt_succ_iff]
  · have hsum := h.sum_eq
    rw [← hcodes, ← h.count_eq] at hsum
    rw [h.next_eq]
    change ins.next * (st.count + 1) + (ins.place + (st.delta + 1)) = (m + 1) * (st.count + 1)
    rw [Nat.add_mul]
    omega

/-- All passes together write the deltas that put the text together. -/
theorem encodePasses_law (basic : Nat) (s : List Char) {fuel : Nat}
    (h : Between (s.map Char.toNat) st ins)
    (hfuel : ((s.map Char.toNat).filter (st.next ≤ ·)).length < fuel) :
    ∃ deltas, encodePasses s basic fuel st = deltaText basic st.count st.bias deltas ∧
      (deltas.foldl Insertion.insert ins).codes = s.map Char.toNat := by
  induction fuel generalizing st ins with
  | zero => omega
  | succ fuel ih =>
    rw [encodePasses]
    cases hleft : (s.map Char.toNat).filter (st.next ≤ ·) with
    | nil =>
      refine ⟨[], rfl, ?_⟩
      rw [List.foldl_nil, h.codes_eq]
      refine List.filter_eq_self.mpr fun x hx => ?_
      have := List.filter_eq_nil_iff.mp hleft x hx
      simpa using this
    | cons n ns =>
      obtain ⟨hmem, hleast⟩ := foldl_min_spec n ns
      rw [← hleft] at hmem hleast
      obtain ⟨-, hle⟩ := List.mem_filter.mp hmem
      have hscan := scans_of_between h (by simpa using hle) fun x hx hnext =>
        hleast x (List.mem_filter.mpr ⟨hx, by simpa using hnext⟩)
      obtain ⟨deltas, htext, hbias, hcount, hscan'⟩ := encodePass_law basic hscan
      simp only
      generalize encodePass basic s _ = passed at htext hbias hcount hscan' ⊢
      obtain ⟨out, st'⟩ := passed
      -- a pass is over with its own code point at the least
      have hshrink : ((s.map Char.toNat).filter (st'.next + 1 ≤ ·)).length < fuel := by
        have hnext : st'.next = ns.foldl min n := hscan'.next_eq
        rw [decide_eq_true_eq, ← hnext] at hle
        have hless : (((s.map Char.toNat).filter (st.next ≤ ·)).filter
            (st'.next + 1 ≤ ·)).length < ((s.map Char.toNat).filter (st.next ≤ ·)).length :=
          List.length_filter_lt_length_iff_exists.mpr ⟨_, hmem, by simp [hnext]⟩
        rw [List.filter_filter] at hless
        refine lt_of_le_of_lt (le_of_eq (congrArg _ (List.filter_congr fun x _ => ?_)))
          (hless.trans_le (Nat.lt_succ_iff.mp hfuel))
        rw [← Bool.decide_and, decide_eq_decide]
        omega
      obtain ⟨more, htext', hcodes⟩ := ih (between_of_scans hscan') hshrink
      refine ⟨deltas ++ more, ?_, ?_⟩
      · rw [deltaText_append, htext, htext', hbias, hcount]
      · rw [List.foldl_append]
        exact hcodes

end Encoding

section Label

variable {form s d : List Char}

theorem isAscii_iff {c : Char} : isAscii c = true ↔ c.toNat < 128 := by
  rw [isAscii, decide_eq_true_eq, UInt32.lt_iff_toNat_lt]
  rfl

theorem codes_of_ascii (h : ∀ c ∈ s, isAscii c = true) : ∀ x ∈ s.map Char.toNat, x < 128 := by
  intro x hx
  obtain ⟨c, hc, rfl⟩ := List.mem_map.mp hx
  exact isAscii_iff.mp (h c hc)

/-- The form of a text: its ASCII characters, and the deltas that insert the others. -/
theorem punycodeEncode_law (s : List Char) : ∃ deltas,
    punycodeEncode s = (if (s.filter isAscii).isEmpty then [] else s.filter isAscii ++ ['-']) ++
      deltaText (s.filter isAscii).length (s.filter isAscii).length 72 deltas ∧
    (deltas.foldl Insertion.insert (.start ((s.filter isAscii).map Char.toNat))).codes =
      s.map Char.toNat := by
  have hstart : Between (s.map Char.toNat) ⟨128, 0, 72, (s.filter isAscii).length⟩
      (.start ((s.filter isAscii).map Char.toNat)) := by
    refine ⟨?_, ?_, rfl⟩
    · rw [List.filter_map]
      refine congrArg _ (List.filter_congr fun c _ => ?_)
      rw [Bool.eq_iff_iff, isAscii_iff]
      simp
    · rw [Insertion.start, List.length_map]
  have hfuel : ((s.map Char.toNat).filter (128 ≤ ·)).length < s.length + 1 :=
    Nat.lt_succ_of_le ((List.length_filter_le _ _).trans (by rw [List.length_map]))
  obtain ⟨deltas, htext, hcodes⟩ := encodePasses_law (s.filter isAscii).length s hstart hfuel
  exact ⟨deltas, by rw [punycodeEncode, htext], hcodes⟩

/-- What the form of a text is written in. -/
theorem mem_punycodeEncode {c : Char} (h : c ∈ punycodeEncode s) :
    c ∈ s ∧ isAscii c = true ∨ c = '-' ∨ ∃ d < 36, c = punycodeDigit d := by
  obtain ⟨deltas, htext, -⟩ := punycodeEncode_law s
  rw [htext] at h
  rcases List.mem_append.mp h with h | h
  · split at h
    · cases h
    · rcases List.mem_append.mp h with h | h
      · exact Or.inl (List.mem_filter.mp h)
      · exact Or.inr (Or.inl (List.mem_singleton.mp h))
  · exact Or.inr (Or.inr (mem_deltaText h))

/-- What is in front of the last hyphen and what is behind it. -/
theorem split_last_hyphen (h : (form.reverse.takeWhile (· != '-')).length < form.length) :
    form = form.take (form.length - (form.reverse.takeWhile (· != '-')).length - 1) ++
      '-' :: (form.reverse.takeWhile (· != '-')).reverse := by
  have hparts := List.takeWhile_append_dropWhile (p := (· != '-')) (l := form.reverse)
  cases hdrop : form.reverse.dropWhile (· != '-') with
  | nil =>
    rw [hdrop, List.append_nil] at hparts
    rw [hparts, List.length_reverse] at h
    omega
  | cons c front =>
    have hc : c = '-' := by
      have := List.head?_dropWhile_not (· != '-') form.reverse
      rw [hdrop] at this
      simpa using this
    rw [hdrop, hc] at hparts
    have hform : form = front.reverse ++
        '-' :: (form.reverse.takeWhile (· != '-')).reverse := by
      conv_lhs => rw [← List.reverse_reverse form, ← hparts]
      simp
    have hlength : form.length - (form.reverse.takeWhile (· != '-')).length - 1 =
        front.reverse.length := by
      have := congrArg List.length hform
      simp only [List.length_append, List.length_cons, List.length_reverse] at this ⊢
      omega
    have htake : form.take front.reverse.length = front.reverse := by
      rw [hform]
      exact List.take_left
    rw [hlength, htake]
    exact hform

theorem map_toNat_injective {s t : List Char} (h : s.map Char.toNat = t.map Char.toNat) :
    s = t := by
  refine (List.map_inj_right fun a b hab => ?_).mp h
  rw [← Char.ofNat_toNat a, hab, Char.ofNat_toNat]

/-- The deltas that were read are the ones that the form of the text has. -/
theorem punycodeEncode_of_decode {fuel : Nat} {basic digits : List Char}
    (hbasic : ∀ c ∈ basic, isAscii c = true) (hdigits : ∀ c ∈ digits, isAsciiUpper c = false)
    (h : decodePunycodeFrom fuel digits basic 128 0 72 true = some d) :
    punycodeEncode d = (if basic.isEmpty then [] else basic ++ ['-']) ++ digits := by
  have hfirst : true = (basic.length == basic.length) := by simp
  obtain ⟨deltas, htext, hcodes⟩ := deltas_of_decode h hfirst le_rfl hdigits
  obtain ⟨deltas', hencode, hcodes'⟩ := punycodeEncode_law d
  have hascii : ∀ c ∈ d.filter isAscii, isAscii c = true := fun c hc => (List.mem_filter.mp hc).2
  obtain ⟨hsame, rfl⟩ := deltas_unique (codes_of_ascii hbasic) (codes_of_ascii hascii)
    (hcodes.trans hcodes'.symm)
  rw [hencode, ← map_toNat_injective hsame, ← htext]

/-- A form in lower case that can be read is the form of its text. -/
theorem eq_punycodeEncode_of_decode (h : punycodeDecode? form = some d)
    (hform : ∀ c ∈ form, isAsciiUpper c = false) : form = punycodeEncode d := by
  unfold punycodeDecode? at h
  simp only at h
  by_cases hhyphen : (form.reverse.takeWhile (· != '-')).length + 1 < form.length
  · simp only [if_pos hhyphen] at h
    split_ifs at h with hbasic
    have hparts := split_last_hyphen (Nat.lt_of_succ_lt hhyphen)
    have hdigits : ∀ c ∈ (form.reverse.takeWhile (· != '-')).reverse, isAsciiUpper c = false :=
      fun c hc => hform c (by rw [hparts]; simp [List.mem_reverse.mp hc])
    have hfront : (form.take (form.length - (form.reverse.takeWhile (· != '-')).length - 1)).isEmpty =
        false := by
      rw [List.isEmpty_eq_false_iff, ← List.length_pos_iff, List.length_take]
      omega
    rw [punycodeEncode_of_decode (List.all_eq_true.mp hbasic) hdigits h, hfront]
    simpa using hparts
  · simp only [if_neg hhyphen, List.all_nil, if_true] at h
    exact (punycodeEncode_of_decode (by simp) hform h).symm

end Label

end Archiver
