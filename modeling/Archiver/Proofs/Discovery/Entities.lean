import Archiver.Discovery.Locations
import Archiver.Proofs.Text.Lines

namespace Archiver

/-- The characters that have a name, in the order in which their names are replaced. -/
def namedEntities : List (Char × List Char) :=
  [('<', "&lt;".toList), ('>', "&gt;".toList), ('"', "&quot;".toList), ('\'', "&apos;".toList),
    ('&', "&amp;".toList)]

/-- A text is written with each character as itself or by its name, an ampersand by its name as long
as any name may stand in the text. -/
inductive WrittenBy (names : List (Char × List Char)) : List Char → List Char → Prop where
  | nil : WrittenBy names [] []
  | same {c : Char} {text written : List Char} (h : c = '&' → names = [])
      (rest : WrittenBy names text written) : WrittenBy names (c :: text) (c :: written)
  | named {c : Char} {name text written : List Char} (h : (c, name) ∈ names)
      (rest : WrittenBy names text written) : WrittenBy names (c :: text) (name ++ written)

/-- Writes each character that has a name by it. -/
def escapeEntities (text : List Char) : List Char :=
  text.flatMap fun c => ((namedEntities.find? (·.1 == c)).map (·.2)).getD [c]

/-- A name begins with an ampersand and has no other one. -/
def IsName (name : List Char) : Prop := name.head? = some '&' ∧ '&' ∉ name.tail

/-- Of two names neither begins the other, and the ampersand is not the earlier one. -/
def NamedBefore (e f : Char × List Char) : Prop := e.1 ≠ '&' ∧ ¬ e.2 <+: f.2 ∧ ¬ f.2 <+: e.2

instance (name : List Char) : Decidable (IsName name) :=
  inferInstanceAs (Decidable (name.head? = some '&' ∧ '&' ∉ name.tail))

instance (e f : Char × List Char) : Decidable (NamedBefore e f) :=
  inferInstanceAs (Decidable (e.1 ≠ '&' ∧ ¬ e.2 <+: f.2 ∧ ¬ f.2 <+: e.2))

variable {part new s t name text written : List Char} {c d : Char}
  {names : List (Char × List Char)}

theorem writtenBy_escapeEntities (text : List Char) :
    WrittenBy namedEntities text (escapeEntities text) := by
  induction text with
  | nil => exact .nil
  | cons c text ih =>
    rw [escapeEntities, List.flatMap_cons, ← escapeEntities]
    cases hfind : namedEntities.find? (·.1 == c) with
    | none =>
      have hnone := List.find?_eq_none.mp hfind
      refine .same (fun hc => ?_) ih
      subst hc
      exact absurd rfl (hnone ('&', "&amp;".toList) (by decide))
    | some e =>
      have hchar : e.1 = c := by simpa using List.find?_some hfind
      subst hchar
      exact .named (List.mem_of_find?_eq_some hfind) ih

section Replace

theorem after_eq_none_iff {head : List Char} : after? head s = none ↔ ¬ head <+: s := by
  rw [Option.eq_none_iff_forall_ne_some]
  constructor
  · rintro h ⟨rest, rfl⟩
    exact h rest (after_eq_some_iff.mpr rfl)
  · exact fun h rest hrest => h ⟨rest, (after_eq_some_iff.mp hrest).symm⟩

theorem length_after {head rest : List Char} (h : after? head s = some rest) :
    s.length = head.length + rest.length := by
  rw [after_eq_some_iff.mp h, List.length_append]

/-- More fuel than the text is long changes nothing. -/
theorem replaceAll_fuel (hp : part ≠ []) (new : List Char) {fuel more : Nat}
    (hf : s.length ≤ fuel) (hm : s.length ≤ more) :
    replaceAll part new fuel s = replaceAll part new more s := by
  induction fuel generalizing s more with
  | zero =>
    obtain rfl := List.eq_nil_of_length_eq_zero (Nat.le_zero.mp hf)
    cases more <;> rfl
  | succ fuel ih =>
    cases s with
    | nil => cases more <;> rfl
    | cons c s =>
      rw [List.length_cons] at hf hm
      obtain ⟨more, rfl⟩ := Nat.exists_eq_add_of_lt (Nat.lt_of_lt_of_le (Nat.succ_pos _) hm)
      rw [Nat.zero_add] at hm ⊢
      rw [replaceAll, replaceAll]
      cases hafter : after? part (c :: s) with
      | none => exact congrArg (c :: ·) (ih (by omega) (by omega))
      | some rest =>
        have hlength := length_after hafter
        have hpart := List.length_pos_of_ne_nil hp
        rw [List.length_cons] at hlength
        exact congrArg (new ++ ·) (ih (by omega) (by omega))

theorem replace_found (hp : part ≠ []) (new s : List Char) :
    replace part new (part ++ s) = new ++ replace part new s := by
  obtain ⟨c, rest, rfl⟩ := List.exists_cons_of_ne_nil hp
  have hfound : after? (c :: rest) (c :: (rest ++ s)) = some s := after_eq_some_iff.mpr rfl
  rw [replace, List.cons_append, List.length_cons, replaceAll, hfound]
  exact congrArg (new ++ ·) (replaceAll_fuel hp new (by simp) (Nat.le_refl _))

theorem replace_skip (new : List Char) (h : after? part (c :: s) = none) :
    replace part new (c :: s) = c :: replace part new s := by
  rw [replace, List.length_cons, replaceAll, h]
  rfl

theorem IsName.eq_cons (h : IsName name) : ∃ tail, name = '&' :: tail ∧ '&' ∉ tail := by
  obtain ⟨tail, rfl⟩ := List.head?_eq_some_iff.mp h.1
  exact ⟨tail, rfl, h.2⟩

theorem after_of_head {head : List Char} (h : c ≠ d) : after? (c :: head) (d :: s) = none :=
  if_neg h

/-- What holds no ampersand is left alone by the replacement of a name. -/
theorem replace_name_append (hpart : IsName part) (new : List Char) (ht : '&' ∉ t) (s : List Char) :
    replace part new (t ++ s) = t ++ replace part new s := by
  obtain ⟨tail, rfl, -⟩ := hpart.eq_cons
  induction t with
  | nil => rfl
  | cons c t ih =>
    obtain ⟨hc, ht⟩ := not_or.mp (mt List.mem_cons.mpr ht)
    rw [List.cons_append, replace_skip new (after_of_head hc), ih ht, List.cons_append]

/-- A name is left alone by the replacement of another one. -/
theorem replace_other_name (hpart : IsName part) (hname : IsName name) (new : List Char)
    (h : ¬ part <+: name) (h' : ¬ name <+: part) (s : List Char) :
    replace part new (name ++ s) = name ++ replace part new s := by
  have hnone : after? part (name ++ s) = none := by
    rw [after_eq_none_iff]
    intro hpart
    rcases List.prefix_or_prefix_of_prefix (List.prefix_append name s) hpart with hp | hp
    · exact h' hp
    · exact h hp
  obtain ⟨tail, rfl, htail⟩ := hname.eq_cons
  rw [List.cons_append] at hnone ⊢
  rw [replace_skip new hnone, replace_name_append hpart new htail, List.cons_append]

end Replace

section Decode

/-- The replacement of the first of the names leaves a text that is written by the others. -/
theorem writtenBy_replace (hnames : ∀ e ∈ (c, name) :: names, IsName e.2)
    (hfirst : ∀ e ∈ names, NamedBefore (c, name) e)
    (h : WrittenBy ((c, name) :: names) text written) :
    WrittenBy names text (replace name [c] written) := by
  obtain ⟨hname, hnames⟩ := List.forall_mem_cons.mp hnames
  induction h with
  | nil => exact .nil
  | @same d text written hsame rest ih =>
    have hd : '&' ∉ [d] := fun hmem =>
      absurd (hsame (List.mem_singleton.mp hmem).symm) (List.cons_ne_nil _ _)
    have hskip := replace_name_append hname [c] hd written
    rw [List.singleton_append] at hskip
    rw [hskip]
    exact .same (fun he => absurd (hsame he) (List.cons_ne_nil _ _)) ih
  | @named d other text written hmem rest ih =>
    rcases List.mem_cons.mp hmem with heq | hmem
    · cases heq
      have hlast : c = '&' → names = [] := by
        intro hc
        rw [List.eq_nil_iff_forall_not_mem]
        exact fun e he => (hfirst e he).1 hc
      rw [replace_found (fun hnone => by rw [hnone] at hname; cases hname.1)]
      exact .same hlast ih
    · obtain ⟨-, h₁, h₂⟩ := hfirst _ hmem
      rw [replace_other_name hname (hnames _ hmem) [c] h₁ h₂]
      exact .named hmem ih

theorem eq_of_writtenBy_nil (h : WrittenBy [] text written) : written = text := by
  induction h with
  | nil => rfl
  | same _ _ ih => rw [ih]
  | named hmem _ _ => cases hmem

/-- Replacing the names one after the other gives the text. -/
theorem replace_names (hnames : ∀ e ∈ names, IsName e.2) (hd : names.Pairwise NamedBefore)
    (h : WrittenBy names text written) :
    names.foldl (fun s e => replace e.2 [e.1] s) written = text := by
  induction names generalizing written with
  | nil => exact eq_of_writtenBy_nil h
  | cons e names ih =>
    obtain ⟨hfirst, hrest⟩ := List.pairwise_cons.mp hd
    exact ih (List.forall_mem_cons.mp hnames).2 hrest (writtenBy_replace hnames hfirst h)

/-- Decoding gives a text back from each form in which it is written, also where the text looks like
a name itself. -/
theorem decodeEntities_written (h : WrittenBy namedEntities text written) :
    decodeEntities written = text :=
  replace_names (by decide) (by decide) h

end Decode

end Archiver
