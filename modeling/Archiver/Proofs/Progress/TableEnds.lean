import Archiver.Proofs.Progress.Table

namespace Archiver

variable {s u z base : List UInt8} {cell : List UInt8} {row cells : List (List UInt8)}
  {rows more : List (List (List UInt8))}

section Unquoted

def unquoted (s : List UInt8) : List UInt8 := s.filter (· != 0x22)

theorem unquoted_append (s u : List UInt8) : unquoted (s ++ u) = unquoted s ++ unquoted u :=
  List.filter_append s u

theorem unquoted_quotes (cell : List UInt8) :
    unquoted (cell.flatMap quoteByte) = unquoted cell := by
  induction cell with
  | nil => rfl
  | cons b cell ih =>
    rw [List.flatMap_cons, unquoted_append, ih, ← List.singleton_append, unquoted_append]
    by_cases hb : b = 0x22
    · subst hb
      rfl
    · rw [quoteByte, if_neg (by simpa using hb)]

/-- The texts of a cell differ in their quotes only. -/
theorem unquoted_cell (h : CellText cell s) : unquoted s = unquoted cell := by
  cases h with
  | plain => rfl
  | quoted =>
    rw [List.cons_append, ← List.singleton_append, unquoted_append, unquoted_append,
      unquoted_quotes]
    exact List.append_nil _

theorem unquoted_cells (h : CellsText cells s) :
    unquoted s = cells.flatMap fun cell => unquoted cell ++ [0x2C] := by
  induction h with
  | nil => rfl
  | concat _ hcell ih =>
    rw [unquoted_append, unquoted_append, ih, unquoted_cell hcell, List.flatMap_append,
      List.flatMap_singleton, List.append_assoc]
    rfl

theorem unquoted_row (h : RowText row s) (h' : RowText row u) : unquoted s = unquoted u := by
  have hrow : ∀ {s}, RowText row s → unquoted s =
      (row.dropLast.flatMap fun cell => unquoted cell ++ [0x2C]) ++
        unquoted (row.getLast?.getD []) ++ [0x0A] := by
    rintro s ⟨hcells, hcell⟩
    rw [unquoted_append, unquoted_append, unquoted_cells hcells, unquoted_cell hcell,
      List.dropLast_concat, List.getLast?_concat]
    rfl
  rw [hrow h, hrow h']

/-- The texts of a table differ in their quotes only. -/
theorem unquoted_table (h : TableText rows s) (h' : TableText rows u) :
    unquoted s = unquoted u := by
  induction rows using List.reverseRecOn generalizing s u with
  | nil => rw [nil_of_tableText h, nil_of_tableText h']
  | append_singleton rows row ih =>
    obtain ⟨s, t, rfl, hs, ht⟩ := tableText_concat_iff.mp h
    obtain ⟨s', t', rfl, hs', ht'⟩ := tableText_concat_iff.mp h'
    rw [unquoted_append, unquoted_append, ih hs hs', unquoted_row ht ht']

theorem quotes_of_unquoted (h : unquoted z = []) : ∀ b ∈ z, (b == 0x22) = true := by
  intro b hb
  have hdrop := List.filter_eq_nil_iff.mp h b hb
  simpa using hdrop

end Unquoted

section Begins

theorem cells_begin (h : CellsText cells s) (hc : cells = cell :: row) :
    ∃ t u, CellText cell t ∧ s = t ++ 0x2C :: u := by
  induction h generalizing row with
  | nil => cases hc
  | @concat cells last s t hcells hlast ih =>
    cases cells with
    | nil =>
      cases hc
      rw [nil_of_cellsText hcells]
      exact ⟨t, [], hlast, rfl⟩
    | cons first cells =>
      obtain ⟨rfl, -⟩ := List.cons.inj hc
      obtain ⟨t', u, hcell, rfl⟩ := ih rfl
      exact ⟨t', u ++ t ++ [0x2C], hcell, by simp⟩

/-- A text of a row begins with a text of its first cell, after which comes no quote. -/
theorem row_begins (h : RowText row s) (hr : row = cell :: cells) :
    ∃ t b u, CellText cell t ∧ s = t ++ b :: u ∧ b ≠ 0x22 := by
  cases h with
  | @mk firsts last t v hcells hlast =>
    cases firsts with
    | nil =>
      cases hr
      rw [nil_of_cellsText hcells]
      exact ⟨v, 0x0A, [], hlast, rfl, by decide⟩
    | cons first firsts =>
      obtain ⟨rfl, -⟩ := List.cons.inj hr
      obtain ⟨t', u, hcell, rfl⟩ := cells_begin hcells rfl
      exact ⟨t', 0x2C, u ++ v ++ [0x0A], hcell, by simp, by decide⟩

theorem table_begins (h : TableText ((cell :: cells) :: rows) s) :
    ∃ t b u, CellText cell t ∧ s = t ++ b :: u ∧ b ≠ 0x22 := by
  rw [← List.singleton_append] at h
  obtain ⟨s, v, rfl, hfirst, -⟩ := tableText_append_iff.mp h
  rw [← List.nil_append [cell :: cells]] at hfirst
  obtain ⟨t, first, rfl, ht, hrow⟩ := tableText_concat_iff.mp hfirst
  obtain ⟨u, b, rest, hcell, rfl, hb⟩ := row_begins hrow rfl
  rw [nil_of_tableText ht]
  exact ⟨u, b, rest ++ v, hcell, by simp, hb⟩

end Begins

section Suffix

/-- The quotes that a text begins with. -/
def quotesOf (s : List UInt8) : List UInt8 := s.takeWhile (· == 0x22)

theorem quotesOf_append_cons {b : UInt8} (h : b ≠ 0x22) (s u : List UInt8) :
    quotesOf (s ++ b :: u) = quotesOf s := by
  have hstop : quotesOf (b :: u) = [] := List.takeWhile_cons_of_neg (by simpa using h)
  rw [quotesOf, List.takeWhile_append, ← quotesOf, ← quotesOf, hstop]
  split
  · next hall => rw [List.append_nil, quotesOf, (List.takeWhile_prefix _).eq_of_length hall]
  · rfl

theorem quotesOf_plain (h : cell.any needsQuotes = false) : quotesOf cell = [] := by
  cases cell with
  | nil => rfl
  | cons b cell =>
    obtain ⟨hb, -⟩ := Bool.or_eq_false_iff.mp h
    exact List.takeWhile_cons_of_neg (by simpa using (needsQuotes_eq_false.mp hb).1)

theorem quoteByte_plain (h : cell.any needsQuotes = false) : cell.flatMap quoteByte = cell := by
  induction cell with
  | nil => rfl
  | cons b cell ih =>
    obtain ⟨hb, hcell⟩ := Bool.or_eq_false_iff.mp h
    have hquote := (needsQuotes_eq_false.mp hb).1
    rw [List.flatMap_cons, ih hcell, quoteByte, if_neg (by simpa using hquote)]
    rfl

/-- Where a text of a table ends in another one of the same table, both are one, unless the first
cell is empty. -/
theorem eq_nil_of_suffix (h : TableText ((cell :: cells) :: rows) s)
    (h' : TableText ((cell :: cells) :: rows) (z ++ s)) (hc : cell ≠ []) : z = [] := by
  have hz : ∀ b ∈ z, (b == 0x22) = true := by
    apply quotes_of_unquoted
    have hsame := unquoted_table h h'
    rw [unquoted_append] at hsame
    simpa using hsame
  obtain ⟨t, b, u, hcell, rfl, hb⟩ := table_begins h
  obtain ⟨t', b', u', hcell', hs, hb'⟩ := table_begins h'
  have hquotes : z ++ quotesOf t = quotesOf t' := by
    rw [← quotesOf_append_cons hb t u, ← quotesOf_append_cons hb' t' u', ← hs, quotesOf, quotesOf,
      List.takeWhile_append_of_pos hz]
  cases hcell' with
  | plain h' =>
    rw [quotesOf_plain h'] at hquotes
    exact (List.append_eq_nil_iff.mp hquotes).1
  | quoted =>
    cases hcell with
    | quoted => exact List.append_left_eq_self.mp hquotes
    | plain hplain =>
      obtain ⟨c, rest, rfl⟩ := List.exists_cons_of_ne_nil hc
      have hc' : c ≠ 0x22 := (needsQuotes_eq_false.mp (Bool.or_eq_false_iff.mp hplain).1).1
      rw [quoteByte_plain hplain] at hquotes hs
      rw [quotesOf_plain hplain, List.append_nil] at hquotes
      have hone : z = [0x22] := by
        rw [hquotes]
        exact quotesOf_append_cons hc' [0x22] (rest ++ [0x22])
      -- the quote in `z` opens the cell, but nothing closes it
      rw [hone] at hs
      simp only [List.cons_append, List.nil_append, List.append_assoc, List.cons.injEq, true_and,
        List.append_cancel_left_eq] at hs
      exact absurd hs.1 hb

end Suffix

/-- Rows that are read as the last ones of a file have their text at its end, and what stands before
it is read as the rows before them, unless the first of them begins with an empty cell. -/
theorem read_of_read_append (hrows : ∀ row ∈ rows, row ≠ [])
    (hfirst : ∀ row ∈ rows, row.head? ≠ some [])
    (h : readTable (base ++ tableBytes rows) = some (more ++ rows)) :
    readTable base = some more := by
  rw [readTable_eq_some_iff] at h ⊢
  cases rows with
  | nil => simpa [tableBytes] using h
  | cons row rows =>
    obtain ⟨cell, cells, rfl⟩ := List.exists_cons_of_ne_nil (hrows row List.mem_cons_self)
    have hcell : cell ≠ [] := fun hnone => hfirst _ List.mem_cons_self (by rw [hnone]; rfl)
    have hwritten := tableText_written hrows
    obtain ⟨t, u, hsplit, ht, hu⟩ := tableText_append_iff.mp h
    rcases List.append_eq_append_iff.mp hsplit with ⟨z, rfl, hz⟩ | ⟨z, rfl, hz⟩
    · rw [hz] at hwritten
      rw [eq_nil_of_suffix hu hwritten hcell, List.append_nil] at ht
      exact ht
    · rw [hz] at hu
      rw [eq_nil_of_suffix hwritten hu hcell, List.append_nil]
      exact ht

theorem read_append_iff (hrows : ∀ row ∈ rows, row ≠ [])
    (hfirst : ∀ row ∈ rows, row.head? ≠ some []) :
    readTable (base ++ tableBytes rows) = some (more ++ rows) ↔ readTable base = some more := by
  refine ⟨read_of_read_append hrows hfirst, fun h => ?_⟩
  rw [readTable_eq_some_iff] at h ⊢
  exact tableText_append_iff.mpr ⟨base, tableBytes rows, rfl, h, tableText_written hrows⟩

end Archiver
