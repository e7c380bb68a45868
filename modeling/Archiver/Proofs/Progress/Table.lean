import Mathlib.Data.List.Induction
import Archiver.Progress.Capture

namespace Archiver

/-- The texts of a table cell: its bytes as they are, or between quotes with each quote doubled. -/
inductive CellText (cell : List UInt8) : List UInt8 → Prop where
  | plain (h : cell.any needsQuotes = false) : CellText cell cell
  | quoted : CellText cell (0x22 :: cell.flatMap quoteByte ++ [0x22])

/-- The texts of the cells that a row begins with, each with a comma after it. -/
inductive CellsText : List (List UInt8) → List UInt8 → Prop where
  | nil : CellsText [] []
  | concat {cells : List (List UInt8)} {cell s t : List UInt8} (cells_text : CellsText cells s)
      (cell_text : CellText cell t) : CellsText (cells ++ [cell]) (s ++ t ++ [0x2C])

/-- The texts of a row, with the line end after it. -/
inductive RowText : List (List UInt8) → List UInt8 → Prop where
  | mk {cells : List (List UInt8)} {cell s t : List UInt8} (cells_text : CellsText cells s)
      (cell_text : CellText cell t) : RowText (cells ++ [cell]) (s ++ t ++ [0x0A])

/-- The texts of a table. -/
inductive TableText : List (List (List UInt8)) → List UInt8 → Prop where
  | nil : TableText [] []
  | concat {rows : List (List (List UInt8))} {row : List (List UInt8)} {s t : List UInt8}
      (rows_text : TableText rows s) (row_text : RowText row t) : TableText (rows ++ [row]) (s ++ t)

/-- Where a reader of a table stands: at the beginning of a cell, in a cell without quotes, between
quotes, or after a quote that may be the closing one. -/
inductive CellPlace where
  | fresh
  | plain
  | quoted
  | closed
deriving DecidableEq

/-- What a reader of a table has read: whole rows, whole cells of a row, and a part of a cell. -/
structure TableReader where
  rows : List (List (List UInt8))
  row : List (List UInt8)
  cell : List UInt8
  place : CellPlace
deriving DecidableEq

def TableReader.start : TableReader := ⟨[], [], [], .fresh⟩

def TableReader.put (t : TableReader) (b : UInt8) (place : CellPlace) : TableReader :=
  { t with cell := t.cell ++ [b], place := place }

/-- Reads a byte that is not between quotes. -/
def TableReader.stepOpen (t : TableReader) (b : UInt8) : Option TableReader :=
  if b = 0x2C then some ⟨t.rows, t.row ++ [t.cell], [], .fresh⟩
  else if b = 0x0A then some ⟨t.rows ++ [t.row ++ [t.cell]], [], [], .fresh⟩
  else if b = 0x22 then
    match t.place with
    | .fresh => some { t with place := .quoted }
    | .closed => some (t.put b .quoted)
    | _ => none
  else if b = 0x0D ∨ t.place = .closed then none
  else some (t.put b .plain)

def TableReader.step (t : TableReader) (b : UInt8) : Option TableReader :=
  if t.place = .quoted then
    if b = 0x22 then some { t with place := .closed } else some (t.put b .quoted)
  else t.stepOpen b

/-- The rows of a reader that stands at the beginning of a row. -/
def TableReader.whole? (t : TableReader) : Option (List (List (List UInt8))) :=
  if t.row = [] ∧ t.place = .fresh then some t.rows else none

/-- Reads a table; none if its text is not that of whole rows. -/
def readTable (s : List UInt8) : Option (List (List (List UInt8))) :=
  (s.foldlM TableReader.step .start).bind TableReader.whole?

/-- The text of the part of a cell that was read up to a place. -/
def PartText (place : CellPlace) (cell : List UInt8) : List UInt8 → Prop :=
  match place with
  | .fresh => fun s => s = [] ∧ cell = []
  | .plain => fun s => s = cell ∧ cell.any needsQuotes = false
  | .quoted => fun s => s = 0x22 :: cell.flatMap quoteByte
  | .closed => fun s => s = 0x22 :: cell.flatMap quoteByte ++ [0x22]

/-- A reader has read a text. -/
def TableReader.Has (t : TableReader) (s : List UInt8) : Prop :=
  ∃ rows cells part, s = rows ++ cells ++ part ∧ TableText t.rows rows ∧ CellsText t.row cells ∧
    PartText t.place t.cell part

variable {cell s u : List UInt8} {row cells : List (List UInt8)}
  {rows more : List (List (List UInt8))} {t t' : TableReader} {b : UInt8}

section Sound

theorem needsQuotes_eq_false :
    needsQuotes b = false ↔ b ≠ 0x22 ∧ b ≠ 0x2C ∧ b ≠ 0x0A ∧ b ≠ 0x0D := by
  simp [needsQuotes, and_assoc]

theorem has_start : TableReader.start.Has [] := ⟨[], [], [], rfl, .nil, .nil, rfl, rfl⟩

/-- A part of a cell that is not between quotes may be the whole cell. -/
theorem cellText_of_part {place : CellPlace} (hplace : place ≠ .quoted)
    (h : PartText place cell s) : CellText cell s := by
  cases place with
  | fresh =>
    obtain ⟨rfl, rfl⟩ := h
    exact .plain rfl
  | plain =>
    obtain ⟨rfl, hplain⟩ := h
    exact .plain hplain
  | quoted => exact absurd rfl hplace
  | closed =>
    obtain rfl := h
    exact .quoted

theorem plain_of_part {place : CellPlace} (hplace : place ≠ .quoted) (hclosed : place ≠ .closed)
    (h : PartText place cell s) : s = cell ∧ cell.any needsQuotes = false := by
  cases place with
  | fresh =>
    obtain ⟨rfl, rfl⟩ := h
    exact ⟨rfl, rfl⟩
  | plain => exact h
  | quoted => exact absurd rfl hplace
  | closed => exact absurd rfl hclosed

theorem TableReader.Has.stepOpen (h : t.Has s) (hplace : t.place ≠ .quoted)
    (made : t.stepOpen b = some t') : t'.Has (s ++ [b]) := by
  obtain ⟨first, begun, part, rfl, hrows, hcells, hpart⟩ := h
  have hcell := cellText_of_part hplace hpart
  unfold TableReader.stepOpen at made
  split at made
  · next hb =>
    cases made
    subst hb
    exact ⟨first, begun ++ part ++ [0x2C], [], by simp, hrows, hcells.concat hcell, rfl, rfl⟩
  split at made
  · next hb =>
    cases made
    subst hb
    exact ⟨first ++ (begun ++ part ++ [0x0A]), [], [], by simp, hrows.concat (.mk hcells hcell),
      .nil, rfl, rfl⟩
  split at made
  · next hb =>
    subst hb
    split at made
    · next hfresh =>
      cases made
      rw [hfresh] at hpart
      obtain ⟨rfl, hnone⟩ := hpart
      refine ⟨first, begun, [0x22], by simp, hrows, hcells, ?_⟩
      simp [PartText, hnone]
    · next hclosed =>
      cases made
      rw [hclosed] at hpart
      refine ⟨first, begun, part ++ [0x22], by simp, hrows, hcells, ?_⟩
      rw [PartText] at hpart
      simp [PartText, TableReader.put, hpart, quoteByte]
    · cases made
  split at made
  · cases made
  · next hcomma hline hquote hreturn =>
    cases made
    obtain ⟨hreturn, hclosed⟩ := not_or.mp hreturn
    have hb : needsQuotes b = false := needsQuotes_eq_false.mpr ⟨hquote, hcomma, hline, hreturn⟩
    obtain ⟨rfl, hplain⟩ := plain_of_part hplace hclosed hpart
    refine ⟨first, begun, t.cell ++ [b], by simp, hrows, hcells, rfl, ?_⟩
    simpa [TableReader.put, hb] using hplain

theorem TableReader.Has.step (h : t.Has s) (made : t.step b = some t') : t'.Has (s ++ [b]) := by
  unfold TableReader.step at made
  split at made
  · next hplace =>
    obtain ⟨first, begun, part, rfl, hrows, hcells, hpart⟩ := h
    rw [hplace] at hpart
    split at made
    · next hb =>
      cases made
      subst hb
      refine ⟨first, begun, part ++ [0x22], by simp, hrows, hcells, ?_⟩
      rw [PartText] at hpart
      simp [PartText, hpart]
    · next hb =>
      cases made
      refine ⟨first, begun, part ++ [b], by simp, hrows, hcells, ?_⟩
      rw [PartText] at hpart
      simp [PartText, TableReader.put, hpart, quoteByte, hb]
  · next hplace => exact h.stepOpen hplace made

theorem TableReader.Has.run (h : t.Has s) (made : u.foldlM TableReader.step t = some t') :
    t'.Has (s ++ u) := by
  induction u generalizing t s with
  | nil =>
    cases made
    rwa [List.append_nil]
  | cons b u ih =>
    rw [List.foldlM_cons, Option.bind_eq_bind, Option.bind_eq_some_iff] at made
    obtain ⟨next, hb, hrest⟩ := made
    rw [List.append_cons]
    exact ih (h.step hb) hrest

theorem nil_of_cellsText (h : CellsText [] s) : s = [] := by
  generalize hnone : ([] : List (List UInt8)) = cells at h
  cases h with
  | nil => rfl
  | concat => exact absurd hnone (by simp)

theorem nil_of_tableText (h : TableText [] s) : s = [] := by
  generalize hnone : ([] : List (List (List UInt8))) = rows at h
  cases h with
  | nil => rfl
  | concat => exact absurd hnone (by simp)

theorem tableText_concat_iff : TableText (rows ++ [row]) s ↔
    ∃ t u, s = t ++ u ∧ TableText rows t ∧ RowText row u := by
  constructor
  · intro h
    generalize hsame : rows ++ [row] = all at h
    cases h with
    | nil => exact absurd hsame (by simp)
    | concat hrows hrow =>
      obtain ⟨rfl, hlast⟩ := List.append_inj' hsame rfl
      cases hlast
      exact ⟨_, _, rfl, hrows, hrow⟩
  · rintro ⟨t, u, rfl, hrows, hrow⟩
    exact hrows.concat hrow

/-- A text of a table is cut where a text of its first rows ends. -/
theorem tableText_append_iff : TableText (rows ++ more) s ↔
    ∃ t u, s = t ++ u ∧ TableText rows t ∧ TableText more u := by
  induction more using List.reverseRecOn generalizing s with
  | nil =>
    rw [List.append_nil]
    constructor
    · exact fun h => ⟨s, [], (List.append_nil s).symm, h, .nil⟩
    · rintro ⟨t, u, rfl, ht, hu⟩
      rwa [nil_of_tableText hu, List.append_nil]
  | append_singleton more row ih =>
    rw [← List.append_assoc, tableText_concat_iff]
    constructor
    · rintro ⟨t, u, rfl, ht, hrow⟩
      obtain ⟨first, second, rfl, hfirst, hsecond⟩ := ih.mp ht
      exact ⟨first, second ++ u, List.append_assoc .., hfirst, hsecond.concat hrow⟩
    · rintro ⟨t, u, rfl, ht, hu⟩
      obtain ⟨first, second, rfl, hfirst, hsecond⟩ := tableText_concat_iff.mp hu
      exact ⟨t ++ first, second, (List.append_assoc ..).symm, ih.mpr ⟨t, first, rfl, ht, hfirst⟩,
        hsecond⟩

/-- What is read as a table is a text of it. -/
theorem tableText_of_read (h : readTable s = some rows) : TableText rows s := by
  obtain ⟨t, hrun, hwhole⟩ := Option.bind_eq_some_iff.mp h
  obtain ⟨first, begun, part, hs, hrows, hcells, hpart⟩ := has_start.run hrun
  unfold TableReader.whole? at hwhole
  split at hwhole
  · next hend =>
    cases hwhole
    rw [hend.1] at hcells
    rw [hend.2] at hpart
    obtain rfl := nil_of_cellsText hcells
    obtain ⟨rfl, -⟩ := hpart
    rw [List.nil_append, List.append_nil, List.append_nil] at hs
    rwa [hs]
  · cases hwhole

end Sound

section Complete

theorem step_comma (h : t.place ≠ .quoted) :
    t.step 0x2C = some ⟨t.rows, t.row ++ [t.cell], [], .fresh⟩ := by
  rw [TableReader.step, if_neg h]
  rfl

theorem step_line (h : t.place ≠ .quoted) :
    t.step 0x0A = some ⟨t.rows ++ [t.row ++ [t.cell]], [], [], .fresh⟩ := by
  rw [TableReader.step, if_neg h]
  rfl

theorem run_append (t : TableReader) (s u : List UInt8) :
    (s ++ u).foldlM TableReader.step t =
      (s.foldlM TableReader.step t).bind (u.foldlM TableReader.step) := List.foldlM_append

theorem run_plain (h : cell.any needsQuotes = false) (hopen : t.place = .fresh ∨ t.place = .plain) :
    ∃ place, place ≠ .quoted ∧
      cell.foldlM TableReader.step t = some { t with cell := t.cell ++ cell, place := place } := by
  induction cell generalizing t with
  | nil =>
    refine ⟨t.place, ?_, by simp⟩
    rcases hopen with hp | hp <;> simp [hp]
  | cons b cell ih =>
    obtain ⟨hb, hcell⟩ := Bool.or_eq_false_iff.mp h
    obtain ⟨hquote, hcomma, hline, hreturn⟩ := needsQuotes_eq_false.mp hb
    have hstep : t.step b = some (t.put b .plain) := by
      rcases hopen with hp | hp <;>
        simp [TableReader.step, TableReader.stepOpen, hp, hquote, hcomma, hline, hreturn]
    obtain ⟨place, hplace, hrun⟩ := ih (t := t.put b .plain) hcell (Or.inr rfl)
    refine ⟨place, hplace, ?_⟩
    rw [List.foldlM_cons, hstep]
    simpa [TableReader.put] using hrun

theorem run_quoted (h : t.place = .quoted) :
    (cell.flatMap quoteByte).foldlM TableReader.step t =
      some { t with cell := t.cell ++ cell } := by
  induction cell generalizing t with
  | nil => simp
  | cons b cell ih =>
    have hbyte : (quoteByte b).foldlM TableReader.step t = some (t.put b .quoted) := by
      by_cases hb : b = 0x22
      · subst hb
        simp [quoteByte, TableReader.step, TableReader.stepOpen, TableReader.put, h]
      · simp [quoteByte, TableReader.step, hb, h]
    rw [List.flatMap_cons, run_append, hbyte]
    have hrest := ih (t := t.put b .quoted) rfl
    simpa [TableReader.put, h] using hrest

/-- A reader takes a text of a cell as that cell. -/
theorem run_cell (h : CellText cell s) (hp : t.place = .fresh) (hc : t.cell = []) :
    ∃ place, place ≠ .quoted ∧
      s.foldlM TableReader.step t = some { t with cell := cell, place := place } := by
  cases h with
  | plain h =>
    obtain ⟨place, hplace, hrun⟩ := run_plain h (Or.inl hp)
    exact ⟨place, hplace, by rwa [hc, List.nil_append] at hrun⟩
  | quoted =>
    refine ⟨.closed, by decide, ?_⟩
    have hfirst : t.step 0x22 = some { t with place := .quoted } := by
      simp [TableReader.step, TableReader.stepOpen, hp]
    rw [List.cons_append, List.foldlM_cons, hfirst]
    rw [Option.bind_eq_bind, Option.bind_some, run_append,
      run_quoted (t := { t with place := .quoted }) rfl, hc]
    rfl

theorem run_cells (h : CellsText cells s) (rows : List (List (List UInt8))) :
    s.foldlM TableReader.step ⟨rows, [], [], .fresh⟩ = some ⟨rows, cells, [], .fresh⟩ := by
  induction h with
  | nil => rfl
  | @concat cells cell s u _ hcell ih =>
    obtain ⟨place, hplace, hrun⟩ := run_cell (t := ⟨rows, cells, [], .fresh⟩) hcell rfl rfl
    rw [run_append, run_append, ih, Option.bind_some, hrun, Option.bind_some, List.foldlM_cons,
      step_comma hplace]
    rfl

theorem run_row (h : RowText row s) (rows : List (List (List UInt8))) :
    s.foldlM TableReader.step ⟨rows, [], [], .fresh⟩ = some ⟨rows ++ [row], [], [], .fresh⟩ := by
  cases h with
  | @mk cells cell s u hcells hcell =>
    obtain ⟨place, hplace, hrun⟩ := run_cell (t := ⟨rows, cells, [], .fresh⟩) hcell rfl rfl
    rw [run_append, run_append, run_cells hcells, Option.bind_some, hrun, Option.bind_some,
      List.foldlM_cons, step_line hplace]
    rfl

/-- From the beginning of a row a reader takes a text of a table as its rows. -/
theorem run_table (h : TableText more s) (rows : List (List (List UInt8))) :
    s.foldlM TableReader.step ⟨rows, [], [], .fresh⟩ = some ⟨rows ++ more, [], [], .fresh⟩ := by
  induction h with
  | nil => rw [List.append_nil]; rfl
  | @concat more row s u _ hrow ih =>
    rw [run_append, ih, Option.bind_some, run_row hrow, List.append_assoc]

/-- A text is read as the one table that it is a text of. -/
theorem readTable_eq_some_iff : readTable s = some rows ↔ TableText rows s := by
  refine ⟨tableText_of_read, fun h => ?_⟩
  rw [readTable, TableReader.start, run_table h, Option.bind_some, List.nil_append]
  rfl

end Complete

section Written

/-- The bytes of a table as it is written. -/
def tableBytes (rows : List (List (List UInt8))) : List UInt8 :=
  rows.flatMap fun row => (rowPieces row).flatten

theorem tableBytes_append (rows more : List (List (List UInt8))) :
    tableBytes (rows ++ more) = tableBytes rows ++ tableBytes more := List.flatMap_append

theorem cellText_written (cell : List UInt8) : CellText cell (fieldPieces cell).flatten := by
  unfold fieldPieces
  cases hq : cell.any needsQuotes with
  | false =>
    have hsame : (cell.map fun b => [b]).flatten = cell := by
      rw [← List.flatMap_def, List.flatMap_singleton']
    rw [if_neg Bool.false_ne_true, hsame]
    exact .plain hq
  | true =>
    have hquoted : ([0x22] :: (cell.map quoteByte ++ [[0x22]])).flatten =
        0x22 :: cell.flatMap quoteByte ++ [0x22] := by
      simp [List.flatMap_def]
    rw [if_pos rfl, hquoted]
    exact .quoted

theorem CellsText.cons (hcell : CellText cell s) (h : CellsText cells u) :
    CellsText (cell :: cells) (s ++ 0x2C :: u) := by
  induction h with
  | nil => exact CellsText.nil.concat hcell
  | concat _ hnext ih => simpa using ih.concat hnext

theorem RowText.cons (hcell : CellText cell s) (h : RowText row u) :
    RowText (cell :: row) (s ++ 0x2C :: u) := by
  obtain ⟨hcells, hlast⟩ := h
  simpa using RowText.mk (hcells.cons hcell) hlast

/-- A row as it is written is a text of it. -/
theorem rowText_written (h : row ≠ []) : RowText row (rowPieces row).flatten := by
  induction row with
  | nil => exact absurd rfl h
  | cons cell row ih =>
    cases row with
    | nil => simpa [rowPieces] using RowText.mk .nil (cellText_written cell)
    | cons next row =>
      have hrest := RowText.cons (cellText_written cell) (ih (List.cons_ne_nil _ _))
      simpa [rowPieces, List.intercalate_cons_cons] using hrest

theorem tableText_written (h : ∀ row ∈ rows, row ≠ []) : TableText rows (tableBytes rows) := by
  induction rows using List.reverseRecOn with
  | nil => exact .nil
  | append_singleton rows row ih =>
    obtain ⟨hrows, hrow⟩ := List.forall_mem_append.mp h
    rw [tableBytes_append, tableBytes, tableBytes, List.flatMap_singleton]
    exact (ih hrows).concat (rowText_written (hrow row (List.mem_singleton_self row)))

end Written

end Archiver
