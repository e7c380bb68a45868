import Archiver.Proofs.Text.Lines
import Archiver.Storage.Files

namespace Archiver

/-- A name that leads one step down. -/
structure IsPlain (name : String) : Prop where
  noSlash : '/' ∉ name.toList
  nonempty : name ≠ ""
  noDot : name ≠ "."
  noDots : name ≠ ".."

theorem step_plain {name : String} (h : IsPlain name) (path : Path) :
    path.step name = path ++ [name] := by
  simp [Path.step, h.nonempty, h.noDot, h.noDots]

/-- The path that a text leads to from a directory. -/
def follow (start : Path) (text : List Char) : Path :=
  ((splitAll (· == '/') text).map String.ofList).foldl Path.step start

theorem ofText_eq (text : String) :
    Path.ofText text = follow (if text.startsWith "/" then ["/"] else []) text.toList := rfl

theorem follow_slash (start : Path) (text rest : List Char) :
    follow start (text ++ '/' :: rest) = follow (follow start text) rest := by
  rw [follow, splitAll_append_sep (by decide), List.map_append, List.foldl_append]
  rfl

theorem follow_plain {name : String} (h : IsPlain name) (start : Path) :
    follow start name.toList = start ++ [name] := by
  have hs : splitAll (· == '/') name.toList = [name.toList] := by
    apply splitAll_of_not_mem
    intro c hc
    have hne : c ≠ '/' := fun he => h.noSlash (he ▸ hc)
    simpa using hne
  rw [follow, hs, List.map_singleton, String.ofList_toList, List.foldl_cons, List.foldl_nil,
    step_plain h]

theorem follow_nil (start : Path) : follow start [] = start := rfl

theorem startsWith_slash (text : String) :
    text.startsWith "/" = true ↔ ∃ rest, text.toList = '/' :: rest := by
  rw [String.startsWith_string_iff]
  constructor
  · rintro ⟨rest, h⟩
    exact ⟨rest, h.symm⟩
  · rintro ⟨rest, h⟩
    exact ⟨rest, h.symm⟩

theorem endsWith_slash {text : String} (h : text.endsWith "/" = true) :
    ∃ front, text.toList = front ++ ['/'] := by
  have hs : text.toSlice.endsWith "/" = true := h
  rw [String.Slice.endsWith_string_iff] at hs
  obtain ⟨front, hf⟩ := hs
  refine ⟨front, ?_⟩
  simpa using hf.symm

theorem startsWith_append {text more : String} (h : text ≠ "") :
    (text ++ more).startsWith "/" = text.startsWith "/" := by
  rw [Bool.eq_iff_iff, startsWith_slash, startsWith_slash, String.toList_append]
  cases ht : text.toList with
  | nil => exact absurd (String.toList_eq_nil_iff.mp ht) h
  | cons c rest => simp

theorem IsPlain.startsWith {name : String} (h : IsPlain name) : name.startsWith "/" = false := by
  rw [Bool.eq_false_iff]
  intro hs
  obtain ⟨rest, hr⟩ := (startsWith_slash name).mp hs
  exact h.noSlash (hr ▸ List.mem_cons_self)

/-- A plain name joined to a directory leads one step down from it. -/
theorem ofText_joinPath {name : String} (h : IsPlain name) (directory : String) :
    Path.ofText (joinPath directory name) = Path.ofText directory ++ [name] := by
  have hname := h.startsWith
  unfold joinPath
  rw [if_neg (by simp [hname])]
  by_cases hd : directory = ""
  · subst hd
    rw [if_pos (by simp), String.empty_append, ofText_eq, hname, follow_plain h]
    rfl
  by_cases he : directory.endsWith "/" = true
  · obtain ⟨front, hf⟩ := endsWith_slash he
    rw [if_pos (by simp [he]), ofText_eq, ofText_eq, startsWith_append hd, String.toList_append, hf,
      List.append_assoc, List.singleton_append, follow_slash, follow_slash, follow_plain h,
      follow_nil]
  · have hempty : directory.isEmpty = false := by simpa using hd
    rw [if_neg (by simp [hempty, he]), String.append_assoc, ofText_eq, ofText_eq,
      startsWith_append hd, String.toList_append, String.toList_append]
    exact (follow_slash _ _ _).trans (follow_plain h _)

end Archiver
