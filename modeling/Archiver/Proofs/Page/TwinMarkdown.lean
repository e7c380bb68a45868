import Mathlib.Data.List.DropRight
import Archiver.Page.Markdown
import Archiver.Proofs.Page.TwinPages

namespace Archiver

/-- Two settings that differ at most in the orders of the elements around. -/
structure Setting.Twin (R : Nat → Nat → Prop) (s s' : Setting) : Prop where
  outer : Option.Rel (Element.Twin R) s.outer s'.outer
  items : s.items = s'.items

section Pieces

variable {pieces settled : Pieces} {s : Setting} {atStart : Bool}

theorem trimSpacesEnd_trimmed (piece : List Char) :
    trimSpacesEnd (trimSpacesEnd piece) = trimSpacesEnd piece :=
  List.rdropWhile_idempotent (· == ' ') piece

/-- Spaces that were dropped once are gone. -/
theorem dropSpaces_settled (pieces : Pieces) : pieces.dropSpaces.dropSpaces = pieces.dropSpaces := by
  match pieces with
  | [] => rfl
  | piece :: rest =>
    rw [Pieces.dropSpaces]
    by_cases hlength : (trimSpacesEnd piece).length = piece.length
    · simp only [Pieces.dropSpaces, hlength, beq_self_eq_true, if_true]
    · simp only [Pieces.dropSpaces, trimSpacesEnd_trimmed, beq_self_eq_true, if_true,
        beq_eq_false_iff_ne.mpr hlength, Bool.false_eq_true, if_false]

theorem dropSpaces_keeps (hsettled : settled.dropSpaces = settled) (h : settled <:+ pieces) :
    settled <:+ pieces.dropSpaces := by
  induction pieces with
  | nil => exact h
  | cons piece rest ih =>
    rcases List.suffix_cons_iff.mp h with rfl | hrest
    · simp only [hsettled, List.suffix_rfl]
    · rw [Pieces.dropSpaces]
      split
      · exact h
      · exact (ih hrest).trans (List.suffix_cons _ _)

theorem addText_keeps (content : List Char) (h : settled <:+ pieces) :
    settled <:+ pieces.addText s atStart content := by
  unfold Pieces.addText
  split
  · exact h.trans (List.suffix_cons _ _)
  split
  · exact h
  dsimp only
  split <;> exact h.trans (List.suffix_cons _ _)

theorem drop_keeps {inner : Pieces} (h : settled <:+ pieces) (hinner : settled <:+ inner) :
    settled <:+ inner.drop (inner.length - pieces.length) := by
  obtain ⟨new, rfl⟩ := hinner
  have hlength := h.length_le
  rw [List.drop_append_of_le_length (by rw [List.length_append]; omega)]
  exact List.suffix_append _ _

/-- Writing takes nothing away from pieces that end without spaces. -/
theorem write_keeps (hsettled : settled.dropSpaces = settled) (ns : Nodes) (s : Setting)
    (atStart : Bool) (h : settled <:+ pieces) : settled <:+ ns.write s atStart pieces := by
  induction ns generalizing s atStart pieces with
  | nil => exact h
  | text content rest ih => exact ih _ _ (addText_keeps content h)
  | comment _ rest ih => exact ih _ _ h
  | element e children rest ihchildren ih =>
    have hbefore : settled <:+ if blockNames.contains e.name then pieces.dropSpaces else pieces := by
      split
      · exact dropSpaces_keeps hsettled h
      · exact h
    have hafter := drop_keeps hbefore (ihchildren ⟨some e, 0⟩ (blockNames.contains e.name) hbefore)
    rw [Nodes.write]
    split
    · exact ih _ _ hafter
    split
    · exact ih _ _ hafter
    · exact ih _ _ (hafter.trans (List.suffix_cons _ _))

/-- What a silent element writes is taken back, but for the spaces before it. -/
theorem write_silent {e : Element} (he : e.isSilent = true) (children rest : Nodes) :
    (Nodes.element e children rest).write s atStart pieces = rest.write s atStart pieces.dropSpaces := by
  have hblock : blockNames.contains e.name = true ∧ (e.name == "li") = false := by
    simp only [Element.isSilent, Bool.or_eq_true, beq_iff_eq] at he
    rcases he with he | he <;> rw [he] <;> decide
  have hhidden := hidden_of_silent he
  have hinner := write_keeps (dropSpaces_settled pieces) children ⟨some e, 0⟩ true List.suffix_rfl
  rw [Nodes.write]
  simp only [hblock, if_true, Element.markdown?, hhidden, Bool.false_eq_true, if_false]
  rw [← List.suffix_iff_eq_drop.mp hinner]

end Pieces

section Twins

variable {R : Nat → Nat → Prop} {s s' : Setting}

theorem outerName_twin (h : s.Twin R s') : s.outerName = s'.outerName := by
  obtain ⟨outer, items⟩ := s
  obtain ⟨outer', items'⟩ := s'
  cases h.outer with
  | none => rfl
  | some he =>
    obtain ⟨n, -, rfl⟩ := he
    rfl

theorem addText_twin (h : s.Twin R s') (pieces : Pieces) (atStart : Bool) (content : List Char) :
    pieces.addText s atStart content = pieces.addText s' atStart content := by
  unfold Pieces.addText
  rw [outerName_twin h]

theorem markdown_twin {e e' : Element} (he : e.Twin R e') (h : s.Twin R s') (content : List Char) :
    e.markdown? s content = e'.markdown? s' content := by
  obtain ⟨outer, items⟩ := s
  obtain ⟨outer', items'⟩ := s'
  obtain ⟨n, -, rfl⟩ := he
  obtain rfl : items = items' := h.items
  cases h.outer with
  | none => rfl
  | some ho =>
    obtain ⟨m, -, rfl⟩ := ho
    rfl

/-- Twins write the same. -/
theorem write_twin {ns ms : Nodes} (h : Nodes.Twin R false ns ms) (hs : s.Twin R s')
    (atStart : Bool) (pieces : Pieces) : ns.write s atStart pieces = ms.write s' atStart pieces := by
  generalize hsilent : false = silent at h
  induction h generalizing s s' atStart pieces with
  | nil => rfl
  | text content _ ih =>
    rw [Nodes.write, Nodes.write, addText_twin hs, ih hs _ _ hsilent]
  | comment _ _ ih => exact ih hs _ _ hsilent
  | @element _ e e' children children' rest rest' he hchildren _ ihchildren ih =>
    subst hsilent
    cases hname : e.isSilent with
    | true =>
      have hname' : e'.isSilent = true := by
        obtain ⟨n, -, rfl⟩ := he
        exact hname
      rw [write_silent hname, write_silent hname', ih hs _ _ rfl]
    | false =>
      have hbelow : Setting.Twin R ⟨some e, 0⟩ ⟨some e', 0⟩ := ⟨.some he, rfl⟩
      have hsame : e'.name = e.name := by
        obtain ⟨n, -, rfl⟩ := he
        rfl
      have hnext : Setting.Twin R (if e.name == "li" then { s with items := s.items + 1 } else s)
          (if e.name == "li" then { s' with items := s'.items + 1 } else s') := by
        split
        · exact ⟨hs.outer, congrArg (· + 1) hs.items⟩
        · exact hs
      rw [Nodes.write, Nodes.write, hsame]
      simp only [ihchildren hbelow _ _ (by rw [hname]; rfl), markdown_twin he hs, ih hnext _ _ rfl]
  | left => cases hsilent
  | right => cases hsilent

theorem rawMarkdown_twin {d d' : Document} (h : Nodes.Twin R false d.nodes d'.nodes) :
    d.rawMarkdown = d'.rawMarkdown := by
  rw [Document.rawMarkdown, Document.rawMarkdown, write_twin h ⟨.none, rfl⟩]

end Twins

end Archiver
