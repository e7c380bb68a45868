import Archiver.Page.Markdown
import Archiver.Proofs.Text.Lines

namespace Archiver

/-- The lines that are not blank, each without the blanks at its end and with a mark if a blank line
stands before it; `gap` marks the first. -/
def spacedLines (gap : Bool) : List (List Char) → List (Bool × List Char)
  | [] => []
  | line :: rest =>
    if line.all isBlank then spacedLines true rest
    else (gap, trimEnd line) :: spacedLines false rest

/-- A line with the line ends before it. -/
def spacedLine (line : Bool × List Char) : List Char :=
  '\n' :: if line.1 then '\n' :: line.2 else line.2

/-- A line with the blank line before it. -/
def withGap (line : Bool × List Char) : List (List Char) :=
  if line.1 then [[], line.2] else [line.2]

/-- A line that has something in it, ends in no blank, and is one line. -/
structure IsSolid (line : List Char) : Prop where
  last : ∃ front c, line = front ++ [c] ∧ isBlank c = false
  single : '\n' ∉ line

/-- What a tidied text `t` is of a text `s`. -/
structure IsTidied (s t : List Char) : Prop where
  ends : (∀ c ∈ t.head?, isBlank c = false) ∧ ∀ c ∈ t.getLast?, isBlank c = false
  lineEnds : ∀ line ∈ lines t, ∀ c ∈ line.getLast?, isBlank c = false
  emptyLines : (lines t).IsChain fun line next => line ≠ [] ∨ next ≠ []
  marks : t.filter (!isBlank ·) = s.filter (!isBlank ·)
  /-- Two lines that are not blank keep one empty line between them, or none. -/
  gaps : ∀ front above gap below rest, lines s = front ++ above :: (gap ++ below :: rest) →
    above.all isBlank = false → below.all isBlank = false →
    (∀ line ∈ gap, line.all isBlank = true) → ∃ front' above' rest',
      lines t = front' ++ above' :: ((if gap = [] then [] else [[]]) ++ trimEnd below :: rest') ∧
      front'.countP (· ≠ []) = front.countP (fun line => !line.all isBlank) ∧
      above' = if front.all (·.all isBlank) then trimStart (trimEnd above) else trimEnd above
  again : tidyMarkdown t = t

section Trimming

variable {s t line : List Char} {c : Char}

theorem trimEnd_of_last (hc : isBlank c = false) (s : List Char) : trimEnd (s ++ [c]) = s ++ [c] := by
  simp [trimEnd, hc]

theorem trimStart_blanks (h : ∀ c ∈ t, isBlank c = true) (s : List Char) :
    trimStart (t ++ s) = trimStart s :=
  List.dropWhile_append_of_pos h

/-- A text with a character that is not blank is trimmed at its start whatever follows it. -/
theorem trimStart_append_right (h : s.all isBlank = false) (t : List Char) :
    trimStart (s ++ t) = trimStart s ++ t := by
  obtain ⟨c, rest, hrest, -⟩ := trimStart_cons h
  rw [trimStart, List.dropWhile_append, ← trimStart, hrest]
  rfl

theorem filter_trimStart (s : List Char) :
    (trimStart s).filter (!isBlank ·) = s.filter (!isBlank ·) := by
  induction s with
  | nil => rfl
  | cons c s ih =>
    cases hc : isBlank c with
    | true =>
      rw [trimStart, List.dropWhile_cons_of_pos hc, List.filter_cons_of_neg (by simp [hc])]
      exact ih
    | false => rw [trimStart, List.dropWhile_cons_of_neg (by simp [hc])]

theorem filter_trimEnd (s : List Char) :
    (trimEnd s).filter (!isBlank ·) = s.filter (!isBlank ·) := by
  rw [trimEnd, List.filter_reverse]
  change ((trimStart s.reverse).filter _).reverse = _
  rw [filter_trimStart, List.filter_reverse, List.reverse_reverse]

theorem IsSolid.ne_nil (h : IsSolid line) : line ≠ [] := by
  obtain ⟨front, c, rfl, -⟩ := h.last
  simp

theorem IsSolid.not_blank (h : IsSolid line) : line.all isBlank = false := by
  obtain ⟨front, c, rfl, hc⟩ := h.last
  simp [hc]

theorem IsSolid.getLast (h : IsSolid line) : ∀ c ∈ line.getLast?, isBlank c = false := by
  obtain ⟨front, c, rfl, hc⟩ := h.last
  simpa using hc

theorem IsSolid.trimEnd (h : IsSolid line) : trimEnd line = line := by
  obtain ⟨front, c, rfl, hc⟩ := h.last
  exact trimEnd_of_last hc front

theorem IsSolid.dropLineReturn (h : IsSolid line) : dropLineReturn line = line := by
  obtain ⟨front, c, hline, hc⟩ := h.last
  rcases dropLineReturn_cases line with heq | heq
  · exact heq
  · rw [hline] at heq
    obtain ⟨-, hreturn⟩ := List.append_inj' heq rfl
    cases hreturn
    exact absurd hc (by decide)

/-- A solid line without the blanks at its start is solid, and begins with no blank. -/
theorem IsSolid.trimStart (h : IsSolid line) :
    IsSolid (trimStart line) ∧ ∃ c rest, trimStart line = c :: rest ∧ isBlank c = false := by
  have hsuffix : Archiver.trimStart line <:+ line := List.dropWhile_suffix _
  obtain ⟨c, rest, hrest, hc⟩ := trimStart_cons h.not_blank
  obtain ⟨front, d, hfront, hd⟩ := h.last
  refine ⟨⟨?_, fun hmem => h.single (hsuffix.subset hmem)⟩, c, rest, hrest, hc⟩
  obtain ⟨before, hbefore⟩ := hsuffix
  have hlast : (c :: rest).getLast? = some d := by
    have hwhole := congrArg List.getLast? (hbefore.trans hfront)
    rw [hrest, List.getLast?_concat, List.getLast?_append, List.getLast?_cons, Option.some_or] at hwhole
    rwa [List.getLast?_cons]
  obtain ⟨front', hfront'⟩ := List.getLast?_eq_some_iff.mp hlast
  exact ⟨front', d, hrest.trans hfront', hd⟩

end Trimming

section Spacing

variable {gap : Bool} {line first : List Char} {ls rest : List (List Char)}
  {spaced : List (Bool × List Char)}

theorem spacedLines_blank (h : line.all isBlank = true) (gap : Bool) (rest : List (List Char)) :
    spacedLines gap (line :: rest) = spacedLines true rest := by
  rw [spacedLines, if_pos h]

theorem spacedLines_line (h : line.all isBlank = false) (gap : Bool) (rest : List (List Char)) :
    spacedLines gap (line :: rest) = (gap, trimEnd line) :: spacedLines false rest := by
  rw [spacedLines, if_neg (by simp [h])]

/-- The squeezed text is the lines with the gaps before them, and line ends after the last. -/
theorem squeezeLines_eq (gap : Bool) (ls : List (List Char)) :
    ∃ tail, (∀ c ∈ tail, isBlank c = true) ∧
      (if gap then ['\n'] else []) ++ '\n' :: squeezeLines gap ls =
        (spacedLines gap ls).flatMap spacedLine ++ tail := by
  induction ls generalizing gap with
  | nil =>
    refine ⟨(if gap then ['\n'] else []) ++ ['\n'], fun c hc => ?_, rfl⟩
    have hend : c = '\n' := by cases gap <;> simpa using hc
    rw [hend]
    rfl
  | cons line rest ih =>
    cases hline : line.all isBlank with
    | true =>
      obtain ⟨tail, htail, heq⟩ := ih true
      have hempty : (trimEnd line).isEmpty = true := by
        rw [List.isEmpty_iff, trimEnd_eq_nil_iff, hline]
      refine ⟨tail, htail, ?_⟩
      rw [spacedLines_blank hline, ← heq, squeezeLines]
      simp only [hempty, if_true]
      cases gap <;> rfl
    | false =>
      obtain ⟨tail, htail, heq⟩ := ih false
      have hfull : (trimEnd line).isEmpty = false := by
        rw [← Bool.not_eq_true, List.isEmpty_iff, trimEnd_eq_nil_iff, hline]
        decide
      refine ⟨tail, htail, ?_⟩
      rw [spacedLines_line hline, List.flatMap_cons, List.append_assoc, ← heq, squeezeLines]
      simp only [hfull, Bool.false_eq_true, if_false, List.nil_append, spacedLine]
      cases gap <;> simp

theorem spacedLines_solid (gap : Bool) (h : ∀ line ∈ ls, '\n' ∉ line) :
    ∀ line ∈ spacedLines gap ls, IsSolid line.2 := by
  induction ls generalizing gap with
  | nil => exact List.forall_mem_nil _
  | cons line rest ih =>
    obtain ⟨hsingle, hrest⟩ := List.forall_mem_cons.mp h
    cases hline : line.all isBlank with
    | true =>
      rw [spacedLines_blank hline]
      exact ih true hrest
    | false =>
      rw [spacedLines_line hline, List.forall_mem_cons]
      exact ⟨⟨trimEnd_last hline, fun hmem => hsingle ((trimEnd_isPrefix line).subset hmem)⟩,
        ih false hrest⟩

theorem flatMap_spacedLine (line : Bool × List Char) (spaced : List (Bool × List Char)) :
    (line :: spaced).flatMap spacedLine =
      (if line.1 then ['\n', '\n'] else ['\n']) ++ (line.2 ++ spaced.flatMap spacedLine) := by
  rw [List.flatMap_cons, spacedLine]
  cases line.1 <;> rfl

/-- The text of solid lines ends in a character that is not blank. -/
theorem spaced_last (hfirst : IsSolid first) (hspaced : ∀ line ∈ spaced, IsSolid line.2) :
    ∀ c ∈ (first ++ spaced.flatMap spacedLine).getLast?, isBlank c = false := by
  induction spaced generalizing first with
  | nil =>
    rw [List.flatMap_nil, List.append_nil]
    exact hfirst.getLast
  | cons line spaced ih =>
    obtain ⟨hline, hspaced⟩ := List.forall_mem_cons.mp hspaced
    have hne : line.2 ++ spaced.flatMap spacedLine ≠ [] := by simp [hline.ne_nil]
    rw [flatMap_spacedLine, ← List.append_assoc, List.getLast?_append_of_ne_nil _ hne]
    exact ih hline hspaced

/-- A text tidied is its lines that are not blank with the gaps between them. -/
theorem tidyMarkdown_eq (s : List Char) :
    tidyMarkdown s = match spacedLines false (lines s) with
      | [] => []
      | line :: spaced => trimStart line.2 ++ spaced.flatMap spacedLine := by
  obtain ⟨tail, htail, heq⟩ := squeezeLines_eq false (lines s)
  have hsolid := spacedLines_solid false (newline_not_mem_lines s)
  have hstart : tidyMarkdown s =
      trimEnd (trimStart ((spacedLines false (lines s)).flatMap spacedLine ++ tail)) := by
    rw [← heq]
    rfl
  rw [hstart]
  generalize spacedLines false (lines s) = spaced at hsolid
  cases spaced with
  | nil =>
    have hnone : ∀ c ∈ ([] : List Char).head?, isBlank c = false := fun c hc => by cases hc
    have hblank := trimStart_append htail hnone
    rw [List.append_nil] at hblank
    rw [List.flatMap_nil, List.nil_append, hblank]
    rfl
  | cons line spaced =>
    obtain ⟨hline, hspaced⟩ := List.forall_mem_cons.mp hsolid
    obtain ⟨hstartSolid, c, rest, hrest, hc⟩ := hline.trimStart
    have hends : ∀ c ∈ (if line.1 then ['\n', '\n'] else ['\n']), isBlank c = true := by
      intro c hc
      have hend : c = '\n' := by cases hgap : line.1 <;> simpa [hgap] using hc
      rw [hend]
      rfl
    rw [flatMap_spacedLine, List.append_assoc, List.append_assoc, trimStart_blanks hends,
      trimStart_append_right hline.not_blank, ← List.append_assoc,
      trimEnd_append htail (spaced_last hstartSolid hspaced)]

/-- The lines of a text of solid lines are these lines with the gaps between them. -/
theorem lines_spaced (hfirst : IsSolid first) (hspaced : ∀ line ∈ spaced, IsSolid line.2) :
    lines (first ++ spaced.flatMap spacedLine) = first :: spaced.flatMap withGap := by
  induction spaced generalizing first with
  | nil =>
    rw [List.flatMap_nil, List.append_nil, lines, splitAll_line hfirst.single, closeLines,
      if_neg (by simp [hfirst.ne_nil])]
    rfl
  | cons line spaced ih =>
    obtain ⟨hline, hspaced⟩ := List.forall_mem_cons.mp hspaced
    have hrest := ih hline hspaced
    have hsplit : ∀ t, lines (first ++ '\n' :: t) = first :: lines t := fun t => by
      rw [lines_append_newline, splitAll_line hfirst.single, List.map_singleton,
        hfirst.dropLineReturn, List.singleton_append]
    rw [flatMap_spacedLine, List.flatMap_cons, withGap]
    cases line.1 with
    | false => exact (hsplit _).trans (congrArg (first :: ·) hrest)
    | true =>
      refine (hsplit ('\n' :: (line.2 ++ spaced.flatMap spacedLine))).trans ?_
      have hempty := lines_append_newline [] (line.2 ++ spaced.flatMap spacedLine)
      rw [List.nil_append] at hempty
      rw [hempty, hrest]
      rfl

theorem spacedLines_withGap (hspaced : ∀ line ∈ spaced, IsSolid line.2) :
    spacedLines false (spaced.flatMap withGap) = spaced := by
  induction spaced with
  | nil => rfl
  | cons line spaced ih =>
    obtain ⟨hline, hrest⟩ := List.forall_mem_cons.mp hspaced
    obtain ⟨gap, line⟩ := line
    have hwhole : spacedLines false (withGap (gap, line) ++ spaced.flatMap withGap) =
        (gap, trimEnd line) :: spacedLines false (spaced.flatMap withGap) := by
      cases gap <;> exact spacedLines_line hline.not_blank _ _
    rw [List.flatMap_cons, hwhole, hline.trimEnd, ih hrest]

theorem spacedLines_append (gap : Bool) (ls rest : List (List Char)) :
    ∃ gap', spacedLines gap (ls ++ rest) = spacedLines gap ls ++ spacedLines gap' rest := by
  induction ls generalizing gap with
  | nil => exact ⟨gap, rfl⟩
  | cons line ls ih =>
    cases hline : line.all isBlank with
    | true =>
      rw [List.cons_append, spacedLines_blank hline, spacedLines_blank hline]
      exact ih true
    | false =>
      obtain ⟨gap', heq⟩ := ih false
      rw [List.cons_append, spacedLines_line hline, spacedLines_line hline, heq]
      exact ⟨gap', rfl⟩

/-- A line after a gap is marked as such. -/
theorem spacedLines_gap (hgap : ∀ line ∈ ls, line.all isBlank = true)
    (hline : line.all isBlank = false) (gap : Bool) (rest : List (List Char)) :
    spacedLines gap (ls ++ line :: rest) =
      (gap || !ls.isEmpty, trimEnd line) :: spacedLines false rest := by
  induction ls generalizing gap with
  | nil => simp [spacedLines_line hline]
  | cons blank ls ih =>
    obtain ⟨hblank, hls⟩ := List.forall_mem_cons.mp hgap
    rw [List.cons_append, spacedLines_blank hblank, ih hls]
    simp

theorem length_spacedLines (gap : Bool) (ls : List (List Char)) :
    (spacedLines gap ls).length = ls.countP fun line => !line.all isBlank := by
  induction ls generalizing gap with
  | nil => rfl
  | cons line ls ih =>
    cases hline : line.all isBlank with
    | true => rw [spacedLines_blank hline, ih, List.countP_cons_of_neg (by simp [hline])]
    | false =>
      rw [spacedLines_line hline, List.length_cons, ih, List.countP_cons_of_pos (by simp [hline])]

theorem countP_withGap (hspaced : ∀ line ∈ spaced, IsSolid line.2) :
    (spaced.flatMap withGap).countP (· ≠ []) = spaced.length := by
  induction spaced with
  | nil => rfl
  | cons line spaced ih =>
    obtain ⟨hline, hrest⟩ := List.forall_mem_cons.mp hspaced
    have hone : (withGap line).countP (· ≠ []) = 1 := by
      unfold withGap
      cases line.1 <;> simp [hline.ne_nil]
    rw [List.flatMap_cons, List.countP_append, hone, ih hrest, List.length_cons, Nat.add_comm]

theorem getLast_withGap (hspaced : ∀ line ∈ spaced, IsSolid line.2) :
    ∀ line ∈ spaced.flatMap withGap, ∀ c ∈ line.getLast?, isBlank c = false := by
  intro line hline c hc
  obtain ⟨⟨gap, solid⟩, hsolid, hmem⟩ := List.mem_flatMap.mp hline
  have hcases : line = [] ∨ line = solid := by
    cases gap
    · exact .inr (List.mem_singleton.mp hmem)
    · exact (List.mem_cons.mp hmem).imp_right List.mem_singleton.mp
  rcases hcases with rfl | rfl
  · cases hc
  · exact (hspaced _ hsolid).getLast c hc

/-- No two of the lines in a row are empty. -/
theorem chain_withGap (hfirst : first ≠ []) (hspaced : ∀ line ∈ spaced, IsSolid line.2) :
    (first :: spaced.flatMap withGap).IsChain fun line next => line ≠ [] ∨ next ≠ [] := by
  induction spaced generalizing first with
  | nil => exact .singleton _
  | cons line spaced ih =>
    obtain ⟨hline, hrest⟩ := List.forall_mem_cons.mp hspaced
    have hchain := ih hline.ne_nil hrest
    rw [List.flatMap_cons, withGap]
    cases line.1 with
    | false => exact .cons_cons (.inl hfirst) hchain
    | true => exact .cons_cons (.inl hfirst) (.cons_cons (.inr hline.ne_nil) hchain)

end Spacing

section Marks

variable {s : List Char}

theorem filter_splitAll (s : List Char) :
    ((splitAll (· == '\n') s).flatten).filter (!isBlank ·) = s.filter (!isBlank ·) := by
  induction s with
  | nil => rfl
  | cons c s ih =>
    rw [splitAll]
    split
    · next hc =>
      have hblank : isBlank c = true := by
        rw [beq_iff_eq.mp hc]
        decide
      rw [List.flatten_cons, List.nil_append, ih, List.filter_cons_of_neg (by simp [hblank])]
    · obtain ⟨run, runs, hruns⟩ := List.exists_cons_of_ne_nil (splitAll_ne_nil (· == '\n') s)
      rw [hruns] at ih ⊢
      rw [consFirst, List.flatten_cons, List.cons_append, List.filter_cons, List.filter_cons,
        ← List.flatten_cons, ih]

theorem filter_dropLineReturn (line : List Char) :
    (dropLineReturn line).filter (!isBlank ·) = line.filter (!isBlank ·) := by
  rcases dropLineReturn_cases line with heq | heq
  · rw [heq]
  · conv_rhs => rw [heq]
    rw [List.filter_append]
    exact (List.append_nil _).symm

/-- The lines of a text hold all of it that is not blank. -/
theorem filter_lines (s : List Char) :
    ((lines s).flatten).filter (!isBlank ·) = s.filter (!isBlank ·) := by
  rw [← filter_splitAll s, lines]
  fun_induction closeLines (splitAll (· == '\n') s) with
  | case1 => rfl
  | case2 last hlast => rw [List.isEmpty_iff.mp hlast]; rfl
  | case3 => rfl
  | case4 line rest hrest ih =>
    rw [List.flatten_cons, List.filter_append, ih, filter_dropLineReturn, List.flatten_cons,
      List.filter_append]

theorem filter_spacedLines (gap : Bool) (ls : List (List Char)) :
    ((spacedLines gap ls).flatMap spacedLine).filter (!isBlank ·) =
      ls.flatten.filter (!isBlank ·) := by
  induction ls generalizing gap with
  | nil => rfl
  | cons line ls ih =>
    cases hline : line.all isBlank with
    | true =>
      have hnone : line.filter (!isBlank ·) = [] := by
        rw [List.filter_eq_nil_iff]
        simpa using hline
      rw [spacedLines_blank hline, ih, List.flatten_cons, List.filter_append, hnone, List.nil_append]
    | false =>
      have hends : (if gap then ['\n', '\n'] else ['\n']).filter (!isBlank ·) = [] := by
        cases gap <;> rfl
      rw [spacedLines_line hline, flatMap_spacedLine, List.filter_append, hends, List.filter_append,
        ih, filter_trimEnd, List.nil_append, List.flatten_cons, List.filter_append]

end Marks

section Tidied

variable {s : List Char} {spaced : List (Bool × List Char)} {line : Bool × List Char}

theorem lines_tidyMarkdown (h : spacedLines false (lines s) = line :: spaced) :
    lines (tidyMarkdown s) = trimStart line.2 :: spaced.flatMap withGap := by
  have hsolid := spacedLines_solid false (newline_not_mem_lines s)
  rw [h, List.forall_mem_cons] at hsolid
  rw [tidyMarkdown_eq, h]
  exact lines_spaced hsolid.1.trimStart.1 hsolid.2

theorem tidyMarkdown_again (s : List Char) : tidyMarkdown (tidyMarkdown s) = tidyMarkdown s := by
  have hsolid := spacedLines_solid false (newline_not_mem_lines s)
  cases hlines : spacedLines false (lines s) with
  | nil =>
    have hnone : tidyMarkdown s = [] := by rw [tidyMarkdown_eq, hlines]
    rw [hnone]
    rfl
  | cons line spaced =>
    rw [hlines, List.forall_mem_cons] at hsolid
    obtain ⟨hstart, c, rest, hrest, hc⟩ := hsolid.1.trimStart
    have hall : ∀ l ∈ (false, trimStart line.2) :: spaced, IsSolid l.2 :=
      List.forall_mem_cons.mpr ⟨hstart, hsolid.2⟩
    have hspaced : spacedLines false (trimStart line.2 :: spaced.flatMap withGap) =
        (false, trimStart line.2) :: spaced :=
      spacedLines_withGap hall
    have hfixed : trimStart (trimStart line.2) = trimStart line.2 := by
      rw [hrest, trimStart, List.dropWhile_cons_of_neg (by simp [hc])]
    rw [tidyMarkdown_eq (tidyMarkdown s), lines_tidyMarkdown hlines, hspaced, tidyMarkdown_eq s,
      hlines]
    exact congrArg (· ++ _) hfixed

theorem filter_tidyMarkdown (s : List Char) :
    (tidyMarkdown s).filter (!isBlank ·) = s.filter (!isBlank ·) := by
  have hlines := filter_spacedLines false (lines s)
  rw [tidyMarkdown_eq, ← filter_lines s, ← hlines]
  cases spacedLines false (lines s) with
  | nil => rfl
  | cons line spaced =>
    have hends : (if line.1 then ['\n', '\n'] else ['\n']).filter (!isBlank ·) = [] := by
      cases line.1 <;> rfl
    rw [flatMap_spacedLine, List.filter_append, List.filter_append, List.filter_append, hends,
      filter_trimStart, List.nil_append]

theorem gaps_tidyMarkdown {front gap rest : List (List Char)} {above below : List Char}
    (hs : lines s = front ++ above :: (gap ++ below :: rest)) (habove : above.all isBlank = false)
    (hbelow : below.all isBlank = false) (hgap : ∀ line ∈ gap, line.all isBlank = true) :
    ∃ front' above' rest',
      lines (tidyMarkdown s) =
        front' ++ above' :: ((if gap = [] then [] else [[]]) ++ trimEnd below :: rest') ∧
      front'.countP (· ≠ []) = front.countP (fun line => !line.all isBlank) ∧
      above' = if front.all (·.all isBlank) then trimStart (trimEnd above) else trimEnd above := by
  obtain ⟨mark, hfront⟩ := spacedLines_append false front (above :: (gap ++ below :: rest))
  rw [← hs, spacedLines_line habove, spacedLines_gap hgap hbelow, Bool.false_or] at hfront
  have hbetween : withGap (!gap.isEmpty, trimEnd below) =
      (if gap = [] then [] else [[]]) ++ [trimEnd below] := by
    cases gap <;> rfl
  have hcount := length_spacedLines false front
  have hsolid := spacedLines_solid false (newline_not_mem_lines s)
  have hnone : spacedLines false front = [] ↔ front.all (·.all isBlank) = true := by
    rw [← List.length_eq_zero_iff, hcount, List.countP_eq_zero]
    simp
  cases hbefore : spacedLines false front with
  | nil =>
    rw [hbefore, List.nil_append] at hfront
    refine ⟨[], trimStart (trimEnd above), (spacedLines false rest).flatMap withGap, ?_, ?_, ?_⟩
    · rw [lines_tidyMarkdown hfront, List.flatMap_cons, hbetween, List.append_assoc]
      rfl
    · rw [← hcount, hbefore]
      rfl
    · rw [if_pos (hnone.mp hbefore)]
  | cons first before =>
    rw [hbefore, List.cons_append] at hfront
    rw [hfront, List.forall_mem_cons] at hsolid
    have hbeforeSolid : ∀ line ∈ before, IsSolid line.2 := fun line hline =>
      hsolid.2 line (List.mem_append_left _ hline)
    refine ⟨trimStart first.2 :: (before.flatMap withGap ++ if mark then [[]] else []),
      trimEnd above, (spacedLines false rest).flatMap withGap, ?_, ?_, ?_⟩
    · have hmark : withGap (mark, trimEnd above) =
          (if mark then [[]] else []) ++ [trimEnd above] := by
        cases mark <;> rfl
      rw [lines_tidyMarkdown hfront, List.flatMap_append, List.flatMap_cons, List.flatMap_cons,
        hbetween, hmark]
      simp
    · have hempty : (if mark then [[]] else [] : List (List Char)).countP (· ≠ []) = 0 := by
        cases mark <;> rfl
      rw [List.countP_cons_of_pos (by simp [hsolid.1.trimStart.1.ne_nil]), List.countP_append,
        countP_withGap hbeforeSolid, hempty, ← hcount, hbefore]
      rfl
    · rw [if_neg]
      rw [← hnone, hbefore]
      exact List.cons_ne_nil _ _

end Tidied

/-- Tidying a text leaves no blank at its ends or at the end of a line, and no two empty lines in a
row; all that is not blank stays, in order; lines apart stay apart by one empty line; and a tidied
text is left as it is. -/
theorem tidyMarkdown_tidies (s : List Char) : IsTidied s (tidyMarkdown s) := by
  have hsolid := spacedLines_solid false (newline_not_mem_lines s)
  have hmarks := filter_tidyMarkdown s
  have hagain := tidyMarkdown_again s
  cases hlines : spacedLines false (lines s) with
  | nil =>
    have hnone : tidyMarkdown s = [] := by rw [tidyMarkdown_eq, hlines]
    have hempty : lines (tidyMarkdown s) = [] := by
      rw [hnone]
      rfl
    constructor
    case ends => simp [hnone]
    case lineEnds => simp [hempty]
    case emptyLines => simp [hempty]
    case marks => exact hmarks
    case gaps => exact fun _ _ _ _ _ => gaps_tidyMarkdown
    case again => exact hagain
  | cons line spaced =>
    rw [hlines, List.forall_mem_cons] at hsolid
    obtain ⟨hstart, c, rest, hrest, hc⟩ := hsolid.1.trimStart
    have htext : tidyMarkdown s = trimStart line.2 ++ spaced.flatMap spacedLine := by
      rw [tidyMarkdown_eq, hlines]
    have hresult := lines_tidyMarkdown hlines
    constructor
    case ends =>
      refine ⟨?_, htext ▸ spaced_last hstart hsolid.2⟩
      rw [htext, hrest]
      exact fun d hd => Option.mem_some.mp hd ▸ hc
    case lineEnds =>
      rw [hresult, List.forall_mem_cons]
      exact ⟨hstart.getLast, getLast_withGap hsolid.2⟩
    case emptyLines => exact hresult ▸ chain_withGap hstart.ne_nil hsolid.2
    case marks => exact hmarks
    case gaps => exact fun _ _ _ _ _ => gaps_tidyMarkdown
    case again => exact hagain

/-- Two lines with a blank one of either kind between them, the first moved in, the second with a
carriage return in it. -/
def looseText : List Char := "\r\n  First \u3000\r\n\u2003\n\r\n second\rhalf\t\n\n".toList

theorem tidyMarkdown_tidies_loose :
    IsTidied looseText "First\n\n second\rhalf".toList ∧
      ∃ front rest, lines "First\n\n second\rhalf".toList =
        front ++ "First".toList :: [] :: " second\rhalf".toList :: rest ∧
        front.countP (· ≠ []) = 0 := by
  have htext : tidyMarkdown looseText = "First\n\n second\rhalf".toList := by decide +kernel
  have hlaw := tidyMarkdown_tidies looseText
  rw [htext] at hlaw
  have hsplit : lines looseText = [[]] ++ "  First \u3000".toList ::
      (["\u2003".toList, []] ++ " second\rhalf\t".toList :: [[]]) := by
    decide +kernel
  obtain ⟨front, above, rest, hlines, hcount, rfl⟩ :=
    hlaw.gaps _ _ _ _ _ hsplit (by decide) (by decide) (by decide)
  exact ⟨hlaw, front, rest, hlines, hcount⟩

end Archiver
