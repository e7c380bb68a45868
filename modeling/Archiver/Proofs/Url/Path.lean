import Archiver.Proofs.Text.Lines
import Archiver.Proofs.Url.WebUrl

namespace Archiver

/-- The path that the text of a path comes to where either slash separates. -/
def webPath (s : List Char) : List Char := pathOfStack (addSegments false [] (splitAll isSlash s))

/-- Drops one slash in front. -/
def dropSlash : List Char → List Char
  | [] => []
  | c :: s => if isSlash c then s else c :: s

section Reading

variable {scheme s t : List Char} {c : Char}

theorem parsePathFrom_path (h : isWebScheme scheme = true) (s : List Char) :
    (parsePathFrom scheme [] s).1 = webPath (takePath s).1 := by
  obtain ⟨hspecial, hfile⟩ := special_of_web h
  have hsep : (fun c => c == '/' || (isSpecialScheme scheme && c == '\\')) = isSlash := by
    funext c
    rw [hspecial, Bool.true_and, isSlash]
  unfold parsePathFrom
  simp only [hsep, hfile]
  rfl

theorem takePath_cons (h : isSlash c = true) (s : List Char) :
    (takePath (c :: s)).1 = c :: (takePath s).1 := by
  simp only [isSlash, Bool.or_eq_true, beq_iff_eq] at h
  obtain rfl | rfl := h <;> rfl

theorem parsePathStart_path (h : isWebScheme scheme = true) (s : List Char) :
    (parsePathStart scheme s).1 = webPath (dropSlash (takePath s).1) := by
  obtain ⟨hspecial, -⟩ := special_of_web h
  unfold parsePathStart
  rw [hspecial]
  cases s with
  | nil => rfl
  | cons c s =>
    simp only [Bool.true_and, Bool.not_true, Bool.false_and, Bool.false_eq_true, if_false]
    change (if isSlash c = true then _ else _ : List Char × List Char).1 = _
    by_cases hc : isSlash c = true
    · rw [if_pos hc, parsePathFrom_path h, takePath_cons hc, dropSlash, if_pos hc]
    · rw [if_neg hc, parsePathFrom_path h]
      have hdrop : dropSlash (takePath (c :: s)).1 = (takePath (c :: s)).1 := by
        unfold takePath
        rw [List.takeWhile_cons]
        split
        · exact if_neg hc
        · rfl
      rw [hdrop]

/-- No question mark and no number sign stands in the text of a path. -/
def IsPathText (s : List Char) : Prop := '?' ∉ s ∧ '#' ∉ s

theorem takePath_self (hs : IsPathText s) : (takePath s).1 = s := by
  refine List.takeWhile_eq_self_iff.mpr fun d hd => ?_
  have hquery : d ≠ '?' := fun h => hs.1 (h ▸ hd)
  have hfragment : d ≠ '#' := fun h => hs.2 (h ▸ hd)
  simp [hquery, hfragment]

theorem takePath_append (hs : IsPathText s) (hc : c = '?' ∨ c = '#') (t : List Char) :
    (takePath (s ++ c :: t)).1 = s := by
  have hstop : (c != '?' && c != '#') = false := by obtain rfl | rfl := hc <;> rfl
  have htake := takeWhile_append_stop (p := fun c => c != '?' && c != '#') hstop s t
  exact htake.trans (takePath_self hs)

end Reading

section Slash

/-- One segment is read: a double dot goes back, a dot stays, anything else is entered. -/
theorem addSegments_cons (stack rest : List (List Char)) (segment : List Char) :
    addSegments false stack (segment :: rest) =
      if isDoubleDot segment then
        addSegments false (if rest.isEmpty then [] :: popSegment stack else popSegment stack) rest
      else if isDot segment then addSegments false (if rest.isEmpty then [] :: stack else stack) rest
      else addSegments false (percentEncode staysInPath segment :: stack) rest := by
  rw [addSegments]
  simp only [Bool.false_and, Bool.false_eq_true, if_false]
  refine if_congr Iff.rfl rfl (if_congr Iff.rfl rfl ?_)
  split <;> rfl

theorem addSegments_nil (stack : List (List Char)) : addSegments false stack [] = stack := rfl

theorem addSegments_empty (stack : List (List Char)) :
    addSegments false stack [[]] = [] :: stack := rfl

/-- A slash at the end adds an empty segment, if there is none already. -/
theorem addSegments_slash {segments : List (List Char)} (hne : segments ≠ [])
    (stack : List (List Char)) :
    addSegments false stack (segments ++ [[]]) = addSegments false stack segments ∨
      addSegments false stack (segments ++ [[]]) = [] :: addSegments false stack segments := by
  induction segments generalizing stack with
  | nil => exact absurd rfl hne
  | cons segment rest ih =>
    cases rest with
    | nil =>
      rw [List.cons_append, List.nil_append, addSegments_cons stack [[]] segment,
        addSegments_cons stack [] segment]
      simp only [List.isEmpty_cons, List.isEmpty_nil, Bool.false_eq_true, if_false, if_true,
        addSegments_nil, addSegments_empty]
      split_ifs
      · exact Or.inl rfl
      · exact Or.inl rfl
      · exact Or.inr rfl
    | cons next rest =>
      have hnext : next :: rest ≠ [] := List.cons_ne_nil _ _
      rw [List.cons_append, addSegments_cons stack _ segment,
        addSegments_cons stack (next :: rest) segment]
      simp only [List.cons_append, List.isEmpty_cons, Bool.false_eq_true, if_false]
      split_ifs
      · exact ih hnext _
      · exact ih hnext _
      · exact ih hnext _

theorem tidySegments_empty (segments stack : List (List Char)) :
    tidySegments stack (segments ++ [[]]) = tidySegments stack segments := by
  induction segments generalizing stack with
  | nil => rfl
  | cons segment rest ih =>
    rw [List.cons_append, tidySegments, tidySegments]
    split_ifs
    · exact ih _
    · exact ih _
    · exact ih _

theorem tidyPath_slash (path : List Char) : tidyPath (path ++ ['/']) = tidyPath path := by
  unfold tidyPath
  rw [splitAll_append_sep (by decide), show splitAll (· == '/') [] = [[]] from rfl,
    tidySegments_empty]

/-- A slash at the end of a path's text is tidied away. -/
theorem tidyPath_webPath_slash (s : List Char) :
    tidyPath (webPath (s ++ ['/'])) = tidyPath (webPath s) := by
  unfold webPath
  rw [splitAll_append_sep (by decide), show splitAll isSlash [] = [[]] from rfl]
  rcases addSegments_slash (splitAll_ne_nil isSlash s) [] with h | h <;> rw [h]
  rw [pathOfStack, List.reverse_cons, List.flatMap_append]
  exact tidyPath_slash _

theorem canonicalPath_slash {scheme s : List Char} (h : isWebScheme scheme = true)
    (hs : IsPathText s) :
    canonicalPath (parsePathStart scheme (s ++ ['/'])).1 =
      canonicalPath (parsePathStart scheme s).1 := by
  have hs' : IsPathText (s ++ ['/']) := by simpa [IsPathText] using hs
  have htidy : tidyPath (webPath (dropSlash (s ++ ['/']))) = tidyPath (webPath (dropSlash s)) := by
    cases s with
    | nil => rfl
    | cons c s =>
      rw [List.cons_append, dropSlash, dropSlash]
      split
      · exact tidyPath_webPath_slash s
      · exact tidyPath_webPath_slash (c :: s)
  rw [parsePathStart_path h, parsePathStart_path h, takePath_self hs, takePath_self hs',
    canonicalPath, canonicalPath, htidy]

end Slash

end Archiver
