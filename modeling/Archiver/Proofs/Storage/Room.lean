import Archiver.Proofs.Storage.FileLaws

namespace Archiver

variable {f g : Files} {p q : Path} {b : List UInt8}

/-- A file of any bytes can be put in its place: each directory on the way stands or can be made, and
neither the place nor its temporary name is a directory or has a name that no file can have. -/
structure Files.HasRoom (f : Files) (path : Path) : Prop where
  nonempty : path ≠ []
  way : ∀ front name back, path.dropLast = front ++ name :: back →
    f.isDirectory (front ++ [name]) = true ∨ f.find? (front ++ [name]) = none ∧ isFileName name
  place : f.isDirectory path = false
  named : isFileName (path.getLastD "") = true
  temporary : f.isDirectory path.temporary = false
  temporary_named : isFileName (path.getLastD "" ++ ".tmp") = true

theorem find_put_self (hp : f.find? p = none) (x : Stored) : (f.put p x).find? p = some x := by
  unfold Files.find? at hp ⊢
  split
  · next hroot => rw [if_pos hroot] at hp; cases hp
  · simp [Files.put, Files.remove, lookup_concat, lookup_filter_ne]

/-- The directories on a way that is free are made; what does not stand on the way is left alone. -/
theorem makeBelow_of_way {directory rest : Path} (hstart : f.isDirectory directory = true)
    (hway : ∀ front name back, rest = front ++ name :: back →
      f.isDirectory (directory ++ front ++ [name]) = true ∨
        f.find? (directory ++ front ++ [name]) = none ∧ isFileName name) :
    ∃ g, f.makeBelow directory rest = .ok g ∧ g.isDirectory (directory ++ rest) = true ∧
      ∀ q, ¬ q <+: directory ++ rest → g.find? q = f.find? q := by
  induction rest generalizing f directory with
  | nil => exact ⟨f, rfl, by simpa using hstart, fun _ _ => rfl⟩
  | cons name rest ih =>
    have hstep : ∀ f' : Files, f'.isDirectory (directory ++ [name]) = true →
        (∀ q, q ≠ directory ++ [name] → f'.find? q = f.find? q) →
        ∃ g, f'.makeBelow (directory ++ [name]) rest = .ok g ∧
          g.isDirectory (directory ++ name :: rest) = true ∧
          ∀ q, ¬ q <+: directory ++ name :: rest → g.find? q = f.find? q := by
      intro f' hthere hsame
      obtain ⟨g, hg, hend, hleft⟩ := ih hthere fun front inner back hrest => by
        have hinner := hway (name :: front) inner back (by rw [hrest]; rfl)
        have hne : directory ++ [name] ++ front ++ [inner] ≠ directory ++ [name] := by
          intro h
          simpa using congrArg List.length h
        rw [Files.isDirectory, hsame _ hne]
        simpa [Files.isDirectory] using hinner
      refine ⟨g, hg, by simpa using hend, fun q hq => ?_⟩
      have hq' : ¬ q <+: directory ++ [name] ++ rest := by simpa using hq
      rw [hleft q hq', hsame q]
      rintro rfl
      exact hq' (List.prefix_append _ _)
    rw [Files.makeBelow]
    rcases hway [] name rest rfl with hthere | ⟨hnone, hname⟩
    · rw [List.append_nil] at hthere
      have hfind : f.find? (directory ++ [name]) = some .directory := by
        simpa [Files.isDirectory] using hthere
      simp only [hfind]
      exact hstep f hthere fun _ _ => rfl
    · rw [List.append_nil] at hnone
      simp only [hnone, hname, if_true]
      refine hstep _ ?_ fun q hq => find_put hq _
      rw [Files.isDirectory, find_put_self hnone]
      rfl

theorem way_of_makeBelow {directory rest : Path} (h : f.makeBelow directory rest = .ok g) :
    (∀ front name back, rest = front ++ name :: back →
      f.isDirectory (directory ++ front ++ [name]) = true ∨
        f.find? (directory ++ front ++ [name]) = none ∧ isFileName name) ∧
    ∀ q, ¬ q <+: directory ++ rest → g.find? q = f.find? q := by
  induction rest generalizing f directory with
  | nil =>
    cases h
    exact ⟨fun front name back h => by simp at h, fun _ _ => rfl⟩
  | cons here rest ih =>
    -- what holds behind the next directory holds from this one on, once that is made
    have hstep : ∀ f' : Files, f'.makeBelow (directory ++ [here]) rest = .ok g →
        (f.isDirectory (directory ++ [here]) = true ∨
          f.find? (directory ++ [here]) = none ∧ isFileName here) →
        (∀ q, q ≠ directory ++ [here] → f'.find? q = f.find? q) →
        (∀ front name back, here :: rest = front ++ name :: back →
          f.isDirectory (directory ++ front ++ [name]) = true ∨
            f.find? (directory ++ front ++ [name]) = none ∧ isFileName name) ∧
        ∀ q, ¬ q <+: directory ++ here :: rest → g.find? q = f.find? q := by
      intro f' hmade hfirst hsame
      obtain ⟨hway, hleft⟩ := ih hmade
      refine ⟨fun front name back hrest => ?_, fun q hq => ?_⟩
      · cases front with
        | nil =>
          cases hrest
          simpa using hfirst
        | cons head front =>
          obtain ⟨rfl, htail⟩ := List.cons.inj hrest
          have hinner := hway front name back htail
          have hne : directory ++ [here] ++ front ++ [name] ≠ directory ++ [here] := by
            intro h
            simpa using congrArg List.length h
          rw [Files.isDirectory, hsame _ hne] at hinner
          simpa [Files.isDirectory] using hinner
      · have hq' : ¬ q <+: directory ++ [here] ++ rest := by simpa using hq
        rw [hleft q hq', hsame q]
        rintro rfl
        exact hq' (List.prefix_append _ _)
    rw [Files.makeBelow] at h
    split at h
    · cases h
    · next hfind => exact hstep f h (Or.inl (by simp [Files.isDirectory, hfind])) fun _ _ => rfl
    · next hnone =>
      split at h
      · next hname => exact hstep _ h (Or.inr ⟨hnone, hname⟩) fun q hq => find_put hq _
      · cases h

theorem of_write (h : f.write p b = .ok g) : ∃ name, p.getLast? = some name ∧
    f.isDirectory p.dropLast = true ∧ f.isDirectory p = false ∧ isFileName name = true := by
  unfold Files.write at h
  split at h
  · cases h
  · next name hname =>
    split at h
    · next hw =>
      simp only [Bool.and_eq_true, Bool.not_eq_true'] at hw
      exact ⟨name, hname, hw.1.1, hw.1.2, hw.2⟩
    · cases h

theorem write_of {name : String} (hname : p.getLast? = some name)
    (hdirectory : f.isDirectory p.dropLast = true) (hplace : f.isDirectory p = false)
    (hfile : isFileName name = true) : f.write p b = .ok (f.put p (.file b)) := by
  simp [Files.write, hname, hdirectory, hplace, hfile]

theorem dropLast_temporary (p : Path) : p.temporary.dropLast = p.dropLast := by
  simp [Path.temporary]

theorem length_temporary (hp : p ≠ []) : p.temporary.length = p.length := by
  have := List.length_pos_iff.mpr hp
  simp only [Path.temporary, List.length_append, List.length_dropLast, List.length_singleton]
  omega

theorem temporary_ne (p : Path) : p ≠ p.temporary := by
  intro he
  have hlast := congrArg List.getLast? he
  have hne : p ≠ [] := by
    rintro rfl
    cases he
  rw [List.getLast?_eq_some_getLast hne] at hlast
  simp only [Path.temporary, List.getLast?_concat, Option.some.injEq, List.getLastD_eq_getLast?,
    List.getLast?_eq_some_getLast hne, Option.getD_some] at hlast
  have := congrArg String.length hlast
  rw [String.length_append] at this
  exact absurd this (by simp)

/-- Nothing as long as a path is a directory on the way to it. -/
theorem not_prefix_way (hp : p ≠ []) (hq : q.length = p.length) : ¬ q <+: ([] : Path) ++ p.dropLast := by
  intro hprefix
  have hle := hprefix.length_le
  have hlength := List.length_pos_iff.mpr hp
  rw [List.nil_append, List.length_dropLast] at hle
  omega

/-- A file is put in its place just where there is room for it. -/
theorem replace_iff_hasRoom (b : List UInt8) : (∃ g, f.replace p b = .ok g) ↔ f.HasRoom p := by
  constructor
  · rintro ⟨g, h⟩
    obtain ⟨made, written, hmade, hwritten, h⟩ := replace_made h
    obtain ⟨hway, hleft⟩ := way_of_makeBelow hmade
    obtain ⟨temporary, htemporary, -, hbeside, htemporaryName⟩ := of_write hwritten
    obtain ⟨name, hname, -, hplace, hfile⟩ := of_write h
    have hne : p ≠ [] := by
      rintro rfl
      cases hname
    have hlast : p.getLastD "" = name := by rw [List.getLastD_eq_getLast?, hname]; rfl
    obtain rfl : p.getLastD "" ++ ".tmp" = temporary := by simpa [Path.temporary] using htemporary
    rw [Files.isDirectory, hleft _ (not_prefix_way hne (length_temporary hne))] at hbeside
    have hput : written.find? p = made.find? p := by
      rw [Files.write, htemporary] at hwritten
      simp only at hwritten
      split at hwritten <;> cases hwritten
      exact find_put (temporary_ne p) _
    rw [Files.isDirectory, find_remove (temporary_ne p), hput, hleft _ (not_prefix_way hne rfl)]
      at hplace
    exact ⟨hne, by simpa using hway, hplace, hlast ▸ hfile, hbeside, htemporaryName⟩
  · intro h
    obtain ⟨made, hmade, hway, hleft⟩ := @makeBelow_of_way f [] _ rfl h.way
    have hplace : made.isDirectory p = false := by
      rw [Files.isDirectory, hleft p (not_prefix_way h.nonempty rfl)]
      exact h.place
    have htemporary : made.isDirectory p.temporary = false := by
      rw [Files.isDirectory, hleft _ (not_prefix_way h.nonempty (length_temporary h.nonempty))]
      exact h.temporary
    have hname : p.getLast? = some (p.getLastD "") := by
      rw [List.getLastD_eq_getLast?, List.getLast?_eq_some_getLast h.nonempty]
      rfl
    have hwritten : made.write p.temporary b = .ok (made.put p.temporary (.file b)) := by
      refine write_of (by simp [Path.temporary]) ?_ htemporary h.temporary_named
      rw [dropLast_temporary]
      exact hway
    -- the temporary file stands beside the place, so neither the directory nor the place is touched
    have hsame : ∀ q, q ≠ p.temporary →
        ((made.put p.temporary (.file b)).remove p.temporary).find? q = made.find? q := fun q hq => by
      rw [find_remove hq, find_put hq]
    have hbeside : p.dropLast ≠ p.temporary := fun he => by
      have hlength := List.length_pos_iff.mpr h.nonempty
      have := congrArg List.length he
      rw [List.length_dropLast, length_temporary h.nonempty] at this
      omega
    have hput := write_of (b := b) (f := (made.put p.temporary (.file b)).remove p.temporary) hname
      (by rw [Files.isDirectory, hsame _ hbeside]; exact hway)
      (by rw [Files.isDirectory, hsame _ (temporary_ne p)]; exact hplace) h.named
    refine ⟨((made.put p.temporary (.file b)).remove p.temporary).put p (.file b), ?_⟩
    rcases replace_cases f p b with ⟨other, hfail, -⟩ | ⟨other, hother, hcase⟩
    · cases hmade.symm.trans hfail
    obtain rfl : made = other := Except.ok.inj (hmade.symm.trans hother)
    rcases hcase with ⟨left, hfail, -⟩ | ⟨written, hsame, hmoved⟩
    · cases hwritten.symm.trans hfail
    · obtain rfl : _ = written := Except.ok.inj (hwritten.symm.trans hsame)
      rw [hmoved, hput]
      rfl

end Archiver
