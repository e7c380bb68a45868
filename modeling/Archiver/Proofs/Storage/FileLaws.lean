import Archiver.Archive.Document

namespace Archiver

variable {f g : Files} {p q : Path} {b : List UInt8}

theorem lookup_cons_ne (h : q ≠ p) (x : Stored) (entries : List (Path × Stored)) :
    ((p, x) :: entries).lookup q = entries.lookup q := by
  have hne : (q == p) = false := by simpa using h
  rw [List.lookup_cons, hne]

theorem lookup_filter_ne (entries : List (Path × Stored)) (p q : Path) :
    (entries.filter fun e => e.1 != p).lookup q = if q = p then none else entries.lookup q := by
  induction entries with
  | nil => simp
  | cons e entries ih =>
    obtain ⟨k, x⟩ := e
    by_cases hk : k = p
    · rw [List.filter_cons_of_neg (by simp [hk]), ih]
      split
      · rfl
      · next hq => rw [lookup_cons_ne (hk ▸ hq)]
    · rw [List.filter_cons_of_pos (by simpa using hk)]
      by_cases hq : q = k
      · rw [hq, List.lookup_cons_self, List.lookup_cons_self, if_neg hk]
      · rw [lookup_cons_ne hq, lookup_cons_ne hq, ih]

theorem lookup_concat (entries : List (Path × Stored)) (p q : Path) (x : Stored) :
    (entries ++ [(p, x)]).lookup q = (entries.lookup q).or (if q = p then some x else none) := by
  induction entries with
  | nil =>
    by_cases hq : q = p
    · rw [hq, List.nil_append, List.lookup_cons_self, if_pos rfl]
      rfl
    · rw [List.nil_append, lookup_cons_ne hq, if_neg hq]
      rfl
  | cons e entries ih =>
    obtain ⟨k, y⟩ := e
    by_cases hq : q = k
    · rw [hq, List.cons_append, List.lookup_cons_self, List.lookup_cons_self]
      rfl
    · rw [List.cons_append, lookup_cons_ne hq, lookup_cons_ne hq, ih]

theorem find_remove (hq : q ≠ p) : (f.remove p).find? q = f.find? q := by
  simp [Files.find?, Files.remove, lookup_filter_ne, hq]

theorem find_put (hq : q ≠ p) (x : Stored) : (f.put p x).find? q = f.find? q := by
  simp [Files.find?, Files.put, Files.remove, lookup_concat, lookup_filter_ne, hq]

theorem bytes_none (h : f.find? q = none) : f.bytes? q = none := by
  rw [Files.bytes?, h]

theorem bytes_congr (h : g.find? q = f.find? q) : g.bytes? q = f.bytes? q := by
  rw [Files.bytes?, h, Files.bytes?]

theorem bytes_remove : (f.remove p).bytes? q = if q = p then none else f.bytes? q := by
  split
  · next hq =>
    subst hq
    simp only [Files.bytes?, Files.find?, Files.remove, lookup_filter_ne]
    split
    · next bytes h => split at h <;> simp at h
    · rfl
  · next hq => exact bytes_congr (find_remove hq)

theorem bytes_put (hp : f.isDirectory p = false) :
    (f.put p (.file b)).bytes? q = if q = p then some b else f.bytes? q := by
  split
  · next hq =>
    subst hq
    have hroot : ¬ (q = [] ∨ q = ["/"]) := by
      intro hr
      simp [Files.isDirectory, Files.find?, hr] at hp
    simp [Files.bytes?, Files.find?, Files.put, Files.remove, lookup_concat, lookup_filter_ne, hroot]
  · next hq => exact bytes_congr (find_put hq _)

/-- A directory put where nothing stands leaves every file as it is. -/
theorem bytes_put_directory (hp : f.find? p = none) :
    (f.put p .directory).bytes? q = f.bytes? q := by
  by_cases hq : q = p
  · subst hq
    rw [bytes_none hp]
    simp only [Files.bytes?, Files.find?, Files.put, Files.remove, lookup_concat, lookup_filter_ne]
    split
    · next bytes h => split at h <;> simp at h
    · rfl
  · exact bytes_congr (find_put hq _)

/-- Making directories leaves every file as it is, also where it breaks off. -/
theorem bytes_makeBelow {directory rest : Path}
    (h : f.makeBelow directory rest = .ok g ∨ f.makeBelow directory rest = .error g) :
    g.bytes? q = f.bytes? q := by
  induction rest generalizing f directory with
  | nil =>
    rcases h with h | h
    · cases h
      rfl
    · cases h
  | cons name rest ih =>
    rw [Files.makeBelow] at h
    split at h
    · rcases h with h | h
      · cases h
      · cases h
        rfl
    · exact ih h
    · next hnone =>
      split at h
      · rw [ih h, bytes_put_directory hnone]
      · rcases h with h | h
        · cases h
        · cases h
          rfl

theorem bytes_write (h : f.write p b = .ok g) :
    g.bytes? q = if q = p then some b else f.bytes? q := by
  unfold Files.write at h
  split at h
  · cases h
  · split at h
    · next hw =>
      cases h
      simp only [Bool.and_eq_true, Bool.not_eq_true'] at hw
      exact bytes_put hw.1.2
    · cases h

/-- A file that is not written leaves nothing. -/
theorem left_write (h : f.write p b = .error g) : g = f := by
  unfold Files.write at h
  split at h
  · cases h
    rfl
  · split at h
    · cases h
    · cases h
      rfl

/-- How a file is replaced, step by step. -/
theorem replace_cases (f : Files) (p : Path) (b : List UInt8) :
    (∃ made, f.makeDirectories p.dropLast = .error made ∧ f.replace p b = .error made) ∨
    ∃ made, f.makeDirectories p.dropLast = .ok made ∧
      ((∃ left, made.write p.temporary b = .error left ∧ f.replace p b = .error left) ∨
      ∃ written, made.write p.temporary b = .ok written ∧
        f.replace p b = ((written.remove p.temporary).write p b).mapError fun _ => written) := by
  unfold Files.replace
  cases f.makeDirectories p.dropLast with
  | error made => exact Or.inl ⟨made, rfl, rfl⟩
  | ok made =>
    refine Or.inr ⟨made, rfl, ?_⟩
    cases hwritten : made.write p.temporary b with
    | error left => exact Or.inl ⟨left, rfl, by simp [bind, Except.bind, hwritten]⟩
    | ok written => exact Or.inr ⟨written, rfl, by simp [bind, Except.bind, hwritten]⟩

theorem ok_of_mapError {α β γ : Type} {fail : α → β} {x : Except α γ} {y : γ}
    (h : x.mapError fail = .ok y) : x = .ok y := by
  cases x with
  | error e => cases h
  | ok z =>
    cases h
    rfl

theorem exists_ok_of_isOk {α β : Type} {x : Except α β} (h : x.isOk = true) : ∃ y, x = .ok y := by
  cases x with
  | error e => cases h
  | ok y => exact ⟨y, rfl⟩

/-- A file takes its place from its temporary name. -/
theorem replace_made (h : f.replace p b = .ok g) :
    ∃ made written, f.makeDirectories p.dropLast = .ok made ∧
      made.write p.temporary b = .ok written ∧ (written.remove p.temporary).write p b = .ok g := by
  rcases replace_cases f p b with ⟨made, -, hfail⟩ | ⟨made, hmade, ⟨left, -, hfail⟩ |
    ⟨written, hwritten, hmoved⟩⟩
  · rw [hfail] at h
    cases h
  · rw [hfail] at h
    cases h
  · exact ⟨made, written, hmade, hwritten, ok_of_mapError (hmoved.symm.trans h)⟩

/-- A file that is replaced has its new bytes; its temporary name is free, and every other file is
as it was. -/
theorem bytes_replace (h : f.replace p b = .ok g) :
    g.bytes? q = if q = p then some b else if q = p.temporary then none else f.bytes? q := by
  obtain ⟨made, written, hmade, hwritten, h⟩ := replace_made h
  rw [bytes_write h, bytes_remove, bytes_write hwritten, bytes_makeBelow (Or.inl hmade)]
  by_cases hq : q = p.temporary
  · simp [hq]
  · simp [hq]

/-- A file that does not take its place leaves every file as it is, unless it is left itself under its
temporary name. -/
theorem left_replace (h : f.replace p b = .error g) :
    g.bytes? q = f.bytes? q ∨ q = p.temporary ∧ g.bytes? q = some b := by
  rcases replace_cases f p b with ⟨made, hmade, hfail⟩ | ⟨made, hmade, ⟨left, hleft, hfail⟩ |
    ⟨written, hwritten, hmoved⟩⟩
  · cases hfail.symm.trans h
    exact Or.inl (bytes_makeBelow (Or.inr hmade))
  · cases hfail.symm.trans h
    rw [left_write hleft]
    exact Or.inl (bytes_makeBelow (Or.inl hmade))
  · rw [h] at hmoved
    cases hwrite : (written.remove p.temporary).write p b with
    | ok g =>
      rw [hwrite] at hmoved
      cases hmoved
    | error left =>
      rw [hwrite] at hmoved
      cases hmoved
      rw [bytes_write hwritten, bytes_makeBelow (Or.inl hmade)]
      split
      · next hq => exact Or.inr ⟨hq, rfl⟩
      · exact Or.inl rfl

end Archiver
