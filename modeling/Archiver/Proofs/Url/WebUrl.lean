import Archiver.Proofs.Url.Authority
import Archiver.Url.Canonical

namespace Archiver

/-- The path of a canonical form. -/
def canonicalPath (path : List Char) : List Char :=
  pathOfStack (addSegments false [] ((splitAll (· == '/') (tidyPath path)).drop 1))

/-- A URL without query and fragment. -/
def bareUrl (scheme : List Char) (a : Authority) (path : List Char) : Url :=
  ⟨scheme, some a, path, none, none⟩

theorem special_of_web {scheme : List Char} (h : isWebScheme scheme = true) :
    isSpecialScheme scheme = true ∧ isFileScheme scheme = false := by
  simp only [isWebScheme, Bool.or_eq_true, beq_iff_eq] at h
  obtain rfl | rfl := h <;> decide

theorem web_of_not_special {scheme : List Char} (h : isSpecialScheme scheme = false) :
    isWebScheme scheme = false := by
  cases hweb : isWebScheme scheme with
  | false => rfl
  | true => rw [(special_of_web hweb).1] at h; cases h

theorem fileFrom_scheme {s : List Char} {u : Url} (h : parseFile.fileFrom none s = .ok u) :
    u.scheme = "file".toList := by
  unfold parseFile.fileFrom at h
  cases s with
  | nil => cases h; rfl
  | cons c rest =>
    simp only [Option.map_none] at h
    split_ifs at h <;> cases h <;> rfl

/-- A file URL has the file scheme. -/
theorem parseFile_scheme {s : List Char} {u : Url} (h : parseFile none s = .ok u) :
    u.scheme = "file".toList := by
  unfold parseFile at h
  simp only at h
  split at h
  · next a b rest =>
    split_ifs at h with hslash
    · cases hhost : parseFileHost rest with
      | error cause => rw [hhost] at h; cases h
      | ok parts => rw [hhost, ok_bind] at h; cases h; rfl
    · exact fileFrom_scheme h
  · exact fileFrom_scheme h

/-- A text that names a scheme without rules of its own is read as a URL of that scheme, whatever the
base. -/
theorem scheme_of_resolve {b : Option Url} {input scheme rest : List Char} {u : Url}
    (hsplit : splitScheme (cleanUrlInput input) = some (scheme, rest))
    (hfile : isFileScheme scheme = false) (hspecial : isSpecialScheme scheme = false)
    (h : Url.resolve b input = .ok u) : u.scheme = scheme := by
  unfold Url.resolve at h
  simp only [hsplit, hfile, hspecial, Bool.false_eq_true, if_false] at h
  split at h
  · next after =>
    unfold parseFromAuthority at h
    cases hread : parseAuthority scheme after with
    | error cause => rw [hread] at h; cases h
    | ok parts => rw [hread, ok_bind] at h; cases h; rfl
  · cases h; rfl
  · cases h; rfl

/-- A URL of a web scheme is a scheme, an authority behind any number of slashes, and a path. -/
theorem parse_web_iff {input : List Char} {u : Url} :
    (Url.parse input = .ok u ∧ isWebScheme u.scheme = true) ↔
      ∃ scheme rest a r, splitScheme (cleanUrlInput input) = some (scheme, rest) ∧
        isWebScheme scheme = true ∧
        parseAuthority scheme (rest.dropWhile isSlash) = .ok (a, r) ∧
        u = withTail scheme (some a) (parsePathStart scheme r) := by
  unfold Url.parse Url.resolve
  simp only
  cases hsplit : splitScheme (cleanUrlInput input) with
  | none =>
    constructor
    · rintro ⟨h, -⟩
      cases h
    · rintro ⟨_, _, _, _, h, -⟩
      cases h
  | some parts =>
    obtain ⟨scheme, rest⟩ := parts
    simp only [Option.filter_none]
    by_cases hfile : isFileScheme scheme = true
    · rw [if_pos hfile]
      constructor
      · rintro ⟨h, hweb⟩
        rw [parseFile_scheme h] at hweb
        cases hweb
      · rintro ⟨_, _, _, _, h, hweb, -⟩
        cases h
        rw [(special_of_web hweb).2] at hfile
        cases hfile
    rw [if_neg hfile]
    by_cases hspecial : isSpecialScheme scheme = true
    · rw [if_pos hspecial]
      constructor
      · rintro ⟨h, hweb⟩
        unfold parseFromAuthority at h
        cases hread : parseAuthority scheme (rest.dropWhile isSlash) with
        | error cause => rw [hread] at h; cases h
        | ok parts =>
          rw [hread, ok_bind] at h
          cases h
          exact ⟨scheme, rest, parts.1, parts.2, rfl, hweb, hread, rfl⟩
      · rintro ⟨_, _, a, r, h, hweb, hread, rfl⟩
        cases h
        unfold parseFromAuthority
        rw [hread]
        exact ⟨rfl, hweb⟩
    rw [if_neg hspecial]
    have hother : isWebScheme scheme = false :=
      web_of_not_special (Bool.not_eq_true _ ▸ hspecial)
    constructor
    · rintro ⟨h, hweb⟩
      have hscheme : u.scheme = scheme := by
        refine scheme_of_resolve (b := none) hsplit (Bool.not_eq_true _ ▸ hfile)
          (Bool.not_eq_true _ ▸ hspecial) ?_
        unfold Url.resolve
        simp only [hsplit, Option.filter_none]
        rw [if_neg hfile, if_neg hspecial]
        exact h
      rw [hscheme, hother] at hweb
      cases hweb
    · rintro ⟨_, _, _, _, h, hweb, -⟩
      cases h
      rw [hother] at hweb
      cases hweb

/-- Which URLs have a canonical form, and what it is. -/
theorem canonical_ok_iff {u k : Url} : u.canonical = .ok k ↔
    isWebScheme u.scheme = true ∧ ∃ a old host, u.authority = some a ∧ a.host = some old ∧
      parseHostText true (lowercase old.text) = .ok host ∧
      k = bareUrl u.scheme { a with host := some host } (canonicalPath u.path) := by
  unfold Url.canonical
  cases hweb : isWebScheme u.scheme with
  | false => simp
  | true =>
    cases ha : u.authority with
    | none => simp
    | some a =>
      cases hold : a.host with
      | none => simp [hold]
      | some old =>
        cases hhost : parseHostText true (lowercase old.text) with
        | error cause => simp [hold, hhost]
        | ok host => simp [hold, hhost, bareUrl, canonicalPath, eq_comm]

/-- What a text with a canonical form is made of, and what the form is. -/
theorem normalize_ok_iff {s : List Char} {c : CanonicalUrl} :
    CanonicalUrl.normalize s = .ok c ↔
      ∃ scheme rest a r old host, splitScheme (cleanUrlInput (trim s)) = some (scheme, rest) ∧
        isWebScheme scheme = true ∧
        parseAuthority scheme (rest.dropWhile isSlash) = .ok (a, r) ∧
        a.host = some old ∧ parseHostText true (lowercase old.text) = .ok host ∧
        c = ⟨String.ofList (bareUrl scheme { a with host := some host }
          (canonicalPath (parsePathStart scheme r).1)).text⟩ := by
  unfold CanonicalUrl.normalize
  constructor
  · intro h
    cases hparse : Url.parse (trim s) with
    | error cause => rw [hparse] at h; cases h
    | ok u =>
      simp only [hparse] at h
      cases hcanon : u.canonical with
      | error cause => rw [hcanon] at h; cases h
      | ok k =>
        rw [hcanon] at h
        obtain ⟨hweb, a, old, host, ha, hold, hhost, rfl⟩ := canonical_ok_iff.mp hcanon
        obtain ⟨scheme, rest, a', r, hsplit, -, hread, rfl⟩ := parse_web_iff.mp ⟨hparse, hweb⟩
        cases ha
        cases h
        exact ⟨scheme, rest, a, r, old, host, hsplit, hweb, hread, hold, hhost, rfl⟩
  · rintro ⟨scheme, rest, a, r, old, host, hsplit, hweb, hread, hold, hhost, rfl⟩
    obtain ⟨hparse, hweb'⟩ := parse_web_iff.mpr ⟨scheme, rest, a, r, hsplit, hweb, hread, rfl⟩
    have hcanon := canonical_ok_iff.mpr ⟨hweb', a, old, host, rfl, hold, hhost, rfl⟩
    simp only [hparse]
    rw [hcanon]
    rfl

end Archiver
