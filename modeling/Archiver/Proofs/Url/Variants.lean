import Archiver.Discovery.Frontier
import Archiver.Proofs.Url.Path

namespace Archiver

/-- The addresses that one article goes by: its own, and the same with a query, a fragment, both or a
slash behind it. -/
inductive VariantOf (u : List Char) : List Char → Prop
  | self : VariantOf u u
  | query (q : List Char) : VariantOf u (u ++ '?' :: q)
  | fragment (f : List Char) : VariantOf u (u ++ '#' :: f)
  | both (q f : List Char) : VariantOf u (u ++ '?' :: q ++ '#' :: f)
  | slash : VariantOf u (u ++ ['/'])

/-- A text that ends in a character which neither trimming nor cleaning removes. -/
def EndsInside (u : List Char) : Prop :=
  ∃ s l, u = s ++ [l] ∧ 0x20 < l.val ∧ isBlank l = false

theorem splitScheme_append {s scheme rest : List Char} (h : splitScheme s = some (scheme, rest))
    (t : List Char) : splitScheme (s ++ t) = some (scheme, rest ++ t) := by
  cases s with
  | nil => cases h
  | cons c s =>
    simp only [splitScheme] at h
    split_ifs at h with hletter
    split at h
    · next rest' hdrop =>
      cases h
      have hne : (c :: s).dropWhile isSchemeChar ≠ [] := by simp [hdrop]
      obtain ⟨htake, hdrop'⟩ := takeWhile_append_of_dropWhile hne t
      rw [List.cons_append] at htake hdrop'
      simp only [List.cons_append, splitScheme, if_pos hletter, htake, hdrop', hdrop]
    · cases h

theorem splitScheme_suffix {s scheme rest : List Char} (h : splitScheme s = some (scheme, rest)) :
    rest <:+ s := by
  cases s with
  | nil => cases h
  | cons c s =>
    simp only [splitScheme] at h
    split_ifs at h
    split at h
    · next rest' hdrop =>
      cases h
      have hsuffix := List.dropWhile_suffix (l := c :: s) isSchemeChar
      rw [hdrop] at hsuffix
      exact (List.suffix_cons ':' rest).trans hsuffix
    · cases h

theorem parseAuthority_nil {scheme : List Char} (hs : isSpecialScheme scheme = true)
    {a : Authority} {r : List Char} : parseAuthority scheme [] ≠ .ok (a, r) := by
  intro h
  obtain ⟨text, after, host, port, htext, hne, -⟩ := (parseAuthority_ok_iff hs).mp h
  cases htext
  exact hne rfl

/-- A query, a fragment or a final slash behind a path is not in the canonical path. -/
theorem canonicalPath_append {scheme r t : List Char} {c : Char} (hweb : isWebScheme scheme = true)
    (hr : IsPathText r) (hc : c = '?' ∨ c = '#' ∨ c = '/' ∧ t = []) :
    canonicalPath (parsePathStart scheme (r ++ c :: t)).1 =
      canonicalPath (parsePathStart scheme r).1 := by
  rcases or_assoc.mpr hc with hcut | ⟨rfl, rfl⟩
  · rw [parsePathStart_path hweb, parsePathStart_path hweb, takePath_append hr hcut, takePath_self hr]
  · exact canonicalPath_slash hweb hr

/-- What stands behind an address leaves its canonical form as it is. -/
theorem normalize_append {u t : List Char} {k : CanonicalUrl} {c : Char}
    (hu : CanonicalUrl.normalize u = .ok k) (htext : IsPathText u) (hend : EndsInside u)
    (hc : c = '?' ∨ c = '#' ∨ c = '/' ∧ t = []) : CanonicalUrl.normalize (u ++ c :: t) = .ok k := by
  obtain ⟨s, l, rfl, hl, hblank⟩ := hend
  obtain ⟨scheme, rest, a, r, old, host, hsplit, hweb, hread, hold, hhost, hk⟩ :=
    normalize_ok_iff.mp hu
  have hspecial := (special_of_web hweb).1
  have hstop : isBlank c = false ∧ 0x20 < c.val ∧ endsAuthority true c = true := by
    obtain rfl | rfl | ⟨rfl, -⟩ := hc <;> decide
  rw [trim_last hblank] at hsplit
  obtain ⟨t', ht', hclean⟩ := cleanUrlInput_append hl hstop.2.1 (trimStart s) (trimEnd t)
  rw [← trim_append_stop hblank hstop.1] at hclean
  have hne : rest.dropWhile isSlash ≠ [] := fun h => parseAuthority_nil hspecial (h ▸ hread)
  -- The path was part of the text, so no query and no fragment begins in it.
  have hr : IsPathText r := by
    have hmem : ∀ d, d ∈ r → d ∈ s ++ [l] := fun d hd => by
      have hin := List.dropWhile_subset _ (mem_of_parseAuthority hspecial hread hd)
      have hclean' := mem_of_mem_cleanUrlInput ((splitScheme_suffix hsplit).subset hin)
      exact mem_of_mem_trim (trim_last hblank s ▸ hclean')
    exact ⟨fun h => htext.1 (hmem _ h), fun h => htext.2 (hmem _ h)⟩
  refine normalize_ok_iff.mpr
    ⟨scheme, rest ++ c :: t', a, r ++ c :: t', old, host, ?_, hweb, ?_, hold, hhost, ?_⟩
  · rw [List.append_assoc, List.singleton_append, hclean]
    exact splitScheme_append hsplit _
  · rw [(takeWhile_append_of_dropWhile hne _).2]
    exact parseAuthority_append hspecial hstop.2.2 hread t'
  · have htail : c = '?' ∨ c = '#' ∨ c = '/' ∧ t' = [] := by
      rcases hc with hc | hc | ⟨hc, rfl⟩
      · exact Or.inl hc
      · exact Or.inr (Or.inl hc)
      · exact Or.inr (Or.inr ⟨hc, ht' rfl⟩)
    rw [hk, canonicalPath_append hweb hr htail]

theorem normalize_variant {u v : List Char} {k : CanonicalUrl}
    (hu : CanonicalUrl.normalize u = .ok k) (htext : IsPathText u) (hend : EndsInside u)
    (hv : VariantOf u v) : CanonicalUrl.normalize v = .ok k := by
  cases hv with
  | self => exact hu
  | query q => exact normalize_append hu htext hend (Or.inl rfl)
  | fragment f => exact normalize_append hu htext hend (Or.inr (Or.inl rfl))
  | both q f =>
    rw [List.append_assoc, List.cons_append]
    exact normalize_append hu htext hend (Or.inl rfl)
  | slash => exact normalize_append hu htext hend (Or.inr (Or.inr ⟨rfl, rfl⟩))

/-- All variants of an address have one canonical form, and a set that holds one of them does not
grow by another. -/
theorem variants_collapse {u : List Char} {k : CanonicalUrl}
    (hu : CanonicalUrl.normalize u = .ok k) (htext : IsPathText u) (hend : EndsInside u) :
    (∀ v, VariantOf u v → CanonicalUrl.normalize v = .ok k) ∧
    ∀ v w, VariantOf u v → VariantOf u w → ∀ c c', CanonicalUrl.normalize v = .ok c →
      CanonicalUrl.normalize w = .ok c' → ∀ (found : DiscoveredSet) (source : String),
        found.contains c = true → found.insert c' source = found := by
  refine ⟨fun v hv => normalize_variant hu htext hend hv, ?_⟩
  intro v w hv hw c c' hc hc' found source hknown
  rw [normalize_variant hu htext hend hv] at hc
  rw [normalize_variant hu htext hend hw] at hc'
  cases hc
  cases hc'
  exact if_pos hknown

/-- An address with a user, an address of numbers, its scheme's own port, a backslash, an encoded
double dot and a percent sign at the end. -/
def loopbackText : List Char := "hTTps://me@[0::1]:443\\a/%2e./n/5%".toList

theorem variants_collapse_loopback :
    CanonicalUrl.normalize loopbackText = .ok ⟨"https://me@[::1]/n/5%"⟩ ∧
    IsPathText loopbackText ∧ EndsInside loopbackText ∧
    CanonicalUrl.normalize (loopbackText ++ '?' :: "@:80/ ".toList ++ '#' :: "?\n".toList) =
      .ok ⟨"https://me@[::1]/n/5%"⟩ ∧
    CanonicalUrl.normalize (loopbackText ++ ['/']) = .ok ⟨"https://me@[::1]/n/5%"⟩ ∧
    ((DiscoveredSet.empty.insert ⟨"https://me@[::1]/n/5%"⟩ "a").insert
      ⟨"https://me@[::1]/n/5%"⟩ "b").size = 1 := by
  have hu : CanonicalUrl.normalize loopbackText = .ok ⟨"https://me@[::1]/n/5%"⟩ := by
    decide +kernel
  have htext : IsPathText loopbackText := ⟨by decide, by decide⟩
  have hend : EndsInside loopbackText :=
    ⟨loopbackText.dropLast, '%', by decide, by decide, by decide⟩
  obtain ⟨hone, hset⟩ := variants_collapse hu htext hend
  have hslash := hone _ .slash
  refine ⟨hu, htext, hend, hone _ (.both _ _), hslash, ?_⟩
  rw [hset _ _ .self .slash _ _ hu hslash _ _ (by decide)]
  decide

end Archiver
