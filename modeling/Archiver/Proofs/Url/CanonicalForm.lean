import Archiver.Proofs.Url.AuthorityText
import Archiver.Proofs.Url.Segments

namespace Archiver

/-- The segments of a path; the root has none. -/
def pathSegments (path : List Char) : List (List Char) :=
  if path = ['/'] then [] else (splitAll (· == '/') path).drop 1

/-- The ways to write the segments that stay in a place or leave it. -/
def dotSpellings : List (List Char) :=
  [".", "%2e", "..", ".%2e", "%2e.", "%2e%2e"].map String.toList

section Segments

variable {segments : List (List Char)}

theorem not_dotSpelling {p : List Char} (h : IsSegment p) : p.map asciiLower ∉ dotSpellings := by
  have hdot := h.not_dot
  have hdouble := h.not_double_dot
  simp only [isDot, isDoubleDot, Bool.or_eq_false_iff, beq_eq_false_iff_ne] at hdot hdouble
  simp only [dotSpellings, List.map_cons, List.map_nil, List.mem_cons, List.not_mem_nil, or_false,
    not_or]
  refine ⟨fun hone => hdot.2 ?_, hdot.1, hdouble.1.1.1, hdouble.1.1.2, hdouble.1.2, hdouble.2⟩
  obtain ⟨c, rest, rfl, hc, hrest⟩ := List.map_eq_cons_iff.mp hone
  rw [(asciiLower_eq_iff c).1.mp hc, List.map_eq_nil_iff.mp hrest]

theorem splitAll_pathOfSegments (h : AreCanonical segments) (hne : segments ≠ []) :
    splitAll (· == '/') (pathOfSegments segments) = [] :: segments := by
  rw [pathOfSegments, if_neg hne]
  exact splitAll_slashed (by decide) fun p hp c hc =>
    (Bool.or_eq_false_iff.mp ((h p hp).1.plain c hc)).1

theorem pathOfSegments_eq_root_iff (h : AreCanonical segments) :
    pathOfSegments segments = ['/'] ↔ segments = [] := by
  refine ⟨fun hroot => ?_, fun hnil => if_pos hnil⟩
  by_contra hne
  have hsplit := splitAll_pathOfSegments h hne
  rw [hroot] at hsplit
  obtain rfl : segments = [[]] := (List.cons.inj hsplit).2.symm
  exact (h [] List.mem_cons_self).2 rfl

theorem pathSegments_pathOfSegments (h : AreCanonical segments) :
    pathSegments (pathOfSegments segments) = segments := by
  unfold pathSegments
  split
  · next hroot => exact ((pathOfSegments_eq_root_iff h).mp hroot).symm
  · next hne =>
    rw [splitAll_pathOfSegments h fun hnil => hne ((pathOfSegments_eq_root_iff h).mpr hnil)]
    rfl

/-- Only the root ends in a slash. -/
theorem root_of_last_slash (h : AreCanonical segments)
    (hlast : (pathOfSegments segments).getLast? = some '/') : pathOfSegments segments = ['/'] := by
  rw [pathOfSegments_eq_root_iff h]
  by_contra hne
  have hsplit := splitAll_pathOfSegments h hne
  obtain ⟨front, hfront⟩ := List.getLast?_eq_some_iff.mp hlast
  rw [hfront, splitAll_append_sep (by decide)] at hsplit
  obtain ⟨p, ps, rfl⟩ := List.exists_cons_of_ne_nil hne
  have hend : (p :: ps).getLast? = some [] := by
    rw [← List.getLast?_cons_cons, ← hsplit]
    exact List.getLast?_concat
  exact (h [] (List.mem_of_getLast? hend)).2 rfl

end Segments

section Rereading

variable {scheme : List Char} {a : Authority} {segments : List (List Char)}

theorem bareUrl_text (scheme : List Char) (a : Authority) (path : List Char) :
    (bareUrl scheme a path).text = scheme ++ ':' :: '/' :: '/' :: (a.text ++ path) := by
  simp [bareUrl, Url.text]

theorem splitScheme_of_web (hweb : isWebScheme scheme = true) (rest : List Char) :
    splitScheme (scheme ++ ':' :: rest) = some (scheme, rest) := by
  simp only [isWebScheme, Bool.or_eq_true, beq_iff_eq] at hweb
  obtain rfl | rfl := hweb <;> rfl

theorem visible_pathOfSegments (h : AreCanonical segments) :
    ∀ c ∈ pathOfSegments segments, IsVisible c := by
  obtain ⟨p, ps, hps, hpath, -⟩ := pathOfSegments_eq_slashed h
  rw [hpath]
  intro c hc
  rcases mem_slashed hc with rfl | ⟨q, hq, hc⟩
  · exact ⟨by decide, by decide⟩
  · exact visible_of_staysInPath ((hps q hq).kept c hc)

theorem visible_bareUrl (hweb : isWebScheme scheme = true) (ha : IsPlainAuthority scheme a)
    (h : AreCanonical segments) :
    ∀ c ∈ (bareUrl scheme a (pathOfSegments segments)).text, IsVisible c := by
  have hletters : ∀ c ∈ ['h', 't', 't', 'p', 's'], 0x20 < c.val ∧ c.val < 0x7F := by
    simp only [List.forall_mem_cons]
    exact ⟨by decide, by decide, by decide, by decide, by decide, List.forall_mem_nil _⟩
  have hscheme : ∀ c ∈ scheme, c ∈ ['h', 't', 't', 'p', 's'] := by
    simp only [isWebScheme, Bool.or_eq_true, beq_iff_eq] at hweb
    obtain rfl | rfl := hweb
    · exact fun c hc => List.mem_append_left ['s'] hc
    · exact fun c hc => hc
  intro c hc
  rw [bareUrl_text] at hc
  simp only [List.mem_append, List.mem_cons] at hc
  rcases hc with hc | rfl | rfl | rfl | hc | hc
  · exact hletters c (hscheme c hc)
  · exact ⟨by decide, by decide⟩
  · exact ⟨by decide, by decide⟩
  · exact ⟨by decide, by decide⟩
  · exact ((authority_text_stays ha).2 c hc).1
  · exact visible_pathOfSegments h c hc

theorem pathOfSegments_eq_cons (h : AreCanonical segments) :
    ∃ rest, pathOfSegments segments = '/' :: rest ∧
      (splitAll (· == '/') rest).filter (!·.isEmpty) = segments := by
  obtain ⟨p, ps, hps, hpath, hkept⟩ := pathOfSegments_eq_slashed h
  have hplain : ∀ q ∈ p :: ps, ∀ c ∈ q, (c == '/') = false := fun q hq c hc =>
    (Bool.or_eq_false_iff.mp ((hps q hq).plain c hc)).1
  refine ⟨p ++ slashed ps, hpath, ?_⟩
  rw [splitAll_append_slashed (by decide) (hplain p List.mem_cons_self)
    fun q hq => hplain q (List.mem_cons_of_mem p hq), hkept]

/-- Scheme and authority of a canonical text are read back, and the path is left. -/
theorem parseAuthority_bareUrl (hweb : isWebScheme scheme = true)
    (ha : IsPlainAuthority scheme a) (h : AreCanonical segments) :
    parseAuthority scheme (('/' :: '/' :: (a.text ++ pathOfSegments segments)).dropWhile isSlash) =
      .ok (a, pathOfSegments segments) := by
  have hspecial := (special_of_web hweb).1
  obtain ⟨hne, hstays⟩ := authority_text_stays ha
  have hdrop : ('/' :: '/' :: (a.text ++ pathOfSegments segments)).dropWhile isSlash =
      a.text ++ pathOfSegments segments := by
    obtain ⟨c, rest, htext⟩ := List.exists_cons_of_ne_nil hne
    have hends := (hstays c (by rw [htext]; exact List.mem_cons_self)).2
    have hc : isSlash c = false := by
      rw [← Bool.not_eq_true, endsAuthority_iff] at hends
      simp only [isSlash, Bool.or_eq_false_iff, beq_eq_false_iff_ne]
      exact ⟨fun h => hends (Or.inl h), fun h => hends (Or.inr (Or.inr (Or.inr h)))⟩
    rw [htext, List.dropWhile_cons_of_pos rfl, List.dropWhile_cons_of_pos rfl, List.cons_append,
      List.dropWhile_cons_of_neg (by simp [hc])]
  obtain ⟨rest, hpath, -⟩ := pathOfSegments_eq_cons h
  rw [hdrop, hpath]
  exact parseAuthority_append hspecial (by decide) (parseAuthority_text hspecial ha) rest

/-- A URL in canonical form is read as it is written. -/
theorem parse_bareUrl (hweb : isWebScheme scheme = true) (ha : IsPlainAuthority scheme a)
    (h : AreCanonical segments) :
    Url.parse (bareUrl scheme a (pathOfSegments segments)).text =
      .ok (bareUrl scheme a (pathOfSegments segments)) := by
  refine (parse_web_iff.mpr ⟨scheme, '/' :: '/' :: (a.text ++ pathOfSegments segments), a,
    pathOfSegments segments, ?_, hweb, parseAuthority_bareUrl hweb ha h, ?_⟩).1
  · rw [cleanUrlInput_of_visible (visible_bareUrl hweb ha h), bareUrl_text,
      splitScheme_of_web hweb]
  · rw [(canonical_path_fixed hweb h).1]
    rfl

theorem normalize_bareUrl (hweb : isWebScheme scheme = true) (ha : IsPlainAuthority scheme a)
    (h : AreCanonical segments) :
    CanonicalUrl.normalize (bareUrl scheme a (pathOfSegments segments)).text =
      .ok ⟨String.ofList (bareUrl scheme a (pathOfSegments segments)).text⟩ := by
  have hvisible := visible_bareUrl hweb ha h
  obtain ⟨host, hhost, hplain⟩ := ha.host
  have hsame : { a with host := some host } = a := by rw [← hhost]
  obtain ⟨hstart, hpath⟩ := canonical_path_fixed hweb h
  refine normalize_ok_iff.mpr ⟨scheme, '/' :: '/' :: (a.text ++ pathOfSegments segments), a,
    pathOfSegments segments, host, host, ?_, hweb, parseAuthority_bareUrl hweb ha h, hhost, ?_, ?_⟩
  · rw [trim_of_visible hvisible, cleanUrlInput_of_visible hvisible, bareUrl_text,
      splitScheme_of_web hweb]
  · exact hplain.reread_lowercase
  · rw [hsame, hstart, hpath]

/-- The text behind the two slashes of a canonical text. -/
theorem afterFirst_bareUrl (hweb : isWebScheme scheme = true) (a : Authority) (path : List Char) :
    afterFirst? "://".toList (bareUrl scheme a path).text = some (a.text ++ path) := by
  rw [bareUrl_text]
  simp only [isWebScheme, Bool.or_eq_true, beq_iff_eq] at hweb
  obtain rfl | rfl := hweb <;> rfl

theorem slug_bareUrl (hweb : isWebScheme scheme = true) (ha : IsPlainAuthority scheme a)
    (h : AreCanonical segments) :
    CanonicalUrl.slug ⟨String.ofList (bareUrl scheme a (pathOfSegments segments)).text⟩ =
      segments.getLast? := by
  obtain ⟨rest, hpath, hkept⟩ := pathOfSegments_eq_cons h
  have hslash : ∀ c ∈ a.text, (c == '/') = false := fun c hc => by
    have hends := ((authority_text_stays ha).2 c hc).2
    rw [beq_eq_false_iff_ne]
    rintro rfl
    cases hends
  have htext : (String.ofList (bareUrl scheme a (pathOfSegments segments)).text).toList =
      (bareUrl scheme a (pathOfSegments segments)).text := String.toList_ofList
  change (afterFirst? "://".toList (String.ofList _).toList).bind (fun place =>
    (splitFirst (· == '/') place).bind fun parts =>
      (splitAll (· == '/') parts.2).reverse.find? (!·.isEmpty)) = _
  rw [htext, afterFirst_bareUrl hweb, Option.bind_some, hpath, splitFirst_append hslash (by decide),
    Option.bind_some, ← List.head?_filter, List.filter_reverse, List.head?_reverse, hkept]

end Rereading

/-- What a canonical form is made of. -/
theorem exists_bareUrl {s : List Char} {c : CanonicalUrl} (h : CanonicalUrl.normalize s = .ok c) :
    ∃ scheme a segments, isWebScheme scheme = true ∧ IsPlainAuthority scheme a ∧
      AreCanonical segments ∧
      c = ⟨String.ofList (bareUrl scheme a (pathOfSegments segments)).text⟩ := by
  obtain ⟨scheme, rest, a, r, old, host, -, hweb, hread, hold, hhost, rfl⟩ := normalize_ok_iff.mp h
  obtain ⟨segments, hsegments, hpath⟩ := exists_canonical_segments hweb r
  exact ⟨scheme, { a with host := some host }, segments, hweb,
    plainAuthority_of_parse (special_of_web hweb).1 hread hold hhost, hsegments, by rw [hpath]⟩

/-- Some text has this canonical form. -/
def CanonicalUrl.IsCanonical (c : CanonicalUrl) : Prop := ∃ s, CanonicalUrl.normalize s = .ok c

theorem CanonicalUrl.IsCanonical.fixed {c : CanonicalUrl} (h : c.IsCanonical) :
    CanonicalUrl.normalize c.text.toList = .ok c := by
  obtain ⟨s, hs⟩ := h
  obtain ⟨scheme, a, segments, hweb, ha, hsegments, rfl⟩ := exists_bareUrl hs
  rw [String.toList_ofList, normalize_bareUrl hweb ha hsegments]

theorem CanonicalUrl.IsCanonical.visible {c : CanonicalUrl} (h : c.IsCanonical) :
    ∀ d ∈ c.text.toList, IsVisible d := by
  obtain ⟨s, hs⟩ := h
  obtain ⟨scheme, a, segments, hweb, ha, hsegments, rfl⟩ := exists_bareUrl hs
  rw [String.toList_ofList]
  exact visible_bareUrl hweb ha hsegments

/-- A canonical form is its own canonical form, and reads as a web URL of scheme, host and path: a
path without empty segments, dot segments or a final slash, whose last segment is the slug. -/
theorem canonical_form_fixed {s : List Char} {c : CanonicalUrl}
    (h : CanonicalUrl.normalize s = .ok c) :
    CanonicalUrl.normalize c.text.toList = .ok c ∧
    ∃ u, c.url = .ok u ∧ (u.scheme = "http".toList ∨ u.scheme = "https".toList) ∧
      u.host.isSome = true ∧ u.query = none ∧ u.fragment = none ∧
      u.path.head? = some '/' ∧ (u.path.getLast? = some '/' → u.path = ['/']) ∧
      (∀ p ∈ pathSegments u.path, p ≠ [] ∧ p.map asciiLower ∉ dotSpellings) ∧
      c.slug = (pathSegments u.path).getLast? ∧ (c.slug = none ↔ u.path = ['/']) := by
  obtain ⟨scheme, a, segments, hweb, ha, hsegments, rfl⟩ := exists_bareUrl h
  obtain ⟨host, hhost, -⟩ := ha.host
  obtain ⟨rest, hpath, -⟩ := pathOfSegments_eq_cons hsegments
  have hown := pathSegments_pathOfSegments hsegments
  refine ⟨?_, bareUrl scheme a (pathOfSegments segments), ?_, ?_, ?_, rfl, rfl, ?_,
    root_of_last_slash hsegments, ?_, ?_, ?_⟩
  · rw [String.toList_ofList, normalize_bareUrl hweb ha hsegments]
  · rw [CanonicalUrl.url, String.toList_ofList, parse_bareUrl hweb ha hsegments]
  · change scheme = _ ∨ scheme = _
    simpa only [isWebScheme, Bool.or_eq_true, beq_iff_eq] using hweb
  · simp [Url.host, bareUrl, hhost]
  · simp [bareUrl, hpath]
  · intro p hp
    have hmem : p ∈ segments := hown ▸ hp
    exact ⟨(hsegments p hmem).2, not_dotSpelling (hsegments p hmem).1⟩
  · rw [slug_bareUrl hweb ha hsegments]
    exact congrArg _ hown.symm
  · rw [slug_bareUrl hweb ha hsegments, List.getLast?_eq_none_iff]
    exact (pathOfSegments_eq_root_iff hsegments).symm

/-- An address with blanks around it, an empty password, capital letters, a piece too many in its
host, a zero in front of its port, a backslash, dot segments in both forms, an empty segment and a
slash at the end. -/
def wornText : List Char :=
  " hTTp://me:@[2001:DB8::0:1]:08080\\x/%2e/y//%2E./z w/?q#f\n".toList

theorem canonical_form_fixed_worn :
    CanonicalUrl.normalize wornText = .ok ⟨"http://me@[2001:db8::1]:8080/x/y/z%20w"⟩ ∧
    CanonicalUrl.normalize "http://me@[2001:db8::1]:8080/x/y/z%20w".toList =
      .ok ⟨"http://me@[2001:db8::1]:8080/x/y/z%20w"⟩ ∧
    ∃ u, CanonicalUrl.url ⟨"http://me@[2001:db8::1]:8080/x/y/z%20w"⟩ = .ok u ∧
      u.query = none ∧ u.fragment = none ∧ (pathSegments u.path).getLast? = some "z%20w".toList := by
  have hworn : CanonicalUrl.normalize wornText =
      .ok ⟨"http://me@[2001:db8::1]:8080/x/y/z%20w"⟩ := by decide +kernel
  have hslug : CanonicalUrl.slug ⟨"http://me@[2001:db8::1]:8080/x/y/z%20w"⟩ =
      some "z%20w".toList := by decide +kernel
  obtain ⟨hfixed, u, hu, -, -, hquery, hfragment, -, -, -, hlast, -⟩ := canonical_form_fixed hworn
  exact ⟨hworn, hfixed, u, hu, hquery, hfragment, hlast ▸ hslug⟩

end Archiver
