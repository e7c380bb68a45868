import Archiver.Proofs.Config.Demands
import Archiver.Proofs.Url.CanonicalForm
import Archiver.Proofs.Url.HostCase
import Archiver.Url.Shape

namespace Archiver

/-- The beginning of a path with its last slash. -/
def closedPath (path : List Char) : List Char := if endsWith ['/'] path then path else path ++ ['/']

/-- The address of an article below a host and the beginning of a path. -/
def articleText (host path segment : List Char) : List Char :=
  "https://".toList ++ (host ++ (closedPath path ++ segment))

/-- The beginning of a path that is written as in a canonical form. -/
def PathFits (path : List Char) : Prop :=
  ∃ segments, AreCanonical segments ∧ closedPath path = slashed segments ++ ['/']

section Checks

variable {host path : List Char}

/-- What a pattern for one host has to be. -/
theorem domain_of_checkPattern (h : checkPattern host = .ok ())
    (hexact : after? ['*', '.'] host = none) : host ≠ [] ∧ ∀ c ∈ host, IsDomainChar c := by
  unfold checkPattern at h
  split at h
  · cases h
  next hempty =>
  rw [hexact, Option.getD_none, checkDomain] at h
  refine ⟨fun hnil => hempty (List.isEmpty_iff.mpr hnil), fun c hc => ?_⟩
  obtain ⟨-, h⟩ := demand_bind_eq_ok.mp h
  obtain ⟨hchars, -⟩ := demand_bind_eq_ok.mp h
  have hchar := List.all_eq_true.mp hchars c hc
  simpa [IsDomainChar, or_assoc] using hchar

theorem exists_of_endsWith_slash {s : List Char} (h : endsWith ['/'] s = true) :
    ∃ front, s = front ++ ['/'] := by
  obtain ⟨rest, hrest⟩ := Option.isSome_iff_exists.mp h
  rw [after_eq_some_iff] at hrest
  exact ⟨rest.reverse, by rw [← List.reverse_reverse s, hrest]; simp⟩

/-- A checked path has a slash at its front and one more when closed. -/
theorem closedPath_of_checkPath (h : checkPath (String.ofList path) = .ok ()) :
    ∃ inner, closedPath path = '/' :: (inner ++ ['/']) := by
  rw [checkPath, demand_eq_ok, String.toList_ofList, Bool.and_eq_true, beq_iff_eq,
    decide_eq_true_eq] at h
  obtain ⟨hhead, hlong⟩ := h
  obtain ⟨rest, rfl⟩ : ∃ rest, path = '/' :: rest := by
    cases path with
    | nil => cases hhead
    | cons c rest => exact ⟨rest, by rw [Option.some.inj hhead]⟩
  unfold closedPath
  split
  · next hend =>
    obtain ⟨front, hfront⟩ := exists_of_endsWith_slash hend
    cases front with
    | nil =>
      rw [hfront] at hlong
      exact absurd hlong (by decide)
    | cons c front =>
      obtain ⟨rfl, hrest⟩ := List.cons.inj hfront
      exact ⟨front, congrArg _ hrest⟩
  · exact ⟨rest, rfl⟩

end Checks

section Segment

variable {segment : List Char}

/-- Letters and digits stay in a path as they are. -/
theorem segment_of_alnum (h : ∀ d ∈ segment, isAsciiLetter d = true ∨ isAsciiDigit d = true) :
    IsSegment segment := by
  have hall : ∀ n < 128, isAsciiLetter (Char.ofNat n) = true ∨ isAsciiDigit (Char.ofNat n) = true →
      staysInPath (Char.ofNat n) = true ∧ isSlash (Char.ofNat n) = false ∧
        Char.ofNat n ≠ '.' ∧ Char.ofNat n ≠ '%' := by decide
  have hchar : ∀ d ∈ segment, staysInPath d = true ∧ isSlash d = false ∧ d ≠ '.' ∧ d ≠ '%' := by
    intro d hd
    have hlt : d.toNat < 128 := by
      have hd := h d hd
      simp only [isAsciiLetter, isAsciiUpper, isAsciiLower, isAsciiDigit, Bool.or_eq_true,
        Bool.and_eq_true, decide_eq_true_eq, UInt32.le_iff_toNat_le] at hd
      change d.val.toNat < 128
      have hsmall : (0x5A : UInt32).toNat = 90 ∧ (0x7A : UInt32).toNat = 122 ∧
        (0x39 : UInt32).toNat = 57 := by decide
      omega
    have hd' := hall d.toNat hlt
    rw [Char.ofNat_toNat] at hd'
    exact hd' (h d hd)
  have hdot : afterDot? segment = none := by
    rw [Option.eq_none_iff_forall_ne_some]
    intro rest hrest
    rcases afterDot_eq_some_iff.mp hrest with rfl | rfl | rfl
    · exact (hchar '.' List.mem_cons_self).2.2.1 rfl
    · exact (hchar '%' List.mem_cons_self).2.2.2 rfl
    · exact (hchar '%' List.mem_cons_self).2.2.2 rfl
  exact
    { kept := fun d hd => (hchar d hd).1
      plain := fun d hd => (hchar d hd).2.1
      not_dot := by rw [← Bool.not_eq_true, isDot_iff, hdot]; simp
      not_double_dot := by rw [← Bool.not_eq_true, isDoubleDot_iff, hdot]; simp }

end Segment

section Reading

variable {host inner segment r : List Char} {c : CanonicalUrl}

/-- A domain in front of a path is an authority by itself. -/
theorem parseAuthority_domain {scheme after : List Char} {a : Authority}
    (hs : isSpecialScheme scheme = true) (hhost : ∀ c ∈ host, IsDomainChar c)
    (h : parseAuthority scheme (host ++ '/' :: after) = .ok (a, r)) :
    ∃ old, parseHostText true host = .ok old ∧ a = ⟨[], none, some old, none⟩ ∧
      r = '/' :: after := by
  have hslash : endsAuthority true '/' = true := by decide
  have hne : ∀ c ∈ host, ∀ d, ¬ IsDomainChar d → c ≠ d := fun c hc d hd he =>
    hd (he ▸ hhost c hc)
  have hstays : ∀ c ∈ host, endsAuthority true c = false ∧ c ≠ '[' ∧ c ≠ ']' ∧
      (false = true ∨ c ≠ ':') := by
    intro c hc
    refine ⟨?_, hne c hc _ (by decide), hne c hc _ (by decide), Or.inr (hne c hc _ (by decide))⟩
    rw [← Bool.not_eq_true, endsAuthority_iff]
    rintro (he | he | he | he) <;> exact hne c hc _ (by decide) he
  obtain ⟨text, rest, old, port, htext, -, hold, hport, rfl⟩ := (parseAuthority_ok_iff hs).mp h
  have hlogin : loginOf (host ++ '/' :: after) = ([], host ++ '/' :: after) := by
    rw [loginOf_append hslash, loginOf_none fun c hc => hne c hc _ (by decide)]
  rw [hlogin, takeHostText_of_stays false hstays, takeHostText_ends hslash, List.append_nil] at htext
  cases htext
  cases hport
  rw [hlogin]
  exact ⟨old, hold, rfl, rfl⟩

theorem articleText_eq (host path segment : List Char) : articleText host path segment =
    ['h', 't', 't', 'p', 's', ':', '/', '/'] ++ (host ++ (closedPath path ++ segment)) := by
  have hscheme : "https://".toList = ['h', 't', 't', 'p', 's', ':', '/', '/'] :=
    String.toList_ofList
  unfold articleText
  rw [hscheme]

/-- What the address of an article is cleaned to. -/
theorem clean_articleText (hhost : ∀ c ∈ host, IsDomainChar c) {path : List Char}
    (hinner : closedPath path = '/' :: (inner ++ ['/'])) (hne : segment ≠ [])
    (hsegment : IsSegment segment) : cleanUrlInput (trim (articleText host path segment)) =
      "https".toList ++ ':' :: '/' :: '/' ::
        (host ++ '/' :: (inner.filter isInner ++ '/' :: segment)) := by
  have hvisible : ∀ d ∈ segment, IsVisible d := fun d hd =>
    visible_of_staysInPath (hsegment.kept d hd)
  have htext : articleText host path segment = 'h' :: (['t', 't', 'p', 's', ':', '/', '/'] ++
      (host ++ (closedPath path ++ segment.dropLast)) ++ [segment.getLast hne]) := by
    rw [articleText_eq]
    simp only [List.append_assoc, List.cons_append, List.nil_append,
      List.dropLast_append_getLast hne]
  have hlast := hvisible _ (List.getLast_mem hne)
  have hkeeps : host.filter isInner = host := List.filter_eq_self.mpr fun d hd => by
    have hother : ∀ e, ¬ IsDomainChar e → d ≠ e := fun e he heq => he (heq ▸ hhost d hd)
    simp [isInner, hother '\t' (by decide), hother '\n' (by decide), hother '\r' (by decide)]
  have hsegmentKeeps : segment.filter isInner = segment :=
    List.filter_eq_self.mpr fun d hd => isInner_of (hvisible d hd).1
  have hscheme : "https".toList = ['h', 't', 't', 'p', 's'] := String.toList_ofList
  have hschemeKeeps : ['h', 't', 't', 'p', 's', ':', '/', '/'].filter isInner =
      ['h', 't', 't', 'p', 's', ':', '/', '/'] := by decide
  rw [htext, trim_of_ends (by decide) (not_blank_of_visible hlast),
    cleanUrlInput_of_ends (by decide) hlast.1, ← htext, articleText_eq, hinner, hscheme,
    List.filter_append, List.filter_append, List.filter_append, hschemeKeeps, hkeeps, hsegmentKeeps]
  simp [show isInner '/' = true by decide]

/-- The canonical form of the address of an article. -/
theorem normalize_articleText (hhost : ∀ c ∈ host, IsDomainChar c) (hfilled : host ≠ [])
    {path : List Char} (hinner : closedPath path = '/' :: (inner ++ ['/'])) (hne : segment ≠ [])
    (hsegment : IsSegment segment)
    (h : CanonicalUrl.normalize (articleText host path segment) = .ok c) :
    ∃ old new, parseHostText true host = .ok old ∧
      parseHostText true (lowercase old.text) = .ok new ∧
      c = ⟨String.ofList (bareUrl "https".toList ⟨[], none, some new, none⟩
        (canonicalPath (parsePathStart "https".toList
          ('/' :: (inner.filter isInner ++ '/' :: segment))).1)).text⟩ := by
  obtain ⟨scheme, rest, a, r, old, new, hsplit, hweb, hread, hold, hnew, rfl⟩ :=
    normalize_ok_iff.mp h
  rw [clean_articleText hhost hinner hne hsegment, splitScheme_of_web (by decide)] at hsplit
  cases hsplit
  have hdrop : ('/' :: '/' :: (host ++ '/' :: (inner.filter isInner ++ '/' :: segment))).dropWhile
      isSlash = host ++ '/' :: (inner.filter isInner ++ '/' :: segment) := by
    obtain ⟨d, host, rfl⟩ := List.exists_cons_of_ne_nil hfilled
    have hd : isSlash d = false := by
      simp only [isSlash, Bool.or_eq_false_iff, beq_eq_false_iff_ne]
      have hdomain := hhost d List.mem_cons_self
      exact ⟨fun he => absurd (he ▸ hdomain) (by decide), fun he => absurd (he ▸ hdomain) (by decide)⟩
    rw [List.dropWhile_cons_of_pos rfl, List.dropWhile_cons_of_pos rfl, List.cons_append,
      List.dropWhile_cons_of_neg (by simp [hd])]
  rw [hdrop] at hread
  obtain ⟨old', hparse, rfl, rfl⟩ := parseAuthority_domain (by decide) hhost hread
  cases hold
  exact ⟨old, new, hparse, hnew, rfl⟩

end Reading

section Path

variable {scheme path inner segment : List Char} {ps segments : List (List Char)}

/-- The last segment of a path is read last. -/
theorem addSegments_last (hsegment : IsSegment segment) (ps stack : List (List Char)) :
    ∃ front, addSegments false stack (ps ++ [segment]) = segment :: front := by
  induction ps generalizing stack with
  | nil =>
    rw [List.nil_append, addSegments_cons, hsegment.not_double_dot, hsegment.not_dot,
      percentEncode_of_kept hsegment.kept]
    exact ⟨stack, rfl⟩
  | cons p ps ih =>
    rw [List.cons_append, addSegments_cons]
    split_ifs <;> exact ih _

/-- Whatever stands in front of it, the last segment of a path is the last of its canonical form. -/
theorem canonicalPath_last (hweb : isWebScheme scheme = true) (hinner : IsPathText inner)
    (hsegment : IsSegment segment) (hne : segment ≠ []) :
    ∃ front, AreCanonical (front ++ [segment]) ∧
      canonicalPath (parsePathStart scheme ('/' :: (inner ++ '/' :: segment))).1 =
        pathOfSegments (front ++ [segment]) := by
  have hkept : ∀ d ∈ ['?', '#'], d ∉ segment := fun d hd hmem => by
    have hstays := hsegment.kept d hmem
    simp only [List.mem_cons, List.not_mem_nil, or_false] at hd
    obtain rfl | rfl := hd
    · exact absurd hstays (by decide)
    · exact absurd hstays (by decide)
  have htext : IsPathText ('/' :: (inner ++ '/' :: segment)) := by
    simp [IsPathText, hinner.1, hinner.2, hkept '?' (by simp), hkept '#' (by simp)]
  have hsplit : splitAll isSlash (inner ++ '/' :: segment) =
      splitAll isSlash inner ++ [segment] := by
    rw [splitAll_append_sep (by decide), splitAll_of_not_mem hsegment.plain]
  obtain ⟨stack, hstack⟩ := addSegments_last hsegment (splitAll isSlash inner) []
  have hall : ∀ p ∈ segment :: stack, IsSegment p := by
    rw [← hstack, ← hsplit]
    exact segments_addSegments (fun _ h => absurd h List.not_mem_nil) fun p hp c hc =>
      (mem_of_mem_splitAll hp hc).2
  have hweb' : webPath (dropSlash ('/' :: (inner ++ '/' :: segment))) =
      slashed (stack.reverse ++ [segment]) := by
    rw [show dropSlash ('/' :: (inner ++ '/' :: segment)) = inner ++ '/' :: segment from rfl,
      webPath, hsplit, hstack, pathOfStack, List.reverse_cons]
    rfl
  have hrest : ∀ p ∈ stack.reverse ++ [segment], IsSegment p := fun p hp => hall p (by
    simpa [or_comm] using hp)
  refine ⟨stack.reverse.filter (!·.isEmpty), ?_, ?_⟩
  · intro p hp
    rcases List.mem_append.mp hp with hp | hp
    · obtain ⟨hmem, hfilled⟩ := List.mem_filter.mp hp
      exact ⟨hrest p (List.mem_append_left _ hmem), by simpa using hfilled⟩
    · rw [List.mem_singleton.mp hp]
      exact ⟨hsegment, hne⟩
  · rw [parsePathStart_path hweb, takePath_self htext, hweb', canonicalPath_slashed hrest,
      List.filter_append, List.filter_cons_of_pos (by simpa using hne), List.filter_nil]

theorem intercalate_slash (p : List Char) (ps : List (List Char)) :
    ['/'].intercalate (p :: ps) = p ++ slashed ps := by
  induction ps generalizing p with
  | nil => simp [slashed]
  | cons q ps ih =>
    rw [List.intercalate_cons_cons, ih, slashed, slashed, List.flatMap_cons]
    simp

/-- What stands in front of the last slash of a canonical path. -/
theorem exists_front {q rest : List Char} (h : AreCanonical segments)
    (hpath : pathOfSegments segments = q ++ '/' :: rest) (hne : rest ≠ []) (hrest : '/' ∉ rest) :
    ∃ front, segments = front ++ [rest] ∧ q = slashed front := by
  have hfilled : segments ≠ [] := by
    rintro rfl
    have hlength := congrArg List.length hpath
    simp only [pathOfSegments, if_true, List.length_append, List.length_cons, List.length_nil]
      at hlength
    exact hne (List.length_eq_zero_iff.mp (by omega))
  have hplain : ∀ c ∈ rest, (c == '/') = false := fun c hc => by
    rw [beq_eq_false_iff_ne]
    rintro rfl
    exact hrest hc
  have hsplit := splitAll_pathOfSegments h hfilled
  rw [hpath, splitAll_append_sep (by decide), splitAll_of_not_mem hplain] at hsplit
  obtain ⟨p, front, hq⟩ := List.exists_cons_of_ne_nil (splitAll_ne_nil (· == '/') q)
  rw [hq] at hsplit
  obtain ⟨rfl, rfl⟩ := List.cons.inj hsplit
  refine ⟨front, rfl, ?_⟩
  rw [← intercalate_splitAll '/' q, hq, intercalate_slash]
  rfl

theorem pathText_inner (hinner : closedPath path = '/' :: (inner ++ ['/']))
    (hpath : IsPathText path) : IsPathText (inner.filter isInner) := by
  have hmem : ∀ d ∈ inner.filter isInner, d ∈ path ∨ d = '/' := by
    intro d hd
    have hclosed : d ∈ closedPath path := by
      rw [hinner]
      exact List.mem_cons_of_mem _ (List.mem_append_left _ (List.mem_filter.mp hd).1)
    unfold closedPath at hclosed
    split at hclosed
    · exact Or.inl hclosed
    · exact (List.mem_append.mp hclosed).imp_right List.mem_singleton.mp
  exact ⟨fun h => (hmem _ h).elim hpath.1 (by decide), fun h => (hmem _ h).elim hpath.2 (by decide)⟩

end Path

section Matching

variable {host path segment : List Char}

theorem hostMatches_exact {pattern : List Char} (h : '*' ∉ pattern) :
    hostMatches pattern host = true ↔ host = pattern := by
  unfold hostMatches
  split
  · next hwild =>
    rw [after_eq_some_iff] at hwild
    rw [hwild] at h
    exact absurd List.mem_cons_self h
  · exact beq_iff_eq

theorem matchesPath_iff {text : List Char} :
    (ArticleShape.of [host] [path]).matchesPath text = true ↔
      ∃ rest, text = closedPath path ++ rest ∧ rest ≠ [] ∧ '/' ∉ rest := by
  change ([closedPath path].any fun start => _) = true ↔ _
  rw [List.any_cons, List.any_nil, Bool.or_false]
  split
  · next rest hrest =>
    rw [after_eq_some_iff] at hrest
    simp [hrest, List.contains_eq_mem]
  · next hnone =>
    simp only [Bool.false_eq_true, false_iff]
    rintro ⟨rest, hrest, -⟩
    rw [after_eq_some_iff.mpr hrest] at hnone
    cases hnone

/-- A canonical form has the shape if its host is the host, and its path adds one segment. -/
theorem matches_bareUrl_iff {scheme : List Char} {a : Authority} {segments : List (List Char)}
    {new : Host} (hweb : isWebScheme scheme = true) (ha : IsPlainAuthority scheme a)
    (h : AreCanonical segments) (hnew : a.host = some new) (hstar : '*' ∉ lowercase host) :
    (ArticleShape.of [host] [path]).matches
        ⟨String.ofList (bareUrl scheme a (pathOfSegments segments)).text⟩ = true ↔
      new.text = lowercase host ∧
        ∃ rest, pathOfSegments segments = closedPath path ++ rest ∧ rest ≠ [] ∧ '/' ∉ rest := by
  have hurl : CanonicalUrl.url ⟨String.ofList (bareUrl scheme a (pathOfSegments segments)).text⟩ =
      .ok (bareUrl scheme a (pathOfSegments segments)) := by
    rw [CanonicalUrl.url, String.toList_ofList, parse_bareUrl hweb ha h]
  have hhost : (bareUrl scheme a (pathOfSegments segments)).hostText = some new.text := by
    rw [Url.hostText, Url.host, bareUrl, Option.bind_some, hnew, Option.map_some]
  unfold ArticleShape.matches
  simp only [hurl, hhost, Bool.and_eq_true]
  refine and_congr ?_ matchesPath_iff
  change ([lowercase host].any fun pattern => hostMatches pattern new.text) = true ↔ _
  rw [List.any_cons, List.any_nil, Bool.or_false, hostMatches_exact hstar]

/-- The path of an article's address has the beginning just when the beginning fits. -/
theorem path_fits_iff {scheme inner : List Char} (hweb : isWebScheme scheme = true)
    (hinner : closedPath path = '/' :: (inner ++ ['/'])) (hsegment : IsSegment segment)
    (hne : segment ≠ []) {segments : List (List Char)} (h : AreCanonical segments)
    (hpath : canonicalPath (parsePathStart scheme
      ('/' :: (inner.filter isInner ++ '/' :: segment))).1 = pathOfSegments segments) :
    (∃ rest, pathOfSegments segments = closedPath path ++ rest ∧ rest ≠ [] ∧ '/' ∉ rest) ↔
      PathFits path := by
  constructor
  · rintro ⟨rest, hcut, hfilled, hrest⟩
    rw [hinner, ← List.cons_append, List.append_assoc, List.singleton_append] at hcut
    obtain ⟨front, rfl, hfront⟩ := exists_front h hcut hfilled hrest
    refine ⟨front, fun p hp => h p (List.mem_append_left _ hp), ?_⟩
    rw [hinner, ← hfront, List.cons_append]
  · rintro ⟨front, hfront, hclosed⟩
    rw [hinner, ← List.cons_append] at hclosed
    have hslashed : '/' :: inner = slashed front := List.append_cancel_right hclosed
    have hall : AreCanonical (front ++ [segment]) := by
      intro p hp
      rcases List.mem_append.mp hp with hp | hp
      · exact hfront p hp
      · rw [List.mem_singleton.mp hp]
        exact ⟨hsegment, hne⟩
    -- nothing in such a beginning is left out of a URL
    have hkept : inner.filter isInner = inner := List.filter_eq_self.mpr fun c hc => by
      have hmem : c ∈ slashed front := hslashed ▸ List.mem_cons_of_mem _ hc
      rcases mem_slashed hmem with rfl | ⟨p, hp, hc⟩
      · decide
      · exact isInner_of (visible_of_staysInPath ((hfront p hp).1.kept c hc)).1
    have htext : '/' :: (inner ++ '/' :: segment) = pathOfSegments (front ++ [segment]) := by
      rw [pathOfSegments, if_neg (by simp), slashed, List.flatMap_append, ← slashed, ← hslashed]
      simp
    rw [hkept, htext, (canonical_path_fixed hweb hall).1, (canonical_path_fixed hweb hall).2] at hpath
    refine ⟨segment, ?_, hne, fun hmem => ?_⟩
    · rw [← hpath, ← htext, hinner]
      simp
    · cases hsegment.plain '/' hmem

end Matching

/-- The address of an article below an accepted host and an accepted path has their shape just when
host and path are written as a canonical form writes them; the article's slug is its segment in any
case, if the path holds no question mark and no number sign. -/
theorem matches_iff_fits {host path segment : List Char} {c : CanonicalUrl}
    (hhost : checkPattern host = .ok ()) (hexact : after? ['*', '.'] host = none)
    (hpath : checkPath (String.ofList path) = .ok ()) (hne : segment ≠ [])
    (hsegment : ∀ d ∈ segment, isAsciiLetter d = true ∨ isAsciiDigit d = true)
    (hc : CanonicalUrl.normalize (articleText host path segment) = .ok c) :
    ((ArticleShape.of [host] [path]).matches c = true ↔ HostFits host ∧ PathFits path) ∧
      (IsPathText path → c.slug = some segment) := by
  obtain ⟨hfilled, hdomain⟩ := domain_of_checkPattern hhost hexact
  obtain ⟨inner, hinner⟩ := closedPath_of_checkPath hpath
  have hplain := segment_of_alnum hsegment
  obtain ⟨old, new, hold, hnew, rfl⟩ := normalize_articleText hdomain hfilled hinner hne hplain hc
  have hweb : isWebScheme "https".toList = true := by decide
  have ha : IsPlainAuthority "https".toList ⟨[], none, some new, none⟩ :=
    { user := fun _ h => nomatch h
      password := fun _ h => nomatch h
      host := ⟨new, rfl, plainHost_of_parse hold hnew⟩
      port := fun _ h => nomatch h }
  have hstar : '*' ∉ lowercase host := fun hmem =>
    absurd (domainChar_of_mem_lowercase hdomain hmem (by decide)) (by decide)
  constructor
  · obtain ⟨segments, hsegments, htext⟩ := exists_canonical_segments hweb
      ('/' :: (inner.filter isInner ++ '/' :: segment))
    rw [htext, matches_bareUrl_iff hweb ha hsegments rfl hstar,
      host_text_eq_iff hdomain hold hnew, path_fits_iff hweb hinner hplain hne hsegments htext]
  · intro htext
    obtain ⟨front, hfront, hlast⟩ := canonicalPath_last hweb (pathText_inner hinner htext) hplain hne
    rw [hlast, slug_bareUrl hweb ha hfront, List.getLast?_concat]

/-- An address of numbers, and a path with capitals and an escape and without its last slash. -/
theorem matches_iff_fits_address :
    checkPattern "192.0.2.7".toList = .ok () ∧
    checkPath (String.ofList "/Notes/no%20%31".toList) = .ok () ∧
    CanonicalUrl.normalize (articleText "192.0.2.7".toList "/Notes/no%20%31".toList "A1".toList) =
      .ok ⟨"https://192.0.2.7/Notes/no%20%31/A1"⟩ ∧
    (ArticleShape.of ["192.0.2.7".toList] ["/Notes/no%20%31".toList]).matches
      ⟨"https://192.0.2.7/Notes/no%20%31/A1"⟩ = true ∧
    CanonicalUrl.slug ⟨"https://192.0.2.7/Notes/no%20%31/A1"⟩ = some "A1".toList := by
  have hhost : checkPattern "192.0.2.7".toList = .ok () := ok_of_isOk (by decide +kernel)
  have hpath : checkPath (String.ofList "/Notes/no%20%31".toList) = .ok () :=
    ok_of_isOk (by decide +kernel)
  have hc : CanonicalUrl.normalize
      (articleText "192.0.2.7".toList "/Notes/no%20%31".toList "A1".toList) =
      .ok ⟨"https://192.0.2.7/Notes/no%20%31/A1"⟩ := by decide +kernel
  obtain ⟨hmatches, hslug⟩ := matches_iff_fits hhost (by decide +kernel) hpath (by decide)
    (List.forall_iff_forall_mem.mp (by decide)) hc
  have hfits : HostFits "192.0.2.7".toList :=
    ⟨List.forall_iff_forall_mem.mp (by decide +kernel),
      fun _ => ⟨3221225991, by decide, by decide +kernel⟩⟩
  -- Deciding `∀ c ∈ s` may try every character there is; `List.Forall` walks over `s` alone.
  have segment : ∀ s : List Char, s.Forall (fun c => staysInPath c = true) →
      s.Forall (fun c => isSlash c = false) → isDot s = false → isDoubleDot s = false → IsSegment s :=
    fun s hkept hplain hdot hdoubleDot =>
      ⟨List.forall_iff_forall_mem.mp hkept, List.forall_iff_forall_mem.mp hplain, hdot, hdoubleDot⟩
  have hcanonical : AreCanonical ["Notes".toList, "no%20%31".toList] := by
    refine List.forall_mem_cons.mpr ⟨⟨segment _ ?_ ?_ ?_ ?_, ?_⟩,
      List.forall_mem_singleton.mpr ⟨segment _ ?_ ?_ ?_ ?_, ?_⟩⟩ <;> decide +kernel
  exact ⟨hhost, hpath, hc, hmatches.mpr ⟨hfits, _, hcanonical, by decide +kernel⟩,
    hslug ⟨by decide +kernel, by decide +kernel⟩⟩

/-- A path beyond ASCII is accepted, but no article below it has its shape. -/
theorem unseen_articles :
    checkPattern "example.com".toList = .ok () ∧ checkPath "/記事/" = .ok () ∧
    CanonicalUrl.normalize (articleText "example.com".toList "/記事/".toList "a1".toList) =
      .ok ⟨"https://example.com/%E8%A8%98%E4%BA%8B/a1"⟩ ∧
    (ArticleShape.of ["example.com".toList] ["/記事/".toList]).matches
      ⟨"https://example.com/%E8%A8%98%E4%BA%8B/a1"⟩ = false :=
  ⟨ok_of_isOk (by decide +kernel), ok_of_isOk (by decide +kernel), by decide +kernel,
    by decide +kernel⟩

end Archiver
