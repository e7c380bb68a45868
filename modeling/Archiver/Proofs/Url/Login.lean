import Archiver.Proofs.Url.CanonicalForm

namespace Archiver

/-- The user name of a URL, with the password if it has one. -/
def Url.login? (u : Url) : Option (List Char × Option (List Char)) :=
  u.authority.map fun a => (a.user, a.password)

/-- A URL with neither user name nor password. -/
def Url.withoutLogin (u : Url) : Url :=
  { u with authority := u.authority.map fun a => { a with user := [], password := none } }

/-- The text of a URL with a login in front of its place. -/
def loginText (scheme login place : List Char) : List Char :=
  scheme ++ "://".toList ++ login ++ '@' :: place

/-- A login and a place, as they can stand in front of each other: the login ends nothing and holds
nothing that is dropped, and no at sign belongs to the place. -/
structure Adjoin (login place : List Char) : Prop where
  stays : ∀ c ∈ login, endsAuthority true c = false
  inner : ∀ c ∈ login, isInner c = true
  last : '@' ∉ place.takeWhile fun c => !endsAuthority true c

section Canonical

variable {u v k l : Url} {s : List Char} {c : CanonicalUrl}

/-- A canonical form reads as the URL it was written from. -/
theorem read_of_normalize (h : CanonicalUrl.normalize s = .ok c) : ∃ u k,
    Url.parse (trim s) = .ok u ∧ u.canonical = .ok k ∧ c.url = .ok k ∧ c.text.toList = k.text := by
  obtain ⟨scheme, rest, a, r, old, host, hsplit, hweb, hread, hold, hhost, rfl⟩ :=
    normalize_ok_iff.mp h
  obtain ⟨hparse, -⟩ := parse_web_iff.mpr ⟨scheme, rest, a, r, hsplit, hweb, hread, rfl⟩
  obtain ⟨segments, hsegments, hpath⟩ := exists_canonical_segments hweb r
  have ha := plainAuthority_of_parse (special_of_web hweb).1 hread hold hhost
  refine ⟨withTail scheme (some a) (parsePathStart scheme r),
    bareUrl scheme { a with host := some host } (canonicalPath (parsePathStart scheme r).1), hparse,
    canonical_ok_iff.mpr ⟨hweb, a, old, host, rfl, hold, hhost, rfl⟩, ?_, String.toList_ofList⟩
  rw [CanonicalUrl.url, String.toList_ofList, hpath]
  exact parse_bareUrl hweb ha hsegments

/-- The canonical form of a URL has its login. -/
theorem login_canonical (h : u.canonical = .ok k) : k.login? = u.login? := by
  obtain ⟨-, a, old, host, ha, -, -, rfl⟩ := canonical_ok_iff.mp h
  rw [Url.login?, Url.login?, ha]
  rfl

/-- A login decides neither whether there is a canonical form, nor anything else in it. -/
theorem canonical_of_withoutLogin (huv : u.withoutLogin = v.withoutLogin)
    (h : u.canonical = .ok k) : ∃ l, v.canonical = .ok l ∧ k.withoutLogin = l.withoutLogin := by
  obtain ⟨hweb, a, old, host, ha, hold, hhost, rfl⟩ := canonical_ok_iff.mp h
  simp only [Url.withoutLogin, Url.mk.injEq, ha, Option.map_some] at huv
  obtain ⟨hscheme, hauthority, hpath, -, -⟩ := huv
  obtain ⟨b, hb, hsame⟩ := Option.map_eq_some_iff.mp hauthority.symm
  simp only [Authority.mk.injEq, true_and] at hsame
  refine ⟨_, canonical_ok_iff.mpr
    ⟨hscheme ▸ hweb, b, old, host, hb, hsame.1.trans hold, hhost, rfl⟩, ?_⟩
  simp [Url.withoutLogin, bareUrl, hscheme, hpath, hsame.2]

theorem eq_of_withoutLogin (huv : u.withoutLogin = v.withoutLogin) (hlogin : u.login? = v.login?) :
    u = v := by
  obtain ⟨scheme, _ | ⟨user, password, host, port⟩, path, query, fragment⟩ := u
  all_goals obtain ⟨scheme', _ | ⟨user', password', host', port'⟩, path', query', fragment'⟩ := v
  all_goals simp_all [Url.withoutLogin, Url.login?]

/-- Of two URLs that differ at most in the login, the canonical forms differ just as the logins do. -/
theorem normalize_eq_iff {s s' : List Char} {c c' : CanonicalUrl} {u u' : Url}
    (hu : Url.parse (trim s) = .ok u) (hu' : Url.parse (trim s') = .ok u')
    (huv : u.withoutLogin = u'.withoutLogin) (hc : CanonicalUrl.normalize s = .ok c)
    (hc' : CanonicalUrl.normalize s' = .ok c') : c = c' ↔ u.login? = u'.login? := by
  obtain ⟨v, k, hv, hk, hread, htext⟩ := read_of_normalize hc
  obtain ⟨v', k', hv', hk', hread', htext'⟩ := read_of_normalize hc'
  rw [hu] at hv
  rw [hu'] at hv'
  cases hv
  cases hv'
  constructor
  · rintro rfl
    rw [hread] at hread'
    cases hread'
    rw [← login_canonical hk, login_canonical hk']
  · intro hlogin
    have hsame := eq_of_withoutLogin huv hlogin
    rw [hsame, hk'] at hk
    cases hk
    obtain ⟨text⟩ := c
    obtain ⟨text'⟩ := c'
    exact congrArg CanonicalUrl.mk (String.toList_inj.mp (htext.trans htext'.symm))

end Canonical

section Text

variable {scheme login place : List Char}

theorem isAsciiLetter_asciiLower {c : Char} (h : isAsciiLetter (asciiLower c) = true) :
    isAsciiLetter c = true := by
  unfold asciiLower at h
  split at h
  · next hupper => simp [isAsciiLetter, hupper]
  · exact h

theorem letters_of_web (h : isWebScheme (scheme.map asciiLower) = true) :
    scheme ≠ [] ∧ ∀ c ∈ scheme, isAsciiLetter c = true := by
  simp only [isWebScheme, Bool.or_eq_true, beq_iff_eq] at h
  have hletters : ∀ c ∈ scheme.map asciiLower, isAsciiLetter c = true := by
    obtain h | h := h <;> rw [h] <;> exact List.forall_iff_forall_mem.mp (by decide)
  refine ⟨fun hnil => ?_, fun c hc =>
    isAsciiLetter_asciiLower (hletters _ (List.mem_map_of_mem hc))⟩
  rw [hnil] at h
  obtain h | h := h <;> cases h

theorem visible_of_letter {c : Char} (h : isAsciiLetter c = true) : IsVisible c := by
  simp only [isAsciiLetter, isAsciiUpper, isAsciiLower, Bool.or_eq_true, Bool.and_eq_true,
    decide_eq_true_eq, UInt32.le_iff_toNat_le] at h
  simp only [IsVisible, UInt32.lt_iff_toNat_lt]
  simp at h ⊢
  omega

/-- The scheme of a text is what stands in front of its first colon, if that is letters. -/
theorem splitScheme_letters (hne : scheme ≠ []) (h : ∀ c ∈ scheme, isAsciiLetter c = true)
    (rest : List Char) :
    splitScheme (scheme ++ ':' :: rest) = some (scheme.map asciiLower, rest) := by
  have hall : ∀ c ∈ scheme, isSchemeChar c = true := fun c hc => by
    rw [isSchemeChar, h c hc]
    rfl
  have hcolon : isSchemeChar ':' = false := by decide
  obtain ⟨c, cs, rfl⟩ := List.exists_cons_of_ne_nil hne
  have htake : ((c :: cs) ++ ':' :: rest).takeWhile isSchemeChar = c :: cs := by
    rw [takeWhile_append_stop hcolon, List.takeWhile_eq_self_iff.mpr hall]
  have hdrop : ((c :: cs) ++ ':' :: rest).dropWhile isSchemeChar = ':' :: rest := by
    rw [dropWhile_append_stop hcolon, List.dropWhile_eq_nil_iff.mpr hall, List.nil_append]
  rw [List.cons_append] at htake hdrop ⊢
  simp only [splitScheme, if_pos (h c List.mem_cons_self), hdrop, htake]

/-- A place as it is left by the cleaning of the text that it ends. -/
def cleanPlace (place : List Char) : List Char :=
  (((trimEnd place).reverse.dropWhile isOuter).reverse).filter isInner

/-- Behind a character that is not dropped, a text is trimmed and cleaned by itself. -/
theorem clean_trim_stop {c l : Char} {s : List Char} (hc : IsVisible c)
    (hs : ∀ d ∈ s, isInner d = true) (hl : IsVisible l) (place : List Char) :
    cleanUrlInput (trim (c :: (s ++ l :: place))) = c :: (s ++ l :: cleanPlace place) := by
  rw [trim_stop (not_blank_of_visible hc) (not_blank_of_visible hl), clean_stop hc.1 hs hl.1,
    cleanPlace]

theorem takeWhile_filter {p q : Char → Bool} (h : ∀ c, p c = false → q c = true) (s : List Char) :
    (s.filter q).takeWhile p = (s.takeWhile p).filter q := by
  induction s with
  | nil => rfl
  | cons c s ih =>
    by_cases hq : q c = true
    · rw [List.filter_cons_of_pos hq]
      by_cases hp : p c = true
      · rw [List.takeWhile_cons_of_pos hp, List.takeWhile_cons_of_pos hp,
          List.filter_cons_of_pos hq, ih]
      · rw [List.takeWhile_cons_of_neg hp, List.takeWhile_cons_of_neg hp, List.filter_nil]
    · have hp : p c = true := Bool.of_not_eq_false fun hp => hq (h c hp)
      rw [List.filter_cons_of_neg hq, List.takeWhile_cons_of_pos hp, List.filter_cons_of_neg hq, ih]

theorem inner_of_ends {c : Char} (h : endsAuthority true c = true) : isInner c = true := by
  obtain rfl | rfl | rfl | rfl := endsAuthority_iff.mp h <;> decide

theorem cleanPlace_at (h : '@' ∉ place.takeWhile fun c => !endsAuthority true c) :
    '@' ∉ (cleanPlace place).takeWhile fun c => !endsAuthority true c := by
  intro hmem
  have hprefix : ((trimEnd place).reverse.dropWhile isOuter).reverse <+: place :=
    (List.reverse_prefix.mpr (List.dropWhile_suffix _)).trans
      (by simpa using trimEnd_isPrefix place)
  rw [cleanPlace, takeWhile_filter fun c hc => inner_of_ends (by simpa using hc)] at hmem
  obtain ⟨rest, hrest⟩ := hprefix
  rw [← hrest, List.takeWhile_append] at h
  have hin := (List.mem_filter.mp hmem).1
  split at h
  · exact h (List.mem_append_left _ (List.takeWhile_subset _ hin))
  · exact h hin

/-- Without an at sign of its own, a place has the login that stands in front of it. -/
theorem loginOf_place (hlogin : ∀ c ∈ login, endsAuthority true c = false)
    (hplace : '@' ∉ place.takeWhile fun c => !endsAuthority true c) :
    loginOf (login ++ '@' :: place) = (login, place) ∧ loginOf place = ([], place) := by
  have hfront : ∀ c ∈ place.takeWhile fun c => !endsAuthority true c,
      endsAuthority true c = false ∧ c ≠ '@' := fun c hc =>
    ⟨by simpa using List.mem_takeWhile_imp hc, fun he => hplace (he ▸ hc)⟩
  cases hdrop : place.dropWhile fun c => !endsAuthority true c with
  | nil =>
    have hall : (place.takeWhile fun c => !endsAuthority true c) = place :=
      List.takeWhile_eq_self_iff.mpr (List.dropWhile_eq_nil_iff.mp hdrop)
    rw [hall] at hfront
    exact ⟨loginOf_at hlogin hfront, loginOf_none fun c hc => (hfront c hc).2⟩
  | cons c rest =>
    have hc : endsAuthority true c = true := by
      have hhead := List.head?_dropWhile_not (fun c => !endsAuthority true c) place
      rw [hdrop] at hhead
      simpa using hhead
    have hcut := List.takeWhile_append_dropWhile (p := fun c => !endsAuthority true c) (l := place)
    rw [hdrop] at hcut
    rw [← hcut, ← List.cons_append, ← List.append_assoc, loginOf_append hc, loginOf_append hc,
      loginOf_at hlogin hfront, loginOf_none fun c hc => (hfront c hc).2]
    exact ⟨rfl, rfl⟩

theorem splitFirst_eq_some {sep : Char → Bool} {s front back : List Char}
    (h : splitFirst sep s = some (front, back)) : ∃ c, sep c = true ∧ s = front ++ c :: back := by
  induction s generalizing front with
  | nil => cases h
  | cons c s ih =>
    rw [splitFirst] at h
    split at h
    · next hc =>
      cases h
      exact ⟨c, hc, rfl⟩
    · obtain ⟨parts, hparts, heq⟩ := Option.map_eq_some_iff.mp h
      cases heq
      obtain ⟨d, hd, hs⟩ := ih hparts
      exact ⟨d, hd, by rw [hs]; rfl⟩

/-- Only nothing, and a colon alone, are logins without a user name and without a password. -/
theorem parseLogin_eq_none_iff : parseLogin login = ([], none) ↔ login = [] ∨ login = [':'] := by
  constructor
  · intro h
    unfold parseLogin at h
    split at h
    · exact Or.inl (percentEncode_eq_nil.mp (Prod.mk.inj h).1)
    · next user password hsplit =>
      obtain ⟨huser, hpassword⟩ := Prod.mk.inj h
      obtain ⟨c, hc, hlogin⟩ := splitFirst_eq_some hsplit
      split at hpassword
      · next hempty =>
        rw [percentEncode_eq_nil.mp huser, List.isEmpty_iff.mp hempty, beq_iff_eq.mp hc] at hlogin
        exact Or.inr hlogin
      · cases hpassword
  · rintro (rfl | rfl) <;> rfl

theorem isSlash_of_not_ends {c : Char} (h : endsAuthority true c = false) : isSlash c = false := by
  rw [← Bool.not_eq_true, endsAuthority_iff] at h
  simp only [isSlash, Bool.or_eq_false_iff, beq_eq_false_iff_ne]
  exact ⟨fun hc => h (Or.inl hc), fun hc => h (Or.inr (Or.inr (Or.inr hc)))⟩

/-- The text behind the scheme of a text with a login, and of the text without it. -/
theorem split_loginText (hscheme : isWebScheme (scheme.map asciiLower) = true)
    (h : Adjoin login place) :
    splitScheme (cleanUrlInput (trim (loginText scheme login place))) =
        some (scheme.map asciiLower, '/' :: '/' :: (login ++ '@' :: cleanPlace place)) ∧
      splitScheme (cleanUrlInput (trim (scheme ++ "://".toList ++ place))) =
        some (scheme.map asciiLower, '/' :: '/' :: cleanPlace place) := by
  obtain ⟨hne, hletters⟩ := letters_of_web hscheme
  have hsplit := splitScheme_letters hne hletters
  obtain ⟨c, cs, rfl⟩ := List.exists_cons_of_ne_nil hne
  have hc := visible_of_letter (hletters c List.mem_cons_self)
  have hcs : ∀ d ∈ cs, isInner d = true := fun d hd =>
    isInner_of (visible_of_letter (hletters d (List.mem_cons_of_mem c hd))).1
  have hinner : ∀ d ∈ cs ++ "://".toList ++ login, isInner d = true := by
    simp only [List.forall_mem_append]
    exact ⟨⟨hcs, List.forall_iff_forall_mem.mp (by decide)⟩, h.inner⟩
  have hinner' : ∀ d ∈ cs ++ ":/".toList, isInner d = true := by
    simp only [List.forall_mem_append]
    exact ⟨hcs, List.forall_iff_forall_mem.mp (by decide)⟩
  have hclean := clean_trim_stop hc hinner ⟨by decide, by decide⟩ place (l := '@')
  have hclean' := clean_trim_stop hc hinner' ⟨by decide, by decide⟩ place (l := '/')
  have htext : loginText (c :: cs) login place = c :: (cs ++ "://".toList ++ login ++ '@' :: place) := by
    simp [loginText]
  have htext' : (c :: cs) ++ "://".toList ++ place = c :: (cs ++ ":/".toList ++ '/' :: place) := by simp
  constructor
  · rw [htext, hclean, ← hsplit]
    simp
  · rw [htext', hclean', ← hsplit]
    simp

/-- What a text with a login is read as, and what the text without it. -/
theorem parse_loginText (hscheme : isWebScheme (scheme.map asciiLower) = true)
    (h : Adjoin login place) {u : Url} (hu : Url.parse (trim (loginText scheme login place)) = .ok u)
    (hweb : isWebScheme u.scheme = true) : u.login? = some (parseLogin login) ∧
      ∃ v, Url.parse (trim (scheme ++ "://".toList ++ place)) = .ok v ∧
        v.login? = some ([], none) ∧ u.withoutLogin = v.withoutLogin := by
  obtain ⟨hsplit, hsplit'⟩ := split_loginText hscheme h
  have hspecial := (special_of_web hscheme).1
  obtain ⟨hlogin, hbare⟩ := loginOf_place h.stays (cleanPlace_at h.last)
  obtain ⟨_, _, a, r, hparts, -, hread, rfl⟩ := parse_web_iff.mp ⟨hu, hweb⟩
  rw [hsplit] at hparts
  cases hparts
  -- the login begins with no slash, and neither does the place, which has a host
  have hdrop : ('/' :: '/' :: (login ++ '@' :: cleanPlace place)).dropWhile isSlash =
      login ++ '@' :: cleanPlace place := by
    rw [List.dropWhile_cons_of_pos rfl, List.dropWhile_cons_of_pos rfl]
    cases login with
    | nil => rfl
    | cons c login =>
      have hc := isSlash_of_not_ends (h.stays c List.mem_cons_self)
      exact List.dropWhile_cons_of_neg (by simp [hc])
  rw [hdrop] at hread
  obtain ⟨text, after, host, port, htake, hne, hhost, hport, rfl⟩ :=
    (parseAuthority_ok_iff hspecial).mp hread
  rw [hlogin] at htake
  have hdrop' : ('/' :: '/' :: cleanPlace place).dropWhile isSlash = cleanPlace place := by
    rw [List.dropWhile_cons_of_pos rfl, List.dropWhile_cons_of_pos rfl]
    cases hplace : cleanPlace place with
    | nil => rfl
    | cons c rest =>
      have hends : endsAuthority true c = false := by
        by_contra hends
        rw [hplace, takeHostText_ends (Bool.of_not_eq_false hends)] at htake
        exact hne (Prod.mk.inj htake).1.symm
      exact List.dropWhile_cons_of_neg (by simp [isSlash_of_not_ends hends])
  have hread' : parseAuthority (scheme.map asciiLower)
      (('/' :: '/' :: cleanPlace place).dropWhile isSlash) =
        .ok (⟨[], none, some host, port⟩, r) := by
    rw [hdrop']
    refine (parseAuthority_ok_iff hspecial).mpr
      ⟨text, after, host, port, hbare ▸ htake, hne, hhost, hport, ?_⟩
    rw [hbare]
    rfl
  refine ⟨by rw [hlogin]; rfl, _,
    (parse_web_iff.mpr ⟨_, _, _, r, hsplit', hscheme, hread', rfl⟩).1, rfl, rfl⟩

end Text

/-- Canonical URLs keep the login: a canonical form reads with the user name and the password of the
text it comes from, and a text that is read alike but for the login has the same canonical form just
when the logins are read alike too. A login in front of a place leaves the canonical form as it is
only if it is empty or a colon alone. -/
theorem login_kept {s : List Char} {c : CanonicalUrl} (hc : CanonicalUrl.normalize s = .ok c) :
    ∃ u k, Url.parse (trim s) = .ok u ∧ c.url = .ok k ∧ k.login? = u.login? ∧
      (∀ s' u' c', Url.parse (trim s') = .ok u' → u.withoutLogin = u'.withoutLogin →
        CanonicalUrl.normalize s' = .ok c' → (c = c' ↔ u.login? = u'.login?)) ∧
      ∀ scheme login place, s = loginText scheme login place →
        isWebScheme (scheme.map asciiLower) = true → Adjoin login place →
          ∃ c', CanonicalUrl.normalize (scheme ++ "://".toList ++ place) = .ok c' ∧
            (c = c' ↔ login = [] ∨ login = [':']) := by
  obtain ⟨u, k, hu, hk, hread, -⟩ := read_of_normalize hc
  refine ⟨u, k, hu, hread, login_canonical hk, fun s' u' c' hu' huv hc' =>
    normalize_eq_iff hu hu' huv hc hc', ?_⟩
  rintro scheme login place rfl hscheme h
  obtain ⟨hlogin, v, hv, hnone, huv⟩ := parse_loginText hscheme h hu (canonical_ok_iff.mp hk).1
  obtain ⟨l, hl, -⟩ := canonical_of_withoutLogin huv hk
  have hc' : CanonicalUrl.normalize (scheme ++ "://".toList ++ place) =
      .ok ⟨String.ofList l.text⟩ := by
    unfold CanonicalUrl.normalize
    rw [hv]
    simp only [hl]
    rfl
  refine ⟨_, hc', ?_⟩
  rw [normalize_eq_iff hu hv huv hc hc', hlogin, hnone, Option.some.injEq, parseLogin_eq_none_iff]

/-- A login with an at sign in its user name and a colon in its password. -/
def crowdedLogin : List Char := "a@b:k:y".toList

theorem login_kept_crowded :
    Adjoin crowdedLogin "[::1]:443/n/@5 ".toList ∧
    CanonicalUrl.normalize (loginText "HTTPs".toList crowdedLogin "[::1]:443/n/@5 ".toList) =
      .ok ⟨"https://a%40b:k%3Ay@[::1]/n/@5"⟩ ∧
    (∃ k, CanonicalUrl.url ⟨"https://a%40b:k%3Ay@[::1]/n/@5"⟩ = .ok k ∧
      k.login? = some ("a%40b".toList, some "k%3Ay".toList)) ∧
    ∃ c, CanonicalUrl.normalize "HTTPs://[::1]:443/n/@5 ".toList = .ok c ∧
      c ≠ ⟨"https://a%40b:k%3Ay@[::1]/n/@5"⟩ := by
  have hadjoin : Adjoin crowdedLogin "[::1]:443/n/@5 ".toList :=
    ⟨List.forall_iff_forall_mem.mp (by decide), List.forall_iff_forall_mem.mp (by decide),
      by decide⟩
  have hc : CanonicalUrl.normalize
      (loginText "HTTPs".toList crowdedLogin "[::1]:443/n/@5 ".toList) =
      .ok ⟨"https://a%40b:k%3Ay@[::1]/n/@5"⟩ := by decide +kernel
  obtain ⟨u, k, hu, hk, hsame, -, hplace⟩ := login_kept hc
  obtain ⟨c, hplain, hiff⟩ := hplace _ _ _ rfl (by decide) hadjoin
  have hlogin : (Url.parse (trim (loginText "HTTPs".toList crowdedLogin
      "[::1]:443/n/@5 ".toList))).toOption.bind Url.login? =
      some ("a%40b".toList, some "k%3Ay".toList) := by decide +kernel
  rw [hu] at hlogin
  exact ⟨hadjoin, hc, ⟨k, hk, hsame.trans hlogin⟩, c, hplain, fun he => absurd (hiff.mp he.symm)
    (by decide)⟩

/-- A password is part of the canonical form, and so of what is written down about an article, and
the same article without it has another one. -/
theorem password_kept :
    CanonicalUrl.normalize "https://me:key@[::1]/n/5".toList = .ok ⟨"https://me:key@[::1]/n/5"⟩ ∧
    CanonicalUrl.normalize "https://[::1]/n/5".toList = .ok ⟨"https://[::1]/n/5"⟩ ∧
    (CanonicalUrl.url ⟨"https://me:key@[::1]/n/5"⟩).toOption.bind Url.login? =
      some ("me".toList, some "key".toList) := by
  decide +kernel

end Archiver
