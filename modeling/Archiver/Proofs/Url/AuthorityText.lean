import Archiver.Proofs.Text.Digits
import Archiver.Proofs.Url.HostText

namespace Archiver

section Characters

variable {c : Char}

/-- What stays in a login ends nothing and parts nothing. -/
theorem userinfo_stays (h : staysInUserinfo c = true) :
    staysInPath c = true ∧ endsAuthority true c = false ∧ c ≠ ':' := by
  simp only [staysInUserinfo, Bool.and_eq_true, Bool.not_eq_true', List.contains_eq_mem,
    decide_eq_false_iff_not] at h
  obtain ⟨hpath, hnot⟩ := h
  have hne : ∀ d ∈ ['/', ':', ';', '=', '@', '[', '\\', ']', '^', '|'], c ≠ d := fun d hd he =>
    hnot (he ▸ hd)
  refine ⟨hpath, ?_, hne ':' (by decide)⟩
  rw [← Bool.not_eq_true, endsAuthority_iff]
  simp only [staysInPath, Bool.and_eq_true, bne_iff_ne] at hpath
  rintro (rfl | rfl | rfl | rfl)
  · exact hne '/' (by decide) rfl
  · exact hpath.1.1.2 rfl
  · exact hpath.1.1.1.2 rfl
  · exact hne '\\' (by decide) rfl

end Characters

/-- An authority in the form in which it is written. -/
structure IsPlainAuthority (scheme : List Char) (a : Authority) : Prop where
  user : ∀ c ∈ a.user, staysInUserinfo c = true
  password : ∀ p, a.password = some p → p ≠ [] ∧ ∀ c ∈ p, staysInUserinfo c = true
  host : ∃ host, a.host = some host ∧ IsPlainHost host
  port : ∀ p, a.port = some p → p ≤ 65535 ∧ some p ≠ defaultPort scheme

section Parsed

variable {scheme s r : List Char} {a : Authority}

theorem parseLogin_plain (login : List Char) :
    (∀ c ∈ (parseLogin login).1, staysInUserinfo c = true) ∧
      ∀ p, (parseLogin login).2 = some p → p ≠ [] ∧ ∀ c ∈ p, staysInUserinfo c = true := by
  unfold parseLogin
  split
  · exact ⟨fun c => kept_of_mem_percentEncode keepsEscapes_userinfo, fun p h => by cases h⟩
  · next user password _ =>
    refine ⟨fun c => kept_of_mem_percentEncode keepsEscapes_userinfo, fun p h => ?_⟩
    simp only at h
    split at h
    · cases h
    · next hne =>
      cases h
      rw [List.isEmpty_iff] at hne
      exact ⟨fun hp => hne (percentEncode_eq_nil.mp hp),
        fun c => kept_of_mem_percentEncode keepsEscapes_userinfo⟩

theorem portOf_plain {port : Option Nat} (h : portOf scheme s = .ok (port, r)) :
    ∀ p, port = some p → p ≤ 65535 ∧ some p ≠ defaultPort scheme := by
  rintro p rfl
  unfold portOf at h
  split at h
  · simp only [parsePort] at h
    split_ifs at h with hbad hown
    · cases h
    · cases h
      simp only [Bool.or_eq_true, decide_eq_true_eq, not_or, Nat.not_lt, beq_iff_eq] at hbad hown
      exact ⟨hbad.1, hown.2⟩
  · cases h

/-- An authority that was read is in the form in which it is written, its host apart. -/
theorem plainAuthority_of_parse (hs : isSpecialScheme scheme = true)
    (h : parseAuthority scheme s = .ok (a, r)) {old host : Host} (hold : a.host = some old)
    (hhost : parseHostText true (lowercase old.text) = .ok host) :
    IsPlainAuthority scheme { a with host := some host } := by
  obtain ⟨text, after, first, port, -, -, hfirst, hport, rfl⟩ := (parseAuthority_ok_iff hs).mp h
  cases hold
  exact
    { user := (parseLogin_plain _).1
      password := (parseLogin_plain _).2
      host := ⟨host, rfl, plainHost_of_parse hfirst hhost⟩
      port := portOf_plain hport }

end Parsed

section Rereading

variable {scheme : List Char} {a : Authority}

theorem splitFirst_none {sep : Char → Bool} {s : List Char} (hs : ∀ c ∈ s, sep c = false) :
    splitFirst sep s = none := by
  induction s with
  | nil => rfl
  | cons c s ih =>
    rw [splitFirst, hs c List.mem_cons_self, ih fun d hd => hs d (List.mem_cons_of_mem c hd)]
    rfl

theorem splitFirst_append {sep : Char → Bool} {s : List Char} (hs : ∀ c ∈ s, sep c = false)
    {d : Char} (hd : sep d = true) (t : List Char) : splitFirst sep (s ++ d :: t) = some (s, t) := by
  induction s with
  | nil => rw [List.nil_append, splitFirst, if_pos hd]
  | cons c s ih =>
    rw [List.cons_append, splitFirst, hs c List.mem_cons_self,
      ih fun e he => hs e (List.mem_cons_of_mem c he)]
    rfl

/-- The login as it is written. -/
def Authority.login (a : Authority) : List Char := a.user ++ (a.password.map (':' :: ·)).getD []

/-- The port as it is written. -/
def Authority.portText (a : Authority) : List Char :=
  (a.port.map fun p => ':' :: p.repr.toList).getD []

theorem parseLogin_login (h : IsPlainAuthority scheme a) :
    parseLogin a.login = (a.user, a.password) := by
  have hcolon : ∀ c ∈ a.user, (c == ':') = false := fun c hc => by
    rw [beq_eq_false_iff_ne]
    exact (userinfo_stays (h.user c hc)).2.2
  unfold parseLogin Authority.login
  cases hp : a.password with
  | none =>
    simp only [Option.map_none, Option.getD_none, List.append_nil]
    rw [splitFirst_none hcolon]
    simp only [percentEncode_of_kept h.user]
  | some p =>
    obtain ⟨hne, hkept⟩ := h.password p hp
    simp only [Option.map_some, Option.getD_some]
    rw [splitFirst_append hcolon (by decide)]
    simp only [percentEncode_of_kept h.user, percentEncode_of_kept hkept, List.isEmpty_iff, hne,
      if_false]

theorem portOf_portText (h : IsPlainAuthority scheme a) :
    portOf scheme a.portText = .ok (a.port, []) := by
  unfold Authority.portText
  cases hp : a.port with
  | none => rfl
  | some p =>
    obtain ⟨hle, hown⟩ := h.port p hp
    have hdigits : ∀ c ∈ p.repr.toList, isAsciiDigit c = true := fun c hc =>
      isAsciiDigit_of_mem_repr hc
    have hrest : p.repr.toList.dropWhile isAsciiDigit = [] := by
      simpa using fun c hc => hdigits c (by simpa using hc)
    simp only [Option.map_some, Option.getD_some, portOf, parsePort,
      List.takeWhile_eq_self_iff.mpr hdigits, hrest, decimalValue_repr]
    simp [Nat.not_lt.mpr hle, hown]

theorem authority_text_eq {host : Host} (h : a.host = some host) :
    a.text = (if a.login.isEmpty then [] else a.login ++ ['@']) ++ (host.text ++ a.portText) := by
  rw [Authority.text, h, List.append_assoc]
  rfl

theorem login_stays (h : IsPlainAuthority scheme a) :
    ∀ c ∈ a.login, IsVisible c ∧ endsAuthority true c = false := by
  have hkept : ∀ c, staysInUserinfo c = true → IsVisible c ∧ endsAuthority true c = false :=
    fun c hc => ⟨visible_of_staysInPath (userinfo_stays hc).1, (userinfo_stays hc).2.1⟩
  intro c hc
  rcases List.mem_append.mp hc with hc | hc
  · exact hkept c (h.user c hc)
  · cases hp : a.password with
    | none =>
      rw [hp] at hc
      cases hc
    | some p =>
      rw [hp] at hc
      rcases List.mem_cons.mp hc with rfl | hc
      · exact ⟨⟨by decide, by decide⟩, by decide⟩
      · exact hkept c ((h.password p hp).2 c hc)

theorem place_stays {host : Host} (h : IsPlainHost host) :
    ∀ c ∈ host.text ++ a.portText, IsVisible c ∧ endsAuthority true c = false ∧ c ≠ '@' := by
  intro c hc
  rcases List.mem_append.mp hc with hc | hc
  · exact ⟨h.visible c hc, h.stays c hc⟩
  · have hport : ∃ p : Nat, c ∈ ':' :: p.repr.toList := by
      unfold Authority.portText at hc
      cases hp : a.port with
      | none => rw [hp] at hc; cases hc
      | some p => rw [hp] at hc; exact ⟨p, hc⟩
    obtain ⟨p, hp⟩ := hport
    rcases List.mem_cons.mp hp with rfl | hp
    · exact ⟨⟨by decide, by decide⟩, by decide, by decide⟩
    · have hname := (nameChar_of_digit (Or.inl (isAsciiDigit_of_mem_repr hp))).1
      exact ⟨hname.visible, hname.stays, hname.ne (by decide)⟩

/-- The login of a text is what stands in front of its last at sign. -/
theorem loginOf_at {login place : List Char} (hlogin : ∀ c ∈ login, endsAuthority true c = false)
    (hplace : ∀ c ∈ place, endsAuthority true c = false ∧ c ≠ '@') :
    loginOf (login ++ '@' :: place) = (login, place) := by
  have hall : ∀ c ∈ login ++ '@' :: place, (!endsAuthority true c) = true := by
    intro c hc
    rcases List.mem_append.mp hc with hc | hc
    · simp [hlogin c hc]
    · rcases List.mem_cons.mp hc with rfl | hc
      · decide
      · simp [(hplace c hc).1]
  -- no at sign follows, so read from the end this one is the first
  have htail : ((login ++ '@' :: place).reverse.takeWhile (· != '@')).reverse = place := by
    rw [List.reverse_append, List.reverse_cons, List.append_assoc, List.singleton_append,
      List.takeWhile_append_of_pos fun c hc => by
        simpa using (hplace c (List.mem_reverse.mp hc)).2]
    simp
  have hfront : (login ++ '@' :: place).take ((login ++ '@' :: place).length - place.length - 1) =
      login := by
    rw [show (login ++ '@' :: place).length - place.length - 1 = login.length by simp; omega]
    exact List.take_left
  unfold loginOf splitLogin
  simp only [List.takeWhile_eq_self_iff.mpr hall, htail, List.drop_length, hfront]
  rw [if_pos (by simp)]
  simp

theorem loginOf_none {place : List Char} (hplace : ∀ c ∈ place, c ≠ '@') :
    loginOf place = ([], place) := by
  have hat : (place.takeWhile fun c => !endsAuthority true c).contains '@' = false := by
    rw [List.contains_eq_mem, decide_eq_false_iff_not]
    exact fun h => hplace '@' (List.takeWhile_subset _ h) rfl
  unfold loginOf splitLogin
  simp only [hat]
  rfl

theorem loginOf_text (h : IsPlainAuthority scheme a) {host : Host} (hhost : a.host = some host)
    (hplain : IsPlainHost host) : loginOf a.text = (a.login, host.text ++ a.portText) := by
  have hplace := place_stays (a := a) hplain
  rw [authority_text_eq hhost]
  split
  · next hempty =>
    rw [List.isEmpty_iff] at hempty
    rw [hempty, List.nil_append]
    exact loginOf_none fun c hc => (hplace c hc).2.2
  · rw [List.append_assoc, List.singleton_append]
    exact loginOf_at (fun c hc => (login_stays h c hc).2) fun c hc => (hplace c hc).2

/-- An authority is read as it is written. -/
theorem parseAuthority_text (hs : isSpecialScheme scheme = true) (h : IsPlainAuthority scheme a) :
    parseAuthority scheme a.text = .ok (a, []) := by
  obtain ⟨host, hhost, hplain⟩ := h.host
  have hport : a.portText = [] ∨ a.portText.head? = some ':' := by
    unfold Authority.portText
    cases a.port with
    | none => exact Or.inl rfl
    | some p => exact Or.inr rfl
  refine (parseAuthority_ok_iff hs).mpr
    ⟨host.text, a.portText, host, a.port, ?_, hplain.nonempty, hplain.reread, portOf_portText h, ?_⟩
  · rw [loginOf_text h hhost hplain]
    exact hplain.taken _ hport
  · rw [loginOf_text h hhost hplain, parseLogin_login h, ← hhost]

/-- Nothing in an authority ends it, and none of it is dropped from the ends of a text. -/
theorem authority_text_stays (h : IsPlainAuthority scheme a) :
    a.text ≠ [] ∧ ∀ c ∈ a.text, IsVisible c ∧ endsAuthority true c = false := by
  obtain ⟨host, hhost, hplain⟩ := h.host
  rw [authority_text_eq hhost]
  refine ⟨by simp [hplain.nonempty], fun c hc => ?_⟩
  rcases List.mem_append.mp hc with hc | hc
  · split at hc
    · cases hc
    · rcases List.mem_append.mp hc with hc | hc
      · exact login_stays h c hc
      · rw [List.mem_singleton.mp hc]
        exact ⟨⟨by decide, by decide⟩, by decide⟩
  · exact ⟨(place_stays hplain c hc).1, (place_stays hplain c hc).2.1⟩

end Rereading

end Archiver
