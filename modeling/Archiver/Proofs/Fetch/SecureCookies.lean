import Archiver.Fetch.Cookies
import Archiver.Proofs.Text.Lines
import Archiver.Proofs.Url.CanonicalForm

namespace Archiver

/-- The address that an exported cookie is set from. -/
def ExportedCookie.origin (c : ExportedCookie) : List Char :=
  (if c.secure then "https://" else "http://").toList ++ c.domain.dropWhile (· == '.') ++ ['/']

/-- The host that sets an exported cookie. -/
def ExportedCookie.setter? (c : ExportedCookie) : Option Host :=
  (Url.parse c.origin).toOption.bind Url.host

/-- The text that the setter of an exported cookie sends. -/
def ExportedCookie.sent (c : ExportedCookie) : List Char :=
  c.text (c.domain.dropWhile (· == '.'))

/-- A cookie text has an attribute by the name of secure, in any case and with blanks around it. -/
def NamesSecure (text : List Char) : Prop :=
  ∃ part ∈ (splitAll (· == ';') text).tail,
    String.ofList ((splitPair part).1.map asciiLower) = "secure"

/-- No field of an exported cookie holds what ends an attribute. -/
structure ExportedCookie.IsPlain (c : ExportedCookie) : Prop where
  name : ';' ∉ c.name
  value : ';' ∉ c.value
  domain : ';' ∉ c.domain
  path : ∀ path, c.path = some path → ';' ∉ path

/-- An exported cookie without its secure flag. -/
def ExportedCookie.unflagged (c : ExportedCookie) : ExportedCookie := { c with secure := false }

/-- The same address under https. -/
def Url.overHttps (u : Url) : Url := { u with scheme := "https".toList }

/-- The cookies of a jar that are for an address. -/
def CookieJar.offered (jar : CookieJar) (u : Url) : List Cookie :=
  jar.cookies.filter fun k => k.isFor u

section Origin

variable {scheme scheme' : List Char}

/-- Which port is the scheme's own decides nothing but the port. -/
theorem portOf_rest (scheme scheme' s : List Char) :
    (portOf scheme s).map Prod.snd = (portOf scheme' s).map Prod.snd := by
  unfold portOf
  split
  · unfold parsePort
    simp only
    split_ifs <;> rfl
  · rfl

theorem readPlace_host (scheme scheme' login place : List Char) :
    (readPlace scheme login place).map (·.1.host) =
      (readPlace scheme' login place).map (·.1.host) := by
  unfold readPlace
  simp only
  split
  · rfl
  cases parseHostText true (takeHostText true false place).1 with
  | error cause => rfl
  | ok host =>
    have hrest := portOf_rest scheme scheme' (takeHostText true false place).2
    rw [ok_bind, ok_bind]
    cases hport : portOf scheme (takeHostText true false place).2 with
    | error cause =>
      cases hport' : portOf scheme' (takeHostText true false place).2 with
      | error cause' =>
        rw [hport, hport'] at hrest
        cases hrest
        rfl
      | ok parts => rw [hport, hport'] at hrest; cases hrest
    | ok parts =>
      cases hport' : portOf scheme' (takeHostText true false place).2 with
      | error cause => rw [hport, hport'] at hrest; cases hrest
      | ok parts' => rfl

theorem parse_of_split {input rest : List Char} (hweb : isWebScheme scheme = true)
    (h : splitScheme (cleanUrlInput input) = some (scheme, rest)) :
    (Url.parse input).map Url.host =
      (parseAuthority scheme (rest.dropWhile isSlash)).map (·.1.host) := by
  obtain ⟨hspecial, hfile⟩ := special_of_web hweb
  unfold Url.parse Url.resolve parseFromAuthority
  simp only [h, hspecial, hfile, Bool.false_eq_true, if_false, if_true]
  cases parseAuthority scheme (rest.dropWhile isSlash) with
  | error cause => rfl
  | ok parts => rfl

theorem split_origin (hweb : isWebScheme scheme = true) (place : List Char) :
    splitScheme (cleanUrlInput (scheme ++ "://".toList ++ place ++ ['/'])) =
      some (scheme, '/' :: '/' :: (place.filter isInner ++ ['/'])) := by
  have hclean : cleanUrlInput (scheme ++ "://".toList ++ place ++ ['/']) =
      scheme ++ ':' :: '/' :: '/' :: (place.filter isInner ++ ['/']) := by
    have hcase := hweb
    simp only [isWebScheme, Bool.or_eq_true, beq_iff_eq] at hcase
    obtain rfl | rfl := hcase
    · refine (cleanUrlInput_of_ends (c := 'h') (d := '/') (by decide) (by decide)
        ("ttp://".toList ++ place)).trans ?_
      rw [List.filter_cons_of_pos (by decide), List.filter_append, List.filter_append]
      rfl
    · refine (cleanUrlInput_of_ends (c := 'h') (d := '/') (by decide) (by decide)
        ("ttps://".toList ++ place)).trans ?_
      rw [List.filter_cons_of_pos (by decide), List.filter_append, List.filter_append]
      rfl
  rw [hclean, splitScheme_of_web hweb]

/-- The host of an address is the same under every web scheme. -/
theorem host_origin (hweb : isWebScheme scheme = true) (hweb' : isWebScheme scheme' = true)
    (place : List Char) :
    (Url.parse (scheme ++ "://".toList ++ place ++ ['/'])).map Url.host =
      (Url.parse (scheme' ++ "://".toList ++ place ++ ['/'])).map Url.host := by
  rw [parse_of_split hweb (split_origin hweb place),
    parse_of_split hweb' (split_origin hweb' place), parseAuthority_eq (special_of_web hweb).1,
    parseAuthority_eq (special_of_web hweb').1]
  exact readPlace_host _ _ _ _

end Origin

section Flag

theorem toOption_bind_host (parsed : Except UrlError Url) :
    parsed.toOption.bind Url.host = (parsed.map Url.host).toOption.join := by
  cases parsed <;> rfl

theorem origin_eq (c : ExportedCookie) : c.origin =
    (if c.secure then "https".toList else "http".toList) ++ "://".toList ++
      c.domain.dropWhile (· == '.') ++ ['/'] := by
  have hhttps : "https://".toList = "https".toList ++ "://".toList := by decide
  have hhttp : "http://".toList = "http".toList ++ "://".toList := by decide
  unfold ExportedCookie.origin
  cases c.secure
  · simp only [Bool.false_eq_true, if_false, hhttp]
  · simp only [if_true, hhttps]

/-- The secure flag of an exported cookie does not decide who sets it. -/
theorem setter_unflagged (c : ExportedCookie) : c.unflagged.setter? = c.setter? := by
  have hweb : ∀ secure : Bool,
      isWebScheme (if secure then "https".toList else "http".toList) = true := by decide
  unfold ExportedCookie.setter?
  rw [toOption_bind_host, toOption_bind_host, origin_eq, origin_eq,
    host_origin (hweb c.unflagged.secure) (hweb c.secure)]
  rfl

theorem take_eq (jar : CookieJar) (c : ExportedCookie) : jar.take c =
    (c.setter?.map fun host => jar.set host c.sent).getD jar := by
  unfold CookieJar.take ExportedCookie.setter? ExportedCookie.origin
  simp only
  cases Url.parse _ with
  | error cause => rfl
  | ok u =>
    simp only [Except.toOption, Option.bind_some]
    cases u.host <;> rfl

theorem take_unflagged (jar : CookieJar) (c : ExportedCookie) :
    jar.take c.unflagged = jar.take c := by
  rw [take_eq, take_eq, setter_unflagged]
  rfl

/-- A jar is the same without the flags of the cookies it is made from. -/
theorem ofExport_unflagged (cookies : List ExportedCookie) :
    CookieJar.ofExport (cookies.map ExportedCookie.unflagged) = CookieJar.ofExport cookies := by
  rw [CookieJar.ofExport, CookieJar.ofExport, List.foldl_map]
  exact congrArg (fun take => cookies.foldl take ⟨[]⟩)
    (funext fun jar => funext fun c => take_unflagged jar c)

end Flag

section Jar

variable {jar : CookieJar} {k : Cookie}

theorem secure_add (a : CookieAttributes) (part : List Char) : (a.add part).secure = true ↔
    a.secure = true ∨ String.ofList ((splitPair part).1.map asciiLower) = "secure" := by
  unfold CookieAttributes.add
  simp only
  split
  · next hname => simp [hname]
  · next hname _ =>
    rw [hname]
    split <;> simp
  · next hname _ => simp [hname]
  · next hname _ => simp [hname]
  · next hother _ _ _ => exact ⟨Or.inl, fun h => h.resolve_right hother⟩

/-- Attributes are secure if one of them is named so. -/
theorem secure_read (attributes : List (List Char)) :
    (CookieAttributes.read attributes).secure = true ↔
      ∃ part ∈ attributes, String.ofList ((splitPair part).1.map asciiLower) = "secure" := by
  have hfold : ∀ a : CookieAttributes, (attributes.foldl CookieAttributes.add a).secure = true ↔
      a.secure = true ∨
        ∃ part ∈ attributes, String.ofList ((splitPair part).1.map asciiLower) = "secure" := by
    induction attributes with
    | nil => simp
    | cons part rest ih =>
      intro a
      rw [List.foldl_cons, ih, secure_add, List.exists_mem_cons_iff, or_assoc]
  rw [CookieAttributes.read, hfold]
  simp

/-- What a cookie text does to every jar: it drops cookies, or puts one that is secure if the text
says so. -/
theorem set_cases (host : Host) (text : List Char) :
    (∃ p : Cookie → Bool, ∀ jar : CookieJar, jar.set host text = ⟨jar.cookies.filter p⟩) ∨
      ∃ k : Cookie, (k.secureOnly = true ↔ NamesSecure text) ∧
        ∀ jar : CookieJar, jar.set host text = ⟨putCookie k jar.cookies⟩ := by
  have hkeep : ∀ jar : CookieJar, jar = ⟨jar.cookies.filter fun _ => true⟩ := fun jar => by simp
  unfold NamesSecure CookieJar.set
  cases splitAll (· == ';') text with
  | nil => exact Or.inl ⟨_, hkeep⟩
  | cons pair attributes =>
    simp only [List.tail_cons]
    rcases splitPair pair with ⟨name, _ | value⟩
    · exact Or.inl ⟨_, hkeep⟩
    simp only
    cases scopeOf? host (CookieAttributes.read attributes).domain with
    | none => exact Or.inl ⟨_, hkeep⟩
    | some scope =>
      simp only
      split
      · exact Or.inl ⟨_, hkeep⟩
      split
      · exact Or.inl ⟨_, fun jar => rfl⟩
      · exact Or.inr ⟨_, secure_read attributes, fun jar => rfl⟩

theorem mem_putCookie {new : Cookie} {old : List Cookie} (h : k ∈ putCookie new old) :
    k = new ∨ k ∈ old := by
  induction old with
  | nil => exact Or.inl (List.mem_singleton.mp h)
  | cons first rest ih =>
    rw [putCookie] at h
    split at h
    · exact (List.mem_cons.mp h).imp_right (List.mem_cons_of_mem first)
    · rcases List.mem_cons.mp h with rfl | h
      · exact Or.inr List.mem_cons_self
      · exact (ih h).imp_right (List.mem_cons_of_mem first)

theorem cookies_take {c : ExportedCookie} (h : k ∈ (jar.take c).cookies) : k ∈ jar.cookies ∨
    (CookieJar.ofExport [c]).cookies = [k] ∧ (k.secureOnly = true ↔ NamesSecure c.sent) := by
  have halone : CookieJar.ofExport [c] = CookieJar.take ⟨[]⟩ c := rfl
  rw [halone]
  rw [take_eq] at h ⊢
  cases hsetter : c.setter? with
  | none =>
    rw [hsetter] at h
    exact Or.inl h
  | some host =>
    rw [hsetter] at h
    simp only [Option.map_some, Option.getD_some] at h ⊢
    rcases set_cases host c.sent with ⟨p, hdrops⟩ | ⟨new, hsecure, hputs⟩
    · rw [hdrops] at h
      exact Or.inl (List.mem_filter.mp h).1
    · rw [hputs] at h ⊢
      rcases mem_putCookie h with rfl | hold
      · exact Or.inr ⟨rfl, hsecure⟩
      · exact Or.inl hold

/-- Every cookie of a jar is what one of the exported cookies comes to by itself. -/
theorem cookies_ofExport {cookies : List ExportedCookie}
    (h : k ∈ (CookieJar.ofExport cookies).cookies) : ∃ c ∈ cookies,
      (CookieJar.ofExport [c]).cookies = [k] ∧ (k.secureOnly = true ↔ NamesSecure c.sent) := by
  have hfold : ∀ jar : CookieJar, k ∈ (cookies.foldl CookieJar.take jar).cookies →
      k ∈ jar.cookies ∨ ∃ c ∈ cookies,
        (CookieJar.ofExport [c]).cookies = [k] ∧ (k.secureOnly = true ↔ NamesSecure c.sent) := by
    clear h
    induction cookies with
    | nil => exact fun jar hk => Or.inl hk
    | cons c rest ih =>
      intro jar hk
      rw [List.exists_mem_cons_iff]
      rcases ih (jar.take c) hk with hk | hrest
      · exact (cookies_take hk).imp_right Or.inl
      · exact Or.inr (Or.inr hrest)
  exact (hfold ⟨[]⟩ h).resolve_left List.not_mem_nil

/-- What is offered for an address is what is offered for it under https, less the secure cookies if
it is not private. -/
theorem offered_eq (jar : CookieJar) (u : Url) : jar.offered u =
    (jar.offered u.overHttps).filter fun k => u.isPrivate || !k.secureOnly := by
  have hprivate : u.overHttps.isPrivate = true := by simp [Url.isPrivate, Url.overHttps]
  have hfor : ∀ k : Cookie, k.isFor u =
      ((u.isPrivate || !k.secureOnly) && k.isFor u.overHttps) := fun k => by
    unfold Cookie.isFor
    rw [hprivate, Bool.or_true, Bool.and_true, Bool.or_comm, Bool.and_comm]
    rfl
  unfold CookieJar.offered
  rw [List.filter_filter]
  exact List.filter_congr fun k _ => hfor k

theorem pairs_congr {u v : Url} (h : jar.offered u = jar.offered v) : jar.pairs u = jar.pairs v := by
  unfold CookieJar.offered at h
  unfold CookieJar.pairs
  rw [h]

end Jar

section Plain

variable {c : ExportedCookie}

/-- The name of an attribute is what stands in front of its first equals sign. -/
theorem splitPair_name {name : List Char} (h : '=' ∉ name) (value : List Char) :
    (splitPair (name ++ '=' :: value)).1 = trim name := by
  unfold splitPair
  rw [splitFirst_append (beq_of_not_mem h) (by decide)]

theorem sent_eq (c : ExportedCookie) : c.sent = (c.name ++ '=' :: c.value) ++
    ';' :: ((" Domain".toList ++ '=' :: c.domain.dropWhile (· == '.')) ++
      ';' :: (" Path".toList ++ '=' :: c.path.getD ['/'])) := by
  have hdomain : "; Domain=".toList = ';' :: (" Domain".toList ++ ['=']) := by decide
  have hpath : "; Path=".toList = ';' :: (" Path".toList ++ ['=']) := by decide
  simp only [ExportedCookie.sent, ExportedCookie.text, hdomain, hpath, List.append_assoc,
    List.cons_append, List.nil_append]

/-- The text of a plain cookie has the two attributes that are written into it, and no others. -/
theorem attributes_sent (h : c.IsPlain) : (splitAll (· == ';') c.sent).tail =
    [" Domain".toList ++ '=' :: c.domain.dropWhile (· == '.'),
      " Path".toList ++ '=' :: c.path.getD ['/']] := by
  have hdomain : ';' ∉ c.domain.dropWhile (· == '.') := fun hmem =>
    h.domain (List.dropWhile_subset _ hmem)
  have hpath : ';' ∉ c.path.getD ['/'] := by
    cases hp : c.path with
    | none => decide
    | some path => exact h.path path hp
  rw [sent_eq, splitAll_append_sep (c := ';') rfl, splitAll_append_sep (c := ';') rfl,
    splitAll_of_not_mem (beq_of_not_mem ?_), splitAll_of_not_mem (beq_of_not_mem ?_),
    splitAll_of_not_mem (beq_of_not_mem ?_)]
  · rfl
  · simpa using hpath
  · simpa using hdomain
  · simp [h.name, h.value]

theorem not_namesSecure (h : c.IsPlain) : ¬ NamesSecure c.sent := by
  rintro ⟨part, hpart, hname⟩
  rw [attributes_sent h, List.mem_cons, List.mem_singleton] at hpart
  obtain rfl | rfl := hpart
  · rw [splitPair_name (by decide)] at hname
    exact absurd hname (by decide)
  · rw [splitPair_name (by decide)] at hname
    exact absurd hname (by decide)

/-- No cookie of a jar is secure if all exported ones are plain. -/
theorem open_of_plain {cookies : List ExportedCookie} {k : Cookie} (h : ∀ c ∈ cookies, c.IsPlain)
    (hk : k ∈ (CookieJar.ofExport cookies).cookies) : k.secureOnly = false := by
  obtain ⟨c, hc, -, hsecure⟩ := cookies_ofExport hk
  exact Bool.not_eq_true _ ▸ fun hk => not_namesSecure (h c hc) (hsecure.mp hk)

end Plain

/-- The secure flag of an exported cookie is lost. Exports that differ in nothing but flags come to one
jar; each cookie in it comes from an exported one, and is secure just when the text sent for that one
names the attribute in one of its fields; so an address is offered what it would be offered under
https, less such cookies if it is not private, and with plain fields there are none to be left out. -/
theorem secure_flag_lost (cookies : List ExportedCookie) :
    (∀ others : List ExportedCookie,
      others.map ExportedCookie.unflagged = cookies.map ExportedCookie.unflagged →
        CookieJar.ofExport others = CookieJar.ofExport cookies) ∧
    (∀ k ∈ (CookieJar.ofExport cookies).cookies, ∃ c ∈ cookies,
      (CookieJar.ofExport [c]).cookies = [k] ∧ (k.secureOnly = true ↔ NamesSecure c.sent)) ∧
    (∀ u, (CookieJar.ofExport cookies).offered u =
      ((CookieJar.ofExport cookies).offered u.overHttps).filter
        fun k => u.isPrivate || !k.secureOnly) ∧
    ((∀ c ∈ cookies, c.IsPlain) → ∀ u,
      (CookieJar.ofExport cookies).pairs u = (CookieJar.ofExport cookies).pairs u.overHttps) := by
  refine ⟨fun others h => ?_, fun k hk => cookies_ofExport hk, offered_eq _, fun hplain u => ?_⟩
  · rw [← ofExport_unflagged others, ← ofExport_unflagged cookies, h]
  · refine pairs_congr ((offered_eq _ u).trans (List.filter_eq_self.mpr fun k hk => ?_))
    rw [open_of_plain hplain (List.mem_filter.mp hk).1]
    exact Bool.or_true _

def flaggedCookie : ExportedCookie :=
  ⟨"id".toList, "7".toList, "192.0.2.1".toList, some "/n".toList, true⟩

/-- A cookie whose value brings the attribute with it. -/
def bringingCookie : ExportedCookie :=
  ⟨"a".toList, "b; SECURE".toList, "..192.0.2.1".toList, none, false⟩

theorem secure_flag_lost_address :
    (CookieJar.ofExport [flaggedCookie.unflagged, bringingCookie]).cookies =
      (CookieJar.ofExport [flaggedCookie, bringingCookie]).cookies ∧
    (∃ k ∈ (CookieJar.ofExport [flaggedCookie, bringingCookie]).cookies,
      k.secureOnly = true ∧ NamesSecure bringingCookie.sent) ∧
    flaggedCookie.IsPlain ∧
    ∃ u, Url.parse "http://192.0.2.1/n/5".toList = .ok u ∧ u.isPrivate = false ∧
      (CookieJar.ofExport [flaggedCookie]).pairs u = ["id=7".toList] ∧
      (CookieJar.ofExport [flaggedCookie]).pairs u.overHttps = ["id=7".toList] := by
  have hplain : flaggedCookie.IsPlain :=
    { name := by decide
      value := by decide
      domain := by decide
      path := fun path hpath => Option.some.inj hpath ▸ by decide }
  obtain ⟨hflags, hcookies, -, -⟩ := secure_flag_lost [flaggedCookie, bringingCookie]
  obtain ⟨-, -, -, hpairs⟩ := secure_flag_lost [flaggedCookie]
  refine ⟨congrArg CookieJar.cookies (hflags [flaggedCookie.unflagged, bringingCookie] rfl), ?_,
    hplain, ?_⟩
  · have hsecure : (CookieJar.ofExport [flaggedCookie, bringingCookie]).cookies.find?
        (·.secureOnly) = some ⟨"a".toList, "b".toList, .domain "192.0.2.1".toList, ['/'], true⟩ := by
      decide +kernel
    refine ⟨_, List.mem_of_find?_eq_some hsecure, rfl, ?_⟩
    obtain ⟨c, hc, halone, hiff⟩ := hcookies _ (List.mem_of_find?_eq_some hsecure)
    rcases List.mem_pair.mp hc with rfl | rfl
    · exact absurd (hiff.mp rfl) (not_namesSecure hplain)
    · exact hiff.mp rfl
  · obtain ⟨u, hu⟩ : ∃ u, Url.parse "http://192.0.2.1/n/5".toList = .ok u := ⟨_, rfl⟩
    have hread : (Url.parse "http://192.0.2.1/n/5".toList).toOption.map (fun u =>
        (u.isPrivate, (CookieJar.ofExport [flaggedCookie]).pairs u)) =
          some (false, ["id=7".toList]) := by decide +kernel
    rw [hu] at hread
    obtain ⟨hprivate, hsent⟩ := Prod.mk.inj (Option.some.inj hread)
    exact ⟨u, hu, hprivate, hsent,
      (hpairs (List.forall_mem_singleton.mpr hplain) u).symm.trans hsent⟩

/-- A cookie file with one cookie, which is marked as secure. -/
def securedFile : String :=
  "[\x7b\"name\": \"id\", \"value\": \"7\", \"domain\": \"192.0.2.1\", \"secure\": true\x7d]"

/-- A cookie that is marked as secure is sent in the clear. -/
theorem secured_cookie_overheard :
    (readCookieExport? securedFile.toList).map (fun cookies => cookies.map (·.secure)) =
      some [true] ∧
    (CookieJar.load? (some (encodeUtf8 securedFile.toList))).map (fun jar =>
      (Url.parse "http://192.0.2.1/".toList).toOption.map fun u => (u.scheme, jar.pairs u)) =
      some (some ("http".toList, ["id=7".toList])) := by
  decide +kernel

end Archiver
