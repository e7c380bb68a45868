import Archiver.Proofs.Url.Login

namespace Archiver

/-- The schemes that links are turned away for as they are written. -/
def barredSchemes : List String := ["javascript", "mailto", "tel", "data"]

/-- The text names a scheme, in capital or small letters; what the reader of URLs drops does not
count, neither around the text nor between the letters. -/
def NamesScheme (scheme : String) (s : List Char) : Prop :=
  ∃ rest, (cleanUrlInput s).map asciiLower = scheme.toList ++ ':' :: rest

section Schemes

variable {scheme : String} {s : List Char} {u : Url}

theorem barred_letters (h : scheme ∈ barredSchemes) :
    scheme.toList ≠ [] ∧ (∀ c ∈ scheme.toList, isAsciiLetter c = true) ∧
      scheme.toList.map asciiLower = scheme.toList := by
  have hall : ∀ scheme ∈ barredSchemes, scheme.toList ≠ [] ∧
      scheme.toList.all isAsciiLetter = true ∧ scheme.toList.map asciiLower = scheme.toList := by
    decide
  obtain ⟨hne, hletters, hlower⟩ := hall scheme h
  exact ⟨hne, List.all_eq_true.mp hletters, hlower⟩

theorem barred_plain (h : scheme ∈ barredSchemes) :
    isFileScheme scheme.toList = false ∧ isSpecialScheme scheme.toList = false := by
  revert scheme
  decide

theorem bars_iff {t : List Char} :
    (["javascript:", "mailto:", "tel:", "data:"].any fun s => startsWith s.toList t) = true ↔
      ∃ scheme ∈ barredSchemes, startsWith (scheme.toList ++ [':']) t = true := by
  simp [barredSchemes]

theorem colon_of_asciiLower {c : Char} (h : asciiLower c = ':') : c = ':' := by
  by_cases hc : c.toNat < 128
  · have hall : ∀ n < 128, asciiLower (Char.ofNat n) = ':' → Char.ofNat n = ':' := by decide
    have hn := hall c.toNat hc
    rw [Char.ofNat_toNat] at hn
    exact hn h
  · rwa [asciiLower_of_high (Nat.not_lt.mp hc)] at h

/-- A scheme that a text names is the scheme it is read with. -/
theorem split_of_names (hscheme : scheme ∈ barredSchemes) (h : NamesScheme scheme s) :
    ∃ rest, splitScheme (cleanUrlInput s) = some (scheme.toList, rest) := by
  obtain ⟨hne, hletters, -⟩ := barred_letters hscheme
  obtain ⟨lower, h⟩ := h
  obtain ⟨name, after, hclean, hname, hafter⟩ := List.map_eq_append_iff.mp h
  obtain ⟨c, rest, rfl, hc, -⟩ := List.map_eq_cons_iff.mp hafter
  have hnameLetters : ∀ d ∈ name, isAsciiLetter d = true := fun d hd =>
    isAsciiLetter_asciiLower (hletters _ (hname ▸ List.mem_map_of_mem hd))
  have hnameNe : name ≠ [] := fun hnil => hne (by rw [← hname, hnil, List.map_nil])
  rw [hclean, colon_of_asciiLower hc, splitScheme_letters hnameNe hnameLetters, hname]
  exact ⟨rest, rfl⟩

/-- What stands behind a scheme written out is trimmed and cleaned by itself. -/
theorem clean_barred (hscheme : scheme ∈ barredSchemes) (place : List Char) :
    (∃ rest, cleanUrlInput (scheme.toList ++ ':' :: place) = scheme.toList ++ ':' :: rest) ∧
      trim (scheme.toList ++ ':' :: place) = scheme.toList ++ ':' :: trimEnd place := by
  obtain ⟨hne, hletters, -⟩ := barred_letters hscheme
  obtain ⟨c, cs, hcs⟩ := List.exists_cons_of_ne_nil hne
  rw [hcs] at hletters ⊢
  have hc := visible_of_letter (hletters c List.mem_cons_self)
  have hinner : ∀ d ∈ cs, isInner d = true := fun d hd =>
    isInner_of (visible_of_letter (hletters d (List.mem_cons_of_mem c hd))).1
  exact ⟨⟨_, clean_stop hc.1 hinner (by decide) place⟩,
    trim_stop (not_blank_of_visible hc) (by decide) cs place⟩

/-- A scheme written out in front is named. -/
theorem names_of_startsWith (hscheme : scheme ∈ barredSchemes)
    (h : startsWith (scheme.toList ++ [':']) s = true) : NamesScheme scheme s := by
  obtain ⟨-, -, hlower⟩ := barred_letters hscheme
  obtain ⟨place, hplace⟩ := Option.isSome_iff_exists.mp h
  have hs := after_eq_some_iff.mp hplace
  rw [List.append_assoc, List.singleton_append] at hs
  obtain ⟨⟨rest, hclean⟩, -⟩ := clean_barred hscheme place
  refine ⟨rest.map asciiLower, ?_⟩
  rw [hs, hclean, List.map_append, hlower]
  rfl

/-- A URL of such a scheme has no canonical form. -/
theorem normalize_barred (hscheme : scheme ∈ barredSchemes) (hu : u.scheme = scheme.toList) :
    (CanonicalUrl.normalize u.text).toOption = none := by
  obtain ⟨hne, hletters, hlower⟩ := barred_letters hscheme
  obtain ⟨place, hplace⟩ : ∃ place, u.text = scheme.toList ++ ':' :: place := by
    rw [← hu]
    exact ⟨_, rfl⟩
  obtain ⟨-, htrim⟩ := clean_barred hscheme place
  obtain ⟨⟨rest, hclean⟩, -⟩ := clean_barred hscheme (trimEnd place)
  cases h : CanonicalUrl.normalize u.text with
  | error cause => rfl
  | ok c =>
    obtain ⟨scheme', rest', a, r, old, host, hsplit, hweb, -⟩ := normalize_ok_iff.mp h
    rw [hplace, htrim, hclean, splitScheme_letters hne hletters, hlower] at hsplit
    cases hsplit
    rw [web_of_not_special (barred_plain hscheme).2] at hweb
    cases hweb

/-- Where a text names such a scheme, no base makes a page of it. -/
theorem resolve_barred {base : Option Url} (hscheme : scheme ∈ barredSchemes)
    (h : NamesScheme scheme s) (hu : Url.resolve base s = .ok u) : u.scheme = scheme.toList := by
  obtain ⟨rest, hsplit⟩ := split_of_names hscheme h
  obtain ⟨hfile, hspecial⟩ := barred_plain hscheme
  exact scheme_of_resolve hsplit hfile hspecial hu

end Schemes

/-- Where a link leads: it is resolved against the page it stands on, and brought to its canonical
form. -/
def linkTarget? (href : List Char) (base : Url) : Option CanonicalUrl :=
  (Url.resolve (some base) href).toOption.bind fun u => (CanonicalUrl.normalize u.text).toOption

theorem linkTarget_barred {scheme : String} {href : List Char} (hscheme : scheme ∈ barredSchemes)
    (h : NamesScheme scheme href) (base : Url) : linkTarget? href base = none := by
  unfold linkTarget?
  cases hu : Url.resolve (some base) href with
  | error cause => rfl
  | ok u => exact normalize_barred hscheme (resolve_barred hscheme h hu)

theorem normalizeLink_eq (href : List Char) (base : Url) :
    normalizeLink href base =
      if trim href = [] ∨ (trim href).head? = some '#' then none else linkTarget? (trim href) base := by
  unfold normalizeLink
  simp only [Bool.or_eq_true, List.isEmpty_iff, beq_iff_eq]
  split
  · rfl
  split
  · next hbar =>
    obtain ⟨scheme, hscheme, hstarts⟩ := bars_iff.mp hbar
    exact (linkTarget_barred hscheme (names_of_startsWith hscheme hstarts) base).symm
  · unfold linkTarget?
    cases Url.resolve (some base) (trim href) <;> rfl

/-- An empty link and one into its own page lead nowhere; every other leads where resolving it leads,
the schemes that are turned away as they are written included: whatever their spelling, none of them
leads to a page. What a link leads to is canonical. -/
theorem normalizeLink_resolves (href : List Char) (base : Url) :
    (trim href = [] ∨ (trim href).head? = some '#' → normalizeLink href base = none) ∧
    (¬ (trim href = [] ∨ (trim href).head? = some '#') →
      normalizeLink href base = (Url.resolve (some base) (trim href)).toOption.bind fun u =>
        (CanonicalUrl.normalize u.text).toOption) ∧
    (∀ scheme ∈ barredSchemes, startsWith (scheme.toList ++ [':']) (trim href) = true →
      ∀ u, Url.resolve (some base) (trim href) = .ok u → isWebScheme u.scheme = false) ∧
    (∀ scheme ∈ barredSchemes, NamesScheme scheme (trim href) → normalizeLink href base = none) ∧
    (∀ c, normalizeLink href base = some c → CanonicalUrl.normalize c.text.toList = .ok c) := by
  have heq := normalizeLink_eq href base
  refine ⟨fun h => by rw [heq, if_pos h], fun h => by rw [heq, if_neg h, linkTarget?], ?_, ?_, ?_⟩
  · intro scheme hscheme hstarts u hu
    rw [resolve_barred hscheme (names_of_startsWith hscheme hstarts) hu]
    exact web_of_not_special (barred_plain hscheme).2
  · intro scheme hscheme hnames
    rw [heq, linkTarget_barred hscheme hnames, ite_self]
  · intro c hc
    rw [heq] at hc
    split at hc
    · cases hc
    obtain ⟨u, -, hu⟩ := Option.bind_eq_some_iff.mp hc
    cases hnormal : CanonicalUrl.normalize u.text with
    | error cause => rw [hnormal] at hu; cases hu
    | ok c' =>
      rw [hnormal] at hu
      cases hu
      exact CanonicalUrl.IsCanonical.fixed ⟨_, hnormal⟩

/-- A page that links stand on. -/
def newsPage : Url where
  scheme := "https".toList
  authority := some ⟨[], none, some (.ipv6 [0, 0, 0, 0, 0, 0, 0, 1]), none⟩
  path := "/category/news/".toList
  query := none
  fragment := none

/-- A mailbox: a base that is no place in a tree of pages. -/
def deskMailbox : Url where
  scheme := "mailto".toList
  authority := none
  path := "desk@example.com".toList
  query := none
  fragment := none

theorem normalizeLink_resolves_spelled :
    Url.parse "https://[::1]/category/news/".toList = .ok newsPage ∧
      Url.parse "mailto:desk@example.com".toList = .ok deskMailbox ∧
      normalizeLink " \n".toList newsPage = none ∧
      normalizeLink " java\tSCRIPT:alert(1) ".toList newsPage = none ∧
      normalizeLink " ../page/2/?x=1#top ".toList newsPage = some ⟨"https://[::1]/category/page/2"⟩ ∧
      CanonicalUrl.normalize "https://[::1]/category/page/2".toList =
        .ok ⟨"https://[::1]/category/page/2"⟩ ∧
      normalizeLink "page/2".toList deskMailbox = none ∧
      normalizeLink "HTTP://[::1]/n/5/".toList deskMailbox = some ⟨"http://[::1]/n/5"⟩ := by
  obtain ⟨hempty, -⟩ := normalizeLink_resolves " \n".toList newsPage
  obtain ⟨-, -, -, hnames, -⟩ := normalizeLink_resolves " java\tSCRIPT:alert(1) ".toList newsPage
  obtain ⟨-, hpage, -, -, hcanonical⟩ :=
    normalizeLink_resolves " ../page/2/?x=1#top ".toList newsPage
  obtain ⟨-, hrelative, -⟩ := normalizeLink_resolves "page/2".toList deskMailbox
  obtain ⟨-, habsolute, -⟩ := normalizeLink_resolves "HTTP://[::1]/n/5/".toList deskMailbox
  have hlink : normalizeLink " ../page/2/?x=1#top ".toList newsPage =
      some ⟨"https://[::1]/category/page/2"⟩ := by
    rw [hpage (by decide)]
    decide +kernel
  refine ⟨by decide +kernel, by decide +kernel, hempty (by decide),
    hnames "javascript" (by decide) ⟨"alert(1)".toList, by decide⟩, hlink, hcanonical _ hlink, ?_, ?_⟩
  · rw [hrelative (by decide)]
    decide +kernel
  · rw [habsolute (by decide)]
    decide +kernel

end Archiver
