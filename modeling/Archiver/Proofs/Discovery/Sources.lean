import Mathlib.Logic.Relation
import Archiver.Proofs.Discovery.Gains

namespace Archiver

/-- A listing lists an address if one of its locations comes to it; a location of another listing
does not count. -/
def ListedIn (document : String) (c : CanonicalUrl) : Prop :=
  ∃ location ∈ extractLocations document.toList,
    isNestedListing location = false ∧ CanonicalUrl.normalize location = .ok c

/-- A page at `base` links an address if the target of one of its links comes to it. -/
def LinkedFrom (body : String) (base : Url) (c : CanonicalUrl) : Prop :=
  ∃ p ∈ (parseDocument body.toList).places, p.element.name = "a" ∧
    ∃ href, p.element.attribute? "href" = some href ∧ normalizeLink href base = some c

/-- Where a walk through the pages of a category stands: the pages it has been on, and the page it
comes to. -/
structure WalkPoint where
  visited : List (List Char)
  url : Url

namespace Discoverer

variable (d : Discoverer)

/-- The walk asks for the page it comes to: it has room for one more and was not on it before. -/
def AsksAt (w : WalkPoint) : Prop := w.visited.length < d.maxPages ∧ w.url.text ∉ w.visited

/-- The walk loads the page it comes to. -/
def LoadsAt (w : WalkPoint) (body : String) : Prop :=
  d.AsksAt w ∧ d.page? (String.ofList w.url.text) = some body

/-- The page the walk comes to leads on to the next. -/
def Leads (w w' : WalkPoint) : Prop :=
  ∃ body, d.LoadsAt w body ∧ w'.visited = w.url.text :: w.visited ∧
    (readCategoryPage body.toList w.url d.nextSelector).next = some w'.url

/-- The addresses a walk asks for from some point on. -/
def AsksFrom (w : WalkPoint) (url : String) : Prop :=
  ∃ w', Relation.ReflTransGen d.Leads w w' ∧ d.AsksAt w' ∧ url = String.ofList w'.url.text

/-- The addresses linked from the pages that a walk loads from some point on. -/
def LinksFrom (w : WalkPoint) (c : CanonicalUrl) : Prop :=
  ∃ w', Relation.ReflTransGen d.Leads w w' ∧ ∃ body, d.LoadsAt w' body ∧ LinkedFrom body w'.url c

/-- The pages asked for because of a source. -/
def Asks (source : Source) (url : String) : Prop :=
  match source.kind with
  | .listing => url = source.url ∨ ∃ document, d.page? source.url = some document ∧
      ∃ location ∈ extractLocations document.toList,
        isNestedListing location = true ∧ url = String.ofList location
  | .category => ∃ start, Url.parse source.url.toList = .ok start ∧ d.AsksFrom ⟨[], start⟩ url

/-- The addresses on the pages loaded because of a source: for a listing, those listed in it and in
the listings it leads to; for a category, those linked from the pages of its walk. -/
def Finds (source : Source) (c : CanonicalUrl) : Prop :=
  match source.kind with
  | .listing => ∃ document, d.page? source.url = some document ∧
      (ListedIn document c ∨ ∃ location ∈ extractLocations document.toList,
        isNestedListing location = true ∧
          ∃ nested, d.page? (String.ofList location) = some nested ∧ ListedIn nested c)
  | .category => ∃ start, Url.parse source.url.toList = .ok start ∧ d.LinksFrom ⟨[], start⟩ c

/-- The articles that a source lists. -/
def Lists (source : Source) (c : CanonicalUrl) : Prop := d.shape.matches c = true ∧ d.Finds source c

/-- The first page of a source can be loaded. -/
def Opens (source : Source) : Prop :=
  match source.kind with
  | .listing => (d.page? source.url).isSome = true
  | .category => ∃ start, Url.parse source.url.toList = .ok start ∧
      (d.page? (String.ofList start.text)).isSome = true

end Discoverer

section Walk

variable {d : Discoverer} {w w' : WalkPoint} {body : String}

theorem asksFrom_iff (url : String) : d.AsksFrom w url ↔
    (d.AsksAt w ∧ url = String.ofList w.url.text) ∨ ∃ w', d.Leads w w' ∧ d.AsksFrom w' url := by
  constructor
  · rintro ⟨w', hpath, hasks, rfl⟩
    rcases hpath.cases_head with rfl | ⟨v, hlead, hrest⟩
    · exact Or.inl ⟨hasks, rfl⟩
    · exact Or.inr ⟨v, hlead, w', hrest, hasks, rfl⟩
  · rintro (⟨hasks, rfl⟩ | ⟨v, hlead, w', hrest, hasks, rfl⟩)
    · exact ⟨w, .refl, hasks, rfl⟩
    · exact ⟨w', .head hlead hrest, hasks, rfl⟩

theorem linksFrom_iff (c : CanonicalUrl) : d.LinksFrom w c ↔
    (∃ body, d.LoadsAt w body ∧ LinkedFrom body w.url c) ∨
      ∃ w', d.Leads w w' ∧ d.LinksFrom w' c := by
  constructor
  · rintro ⟨w', hpath, hlinks⟩
    rcases hpath.cases_head with rfl | ⟨v, hlead, hrest⟩
    · exact Or.inl hlinks
    · exact Or.inr ⟨v, hlead, w', hrest, hlinks⟩
  · rintro (hlinks | ⟨v, hlead, w', hrest, hlinks⟩)
    · exact ⟨w, .refl, hlinks⟩
    · exact ⟨w', .head hlead hrest, hlinks⟩

theorem loadsAt_iff (hasks : d.AsksAt w) (hpage : d.page? (String.ofList w.url.text) = some body)
    (body' : String) : d.LoadsAt w body' ↔ body' = body := by
  rw [Discoverer.LoadsAt, hpage, Option.some.injEq, eq_comm]
  exact and_iff_right hasks

theorem not_loadsAt (hpage : d.page? (String.ofList w.url.text) = none) (body : String) :
    ¬ d.LoadsAt w body := by
  rintro ⟨-, h⟩
  rw [hpage] at h
  cases h

/-- A walk that cannot load its page goes no further. -/
theorem not_leads (h : ∀ body, ¬ d.LoadsAt w body) : ¬ d.Leads w w' := by
  rintro ⟨body, hload, -⟩
  exact h body hload

theorem leads_iff (hload : d.LoadsAt w body) : d.Leads w w' ↔
    w'.visited = w.url.text :: w.visited ∧
      (readCategoryPage body.toList w.url d.nextSelector).next = some w'.url := by
  constructor
  · rintro ⟨body', hload', hnext⟩
    rw [loadsAt_iff hload.1 hload.2] at hload'
    exact hload' ▸ hnext
  · exact fun hnext => ⟨body, hload, hnext⟩

/-- The links of a page, as they are read. -/
theorem mem_links_iff (markup : String) (base : Url) (selector : Selectors) (c : CanonicalUrl) :
    c ∈ (readCategoryPage markup.toList base selector).links ↔ LinkedFrom markup base c := by
  simp only [readCategoryPage, LinkedFrom, List.mem_filterMap, Document.select, List.mem_filter,
    isLink, Bool.and_eq_true, beq_iff_eq, Option.bind_eq_some_iff]
  constructor
  · rintro ⟨p, ⟨hp, hname, -⟩, hlink⟩
    exact ⟨p, hp, hname, hlink⟩
  · rintro ⟨p, hp, hname, href, hhref, hlink⟩
    exact ⟨p, ⟨hp, hname, hhref ▸ rfl⟩, href, hhref, hlink⟩

/-- Entering the links of a page. -/
theorem links_gains (d : Discoverer) (name : String) (body : String) (base : Url) (s : Search) :
    s.Gains name (fun _ => False) (fun c => d.shape.matches c = true ∧ LinkedFrom body base c)
      ((readCategoryPage body.toList base d.nextSelector).links.foldl (d.accept name) s) := by
  refine gains_congr (gains_foldl (accept_gains d name) _ s) (by simp) fun c => ?_
  rw [← mem_links_iff]
  constructor
  · rintro ⟨link, hmem, hshape, rfl⟩
    exact ⟨hshape, hmem⟩
  · exact fun ⟨hshape, hmem⟩ => ⟨c, hmem, hshape, rfl⟩

/-- A walk that may not ask for the page it comes to gains nothing. -/
theorem gains_of_shut (hshut : ¬ d.AsksAt w) (name : String) (s : Search) :
    s.Gains name (d.AsksFrom w) (fun c => d.shape.matches c = true ∧ d.LinksFrom w c) s := by
  have hnone : ∀ body, ¬ d.LoadsAt w body := fun body h => hshut h.1
  refine gains_congr (gains_refl name s) (fun url => ?_) fun c => ?_
  · rw [asksFrom_iff]
    simp [hshut, not_leads hnone]
  · rw [linksFrom_iff]
    simp [hnone, not_leads hnone]

/-- A walk with as much room as its pages leave asks for what it comes to and enters what is linked
there; it fails only where it begins. -/
theorem walk_gains (hs : d.site.Steady) (name : String) {left : Nat} {visited : List (List Char)}
    {url : Url} (hleft : left + visited.length = d.maxPages) (s : Search) :
    s.Gains name (d.AsksFrom ⟨visited, url⟩)
        (fun c => d.shape.matches c = true ∧ d.LinksFrom ⟨visited, url⟩ c)
        (d.walk name left visited url s).1 ∧
      (∀ cause, (d.walk name left visited url s).2 = .error cause →
        visited = [] ∧ d.page? (String.ofList url.text) = none) := by
  induction left generalizing visited url s with
  | zero =>
    have hshut : ¬ d.AsksAt ⟨visited, url⟩ := fun h => by
      have := h.1
      simp only at this
      omega
    exact ⟨gains_of_shut hshut name s, fun _ h => by cases h⟩
  | succ left ih =>
    rw [Discoverer.walk]
    by_cases hseen : url.text ∈ visited
    · have hshut : ¬ d.AsksAt ⟨visited, url⟩ := fun h => h.2 hseen
      rw [if_pos (List.contains_iff_mem.mpr hseen)]
      exact ⟨gains_of_shut hshut name s, fun _ h => by cases h⟩
    have hasks : d.AsksAt ⟨visited, url⟩ := ⟨by simp only; omega, hseen⟩
    rw [if_neg (fun h => hseen (List.contains_iff_mem.mp h))]
    obtain ⟨hpage, hload⟩ := load_steady hs name s (String.ofList url.text)
    rcases hresult : d.load s (String.ofList url.text) with ⟨s₁, result⟩
    rw [hresult] at hpage hload
    cases result with
    | error cause =>
      have hnone : ∀ body, ¬ d.LoadsAt ⟨visited, url⟩ body := not_loadsAt hpage.symm
      refine ⟨gains_congr hload (fun u => ?_) fun c => ?_, fun cause herror => ?_⟩
      · rw [asksFrom_iff]
        simp [hasks, not_leads hnone]
      · rw [linksFrom_iff]
        simp [hnone, not_leads hnone]
      · cases visited with
        | nil => exact ⟨rfl, hpage.symm⟩
        | cons => cases herror
    | ok body =>
      have hshows : d.LoadsAt ⟨visited, url⟩ body := ⟨hasks, hpage.symm⟩
      have hhere := gains_trans hload (links_gains d name body url s₁)
      cases hnext : (readCategoryPage body.toList url d.nextSelector).next with
      | none =>
        simp only [hnext]
        have hstop : ∀ w', ¬ d.Leads ⟨visited, url⟩ w' := fun w' h => by
          have := ((leads_iff hshows).mp h).2
          rw [hnext] at this
          cases this
        refine ⟨gains_congr hhere (fun u => ?_) fun c => ?_, fun _ h => by cases h⟩
        · rw [asksFrom_iff]
          simp [hasks, hstop]
        · rw [linksFrom_iff]
          simp [loadsAt_iff hasks hpage.symm, hstop]
      | some next =>
        simp only [hnext]
        have honward : ∀ w', d.Leads ⟨visited, url⟩ w' ↔ w' = ⟨url.text :: visited, next⟩ := by
          rintro ⟨visited', url'⟩
          rw [leads_iff hshows, hnext]
          simp [eq_comm]
        have hroom : left + (url.text :: visited).length = d.maxPages := by
          rw [List.length_cons]
          omega
        obtain ⟨hrest, herror⟩ := ih hroom _
        refine ⟨gains_congr (gains_trans hhere hrest) (fun u => ?_) fun c => ?_, fun cause h => ?_⟩
        · rw [asksFrom_iff (w := ⟨visited, url⟩)]
          simp [hasks, honward]
        · rw [linksFrom_iff (w := ⟨visited, url⟩)]
          simp [loadsAt_iff hasks hpage.symm, honward, and_or_left]
        · exact absurd (herror cause h).1 (List.cons_ne_nil _ _)

end Walk

section Listing

variable {d : Discoverer}

theorem acceptLocation_gains (d : Discoverer) (name : String) (s : Search)
    (location : List Char) :
    s.Gains name (fun _ => False)
      (fun c => d.shape.matches c = true ∧ CanonicalUrl.normalize location = .ok c)
      (d.acceptLocation name s location) := by
  unfold Discoverer.acceptLocation
  cases hurl : CanonicalUrl.normalize location with
  | error cause => exact gains_congr (gains_refl name s) (by simp) (by simp)
  | ok url =>
    refine gains_congr (accept_gains d name s url) (by simp) fun c => and_congr_right fun _ => ?_
    exact ⟨fun h => h ▸ rfl, fun h => (Except.ok.inj h).symm⟩

/-- Entering the locations of a listing. -/
theorem acceptLocations_gains (d : Discoverer) (name : String) (s : Search) (document : String) :
    s.Gains name (fun _ => False) (fun c => d.shape.matches c = true ∧ ListedIn document c)
      (d.acceptLocations name s (extractLocations document.toList)) := by
  refine gains_congr (gains_foldl (acceptLocation_gains d name) _ s) (by simp) fun c => ?_
  simp only [ListedIn, List.mem_filter, Bool.not_eq_true']
  constructor
  · rintro ⟨location, ⟨hmem, hplain⟩, hshape, hurl⟩
    exact ⟨hshape, location, hmem, hplain, hurl⟩
  · rintro ⟨hshape, location, hmem, hplain, hurl⟩
    exact ⟨location, ⟨hmem, hplain⟩, hshape, hurl⟩

/-- Entering what a nested listing lists. -/
theorem followNested_gains (hs : d.site.Steady) (name : String) (s : Search)
    (location : List Char) :
    s.Gains name (· = String.ofList location)
      (fun c => d.shape.matches c = true ∧
        ∃ nested, d.page? (String.ofList location) = some nested ∧ ListedIn nested c)
      (d.followNested name s location) := by
  obtain ⟨hpage, hload⟩ := load_steady hs name s (String.ofList location)
  unfold Discoverer.followNested
  rcases hresult : d.load s (String.ofList location) with ⟨s₁, result⟩
  rw [hresult] at hpage hload
  rw [← hpage]
  cases result with
  | error cause => exact gains_congr hload (by simp) (by simp [Except.toOption])
  | ok nested =>
    exact gains_congr (gains_trans hload (acceptLocations_gains d name s₁ nested)) (by simp)
      (by simp [Except.toOption])

/-- Reading a listing enters what it and the listings nested in it list; it fails only if the listing
itself cannot be loaded. -/
theorem readListing_gains (hs : d.site.Steady) {source : Source} (hkind : source.kind = .listing)
    (s : Search) :
    s.Gains source.name (d.Asks source) (d.Lists source) (d.readListing source s).1 ∧
      (∀ cause, (d.readListing source s).2 = .error cause → ¬ d.Opens source) := by
  obtain ⟨hpage, hload⟩ := load_steady hs source.name s source.url
  unfold Discoverer.readListing
  rcases hresult : d.load s source.url with ⟨s₁, result⟩
  rw [hresult] at hpage hload
  cases result with
  | error cause =>
    have hnone : d.page? source.url = none := hpage.symm
    refine ⟨gains_congr hload (fun url => ?_) fun c => ?_, fun _ _ hopen => ?_⟩
    · simp [Discoverer.Asks, hkind, hnone]
    · simp [Discoverer.Lists, Discoverer.Finds, hkind, hnone]
    · simp [Discoverer.Opens, hkind, hnone] at hopen
  | ok document =>
    have hsome : d.page? source.url = some document := hpage.symm
    have hroot := gains_trans hload (acceptLocations_gains d source.name s₁ document)
    have hnested := gains_foldl (followNested_gains hs source.name)
      ((extractLocations document.toList).filter isNestedListing)
      (d.acceptLocations source.name s₁ (extractLocations document.toList))
    refine ⟨gains_congr (gains_trans hroot hnested) (fun url => ?_) fun c => ?_,
      fun _ h => by cases h⟩
    · simp [Discoverer.Asks, hkind, hsome, and_assoc]
    · simp only [Discoverer.Lists, Discoverer.Finds, hkind, hsome, Option.some.injEq,
        exists_eq_left', List.mem_filter, false_or]
      rw [and_or_left]
      refine or_congr_right ⟨?_, ?_⟩
      · rintro ⟨location, ⟨hmem, hdeep⟩, hshape, hlisted⟩
        exact ⟨hshape, location, hmem, hdeep, hlisted⟩
      · rintro ⟨hshape, location, hmem, hdeep, hlisted⟩
        exact ⟨location, ⟨hmem, hdeep⟩, hshape, hlisted⟩

end Listing

section Source

variable {d : Discoverer} {source : Source}

/-- Reading a category enters what is linked on its walk; it fails only if the walk cannot begin. -/
theorem readCategory_gains (hs : d.site.Steady) (hkind : source.kind = .category) (s : Search) :
    s.Gains source.name (d.Asks source) (d.Lists source) (d.readCategory source s).1 ∧
      (∀ cause, (d.readCategory source s).2 = .error cause → ¬ d.Opens source) := by
  unfold Discoverer.readCategory
  cases hstart : Url.parse source.url.toList with
  | error cause =>
    refine ⟨gains_congr (gains_refl _ s) (fun url => ?_) fun c => ?_, fun _ _ hopen => ?_⟩
    · simp [Discoverer.Asks, hkind, hstart]
    · simp [Discoverer.Lists, Discoverer.Finds, hkind, hstart]
    · simp [Discoverer.Opens, hkind, hstart] at hopen
  | ok start =>
    have hroom : d.maxPages + ([] : List (List Char)).length = d.maxPages := rfl
    obtain ⟨hwalk, herror⟩ := walk_gains hs source.name hroom s
    refine ⟨gains_congr hwalk (fun url => ?_) fun c => ?_, fun cause h hopen => ?_⟩
    · simp [Discoverer.Asks, hkind, hstart]
    · simp [Discoverer.Lists, Discoverer.Finds, hkind, hstart]
    · simp [Discoverer.Opens, hkind, hstart, (herror cause h).2] at hopen

theorem readSource_gains (hs : d.site.Steady) (source : Source) (s : Search) :
    s.Gains source.name (d.Asks source) (d.Lists source) (d.readSource source s).1 ∧
      (∀ cause, (d.readSource source s).2 = .error cause → ¬ d.Opens source) := by
  unfold Discoverer.readSource
  cases hkind : source.kind with
  | listing => exact readListing_gains hs hkind s
  | category => exact readCategory_gains hs hkind s

/-- A source whose first page cannot be loaded lists nothing. -/
theorem opens_of_lists {c : CanonicalUrl} (h : d.Lists source c) : d.Opens source := by
  obtain ⟨-, hfinds⟩ := h
  unfold Discoverer.Finds at hfinds
  unfold Discoverer.Opens
  cases hkind : source.kind with
  | listing =>
    rw [hkind] at hfinds
    obtain ⟨document, hpage, -⟩ := hfinds
    exact Option.isSome_of_eq_some hpage
  | category =>
    rw [hkind] at hfinds
    obtain ⟨start, hstart, w, hpath, body, hload, -⟩ := hfinds
    refine ⟨start, hstart, ?_⟩
    rcases hpath.cases_head with rfl | ⟨_, ⟨first, hfirst, -⟩, -⟩
    · exact Option.isSome_of_eq_some hload.2
    · exact Option.isSome_of_eq_some hfirst.2

end Source

end Archiver
