import Archiver.Proofs.Discovery.FrontierLaw
import Archiver.Proofs.Discovery.Trails

namespace Archiver

namespace Discoverer

variable (d : Discoverer) (Kept : CanonicalUrl → Prop)

/-- A page is requested until a reply settles it or as often as is allowed, whichever comes first,
and the last reply brings its text or none. -/
structure LoadLaw (p : PageLoad) : Prop where
  asked : (d.result p).1.asked = List.replicate (d.tries p) p.url ++ p.client.asked
  settled : ∀ n, (d.answer p n).settles = true → (∀ m < n, (d.answer p m).settles = false) →
    d.tries p = min (n + 1) (d.policy.maxRetries.toNat + 1)
  unsettled : (∀ n, (d.answer p n).settles = false) → d.tries p = d.policy.maxRetries.toNat + 1
  body : d.body? p = (d.answer p (d.tries p - 1)).body?

/-- The pages loaded because of a listing: the listing itself and then, if it could be loaded, each
listing nested in it once. What any of them lists is kept. -/
structure ListingTrail (url : String) (root : PageLoad) (nested : List PageLoad) : Prop where
  starts : root.url = url
  follows : nested.map (·.url) =
    (((d.body? root).map nestedListings).getD []).map String.ofList
  distinct : (nested.map (·.url)).Nodup
  budget : ((root :: nested).map d.tries).sum ≤
    (1 + (((d.body? root).map nestedListings).getD []).length) * (d.policy.maxRetries.toNat + 1)
  kept : ∀ p ∈ root :: nested, ∀ document, d.body? p = some document →
    ∀ c, d.shape.matches c = true → ListedIn document c → Kept c

/-- The pages loaded because of a category: its first page, and on from page to page as they lead, as
long as there is room for one more that is new. What any of them links is kept. -/
structure CategoryTrail (url : String) (stops : List Stop) : Prop where
  starts : stops.head?.map (·.url) =
    if d.maxPages = 0 then none else (Url.parse url.toList).toOption
  leads : stops.IsChain d.Follows
  ends : ∀ front p q, stops = front ++ [p] → d.Follows p q →
    stops.length = d.maxPages ∨ q.url.text ∈ stops.map (·.url.text)
  distinct : (stops.map (·.url.text)).Nodup
  pages : stops.length ≤ d.maxPages
  budget : ((stops.map Stop.load).map d.tries).sum ≤
    d.maxPages * (d.policy.maxRetries.toNat + 1)
  kept : ∀ p ∈ stops, ∀ body, d.body? p.load = some body →
    ∀ c, d.shape.matches c = true → LinkedFrom body p.url c → Kept c

/-- An article comes back from discovery. -/
def Returns (sources : List Source) (c : Client) (url : CanonicalUrl) : Prop :=
  ∃ entries, (d.build sources c).2 = .ok entries ∧ url ∈ entries.map (·.url)

/-- The pages loaded because of a source. -/
def SourceTrail (source : Source) (trail : List PageLoad) : Prop :=
  match source.kind with
  | .listing => ∃ root nested, trail = root :: nested ∧ d.ListingTrail Kept source.url root nested
  | .category => ∃ stops, trail = stops.map Stop.load ∧ d.CategoryTrail Kept source.url stops

end Discoverer

section Client

variable {d : Discoverer}

/-- Loading a page gives its text or an error, and changes nothing but the client. -/
theorem load_cases (d : Discoverer) (s : Search) (url : String) :
    (d.body? ⟨url, s.client⟩ = none ∧ ∃ cause,
      d.load s url = ({ s with client := (d.result ⟨url, s.client⟩).1 }, .error cause)) ∨
    ∃ body, d.body? ⟨url, s.client⟩ = some body ∧
      d.load s url = ({ s with client := (d.result ⟨url, s.client⟩).1 }, .ok body) := by
  have hload : d.load s url = ({ s with client := (d.result ⟨url, s.client⟩).1 },
      (d.result ⟨url, s.client⟩).2) := rfl
  unfold Discoverer.body?
  rw [hload]
  rcases d.result ⟨url, s.client⟩ with ⟨c, cause | body⟩
  · exact Or.inl ⟨rfl, cause, rfl⟩
  · exact Or.inr ⟨body, rfl, rfl⟩

theorem client_foldl {α : Type} {step : Search → α → Search}
    (hstep : ∀ s a, (step s a).client = s.client) (items : List α) (s : Search) :
    (items.foldl step s).client = s.client := by
  induction items generalizing s with
  | nil => rfl
  | cons a rest ih => rw [List.foldl_cons, ih, hstep]

/-- Entering an address takes no request. -/
theorem client_accept (d : Discoverer) (name : String) (s : Search) (url : CanonicalUrl) :
    (d.accept name s url).client = s.client := by
  unfold Discoverer.accept
  split <;> rfl

theorem client_acceptLocations (d : Discoverer) (name : String) (s : Search)
    (locations : List (List Char)) : (d.acceptLocations name s locations).client = s.client := by
  refine client_foldl (fun s location => ?_) _ s
  unfold Discoverer.acceptLocation
  split
  · rfl
  · exact client_accept d name s _

theorem contains_kept (c : CanonicalUrl) : KeptByInsert fun f => f.contains c = true := by
  intro f url name h _
  rw [contains_iff] at h ⊢
  obtain ⟨e, he, rfl⟩ := h
  exact ⟨e, (mem_insert name e).mpr (Or.inl he), rfl⟩

/-- What a page links is known once its links have been entered. -/
theorem linked_known {name body : String} {base : Url} {c : CanonicalUrl} (s : Search)
    (hshape : d.shape.matches c = true) (hlinked : LinkedFrom body base c) :
    ((readCategoryPage body.toList base d.nextSelector).links.foldl
      (d.accept name) s).found.contains c = true :=
  (contains_of_gains (links_gains d name body base s) c).mpr (Or.inr ⟨hshape, hlinked⟩)

/-- What a listing lists is known once its locations have been entered. -/
theorem listed_known {name document : String} {c : CanonicalUrl} (s : Search)
    (hshape : d.shape.matches c = true) (hlisted : ListedIn document c) :
    (d.acceptLocations name s (extractLocations document.toList)).found.contains c = true :=
  (contains_of_gains (acceptLocations_gains d name s document) c).mpr (Or.inr ⟨hshape, hlisted⟩)

theorem known_foldl_followNested {s : Search} {c : CanonicalUrl} (name : String)
    (locations : List (List Char)) (h : s.found.contains c = true) :
    (locations.foldl (d.followNested name) s).found.contains c = true :=
  foldl_keeps (P := fun f => f.contains c = true)
    (fun _ location _ => followNested_keeps (contains_kept c) name location) h

end Client

section Category

/-- The pages a walk loads. It makes the requests of these and no others, and the articles linked from
each of them are known at its end, whatever became of the pages behind it. -/
theorem walk_trail (d : Discoverer) (name : String) (left : Nat) (visited : List (List Char))
    (url : Url) (s : Search) : ∃ stops, d.Walks left visited url stops ∧
      d.Loads s.client (stops.map Stop.load) (d.walk name left visited url s).1.client ∧
      ∀ p ∈ stops, ∀ body, d.body? p.load = some body → ∀ c, d.shape.matches c = true →
        LinkedFrom body p.url c →
          (d.walk name left visited url s).1.found.contains c = true := by
  induction left generalizing visited url s with
  | zero => exact ⟨[], .full, rfl, fun _ h => nomatch h⟩
  | succ left ih =>
    rw [Discoverer.walk]
    by_cases hseen : url.text ∈ visited
    · rw [if_pos (List.contains_iff_mem.mpr hseen)]
      exact ⟨[], .again hseen, rfl, fun _ h => nomatch h⟩
    rw [if_neg fun h => hseen (List.contains_iff_mem.mp h)]
    rcases load_cases d s (String.ofList url.text) with
      ⟨hbody, cause, hload⟩ | ⟨body, hbody, hload⟩
    · have hfails : d.body? (Stop.load ⟨url, s.client⟩) = none := hbody
      rw [hload]
      refine ⟨[⟨url, s.client⟩], .lost hseen hfails, loads_single rfl rfl, fun p hp body h => ?_⟩
      rw [List.mem_singleton.mp hp, hfails] at h
      cases h
    · have hshows : d.body? (Stop.load ⟨url, s.client⟩) = some body := hbody
      rw [hload]
      simp only
      generalize hs : (readCategoryPage body.toList url d.nextSelector).links.foldl (d.accept name)
        { s with client := (d.result ⟨String.ofList url.text, s.client⟩).1 } = s₁
      have hclient : s₁.client = (d.result (Stop.load ⟨url, s.client⟩)).1 :=
        hs ▸ client_foldl (client_accept d name) _ _
      have hlinks : ∀ c, d.shape.matches c = true → LinkedFrom body url c →
          s₁.found.contains c = true := fun c hshape hlinked => hs ▸ linked_known _ hshape hlinked
      cases hnext : (readCategoryPage body.toList url d.nextSelector).next with
      | none =>
        have hends : ∀ next, ¬ LeadsOn body url d.nextSelector next := fun next hleads => by
          rw [(next_eq_some_iff _ _ _ _).mpr hleads] at hnext
          cases hnext
        refine ⟨[⟨url, s.client⟩], .last hseen hshows hends, loads_single rfl hclient.symm,
          fun p hp body' h => ?_⟩
        rw [List.mem_singleton.mp hp, hshows] at h
        cases h
        rw [List.mem_singleton.mp hp]
        exact hlinks
      | some next =>
        simp only
        obtain ⟨stops, hwalks, hloads, hkept⟩ := ih (url.text :: visited) next s₁
        refine ⟨⟨url, s.client⟩ :: stops,
          .on hseen hshows ((next_eq_some_iff _ _ _ _).mp hnext) hwalks, ⟨rfl, hclient ▸ hloads⟩,
          fun p hp body' h => ?_⟩
        rcases List.mem_cons.mp hp with rfl | hp
        · rw [hshows] at h
          cases h
          exact fun c hshape hlinked =>
            walk_keeps (contains_kept c) name left _ next (hlinks c hshape hlinked)
        · exact hkept p hp body' h

/-- A walk that has been on a page gives no error. -/
theorem walk_ok (d : Discoverer) (name : String) (left : Nat) {visited : List (List Char)}
    (hvisited : visited ≠ []) (url : Url) (s : Search) :
    (d.walk name left visited url s).2 = .ok () := by
  induction left generalizing visited url s with
  | zero => rfl
  | succ left ih =>
    rw [Discoverer.walk]
    split
    · rfl
    rcases d.load s (String.ofList url.text) with ⟨s₁, cause | body⟩
    · have hempty : visited.isEmpty = false := List.isEmpty_eq_false_iff.mpr hvisited
      simp only [hempty, Bool.false_eq_true, if_false]
    · simp only
      split
      · rfl
      · exact ih (List.cons_ne_nil _ _) _ _

/-- A walk gives no error, or has entered nothing. -/
theorem ok_or_found_walk (d : Discoverer) (name : String) (left : Nat) (visited : List (List Char))
    (url : Url) (s : Search) : (d.walk name left visited url s).2 = .ok () ∨
      (d.walk name left visited url s).1.found = s.found := by
  cases left with
  | zero => exact Or.inl rfl
  | succ left =>
    rw [Discoverer.walk]
    split
    · exact Or.inl rfl
    rcases load_cases d s (String.ofList url.text) with ⟨-, cause, hload⟩ | ⟨body, -, hload⟩
    · rw [hload]
      exact Or.inr rfl
    · rw [hload]
      left
      simp only
      split
      · rfl
      · exact walk_ok d name left (List.cons_ne_nil _ _) _ _

theorem readCategory_trail (d : Discoverer) (source : Source) (s : Search) : ∃ stops,
    d.CategoryTrail (fun c => (d.readCategory source s).1.found.contains c = true) source.url
      stops ∧
    d.Loads s.client (stops.map Stop.load) (d.readCategory source s).1.client := by
  unfold Discoverer.readCategory
  cases hstart : Url.parse source.url.toList with
  | error cause =>
    refine ⟨[], ⟨?_, List.IsChain.nil, fun front p q h => ?_, List.nodup_nil, Nat.zero_le _,
      Nat.zero_le _, fun _ h => nomatch h⟩, rfl⟩
    · rw [hstart]
      simp [Except.toOption]
    · cases front <;> cases h
  | ok start =>
    obtain ⟨stops, hwalks, hloads, hkept⟩ := walk_trail d source.name d.maxPages [] start s
    refine ⟨stops, ⟨?_, chain_walks hwalks, fun front p q hp hq => ?_, (distinct_walks hwalks).1,
      length_walks hwalks, ?_, hkept⟩, hloads⟩
    · rw [hstart]
      split
      · next hzero =>
        have hnone := length_walks hwalks
        rw [hzero, Nat.le_zero, List.length_eq_zero_iff] at hnone
        rw [hnone]
        rfl
      · next hpages => exact head_walks hwalks hpages List.not_mem_nil
    · exact (last_walks hwalks hp hq).imp_right fun h => h.resolve_left List.not_mem_nil
    · refine (sum_tries_le d _).trans (Nat.mul_le_mul_right _ ?_)
      rw [List.length_map]
      exact length_walks hwalks

theorem ok_or_found_readCategory (d : Discoverer) (source : Source) (s : Search) :
    (d.readCategory source s).2 = .ok () ∨ (d.readCategory source s).1.found = s.found := by
  unfold Discoverer.readCategory
  split
  · exact Or.inr rfl
  · exact ok_or_found_walk d source.name d.maxPages [] _ s

end Category

section Listing

variable {d : Discoverer}

theorem dropRepeats_nodup {α : Type} [BEq α] [LawfulBEq α] (seen items : List α) :
    (dropRepeats seen items).Nodup ∧ ∀ a ∈ dropRepeats seen items, a ∉ seen := by
  induction items generalizing seen with
  | nil => exact ⟨List.nodup_nil, fun _ h => nomatch h⟩
  | cons a rest ih =>
    rw [dropRepeats]
    split
    · exact ih seen
    · next hnew =>
      obtain ⟨hdistinct, hothers⟩ := ih (a :: seen)
      refine ⟨List.nodup_cons.mpr ⟨fun h => hothers a h List.mem_cons_self, hdistinct⟩,
        List.forall_mem_cons.mpr ⟨fun h => hnew (List.contains_iff_mem.mpr h), fun b hb h => ?_⟩⟩
      exact hothers b hb (List.mem_cons_of_mem a h)

/-- A listing leads to no other listing twice. -/
theorem nestedListings_nodup (document : String) :
    ((nestedListings document).map String.ofList).Nodup :=
  List.Nodup.map (fun _ _ h => String.ofList_injective h)
    ((dropRepeats_nodup [] _).1.filter _)

/-- Following a nested listing loads it, and no listing that it leads to. -/
theorem followNested_trail (d : Discoverer) (name : String) (s : Search) (location : List Char) :
    (d.result ⟨String.ofList location, s.client⟩).1 = (d.followNested name s location).client ∧
      ∀ document, d.body? ⟨String.ofList location, s.client⟩ = some document →
        ∀ c, d.shape.matches c = true → ListedIn document c →
          (d.followNested name s location).found.contains c = true := by
  unfold Discoverer.followNested
  rcases load_cases d s (String.ofList location) with
    ⟨hbody, cause, hload⟩ | ⟨document, hbody, hload⟩
  · rw [hload, hbody]
    exact ⟨rfl, fun _ h => nomatch h⟩
  · rw [hload, hbody]
    dsimp only
    rw [client_acceptLocations]
    refine ⟨rfl, fun document' h c hshape hlisted => ?_⟩
    cases h
    exact listed_known _ hshape hlisted

theorem nested_trail (d : Discoverer) (name : String) (locations : List (List Char)) (s : Search) :
    ∃ nested : List PageLoad, nested.map (·.url) = locations.map String.ofList ∧
      d.Loads s.client nested (locations.foldl (d.followNested name) s).client ∧
      ∀ p ∈ nested, ∀ document, d.body? p = some document → ∀ c, d.shape.matches c = true →
        ListedIn document c →
          (locations.foldl (d.followNested name) s).found.contains c = true := by
  induction locations generalizing s with
  | nil => exact ⟨[], rfl, rfl, fun _ h => nomatch h⟩
  | cons location rest ih =>
    obtain ⟨hfirst, hlisted⟩ := followNested_trail d name s location
    obtain ⟨nested, hurls, hloads, hkept⟩ := ih (d.followNested name s location)
    refine ⟨⟨String.ofList location, s.client⟩ :: nested, congrArg _ hurls,
      ⟨rfl, hfirst ▸ hloads⟩, fun p hp document hdocument c hshape hin => ?_⟩
    rcases List.mem_cons.mp hp with rfl | hp
    · exact known_foldl_followNested name rest (hlisted document hdocument c hshape hin)
    · exact hkept p hp document hdocument c hshape hin

theorem readListing_trail (d : Discoverer) (source : Source) (s : Search) : ∃ root nested,
    d.ListingTrail (fun c => (d.readListing source s).1.found.contains c = true) source.url root
      nested ∧
    d.Loads s.client (root :: nested) (d.readListing source s).1.client := by
  unfold Discoverer.readListing
  rcases load_cases d s source.url with ⟨hbody, cause, hload⟩ | ⟨document, hbody, hload⟩
  · rw [hload]
    refine ⟨⟨source.url, s.client⟩, [], ⟨rfl, ?_, List.nodup_nil, ?_, fun p hp document h => ?_⟩,
      loads_single rfl rfl⟩
    · rw [hbody]
      rfl
    · rw [hbody]
      exact sum_tries_le d [_]
    · rw [List.mem_singleton.mp hp, hbody] at h
      cases h
  · rw [hload]
    dsimp only
    generalize hs : d.acceptLocations source.name
      { s with client := (d.result ⟨source.url, s.client⟩).1 }
      (extractLocations document.toList) = s₁
    have hclient : s₁.client = (d.result ⟨source.url, s.client⟩).1 :=
      hs ▸ client_acceptLocations d source.name _ _
    obtain ⟨nested, hurls, hloads, hkept⟩ := nested_trail d source.name (nestedListings document) s₁
    refine ⟨⟨source.url, s.client⟩, nested, ⟨rfl, ?_, ?_, ?_, fun p hp document' h c hshape hin => ?_⟩,
      ⟨rfl, hclient ▸ hloads⟩⟩
    · rw [hbody, hurls]
      rfl
    · rw [hurls]
      exact nestedListings_nodup document
    · have hlength := congrArg List.length hurls
      rw [List.length_map, List.length_map] at hlength
      have hbound := sum_tries_le d (⟨source.url, s.client⟩ :: nested)
      rw [List.length_cons, hlength, Nat.add_comm] at hbound
      rw [hbody]
      exact hbound
    · rcases List.mem_cons.mp hp with rfl | hp
      · rw [hbody] at h
        cases h
        exact known_foldl_followNested source.name (nestedListings document)
          (hs ▸ listed_known _ hshape hin)
      · exact hkept p hp document' h c hshape hin

theorem ok_or_found_readListing (d : Discoverer) (source : Source) (s : Search) :
    (d.readListing source s).2 = .ok () ∨ (d.readListing source s).1.found = s.found := by
  unfold Discoverer.readListing
  rcases load_cases d s source.url with ⟨-, cause, hload⟩ | ⟨document, -, hload⟩
  · rw [hload]
    exact Or.inr rfl
  · rw [hload]
    exact Or.inl rfl

end Listing

section Build

variable {d : Discoverer} {Kept Kept' : CanonicalUrl → Prop} {source : Source}
  {trail : List PageLoad}

theorem sourceTrail_mono (h : d.SourceTrail Kept source trail) (hkept : ∀ c, Kept c → Kept' c) :
    d.SourceTrail Kept' source trail := by
  unfold Discoverer.SourceTrail at h ⊢
  cases hkind : source.kind with
  | listing =>
    rw [hkind] at h
    obtain ⟨root, nested, htrail, hlisting⟩ := h
    exact ⟨root, nested, htrail, { hlisting with
      kept := fun p hp document h c hshape hin => hkept c (hlisting.kept p hp document h c hshape hin) }⟩
  | category =>
    rw [hkind] at h
    obtain ⟨stops, htrail, hcategory⟩ := h
    exact ⟨stops, htrail, { hcategory with
      kept := fun p hp body h c hshape hin => hkept c (hcategory.kept p hp body h c hshape hin) }⟩

/-- Reading a source loads the pages of its trail. -/
theorem readSource_trail (d : Discoverer) (source : Source) (s : Search) : ∃ trail,
    d.SourceTrail (fun c => (d.readSource source s).1.found.contains c = true) source trail ∧
    d.Loads s.client trail (d.readSource source s).1.client := by
  unfold Discoverer.SourceTrail Discoverer.readSource
  cases source.kind with
  | listing =>
    obtain ⟨root, nested, htrail, hloads⟩ := readListing_trail d source s
    exact ⟨_, ⟨root, nested, rfl, htrail⟩, hloads⟩
  | category =>
    obtain ⟨stops, htrail, hloads⟩ := readCategory_trail d source s
    exact ⟨_, ⟨stops, rfl, htrail⟩, hloads⟩

theorem ok_or_found_readSource (d : Discoverer) (source : Source) (s : Search) :
    (d.readSource source s).2 = .ok () ∨ (d.readSource source s).1.found = s.found := by
  unfold Discoverer.readSource
  cases source.kind with
  | listing => exact ok_or_found_readListing d source s
  | category => exact ok_or_found_readCategory d source s

theorem readSources_trails (d : Discoverer) (sources : List Source) (s : Search) :
    ∃ trails : List (List PageLoad),
      List.Forall₂ (d.SourceTrail fun c =>
        (d.readSources sources s).1.found.contains c = true) sources trails ∧
      d.Loads s.client trails.flatten (d.readSources sources s).1.client := by
  induction sources generalizing s with
  | nil => exact ⟨[], .nil, rfl⟩
  | cons source rest ih =>
    obtain ⟨trail, htrail, hloads⟩ := readSource_trail d source s
    obtain ⟨trails, htrails, hrest⟩ := ih (d.readSource source s).1
    have hlast : (d.readSources (source :: rest) s).1 =
        (d.readSources rest (d.readSource source s).1).1 := by
      rw [Discoverer.readSources]
      rcases d.readSource source s with ⟨s₁, cause | _⟩ <;> rfl
    rw [hlast]
    refine ⟨trail :: trails, .cons (sourceTrail_mono htrail fun c hc => ?_) htrails,
      loads_append hloads hrest⟩
    exact readSources_keeps (P := fun f => f.contains c = true) (contains_kept c) rest hc

/-- If every source fails, nothing has been entered. -/
theorem found_of_all_failed (d : Discoverer) (sources : List Source) (s : Search) :
    (d.readSources sources s).2 ≤ sources.length ∧
      ((d.readSources sources s).2 = sources.length →
        (d.readSources sources s).1.found = s.found) := by
  induction sources generalizing s with
  | nil => exact ⟨le_rfl, fun _ => rfl⟩
  | cons source rest ih =>
    have hsource := ok_or_found_readSource d source s
    rw [Discoverer.readSources, List.length_cons]
    generalize d.readSource source s = result at hsource ⊢
    obtain ⟨s₁, cause | _⟩ := result
    · obtain ⟨hbound, hall⟩ := ih s₁
      refine ⟨Nat.succ_le_succ hbound, fun hcount => (hall (Nat.succ.inj hcount)).trans ?_⟩
      exact hsource.resolve_left fun h => by cases h
    · obtain ⟨hbound, -⟩ := ih s₁
      exact ⟨Nat.le_succ_of_le hbound, fun hcount => by simp only at hcount; omega⟩

/-- What the sources have entered comes back from discovery. -/
theorem returns_of_contains {sources : List Source} {c : Client} {url : CanonicalUrl}
    (h : (d.readSources sources ⟨c, .empty⟩).1.found.contains url = true) :
    d.Returns sources c url := by
  obtain ⟨e, he, rfl⟩ := contains_iff.mp h
  have hfound : (d.readSources sources ⟨c, .empty⟩).1.found.entries ≠ [] := List.ne_nil_of_mem he
  have hcount : (d.readSources sources ⟨c, .empty⟩).2 ≠ sources.length := fun hall => by
    rw [(found_of_all_failed d sources ⟨c, .empty⟩).2 hall] at hfound
    exact hfound rfl
  exact ⟨_, build_eq_ok hcount hfound,
    List.mem_map_of_mem ((sortFrontier_perm _).mem_iff.mpr he)⟩

theorem loadLaw (d : Discoverer) (p : PageLoad) : d.LoadLaw p where
  asked := asked_load d.site d.policy p.client p.url
  settled _ hsettles hfirst := tries_of_first hsettles hfirst
  unsettled hnone := tries_of_none hnone
  body := by
    unfold Discoverer.body? Discoverer.result
    rw [load_eq, toOption_outcome]
    rfl

end Build

/-- Whatever the site answers, discovery ends within its budget. Every page gets one request more than
stand in front of the first reply that settles it, as far as they are allowed; a category gets as many
pages as are allowed and goes on only where a page leads on; of the listings only those nested in the
listing of a source are followed; and the articles on every page that could be loaded come back,
whatever became of the pages behind it. -/
theorem build_within_budget (d : Discoverer) (sources : List Source) (c : Client) :
    (∀ p : PageLoad, d.LoadLaw p) ∧
    ∃ trails : List (List PageLoad),
      List.Forall₂ (d.SourceTrail (d.Returns sources c)) sources trails ∧
      d.Loads c trails.flatten (d.build sources c).1 ∧
      (d.build sources c).1.requests.length =
        c.requests.length + (trails.flatten.map d.tries).sum := by
  obtain ⟨trails, htrails, hloads⟩ := readSources_trails d sources ⟨c, .empty⟩
  exact ⟨loadLaw d, trails,
    htrails.imp fun _ _ htrail => sourceTrail_mono htrail fun _ hurl => returns_of_contains hurl,
    hloads, requests_loads hloads⟩

/-- A category whose second page never comes and whose first leads to it, and a listing that lists
itself and another one, which lists a third. -/
def grudgingSite : Site := fun _ url =>
  let reply : Reply :=
    if url == "https://[::1]/c" then .page 200 "<a href=n/5>5</a><a class=next href=c2>2</a>"
    else if url == "https://[::1]/all.xml" then
      .page 200 "<loc>https://[::1]/all.xml</loc><loc>https://[::1]/old.xml</loc>"
    else if url == "https://[::1]/old.xml" then .page 200 "<loc>https://[::1]/older.xml</loc>"
    else .refused 503
  ⟨reply, 3, false, false⟩

def grudgingDiscoverer : Discoverer := { newsDiscoverer with site := grudgingSite }

def grudgingSources : List Source :=
  [⟨.category, "page", "https://[::1]/c"⟩, ⟨.listing, "listing", "https://[::1]/all.xml"⟩]

def grudgingStart : Url :=
  ⟨"https".toList, some ⟨[], none, some (.ipv6 [0, 0, 0, 0, 0, 0, 0, 1]), none⟩, "/c".toList, none,
    none⟩

/-- The addresses asked for on the grudging site, the last one first. -/
def grudgingAsked : List String :=
  ["https://[::1]/old.xml", "https://[::1]/all.xml", "https://[::1]/all.xml",
    "https://[::1]/c2", "https://[::1]/c2", "https://[::1]/c2", "https://[::1]/c"]

theorem build_within_budget_grudging :
    (grudgingDiscoverer.build grudgingSources (.start 0)).1.asked = grudgingAsked ∧
    (∃ trails, List.Forall₂
      (grudgingDiscoverer.SourceTrail (grudgingDiscoverer.Returns grudgingSources (.start 0)))
        grudgingSources trails ∧
      (trails.flatten.map grudgingDiscoverer.tries).sum = 7) ∧
    grudgingDiscoverer.Returns grudgingSources (.start 0) ⟨"https://[::1]/n/5"⟩ := by
  have hasked : (grudgingDiscoverer.build grudgingSources (.start 0)).1.asked = grudgingAsked := by
    decide +kernel
  obtain ⟨-, trails, hall, hloads, hcount⟩ :=
    build_within_budget grudgingDiscoverer grudgingSources (.start 0)
  refine ⟨hasked, ⟨trails, hall, ?_⟩, ?_⟩
  · have hlength := congrArg List.length hasked
    rw [Client.asked, List.length_map, hcount] at hlength
    exact (Nat.zero_add _).symm.trans hlength
  · obtain _ | ⟨⟨stops, rfl, htrail⟩, -⟩ := hall
    have hstarts : stops.head?.map (·.url) = some grudgingStart :=
      htrail.starts.trans (by decide +kernel)
    cases stops with
    | nil => cases hstarts
    | cons first rest =>
      obtain ⟨url, client⟩ := first
      obtain rfl : url = grudgingStart := Option.some.inj hstarts
      obtain rfl : client = .start 0 := hloads.1
      refine htrail.kept _ List.mem_cons_self
        "<a href=n/5>5</a><a class=next href=c2>2</a>" ?_ _ ?_ ?_
      · decide +kernel
      · decide +kernel
      · refine (mem_links_iff _ _ grudgingDiscoverer.nextSelector _).mp ?_
        decide +kernel

end Archiver
