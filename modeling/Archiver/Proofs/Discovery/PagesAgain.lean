import Archiver.Proofs.Config.Demands
import Archiver.Proofs.Discovery.Budget

namespace Archiver

/-- What an address says up to its fragment. -/
def Url.page (u : Url) : List Char := (dropFragment u).text

namespace Discoverer

variable (d : Discoverer)

/-- How the pages of a walk lie to each other. Behind its first page no address has a fragment and
no page comes twice. The first page comes again only if it is asked for with a fragment, and then as
soon as some page leads back to it and there is room for one more. -/
structure PageLaw (url : String) (stops : List Stop) : Prop where
  plain : ∀ p ∈ stops.tail, p.url.fragment = none
  others : (stops.tail.map (·.url.page)).Nodup
  whole : (∀ start, Url.parse url.toList = .ok start → start.fragment = none) →
    (stops.map (·.url.page)).Nodup
  again : ∀ start, Url.parse url.toList = .ok start → start.fragment ≠ none →
    ((stops.map (·.url.page)).Nodup ↔ start.page ∉ stops.tail.map (·.url.text))
  back : ∀ start, Url.parse url.toList = .ok start → start.fragment ≠ none →
    ∀ p ∈ stops, ∀ q, d.Follows p q → q.url.text = start.page →
      stops.length = d.maxPages ∨ start.page ∈ stops.tail.map (·.url.text)

end Discoverer

section Pages

variable {d : Discoverer} {stops rest : List Stop} {first p q : Stop} {body : String}
  {base next u : Url} {selector : Selectors}

/-- The fragment of an address stands behind all else. -/
theorem text_eq_page (u : Url) : u.text = u.page ++ (u.fragment.map ('#' :: ·)).getD [] := by
  unfold Url.page dropFragment Url.text
  dsimp only
  simp only [Option.map_none, Option.getD_none, List.append_nil, List.append_assoc,
    List.cons_append]

theorem page_of_plain (h : u.fragment = none) : u.page = u.text := by
  rw [text_eq_page, h]
  exact (List.append_nil _).symm

theorem page_ne_text (h : u.fragment ≠ none) : u.page ≠ u.text := by
  obtain ⟨fragment, hfragment⟩ := Option.ne_none_iff_exists'.mp h
  rw [text_eq_page, hfragment]
  exact fun heq => List.cons_ne_nil _ _ (List.self_eq_append_right.mp heq)

theorem plain_of_leadsOn (h : LeadsOn body base selector next) : next.fragment = none := by
  obtain ⟨-, -, target, -, -, -, -, -, rfl⟩ := h
  rfl

theorem plain_of_chain (h : (first :: rest).IsChain d.Follows) :
    ∀ q ∈ rest, q.url.fragment = none := by
  induction rest generalizing first with
  | nil => exact fun _ hq => nomatch hq
  | cons q rest ih =>
    obtain ⟨⟨body, -, hleads⟩, hrest⟩ := List.isChain_cons_cons.mp h
    exact List.forall_mem_cons.mpr ⟨plain_of_leadsOn hleads, ih hrest⟩

theorem pages_of_plain (h : ∀ q ∈ stops, q.url.fragment = none) :
    stops.map (·.url.page) = stops.map (·.url.text) :=
  List.map_congr_left fun q hq => page_of_plain (h q hq)

theorem url_of_follows (h : d.Follows p q) {q' : Stop} (h' : d.Follows p q') : q.url = q'.url := by
  obtain ⟨body, hbody, hleads⟩ := h
  obtain ⟨body', hbody', hleads'⟩ := h'
  rw [hbody] at hbody'
  cases hbody'
  exact leadsOn_unique hleads hleads'

/-- Wherever a page of a walk leads, that page comes behind it, unless it is the last page. -/
theorem tail_of_chain (h : stops.IsChain d.Follows) (hp : p ∈ stops) (hq : d.Follows p q) :
    (∃ front, stops = front ++ [p]) ∨ q.url ∈ stops.tail.map (·.url) := by
  obtain ⟨front, back, rfl⟩ := List.append_of_mem hp
  cases back with
  | nil => exact Or.inl ⟨front, rfl⟩
  | cons next back =>
    obtain ⟨-, hback, -⟩ := List.isChain_append.mp h
    have hnext := url_of_follows hq (List.isChain_cons_cons.mp hback).1
    refine Or.inr (List.mem_map.mpr ⟨next, ?_, hnext.symm⟩)
    cases front with
    | nil => exact List.mem_cons_self
    | cons first front =>
      exact List.mem_append_right _ (List.mem_cons_of_mem _ List.mem_cons_self)

variable {Kept : CanonicalUrl → Prop} {url : String}

theorem head_of_trail (h : d.CategoryTrail Kept url (first :: rest)) :
    Url.parse url.toList = .ok first.url := by
  have hstarts := h.starts
  split at hstarts
  · cases hstarts
  · cases hparse : Url.parse url.toList with
    | error cause => rw [hparse] at hstarts; cases hstarts
    | ok start =>
      rw [hparse] at hstarts
      exact congrArg _ (Option.some.inj hstarts).symm

theorem pageLaw_of_trail (h : d.CategoryTrail Kept url stops) : d.PageLaw url stops := by
  cases stops with
  | nil =>
    exact ⟨fun _ hp => (nomatch hp), List.nodup_nil, fun _ => List.nodup_nil,
      fun _ _ _ => ⟨fun _ => List.not_mem_nil, fun _ => List.nodup_nil⟩, fun _ _ _ _ hp => nomatch hp⟩
  | cons first rest =>
    have hstart := head_of_trail h
    have hplain : ∀ q ∈ rest, q.url.fragment = none := plain_of_chain h.leads
    have hdistinct := List.nodup_cons.mp h.distinct
    refine ⟨hplain, (pages_of_plain hplain).symm ▸ hdistinct.2, fun hwhole => ?_, ?_, ?_⟩
    · have hfirst := hwhole _ hstart
      rw [pages_of_plain (List.forall_mem_cons.mpr ⟨hfirst, hplain⟩)]
      exact h.distinct
    · intro start hparse _
      obtain rfl : first.url = start := Except.ok.inj (hstart.symm.trans hparse)
      rw [List.map_cons, pages_of_plain hplain, List.nodup_cons, and_iff_left hdistinct.2,
        List.tail_cons]
    · intro start hparse hfragment p hp q hq hback
      obtain rfl : first.url = start := Except.ok.inj (hstart.symm.trans hparse)
      rcases tail_of_chain h.leads hp hq with ⟨front, hlast⟩ | hlater
      · refine (h.ends front p q hlast hq).imp_right fun hseen => ?_
        rw [hback, List.map_cons] at hseen
        exact (List.mem_cons.mp hseen).resolve_left (page_ne_text hfragment)
      · obtain ⟨r, hr, hurl⟩ := List.mem_map.mp hlater
        exact Or.inr (List.mem_map.mpr ⟨r, hr, hback ▸ congrArg Url.text hurl⟩)

end Pages

/-- A walk through a category is on no page twice but perhaps on its first one, and on that one only
if its source is written with a fragment. -/
theorem readCategory_pages (d : Discoverer) (source : Source) (s : Search) : ∃ stops,
    d.CategoryTrail (fun c => (d.readCategory source s).1.found.contains c = true) source.url stops ∧
    d.Loads s.client (stops.map Stop.load) (d.readCategory source s).1.client ∧
    d.PageLaw source.url stops := by
  obtain ⟨stops, htrail, hloads⟩ := readCategory_trail d source s
  exact ⟨stops, htrail, hloads, pageLaw_of_trail htrail⟩

/-- A category whose only page leads to itself. -/
def ringSite : Site := fun _ _ =>
  ⟨.page 200 "<a href=n/5>5</a><a class=next href=c>1</a>", 3, false, false⟩

def ringDiscoverer : Discoverer := { newsDiscoverer with site := ringSite }

def ringSource : Source := ⟨.category, "ring", "https://[::1]/c#top"⟩

def ringStart : Url := { grudgingStart with fragment := some "top".toList }

/-- A source that a configuration may have takes the walk to one page twice, and both times the page
is loaded. -/
theorem page_comes_again : ringSource.check = .ok () ∧ ∃ stops,
    ringDiscoverer.CategoryTrail (fun c =>
      (ringDiscoverer.readCategory ringSource ⟨.start 0, .empty⟩).1.found.contains c = true)
      ringSource.url stops ∧
    ringDiscoverer.Loads (.start 0) (stops.map Stop.load)
      (ringDiscoverer.readCategory ringSource ⟨.start 0, .empty⟩).1.client ∧
    (∀ p ∈ stops, (ringDiscoverer.body? p.load).isSome) ∧
    ¬ (stops.map (·.url.page)).Nodup := by
  obtain ⟨stops, htrail, hloads⟩ := readCategory_trail ringDiscoverer ringSource ⟨.start 0, .empty⟩
  have hbody : ∀ p : PageLoad, ringDiscoverer.body? p =
      some "<a href=n/5>5</a><a class=next href=c>1</a>" := fun p => (loadLaw ringDiscoverer p).body
  refine ⟨ok_of_isOk (by decide +kernel), stops, htrail, hloads, fun p _ => ?_, ?_⟩
  · rw [hbody]
    rfl
  · have hstarts : stops.head?.map (·.url) = some ringStart := htrail.starts.trans (by decide +kernel)
    have hleads : LeadsOn "<a href=n/5>5</a><a class=next href=c>1</a>" ringStart
        ringDiscoverer.nextSelector (dropFragment ringStart) := by
      rw [← next_eq_some_iff]
      decide +kernel
    cases stops with
    | nil => cases hstarts
    | cons first rest =>
      obtain ⟨url, client⟩ := first
      obtain rfl : url = ringStart := Option.some.inj hstarts
      have hfollows : ringDiscoverer.Follows ⟨ringStart, client⟩ ⟨dropFragment ringStart, client⟩ :=
        ⟨_, hbody _, hleads⟩
      cases rest with
      | nil =>
        rcases htrail.ends [] _ _ rfl hfollows with h | h
        · cases h
        · have hne : (dropFragment ringStart).text ≠ ringStart.text := by decide +kernel
          exact absurd (List.mem_singleton.mp h) hne
      | cons second rest =>
        have hsecond := url_of_follows (List.isChain_cons_cons.mp htrail.leads).1 hfollows
        have hpage : second.url.page = (dropFragment ringStart).page := congrArg Url.page hsecond
        exact fun hnodup =>
          (List.nodup_cons.mp hnodup).1 (List.mem_map.mpr ⟨second, List.mem_cons_self, hpage⟩)

end Archiver
