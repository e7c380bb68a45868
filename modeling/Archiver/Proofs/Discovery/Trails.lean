import Mathlib.Data.List.Chain
import Archiver.Proofs.Discovery.Found
import Archiver.Proofs.Discovery.Sources
import Archiver.Proofs.Discovery.Tries

namespace Archiver

/-- A page that discovery loads, and the client that loads it. -/
structure PageLoad where
  url : String
  client : Client

/-- A page that a walk through a category loads. -/
structure Stop where
  url : Url
  client : Client

def Stop.load (p : Stop) : PageLoad := ⟨String.ofList p.url.text, p.client⟩

/-- The locations of other listings in a listing. -/
def nestedListings (document : String) : List (List Char) :=
  (extractLocations document.toList).filter isNestedListing

/-- A page leads on to another: its first control for the next page is disabled neither itself nor up
to two elements out, and has a target that is no placeholder. -/
def LeadsOn (body : String) (base : Url) (selector : Selectors) (next : Url) : Prop :=
  ∃ control href target,
    ((parseDocument body.toList).select selector.matches).head? = some control ∧
    (∀ p ∈ control :: control.ancestors.take 2, p.element.isDisabled = false) ∧
    controlHref? control = some href ∧ isPlaceholder (trim href) = false ∧
    Url.resolve (some base) (trim href) = .ok target ∧ next = dropFragment target

namespace Discoverer

variable (d : Discoverer)

/-- What loading a page comes to. -/
def result (p : PageLoad) : Client × Except Unreachable String :=
  Client.load d.site d.policy p.client p.url

def body? (p : PageLoad) : Option String := (d.result p).2.toOption

/-- The number of requests that a page gets. -/
def tries (p : PageLoad) : Nat := p.client.tries d.site d.policy p.url

/-- The reply that a page gets after some number of others, if it is tried so often. -/
def answer (p : PageLoad) (n : Nat) : Reply := p.client.answer d.site d.policy p.url n

/-- A client loads pages one after another, and what becomes of it. -/
def Loads : Client → List PageLoad → Client → Prop
  | c, [], c' => c = c'
  | c, p :: rest, c' => p.client = c ∧ Loads (d.result p).1 rest c'

/-- The pages that a walk loads on its way, with room for some more pages and others behind it. -/
inductive Walks : Nat → List (List Char) → Url → List Stop → Prop
  | full {visited : List (List Char)} {url : Url} : Walks 0 visited url []
  | again {left : Nat} {visited : List (List Char)} {url : Url} (seen : url.text ∈ visited) :
      Walks (left + 1) visited url []
  | lost {left : Nat} {visited : List (List Char)} {url : Url} {c : Client}
      (new : url.text ∉ visited) (fails : d.body? (Stop.load ⟨url, c⟩) = none) :
      Walks (left + 1) visited url [⟨url, c⟩]
  | last {left : Nat} {visited : List (List Char)} {url : Url} {c : Client} {body : String}
      (new : url.text ∉ visited) (shows : d.body? (Stop.load ⟨url, c⟩) = some body)
      (ends : ∀ next, ¬ LeadsOn body url d.nextSelector next) :
      Walks (left + 1) visited url [⟨url, c⟩]
  | on {left : Nat} {visited : List (List Char)} {url next : Url} {c : Client} {body : String}
      {rest : List Stop} (new : url.text ∉ visited)
      (shows : d.body? (Stop.load ⟨url, c⟩) = some body)
      (leads : LeadsOn body url d.nextSelector next)
      (goes : Walks left (url.text :: visited) next rest) :
      Walks (left + 1) visited url (⟨url, c⟩ :: rest)

/-- One page of a walk leads on to the next. -/
def Follows (p q : Stop) : Prop :=
  ∃ body, d.body? p.load = some body ∧ LeadsOn body p.url d.nextSelector q.url

end Discoverer

section Loads

variable {d : Discoverer} {c c' c'' : Client} {front back : List PageLoad}

theorem loads_append (h : d.Loads c front c') (h' : d.Loads c' back c'') :
    d.Loads c (front ++ back) c'' := by
  induction front generalizing c with
  | nil =>
    obtain rfl : c = c' := h
    exact h'
  | cons p rest ih => exact ⟨h.1, ih h.2⟩

theorem loads_single {p : PageLoad} (h : p.client = c) (h' : (d.result p).1 = c') :
    d.Loads c [p] c' := ⟨h, h'⟩

/-- A client that loads pages makes the requests of each of them, and no others. -/
theorem asked_loads (h : d.Loads c front c') :
    c'.asked = (front.reverse.flatMap fun p => List.replicate (d.tries p) p.url) ++ c.asked := by
  induction front generalizing c with
  | nil =>
    obtain rfl : c = c' := h
    rfl
  | cons p rest ih =>
    obtain ⟨rfl, hrest⟩ := h
    rw [ih hrest, List.reverse_cons, List.flatMap_append, List.flatMap_singleton, List.append_assoc]
    exact congrArg _ (asked_load d.site d.policy p.client p.url)

theorem requests_loads (h : d.Loads c front c') :
    c'.requests.length = c.requests.length + (front.map d.tries).sum := by
  have hasked := congrArg List.length (asked_loads h)
  simp only [Client.asked, List.length_map, List.length_append, List.length_flatMap,
    List.length_replicate] at hasked
  rw [hasked, List.map_reverse, List.sum_reverse, Nat.add_comm]

/-- Some pages get no more requests than as many pages can get. -/
theorem sum_tries_le (d : Discoverer) (loads : List PageLoad) :
    (loads.map d.tries).sum ≤ loads.length * (d.policy.maxRetries.toNat + 1) := by
  induction loads with
  | nil => exact Nat.zero_le _
  | cons p rest ih =>
    have hp : d.tries p ≤ d.policy.maxRetries.toNat + 1 := tries_le _ _ _ _
    rw [List.map_cons, List.sum_cons, List.length_cons, Nat.succ_mul]
    omega

end Loads

section Next

variable {body : String} {base next : Url} {selector : Selectors}

/-- A control leads to a target unless it is disabled, has none, or the target only stands in for a
page. -/
theorem nextTarget_eq_some_iff {control : Place} : nextTarget? control base = some next ↔
    (∀ p ∈ control :: control.ancestors.take 2, p.element.isDisabled = false) ∧
      ∃ href target, controlHref? control = some href ∧ isPlaceholder (trim href) = false ∧
        Url.resolve (some base) (trim href) = .ok target ∧ next = dropFragment target := by
  unfold nextTarget?
  split
  · next hdisabled =>
    obtain ⟨p, hp, hmarked⟩ := List.any_eq_true.mp hdisabled
    refine ⟨fun h => (Option.some_ne_none _ h.symm).elim, fun ⟨hfree, _⟩ => ?_⟩
    rw [hfree p hp] at hmarked
    cases hmarked
  next hfree =>
  have hfree' : ∀ p ∈ control :: control.ancestors.take 2, p.element.isDisabled = false :=
    fun p hp => Bool.not_eq_true _ ▸ fun hmarked => hfree (List.any_eq_true.mpr ⟨p, hp, hmarked⟩)
  rw [and_iff_right hfree']
  cases controlHref? control with
  | none => simp
  | some href =>
    cases hplaceholder : isPlaceholder (trim href) with
    | true => simp [hplaceholder]
    | false =>
      cases htarget : Url.resolve (some base) (trim href) with
      | error cause => simp [hplaceholder, htarget]
      | ok target => simp [hplaceholder, htarget, @eq_comm Url next]

theorem next_eq_some_iff (body : String) (base : Url) (selector : Selectors) (next : Url) :
    (readCategoryPage body.toList base selector).next = some next ↔
      LeadsOn body base selector next := by
  simp only [readCategoryPage, Option.bind_eq_some_iff, nextTarget_eq_some_iff, LeadsOn]
  constructor
  · rintro ⟨control, hcontrol, hfree, href, target, hrest⟩
    exact ⟨control, href, target, hcontrol, hfree, hrest⟩
  · rintro ⟨control, href, target, hcontrol, hfree, hrest⟩
    exact ⟨control, hcontrol, hfree, href, target, hrest⟩

end Next

section Walks

variable {d : Discoverer} {left : Nat} {visited : List (List Char)} {url : Url} {stops : List Stop}

theorem length_walks (h : d.Walks left visited url stops) : stops.length ≤ left := by
  induction h with
  | full => exact Nat.zero_le _
  | again => exact Nat.zero_le _
  | lost => exact Nat.succ_le_succ (Nat.zero_le _)
  | last => exact Nat.succ_le_succ (Nat.zero_le _)
  | on _ _ _ _ ih => exact Nat.succ_le_succ ih

/-- A walk is on no page twice, and on none that is behind it. -/
theorem distinct_walks (h : d.Walks left visited url stops) :
    (stops.map (·.url.text)).Nodup ∧ ∀ p ∈ stops, p.url.text ∉ visited := by
  induction h with
  | full => exact ⟨List.nodup_nil, fun _ h => nomatch h⟩
  | again => exact ⟨List.nodup_nil, fun _ h => nomatch h⟩
  | lost new => exact ⟨List.nodup_singleton _, List.forall_mem_singleton.mpr new⟩
  | last new => exact ⟨List.nodup_singleton _, List.forall_mem_singleton.mpr new⟩
  | on new _ _ _ ih =>
    obtain ⟨hdistinct, hnew⟩ := ih
    refine ⟨List.nodup_cons.mpr ⟨fun hmem => ?_, hdistinct⟩, List.forall_mem_cons.mpr ⟨new, ?_⟩⟩
    · obtain ⟨q, hq, htext⟩ := List.mem_map.mp hmem
      exact hnew q hq (htext ▸ List.mem_cons_self)
    · exact fun q hq hmem => hnew q hq (List.mem_cons_of_mem _ hmem)

theorem head_walks (h : d.Walks left visited url stops) (hleft : left ≠ 0)
    (hnew : url.text ∉ visited) : stops.head?.map (·.url) = some url := by
  cases h with
  | full => exact absurd rfl hleft
  | again seen => exact absurd seen hnew
  | lost => rfl
  | last => rfl
  | on => rfl

/-- A walk goes from one page to the next as the pages lead. -/
theorem chain_walks (h : d.Walks left visited url stops) : stops.IsChain d.Follows := by
  induction h with
  | full => exact List.IsChain.nil
  | again => exact List.IsChain.nil
  | lost => exact List.isChain_singleton _
  | last => exact List.isChain_singleton _
  | @on _ _ _ next _ _ _ _ shows leads goes ih =>
    refine List.isChain_cons.mpr ⟨fun q hq => ?_, ih⟩
    have hurl : q.url = next := by
      cases goes with
      | full => cases hq
      | again => cases hq
      | lost => cases hq; rfl
      | last => cases hq; rfl
      | on => cases hq; rfl
    exact ⟨_, shows, hurl ▸ leads⟩

theorem leadsOn_unique {body : String} {base next next' : Url} {selector : Selectors}
    (h : LeadsOn body base selector next) (h' : LeadsOn body base selector next') :
    next = next' := by
  have hnext := (next_eq_some_iff body base selector next).mpr h
  rw [(next_eq_some_iff body base selector next').mpr h'] at hnext
  exact (Option.some.inj hnext).symm

/-- Where the last page of a walk leads on, the walk has no room left or was there before. -/
theorem last_walks (h : d.Walks left visited url stops) {front : List Stop} {p q : Stop}
    (hp : stops = front ++ [p]) (hq : d.Follows p q) :
    stops.length = left ∨ q.url.text ∈ visited ∨ q.url.text ∈ stops.map (·.url.text) := by
  obtain ⟨shown, hshown, hleads⟩ := hq
  induction h generalizing front with
  | full => cases front <;> cases hp
  | again => cases front <;> cases hp
  | lost _ fails =>
    obtain rfl : _ = p := by simpa using congrArg List.getLast? hp
    rw [fails] at hshown
    cases hshown
  | last _ shows ends =>
    obtain rfl : _ = p := by simpa using congrArg List.getLast? hp
    rw [shows] at hshown
    cases hshown
    exact absurd hleads (ends _)
  | @on left visited url next c body rest new shows leads goes ih =>
    rw [List.length_cons, List.map_cons, List.mem_cons]
    cases front with
    | nil =>
      obtain ⟨rfl, rfl⟩ := List.cons.inj hp
      rw [shows] at hshown
      cases hshown
      obtain rfl := leadsOn_unique leads hleads
      cases goes with
      | full => exact Or.inl rfl
      | again seen =>
        rcases List.mem_cons.mp seen with heq | hseen
        · exact Or.inr (Or.inr (Or.inl heq))
        · exact Or.inr (Or.inl hseen)
    | cons first front =>
      obtain ⟨rfl, hrest⟩ := List.cons.inj hp
      rcases ih hrest with hfull | hseen | hlater
      · exact Or.inl (congrArg Nat.succ hfull)
      · rcases List.mem_cons.mp hseen with heq | hseen
        · exact Or.inr (Or.inr (Or.inl heq))
        · exact Or.inr (Or.inl hseen)
      · exact Or.inr (Or.inr (Or.inr hlater))

end Walks

end Archiver
