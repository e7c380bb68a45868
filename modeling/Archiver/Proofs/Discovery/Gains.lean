import Mathlib.Data.List.Nodup
import Archiver.Discovery.Walk

namespace Archiver

/-- A site answers every request for an address with the same reply. -/
def Site.Steady (site : Site) : Prop :=
  ∀ earlier earlier' url, (site earlier url).reply = (site earlier' url).reply

/-- The page that a steady site has at an address. -/
def Discoverer.page? (d : Discoverer) (url : String) : Option String :=
  (d.site [] url).reply.body?

/-- The addresses a client has made requests for. -/
def Client.asked (c : Client) : List String := c.requests.map (·.url)

/-- Two addresses in a set are never the same. -/
def DiscoveredSet.Distinct (f : DiscoveredSet) : Prop := (f.entries.map (·.url)).Nodup

/-- A search goes on under the name of one source, asks for the addresses `A` and comes by the
addresses `L`: each of them that was not known before is entered, once, and nothing else is. -/
structure Search.Gains (name : String) (A : String → Prop) (L : CanonicalUrl → Prop)
    (s s' : Search) : Prop where
  mem_entries : ∀ e, e ∈ s'.found.entries ↔ e ∈ s.found.entries ∨
    s.found.contains e.url = false ∧ L e.url ∧ e = FrontierEntry.of e.url name
  distinct : s.found.Distinct → s'.found.Distinct
  mem_asked : ∀ url, url ∈ s'.client.asked ↔ url ∈ s.client.asked ∨ A url

section Found

variable {f : DiscoveredSet} {url : CanonicalUrl}

theorem contains_iff : f.contains url = true ↔ ∃ e ∈ f.entries, e.url = url := by
  simp [DiscoveredSet.contains]

theorem contains_iff_mem_urls : f.contains url = true ↔ url ∈ f.entries.map (·.url) := by
  rw [contains_iff, List.mem_map]

theorem of_url (url : CanonicalUrl) (name : String) : (FrontierEntry.of url name).url = url := rfl

theorem mem_insert (name : String) (e : FrontierEntry) :
    e ∈ (f.insert url name).entries ↔ e ∈ f.entries ∨
      f.contains e.url = false ∧ e.url = url ∧ e = FrontierEntry.of e.url name := by
  unfold DiscoveredSet.insert
  split
  · next hknown =>
    refine ⟨Or.inl, fun h => h.resolve_right ?_⟩
    rintro ⟨hnew, rfl, -⟩
    rw [hknown] at hnew
    cases hnew
  · next hnew =>
    rw [Bool.not_eq_true] at hnew
    rw [List.mem_append, List.mem_singleton]
    refine or_congr_right ⟨?_, ?_⟩
    · rintro rfl
      exact ⟨hnew, rfl, rfl⟩
    · rintro ⟨-, rfl, h⟩
      exact h

theorem distinct_insert (name : String) (h : f.Distinct) : (f.insert url name).Distinct := by
  unfold DiscoveredSet.insert
  split
  · exact h
  · next hnew =>
    rw [contains_iff_mem_urls] at hnew
    rw [DiscoveredSet.Distinct, List.map_append, List.map_singleton, of_url]
    exact List.nodup_append.mpr ⟨h, List.nodup_singleton _, fun a ha b hb hab =>
      hnew (List.mem_singleton.mp hb ▸ hab ▸ ha)⟩

end Found

section Gains

variable {name : String} {A B : String → Prop} {L M : CanonicalUrl → Prop} {s s' s'' : Search}

theorem contains_of_gains (h : s.Gains name A L s') (url : CanonicalUrl) :
    s'.found.contains url = true ↔ s.found.contains url = true ∨ L url := by
  rw [contains_iff]
  constructor
  · rintro ⟨e, he, rfl⟩
    rcases (h.mem_entries e).mp he with hold | ⟨-, hl, -⟩
    · exact Or.inl (contains_iff.mpr ⟨e, hold, rfl⟩)
    · exact Or.inr hl
  · intro hgoal
    by_cases hold : s.found.contains url = true
    · obtain ⟨e, he, rfl⟩ := contains_iff.mp hold
      exact ⟨e, (h.mem_entries e).mpr (Or.inl he), rfl⟩
    · have hnew : s.found.contains url = false := by simpa using hold
      exact ⟨.of url name, (h.mem_entries _).mpr (Or.inr ⟨hnew, hgoal.resolve_left hold, rfl⟩), rfl⟩

theorem gains_refl (name : String) (s : Search) :
    s.Gains name (fun _ => False) (fun _ => False) s where
  mem_entries e := by simp
  distinct := id
  mem_asked url := by simp

theorem gains_congr (h : s.Gains name A L s') (hA : ∀ url, A url ↔ B url)
    (hL : ∀ c, L c ↔ M c) : s.Gains name B M s' := by
  obtain rfl : A = B := funext fun url => propext (hA url)
  obtain rfl : L = M := funext fun c => propext (hL c)
  exact h

/-- Of two gains under one name the second enters only what the first did not. -/
theorem gains_trans (h : s.Gains name A L s') (h' : s'.Gains name B M s'') :
    s.Gains name (fun url => A url ∨ B url) (fun c => L c ∨ M c) s'' where
  mem_entries e := by
    have hknown := contains_of_gains h e.url
    rw [h'.mem_entries, h.mem_entries, ← Bool.not_eq_true, ← Bool.not_eq_true, hknown]
    by_cases hl : L e.url
    · simp [hl]
    · simp [hl]
  distinct hd := h'.distinct (h.distinct hd)
  mem_asked url := by rw [h'.mem_asked, h.mem_asked, or_assoc]

/-- What a fold over a list gains, if every element of it gains something. -/
theorem gains_foldl {α : Type} {step : Search → α → Search} {A : α → String → Prop}
    {L : α → CanonicalUrl → Prop} (hstep : ∀ (s : Search) a, s.Gains name (A a) (L a) (step s a))
    (items : List α) (s : Search) :
    s.Gains name (fun url => ∃ a ∈ items, A a url) (fun c => ∃ a ∈ items, L a c)
      (items.foldl step s) := by
  induction items generalizing s with
  | nil => exact gains_congr (gains_refl name s) (by simp) (by simp)
  | cons a rest ih =>
    exact gains_congr (gains_trans (hstep s a) (ih (step s a))) (by simp) (by simp)

end Gains

section Load

variable {site : Site}

/-- One request to a steady site. -/
theorem fetch_steady (hs : site.Steady) (c : Client) (url : String) :
    (c.pace.fetch site url).2 = (site [] url).reply ∧
      ∀ u, u ∈ (c.pace.fetch site url).1.asked ↔ u ∈ c.asked ∨ u = url := by
  refine ⟨hs _ _ _, fun u => ?_⟩
  rw [or_comm]
  exact List.mem_cons

/-- However often a page is tried, a steady site gives it or does not, and its address is all that is
asked for. -/
theorem tryLoad_steady (hs : site.Steady) (policy : RetryPolicy) (url : String)
    (retries left : Nat) (c : Client) :
    (Client.tryLoad site policy url retries left c).2.toOption = (site [] url).reply.body? ∧
      ∀ u, u ∈ (Client.tryLoad site policy url retries left c).1.asked ↔ u ∈ c.asked ∨ u = url := by
  induction left generalizing retries c with
  | zero =>
    obtain ⟨hreply, hasked⟩ := fetch_steady hs c url
    rw [Client.tryLoad]
    rcases hfetch : c.pace.fetch site url with ⟨c', reply⟩
    rw [hfetch] at hreply hasked
    rw [← hreply]
    cases reply <;> exact ⟨rfl, hasked⟩
  | succ left ih =>
    obtain ⟨hreply, hasked⟩ := fetch_steady hs c url
    rw [Client.tryLoad]
    rcases hfetch : c.pace.fetch site url with ⟨c', reply⟩
    rw [hfetch] at hreply hasked
    have hagain : ∀ millis, (∀ u, u ∈ (Client.tryLoad site policy url (retries + 1) left
        (c'.sleep millis)).1.asked ↔ u ∈ c.asked ∨ u = url) := fun millis u => by
      rw [(ih (retries + 1) (c'.sleep millis)).2 u]
      change u ∈ c'.asked ∨ u = url ↔ _
      rw [hasked, or_assoc, or_self]
    cases reply with
    | page => exact ⟨hreply ▸ rfl, hasked⟩
    | refused status =>
      by_cases hgone : (Reply.refused status).isGone = true
      · simp only [hgone, if_true]
        exact ⟨hreply ▸ rfl, hasked⟩
      · simp only [hgone]
        exact ⟨(ih _ _).1, hagain _⟩
    | unreachable detail => exact ⟨(ih _ _).1, hagain _⟩

variable {d : Discoverer} {name : String}

/-- Loading a page of a steady site: what comes back, and that nothing is entered by it. -/
theorem load_steady (hs : d.site.Steady) (name : String) (s : Search) (url : String) :
    (d.load s url).2.toOption = d.page? url ∧
      s.Gains name (· = url) (fun _ => False) (d.load s url).1 := by
  obtain ⟨hpage, hasked⟩ := tryLoad_steady hs d.policy url 0 d.policy.maxRetries.toNat s.client
  exact ⟨hpage, ⟨fun e => by simp [Discoverer.load], id, hasked⟩⟩

theorem accept_gains (d : Discoverer) (name : String) (s : Search) (url : CanonicalUrl) :
    s.Gains name (fun _ => False) (fun c => d.shape.matches c = true ∧ c = url)
      (d.accept name s url) := by
  unfold Discoverer.accept
  split
  · next hshape =>
    refine ⟨fun e => ?_, distinct_insert name, fun u => by simp⟩
    rw [mem_insert]
    refine or_congr_right (and_congr_right fun _ => and_congr_left fun _ => ?_)
    exact ⟨fun h => ⟨h ▸ hshape, h⟩, And.right⟩
  · next hshape =>
    refine gains_congr (gains_refl name s) (fun _ => Iff.rfl) fun c => ?_
    exact ⟨False.elim, fun ⟨h, hc⟩ => hshape (hc ▸ h)⟩

end Load

end Archiver
