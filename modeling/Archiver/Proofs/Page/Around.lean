import Archiver.Html.Place

namespace Archiver

/-- The place of an element that was cut off the page. -/
def loosePlace (tree : Element × Nodes) : Place := ⟨⟨tree.1, tree.2, [], []⟩, [], false⟩

/-- All elements of a page, those that were cut off it among them. -/
def Document.everyPlace (d : Document) : List Place :=
  d.nodes.places (!d.isFragment) [] [] ++ d.loose.flatMap fun tree => loosePlace tree :: loosePlaces tree

section Places

variable {inPage : Bool} {above : List Level} {before : List (Element × Nodes)} {p q : Place}

theorem above_of_parent (h : p.parent? = some q) : p.above = q.level :: q.above := by
  unfold Place.parent? at h
  split at h
  · cases h
  · next habove =>
    cases h
    exact habove

theorem place_of_elements {ns : Nodes} {tree : Element × Nodes} (h : tree ∈ ns.elements) :
    ∃ r ∈ ns.places inPage above before, r.element = tree.1 ∧ r.children = tree.2 := by
  induction ns generalizing before with
  | nil => exact absurd h List.not_mem_nil
  | text _ rest ih => exact ih h
  | comment _ rest ih => exact ih h
  | element e children rest _ ih =>
    rcases List.mem_cons.mp h with rfl | h
    · exact ⟨_, List.mem_cons_self, rfl, rfl⟩
    · obtain ⟨r, hr, hrtree⟩ := ih h
      exact ⟨r, List.mem_cons_of_mem _ (List.mem_append_right _ hr), hrtree⟩

/-- The children of a place are places themselves. -/
theorem children_places {ns : Nodes} {tree : Element × Nodes}
    (hp : p ∈ ns.places inPage above before) (htree : tree ∈ p.children.elements) :
    ∃ r ∈ ns.places inPage above before, r.element = tree.1 ∧ r.children = tree.2 := by
  induction ns generalizing above before with
  | nil => exact absurd hp List.not_mem_nil
  | text _ rest ih => exact ih hp
  | comment _ rest ih => exact ih hp
  | element e children rest ihchildren ih =>
    rcases List.mem_cons.mp hp with rfl | hp
    · obtain ⟨r, hr, hrtree⟩ := place_of_elements htree
      exact ⟨r, List.mem_cons_of_mem _ (List.mem_append_left _ hr), hrtree⟩
    rcases List.mem_append.mp hp with hp | hp
    · obtain ⟨r, hr, hrtree⟩ := ihchildren hp
      exact ⟨r, List.mem_cons_of_mem _ (List.mem_append_left _ hr), hrtree⟩
    · obtain ⟨r, hr, hrtree⟩ := ih hp
      exact ⟨r, List.mem_cons_of_mem _ (List.mem_append_right _ hr), hrtree⟩

/-- A place stands in what was around all of them, as one of the trees, or in another of them, as one
of its children. -/
theorem parent_places {ns : Nodes} (hp : p ∈ ns.places inPage above before) :
    p.inPage = inPage ∧ (p.above = above ∧ (p.element, p.children) ∈ ns.elements ∨
      ∃ q ∈ ns.places inPage above before, p.parent? = some q ∧
        (p.element, p.children) ∈ q.children.elements) := by
  induction ns generalizing above before with
  | nil => exact absurd hp List.not_mem_nil
  | text _ rest ih => exact ih hp
  | comment _ rest ih => exact ih hp
  | element e children rest ihchildren ih =>
    rcases List.mem_cons.mp hp with rfl | hp
    · exact ⟨rfl, .inl ⟨rfl, List.mem_cons_self⟩⟩
    rcases List.mem_append.mp hp with hp | hp
    · obtain ⟨hinPage, ⟨habove, htree⟩ | ⟨q, hq, hparent⟩⟩ := ihchildren hp
      · refine ⟨hinPage, .inr ⟨_, List.mem_cons_self, ?_, htree⟩⟩
        rw [Place.parent?, habove, hinPage]
      · exact ⟨hinPage, .inr ⟨q, List.mem_cons_of_mem _ (List.mem_append_left _ hq), hparent⟩⟩
    · obtain ⟨hinPage, ⟨habove, htree⟩ | ⟨q, hq, hparent⟩⟩ := ih hp
      · exact ⟨hinPage, .inl ⟨habove, List.mem_cons_of_mem _ htree⟩⟩
      · exact ⟨hinPage, .inr ⟨q, List.mem_cons_of_mem _ (List.mem_append_right _ hq), hparent⟩⟩

end Places

section Pages

variable {d : Document} {p q : Place}

theorem mem_putByOrder {ps : List Place} : q ∈ putByOrder p ps ↔ q = p ∨ q ∈ ps := by
  induction ps with
  | nil => exact List.mem_singleton.trans (or_iff_left List.not_mem_nil).symm
  | cons r ps ih =>
    rw [putByOrder]
    split
    · exact List.mem_cons
    · rw [List.mem_cons, ih, List.mem_cons, or_left_comm]

theorem mem_places :
    p ∈ d.places ↔
      p ∈ d.nodes.places (!d.isFragment) [] [] ∨ ∃ tree ∈ d.loose, p ∈ loosePlaces tree := by
  have hfold : ∀ ps : List Place, p ∈ ps.foldr putByOrder [] ↔ p ∈ ps := by
    intro ps
    induction ps with
    | nil => exact Iff.rfl
    | cons q ps ih => rw [List.foldr_cons, mem_putByOrder, ih, List.mem_cons]
  rw [Document.places, hfold, List.mem_append, List.mem_flatMap]

theorem mem_everyPlace :
    p ∈ d.everyPlace ↔ p ∈ d.places ∨ ∃ tree ∈ d.loose, p = loosePlace tree := by
  rw [mem_places, Document.everyPlace, List.mem_append, List.mem_flatMap]
  simp only [List.mem_cons]
  constructor
  · rintro (hp | ⟨tree, htree, hp | hp⟩)
    · exact .inl (.inl hp)
    · exact .inr ⟨tree, htree, hp⟩
    · exact .inl (.inr ⟨tree, htree, hp⟩)
  · rintro ((hp | ⟨tree, htree, hp⟩) | ⟨tree, htree, hp⟩)
    · exact .inl hp
    · exact .inr ⟨tree, htree, .inr hp⟩
    · exact .inr ⟨tree, htree, .inl hp⟩

/-- The element around a place is a place itself, and has it among its children. -/
theorem everyPlace_parent (hp : p ∈ d.everyPlace) (hq : p.parent? = some q) :
    q ∈ d.everyPlace ∧ (p.element, p.children) ∈ q.children.elements := by
  rcases mem_everyPlace.mp hp with hp | ⟨tree, htree, rfl⟩
  · rcases mem_places.mp hp with hp | ⟨tree, htree, hp⟩
    · obtain ⟨-, ⟨habove, -⟩ | ⟨r, hr, hparent, hchild⟩⟩ := parent_places hp
      · rw [Place.parent?, habove] at hq
        cases hq
      · cases hparent.symm.trans hq
        exact ⟨mem_everyPlace.mpr (.inl (mem_places.mpr (.inl hr))), hchild⟩
    · obtain ⟨hinPage, ⟨habove, hchild⟩ | ⟨r, hr, hparent, hchild⟩⟩ := parent_places hp
      · rw [Place.parent?, habove, hinPage] at hq
        cases hq
        exact ⟨mem_everyPlace.mpr (.inr ⟨tree, htree, rfl⟩), hchild⟩
      · cases hparent.symm.trans hq
        exact ⟨mem_everyPlace.mpr (.inl (mem_places.mpr (.inr ⟨tree, htree, hr⟩))), hchild⟩
  · cases hq

theorem everyPlace_children (hp : p ∈ d.everyPlace) {tree : Element × Nodes}
    (htree : tree ∈ p.children.elements) :
    ∃ r ∈ d.places, r.element = tree.1 ∧ r.children = tree.2 := by
  rcases mem_everyPlace.mp hp with hp | ⟨cut, hcut, rfl⟩
  · rcases mem_places.mp hp with hp | ⟨cut, hcut, hp⟩
    · obtain ⟨r, hr, hrtree⟩ := children_places hp htree
      exact ⟨r, mem_places.mpr (.inl hr), hrtree⟩
    · obtain ⟨r, hr, hrtree⟩ := children_places hp htree
      exact ⟨r, mem_places.mpr (.inr ⟨cut, hcut, hr⟩), hrtree⟩
  · obtain ⟨r, hr, hrtree⟩ := place_of_elements htree
    exact ⟨r, mem_places.mpr (.inr ⟨cut, hcut, hr⟩), hrtree⟩

end Pages

end Archiver
