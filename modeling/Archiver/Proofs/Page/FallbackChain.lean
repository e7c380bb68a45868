import Archiver.Proofs.Archive.Places
import Archiver.Proofs.Page.SilentText

namespace Archiver

/-- A stage makes enough of a page: the output, its ends bare, has at least so many characters. -/
def Stage.Yields (stage : Stage) (d : Document) (least : Nat) (output : List Char) : Prop :=
  ∃ raw, stage.run d = some raw ∧ output = trim raw ∧ least ≤ output.length

/-- The first stage of a chain that makes enough of a page, with what it makes. -/
def FirstYield (chain : List Stage) (d : Document) (least : Nat) (stage : Stage)
    (output : List Char) : Prop :=
  ∃ before after, chain = before ++ stage :: after ∧ stage.Yields d least output ∧
    ∀ earlier ∈ before, ∀ output, ¬ earlier.Yields d least output

/-- What a stage makes of a page, its ends bare, where it is enough. -/
def Stage.enough? (stage : Stage) (d : Document) (least : Nat) : Option (List Char) :=
  ((stage.run d).map trim).filter fun output => least ≤ output.length

section Chain

variable {stage : Stage} {d : Document} {least least' : Nat} {output : List Char}
  {chain : List Stage}

theorem enough_eq_some_iff : stage.enough? d least = some output ↔ stage.Yields d least output := by
  simp only [Stage.enough?, Option.filter_eq_some_iff, Option.map_eq_some_iff, decide_eq_true_eq,
    Stage.Yields]
  constructor
  · rintro ⟨⟨raw, hrun, rfl⟩, hlength⟩
    exact ⟨raw, hrun, rfl, hlength⟩
  · rintro ⟨raw, hrun, rfl, hlength⟩
    exact ⟨⟨raw, hrun, rfl⟩, hlength⟩

theorem enough_eq_none_iff :
    stage.enough? d least = none ↔ ∀ output, ¬ stage.Yields d least output := by
  simp only [Option.eq_none_iff_forall_ne_some, ne_eq, enough_eq_some_iff]

theorem firstAccepted_eq_findSome (least : Nat) (d : Document) (chain : List Stage) :
    firstAccepted least d chain =
      chain.findSome? fun stage => (stage.enough? d least).map (stage, ·) := by
  induction chain with
  | nil => rfl
  | cons stage rest ih =>
    rw [firstAccepted, List.findSome?_cons, Stage.enough?]
    cases stage.run d with
    | none => simpa using ih
    | some raw =>
      by_cases hlength : least ≤ (trim raw).length
      · simp [Option.filter, hlength]
      · simpa [Option.filter, hlength] using ih

theorem firstAccepted_eq_some_iff :
    firstAccepted least d chain = some (stage, output) ↔ FirstYield chain d least stage output := by
  rw [firstAccepted_eq_findSome, List.findSome?_eq_some_iff]
  simp only [Option.map_eq_some_iff, Option.map_eq_none_iff, Prod.mk.injEq, enough_eq_some_iff,
    enough_eq_none_iff]
  constructor
  · rintro ⟨before, _, after, hcut, ⟨_, hyields, rfl, rfl⟩, hfirst⟩
    exact ⟨before, after, hcut, hyields, hfirst⟩
  · rintro ⟨before, after, hcut, hyields, hfirst⟩
    exact ⟨before, stage, after, hcut, ⟨output, hyields, rfl, rfl⟩, hfirst⟩

theorem firstAccepted_eq_none_iff : firstAccepted least d chain = none ↔
    ∀ stage ∈ chain, ∀ output, ¬ stage.Yields d least output := by
  simp only [firstAccepted_eq_findSome, List.findSome?_eq_none_iff, Option.map_eq_none_iff,
    enough_eq_none_iff]

theorem firstAccepted_append {found : Stage × List Char}
    (h : firstAccepted least d chain = some found) (more : List Stage) :
    firstAccepted least d (chain ++ more) = some found := by
  rw [firstAccepted_eq_findSome] at h ⊢
  rw [List.findSome?_append, h, Option.some_or]

theorem Stage.Yields.lower (h : stage.Yields d least output) (hle : least' ≤ least) :
    stage.Yields d least' output := by
  obtain ⟨raw, hrun, htrim, hlength⟩ := h
  exact ⟨raw, hrun, htrim, hle.trans hlength⟩

/-- What is enough stays enough where less is asked for, so the first stage then comes no later. -/
theorem FirstYield.lower (h : FirstYield chain d least stage output) (hle : least' ≤ least) :
    ∃ stage' output', FirstYield chain d least' stage' output' ∧
      chain.idxOf stage' ≤ chain.idxOf stage := by
  obtain ⟨before, after, hcut, hyields, -⟩ := h
  have hmem : stage ∈ chain := by simp [hcut]
  cases hfound : firstAccepted least' d chain with
  | none => exact absurd (hyields.lower hle) (firstAccepted_eq_none_iff.mp hfound stage hmem output)
  | some found =>
    obtain ⟨stage', output'⟩ := found
    have hfirst := firstAccepted_eq_some_iff.mp hfound
    refine ⟨stage', output', hfirst, ?_⟩
    obtain ⟨before', after', rfl, -, hnone⟩ := hfirst
    have hlate : stage ∉ before' := fun h => hnone stage h output (hyields.lower hle)
    rw [List.idxOf_append_of_notMem hlate]
    calc (before' ++ stage' :: after').idxOf stage'
        ≤ before'.length := by
          by_cases hearly : stage' ∈ before'
          · rw [List.idxOf_append_of_mem hearly]
            exact List.idxOf_le_length
          · rw [List.idxOf_append_of_notMem hearly, List.idxOf_cons_self, Nat.add_zero]
      _ ≤ before'.length + (stage' :: after').idxOf stage := Nat.le_add_right _ _

end Chain

section Extract

variable {least : Nat} {chain : List Stage} {url : CanonicalUrl} {d : Document}

/-- What an extraction reports, by the first stage that makes enough of the page. -/
theorem extract_of_firstYield {stage : Stage} {output : List Char}
    (h : FirstYield chain d least stage output) :
    extract least chain url d = ⟨url, output, some stage, d.metadata⟩ := by
  rw [extract, firstAccepted_eq_some_iff.mpr h]

theorem extract_of_none (h : ∀ stage ∈ chain, ∀ output, ¬ stage.Yields d least output) :
    extract least chain url d = ⟨url, [], none, d.metadata⟩ := by
  rw [extract, firstAccepted_eq_none_iff.mpr h]

theorem firstYield_of_success (h : (extract least chain url d).success = true) :
    ∃ stage output, FirstYield chain d least stage output := by
  cases hfound : firstAccepted least d chain with
  | none =>
    rw [extract_of_none (firstAccepted_eq_none_iff.mp hfound)] at h
    cases h
  | some found => exact ⟨found.1, found.2, firstAccepted_eq_some_iff.mp hfound⟩

theorem success_iff_yields : (extract least chain url d).success = true ↔
    ∃ stage ∈ chain, ∃ output, stage.Yields d least output := by
  constructor
  · intro h
    obtain ⟨stage, output, before, after, rfl, hyields, -⟩ := firstYield_of_success h
    exact ⟨stage, by simp, output, hyields⟩
  · rintro ⟨stage, hmem, output, hyields⟩
    cases hfound : firstAccepted least d chain with
    | none => exact absurd hyields (firstAccepted_eq_none_iff.mp hfound stage hmem output)
    | some found =>
      rw [extract_of_firstYield (firstAccepted_eq_some_iff.mp hfound)]
      rfl

end Extract

/-- Extraction succeeds just when some stage of the chain makes enough of the page, and then gives the
first such stage with its output, else neither stage nor text. Where less is asked for a success stays
one and its stage comes no later in the chain; stages added behind a chain do not change a success; and
the address goes through, while what is told about the article is what the page tells. -/
theorem fallback_law (least : Nat) (chain : List Stage) (url : CanonicalUrl) (d : Document) :
    ((extract least chain url d).success = true ↔
      ∃ stage ∈ chain, ∃ output, stage.Yields d least output) ∧
    (∀ stage output, FirstYield chain d least stage output →
      (extract least chain url d).stage = some stage ∧
        (extract least chain url d).markdown = output) ∧
    ((extract least chain url d).success = true →
      ∃ stage output, FirstYield chain d least stage output) ∧
    ((extract least chain url d).success = false →
      (extract least chain url d).stage = none ∧ (extract least chain url d).markdown = []) ∧
    (∀ least' ≤ least, (extract least chain url d).success = true →
      (extract least' chain url d).success = true ∧
        ∀ stage stage', (extract least chain url d).stage = some stage →
          (extract least' chain url d).stage = some stage' →
            chain.idxOf stage' ≤ chain.idxOf stage) ∧
    (∀ more, (extract least chain url d).success = true →
      extract least (chain ++ more) url d = extract least chain url d) ∧
    (extract least chain url d).url = url ∧
    (extract least chain url d).metadata = d.metadata := by
  refine ⟨success_iff_yields, fun stage output h => ?_, firstYield_of_success, fun h => ?_,
    fun least' hle h => ?_, fun more h => ?_, extract_url least chain url d,
    extract_metadata least chain url d⟩
  · rw [extract_of_firstYield h]
    exact ⟨rfl, rfl⟩
  · rw [Bool.eq_false_iff, Ne, success_iff_yields] at h
    have hnone : ∀ stage ∈ chain, ∀ output, ¬ stage.Yields d least output :=
      fun stage hmem output hyields => h ⟨stage, hmem, output, hyields⟩
    rw [extract_of_none hnone]
    exact ⟨rfl, rfl⟩
  · obtain ⟨stage, output, hfirst⟩ := firstYield_of_success h
    obtain ⟨stage', output', hfirst', hearlier⟩ := hfirst.lower hle
    rw [extract_of_firstYield hfirst, extract_of_firstYield hfirst']
    refine ⟨rfl, ?_⟩
    rintro _ _ ⟨⟩ ⟨⟩
    exact hearlier
  · obtain ⟨stage, output, hfirst⟩ := firstYield_of_success h
    have hfound := firstAccepted_append (firstAccepted_eq_some_iff.mpr hfirst) more
    rw [extract_of_firstYield hfirst, extract_of_firstYield (firstAccepted_eq_some_iff.mp hfound)]

/-- A page whose text is shorter than its Markdown. -/
def openPage : Document := parseDocument "<p><b>Open</b>".toList

/-- A chain that begins with the weakest stage and comes back to it. -/
def openChain : List Stage := [.textOnly, .mainContent, .textOnly, .wholeBody]

/-- Eight characters are more than the text has, four are not. -/
theorem fallback_law_open :
    (extract 8 openChain ⟨"https://[::1]/n/5"⟩ openPage).stage = some .wholeBody ∧
    (extract 8 openChain ⟨"https://[::1]/n/5"⟩ openPage).markdown = "**Open**".toList ∧
    (extract 4 openChain ⟨"https://[::1]/n/5"⟩ openPage).success = true ∧
    extract 8 (openChain ++ Stage.chain) ⟨"https://[::1]/n/5"⟩ openPage =
      extract 8 openChain ⟨"https://[::1]/n/5"⟩ openPage ∧
    (extract 9 openChain ⟨"https://[::1]/n/5"⟩ openPage).stage = none := by
  have hsuccess : (extract 8 openChain ⟨"https://[::1]/n/5"⟩ openPage).success = true := by
    decide +kernel
  have hfailure : (extract 9 openChain ⟨"https://[::1]/n/5"⟩ openPage).success = false := by
    decide +kernel
  obtain ⟨-, -, -, -, hlower, hmore, -⟩ :=
    fallback_law 8 openChain ⟨"https://[::1]/n/5"⟩ openPage
  refine ⟨by decide +kernel, by decide +kernel, (hlower 4 (by decide) hsuccess).1,
    hmore Stage.chain hsuccess, ?_⟩
  exact ((fallback_law 9 openChain ⟨"https://[::1]/n/5"⟩ openPage).2.2.2.1 hfailure).1

end Archiver
