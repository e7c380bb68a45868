import Archiver.Proofs.Harvest.StoryBooks

namespace Archiver

/-- What the coordinator has to do with the session: it asks whether the session is valid, or it has
the answer. -/
inductive Gate where
  | asked
  | answered (valid : Bool)
deriving DecidableEq

def Episode.gate? (x : Episode) : Option Gate :=
  match x.move, x.before.phase, x.after.phase with
  | .coordinate, .opening _, .checking _ _ _ _ => some .asked
  | .coordinate, .checking _ valid _ _, _ => some (.answered valid)
  | _, _, _ => none

def gatesOf (episodes : List Episode) : List Gate := episodes.filterMap Episode.gate?

/-- For each of `n` batches the session was asked for once, and was valid. -/
def gateSequence (n : Nat) : List Gate := (List.replicate n [Gate.asked, .answered true]).flatten

variable {plan : Plan} {around : Surroundings} {frontier queue : List FrontierEntry}
  {before : ProgressStore} {a b r s : Run} {episodes front back : List Episode} {x : Episode}
  {size : Nat} {gates : List Gate}

theorem gatesOf_concat (episodes : List Episode) (x : Episode) :
    gatesOf (episodes ++ [x]) = gatesOf episodes ++ x.gate?.toList := filterMap_concat _ _ _

theorem gatesOf_still (episodes : List Episode) (h : x.gate? = none) :
    gatesOf (episodes ++ [x]) = gatesOf episodes := by
  rw [gatesOf_concat, h, Option.toList_none, List.append_nil]

theorem gateSequence_succ (n : Nat) :
    gateSequence (n + 1) = gateSequence n ++ [.asked, .answered true] := by
  rw [gateSequence, List.replicate_succ', List.flatten_concat, gateSequence]

theorem gateSequence_isPrefix {m n : Nat} (h : m ≤ n) : gateSequence m <+: gateSequence n := by
  induction h with
  | refl => exact List.prefix_refl _
  | step _ ih => exact ih.trans (gateSequence_succ _ ▸ List.prefix_append _ _)

theorem count_asked_gateSequence (n : Nat) : (gateSequence n).count .asked = n := by
  induction n with
  | zero => rfl
  | succ n ih => rw [gateSequence_succ, List.count_append, ih]; rfl

/-- What the gate of a run that is about to end has let in. -/
def Run.Shut (size : Nat) (queue : List FrontierEntry) (gates : List Gate) (r : Run) :
    RunOutcome → Prop
  | .sessionExpired n => gates = gateSequence r.report.batches ++ [.asked, .answered false] ∧
      r.handed ≤ r.report.batches * size ∧ n = r.report.batches + 1
  | _ => gates = gateSequence r.report.batches ∧ r.handed ≤ r.report.batches * size ∧
      r.report.batches * size < queue.length + size

/-- Where the gate of a run stands: which batches it has let in, and which are still to come. Each of
them starts within the queue. -/
def Run.AtGate (around : Surroundings) (size : Nat) (queue : List FrontierEntry) (gates : List Gate)
    (r : Run) : Prop :=
  match r.phase with
  | .opening later | .resting _ later =>
    gates = gateSequence r.report.batches ∧ r.handed ≤ r.report.batches * size ∧
      later = batchesOf size (queue.drop (r.report.batches * size)) ∧
      r.report.batches * size < queue.length + size
  | .checking _ valid batch later =>
    gates = gateSequence r.report.batches ++ [.asked] ∧ r.handed ≤ r.report.batches * size ∧
      batch :: later = batchesOf size (queue.drop (r.report.batches * size)) ∧
      ∀ answers, around.session = .answers answers → valid = answers r.report.batches
  | .admitting _ later | .joining later =>
    gates = gateSequence (r.report.batches + 1) ∧ r.handed ≤ (r.report.batches + 1) * size ∧
      later = batchesOf size (queue.drop ((r.report.batches + 1) * size)) ∧
      r.report.batches * size ≤ r.handed ∧ r.report.batches * size < queue.length
  | .closing outcome | .ended (.ok outcome) => r.Shut size queue gates outcome
  | .ended (.error _) =>
    (gates = gateSequence (r.report.batches + 1) ∧ r.handed ≤ (r.report.batches + 1) * size) ∨
      ∃ outcome, r.Shut size queue gates outcome

theorem atGate_start (hs : 0 < plan.batchSize) (diff cancelled : Bool) (frontier : List FrontierEntry) (files : Files)
    (store : ProgressStore) :
    (Run.start plan diff cancelled frontier files store).AtGate around plan.batchSize
      (queueOf diff store.snapshot frontier) [] :=
  ⟨rfl, Nat.zero_le _, by simp [Run.start], by simp only [Run.start]; omega⟩

theorem Run.AtGate.congr (h : a.AtGate around size queue gates) (hphase : b.phase = a.phase)
    (hreport : b.report = a.report) (hhanded : b.handed = a.handed) :
    b.AtGate around size queue gates := by
  unfold Run.AtGate Run.Shut at h ⊢
  rwa [hphase, hreport, hhanded]

/-- Asking for the session leaves the rest of the run alone, and the answers come in their order. -/
theorem check_cases (r : Run) (around : Surroundings) (batch : List FrontierEntry)
    (later : List (List FrontierEntry)) :
    ∃ due valid, (r.check around batch later).phase = .checking due valid batch later ∧
      (r.check around batch later).report = r.report ∧
      (r.check around batch later).handed = r.handed ∧
      (around.session ≠ .notNeeded → (r.check around batch later).checks = r.checks + 1) ∧
      ∀ answers, around.session = .answers answers → valid = answers r.checks := by
  unfold Run.check
  cases hsession : around.session with
  | notNeeded => exact ⟨_, _, rfl, rfl, rfl, fun hne => absurd rfl hne, fun _ h => nomatch h⟩
  | answers valid =>
    refine ⟨_, _, rfl, rfl, rfl, fun _ => rfl, ?_⟩
    intro answers h
    cases h
    rfl
  | probe probe => exact ⟨_, _, rfl, rfl, rfl, fun _ => rfl, fun _ h => nomatch h⟩

/-- The session is asked for when all earlier batches are out, and not all of the queue. -/
theorem handed_of_checking (hs : 0 < size) (hsound : r.Sound around frontier queue before) {due : Nat}
    {valid : Bool} {batch : List FrontierEntry} {later : List (List FrontierEntry)}
    (hphase : r.phase = .checking due valid batch later) (hgate : r.AtGate around size queue gates) :
    r.handed = r.report.batches * size ∧ r.handed < queue.length := by
  have hplace := hsound.place
  rw [Run.Place, hphase] at hplace
  rw [Run.AtGate, hphase] at hgate
  obtain ⟨-, hhanded, hbatches, -⟩ := hgate
  obtain ⟨hmore, -⟩ := batchesOf_eq_cons hs hbatches.symm
  have hsame : queue.drop r.handed = queue.drop (r.report.batches * size) := by
    rw [hplace.2, ← List.flatten_cons, hbatches, batchesOf_flatten hs]
  have hlength := congrArg List.length hsame
  have hpos := List.length_pos_iff.mpr hmore
  simp only [List.length_drop] at hlength hpos
  omega

theorem Run.AtGate.coordinate (hs : 0 < size) (h : a.AtGate around size queue gates)
    (hsound : a.Sound around frontier queue before)
    (hchecks : around.session ≠ .notNeeded → a.checks = gates.count .asked)
    (made : a.coordinate plan around = some b) :
    b.AtGate around size queue (gates ++ (Episode.mk a .coordinate b).gate?.toList) := by
  have hgate := h
  unfold Run.AtGate at h
  cases coordinates_of made with
  | complete phase =>
    simp only [phase] at h
    simp only [Episode.gate?, phase, Option.toList_none, List.append_nil]
    exact ⟨h.1, h.2.1, h.2.2.2⟩
  | stop phase cancelled =>
    simp only [phase] at h
    simp only [Episode.gate?, phase, Option.toList_none, List.append_nil]
    exact ⟨h.1, h.2.1, h.2.2.2⟩
  | @check batch later phase goes =>
    simp only [phase] at h
    obtain ⟨hgates, hhanded, hlater, -⟩ := h
    obtain ⟨due, valid, hphase, hreport, hsame, -, hvalid⟩ := check_cases a around batch later
    simp only [Episode.gate?, phase, hphase, Option.toList_some]
    unfold Run.AtGate
    simp only [hphase, hreport, hsame]
    refine ⟨by rw [hgates], hhanded, hlater, ?_⟩
    intro answers hanswers
    -- the answers are numbered by the checks, and the batches so far had one each
    have hcount : a.checks = a.report.batches := by
      rw [hchecks (by simp [hanswers]), hgates, count_asked_gateSequence]
    rw [hvalid answers hanswers, hcount]
  | accept phase time =>
    obtain ⟨hall, hmore⟩ := handed_of_checking hs hsound phase hgate
    simp only [phase] at h
    obtain ⟨hgates, hhanded, hlater, -⟩ := h
    obtain ⟨-, -, hrest⟩ := batchesOf_eq_cons hs hlater.symm
    simp only [Episode.gate?, phase, Option.toList_some]
    refine ⟨?_, ?_, ?_, hall.ge, hall ▸ hmore⟩
    · rw [hgates, gateSequence_succ, List.append_assoc, List.singleton_append]
    · exact Nat.le_trans hhanded (Nat.mul_le_mul_right _ (Nat.le_succ _))
    · rw [hrest, List.drop_drop, Nat.succ_mul]
  | expire phase time =>
    simp only [phase] at h
    obtain ⟨hgates, hhanded, -⟩ := h
    simp only [Episode.gate?, phase, Option.toList_some]
    refine ⟨?_, hhanded, rfl⟩
    rw [hgates, List.append_assoc, List.singleton_append]
    rfl
  | allOut phase =>
    simp only [phase] at h
    simp only [Episode.gate?, phase, Option.toList_none, List.append_nil]
    exact h
  | cutOff phase cancelled =>
    simp only [phase] at h
    simp only [Episode.gate?, phase, Option.toList_none, List.append_nil]
    exact h
  | handOut phase goes room =>
    obtain ⟨hlt, -, hdrop⟩ := hsound.next phase
    simp only [phase] at h
    obtain ⟨hgates, -, hlater, hlow, hmore⟩ := h
    simp only [Episode.gate?, phase, Option.toList_none, List.append_nil]
    refine ⟨hgates, ?_, hlater, Nat.le_succ_of_le hlow, hmore⟩
    have hlength := congrArg List.length hdrop
    rw [hlater, List.length_append, batchesOf_flatten hs, List.length_drop, List.length_drop] at hlength
    simp only [Run.handOut]
    omega
  | @join last rest later phase finished =>
    simp only [Episode.gate?, phase, Option.toList_none, List.append_nil]
    obtain ⟨hphase, hreport, hhanded, -⟩ := join_frame _ last
    exact hgate.congr (hphase.trans phase.symm) hreport hhanded
  | giveUp phase =>
    simp only [phase] at h
    simp only [Episode.gate?, phase, Option.toList_none, List.append_nil]
    exact Or.inl ⟨h.1, h.2.1⟩
  | loseBatch phase =>
    simp only [phase] at h
    simp only [Episode.gate?, phase, Option.toList_none, List.append_nil]
    exact Or.inl ⟨h.1, h.2.1⟩
  | closeBatch phase finished workers leaving failure saved onward =>
    simp only [phase] at h
    obtain ⟨hgates, hhanded, hlater, -, hmore⟩ := h
    have hbound : (a.report.batches + 1) * size < queue.length + size := by
      rw [Nat.succ_mul]
      exact Nat.add_lt_add_right hmore size
    simp only [Episode.gate?, phase, Option.toList_none, List.append_nil]
    cases onward with
    | stops cancelled => exact ⟨hgates, hhanded, hbound⟩
    | rests goes => exact ⟨hgates, hhanded, hlater, hbound⟩
    | opens goes => exact ⟨hgates, hhanded, hlater, hbound⟩
  | rested phase time =>
    simp only [phase] at h
    simp only [Episode.gate?, phase, Option.toList_none, List.append_nil]
    exact h
  | close phase =>
    simp only [phase] at h
    simp only [Episode.gate?, phase, Option.toList_none, List.append_nil]
    exact h
  | @loseRun outcome _ phase =>
    simp only [phase] at h
    simp only [Episode.gate?, phase, Option.toList_none, List.append_nil]
    exact Or.inr ⟨outcome, h⟩

/-- Only the coordinator has to do with the session. -/
theorem frame_of_other {move : Move} (hm : move ≠ .coordinate)
    (made : a.step plan around move = some b) :
    b.phase = a.phase ∧ b.report = a.report ∧ b.handed = a.handed ∧ b.checks = a.checks ∧
      (Episode.mk a move b).gate? = none := by
  cases move with
  | coordinate => exact absurd rfl hm
  | work ticket heed =>
    obtain ⟨w, shared, -, ⟨w', hstep, rfl⟩ | ⟨e, hstep, rfl⟩⟩ := work_found made
    · exact ⟨rfl, rfl, rfl, rfl, rfl⟩
    · exact ⟨rfl, rfl, rfl, rfl, rfl⟩
  | leave ticket =>
    obtain ⟨l, others, -, -, ⟨-, rfl⟩ | ⟨-, rfl⟩⟩ := leave_cases made
    · exact ⟨rfl, rfl, rfl, rfl, rfl⟩
    · exact ⟨rfl, rfl, rfl, rfl, rfl⟩
  | stop =>
    obtain ⟨-, -, rfl⟩ := stop_made made
    exact ⟨rfl, rfl, rfl, rfl, rfl⟩
  | wait time =>
    obtain ⟨-, rfl⟩ := wait_made made
    exact ⟨rfl, rfl, rfl, rfl, rfl⟩

theorem checks_coordinate (hsession : around.session ≠ .notNeeded)
    (made : a.coordinate plan around = some b) :
    b.checks = a.checks + (Episode.mk a .coordinate b).gate?.toList.count .asked := by
  cases coordinates_of made with
  | @check batch later phase goes =>
    obtain ⟨due, valid, hphase, -, -, hchecks, -⟩ := check_cases a around batch later
    simp only [Episode.gate?, phase, hphase, hchecks hsession]
    rfl
  | @join last rest later phase finished =>
    simp only [Episode.gate?, phase]
    exact (join_frame _ last).2.2.2
  | giveUp phase => simp [Episode.gate?, phase]
  | loseBatch phase => simp [Episode.gate?, phase]
  | closeBatch phase => simp [Episode.gate?, phase, Run.counted]
  | complete phase => simp [Episode.gate?, phase]
  | stop phase cancelled => simp [Episode.gate?, phase]
  | accept phase time => simp [Episode.gate?, phase]
  | expire phase time => simp [Episode.gate?, phase, Run.cancel]
  | allOut phase => simp [Episode.gate?, phase]
  | cutOff phase cancelled => simp [Episode.gate?, phase]
  | handOut phase goes room => simp [Episode.gate?, phase, Run.handOut]
  | rested phase time => simp [Episode.gate?, phase]
  | close phase => simp [Episode.gate?, phase]
  | loseRun phase => simp [Episode.gate?, phase]

theorem atGate_of_story {diff cancelled : Bool} {files : Files} {store : ProgressStore}
    (hs : 0 < plan.batchSize)
    (h : (Run.start plan diff cancelled frontier files store).Story plan around episodes r) :
    r.AtGate around plan.batchSize (queueOf diff store.snapshot frontier) (gatesOf episodes) ∧
      (around.session ≠ .notNeeded → r.checks = (gatesOf episodes).count .asked) := by
  refine h.invariant (P := fun episodes r => r.AtGate around plan.batchSize
      (queueOf diff store.snapshot frontier) (gatesOf episodes) ∧
      (around.session ≠ .notNeeded → r.checks = (gatesOf episodes).count .asked))
    ⟨atGate_start hs diff cancelled frontier files store, fun _ => rfl⟩ ?_
  intro episodes a b move story ⟨hgate, hchecks⟩ made
  by_cases hm : move = .coordinate
  · subst hm
    have hsound := sound_of_reaches hs (reaches_of_story story)
    refine ⟨?_, fun hsession => ?_⟩
    · rw [gatesOf_concat]
      exact hgate.coordinate hs hsound hchecks made
    · rw [gatesOf_concat, List.count_append, ← hchecks hsession]
      exact checks_coordinate hsession made
  · obtain ⟨hphase, hreport, hhanded, hsame, hgates⟩ := frame_of_other hm made
    rw [gatesOf_still episodes hgates]
    exact ⟨hgate.congr hphase hreport hhanded, fun hsession => hsame.trans (hchecks hsession)⟩

theorem Run.Shut.admitted {outcome : RunOutcome} (h : r.Shut size queue gates outcome) :
    ∃ n tail, gates = gateSequence n ++ tail ∧
      tail ∈ [[], [Gate.asked], [.asked, .answered false]] ∧ r.handed ≤ n * size := by
  cases outcome with
  | sessionExpired n => exact ⟨_, [.asked, .answered false], h.1, by simp, h.2.1⟩
  | completed => exact ⟨_, [], by simpa using h.1, by simp, h.2.1⟩
  | cancelled => exact ⟨_, [], by simpa using h.1, by simp, h.2.1⟩

/-- No more URLs are handed out than the gate has let in. -/
theorem Run.AtGate.admitted (h : r.AtGate around size queue gates) :
    ∃ n tail, gates = gateSequence n ++ tail ∧
      tail ∈ [[], [Gate.asked], [.asked, .answered false]] ∧ r.handed ≤ n * size := by
  unfold Run.AtGate at h
  split at h
  · exact ⟨_, [], by simpa using h.1, by simp, h.2.1⟩
  · exact ⟨_, [], by simpa using h.1, by simp, h.2.1⟩
  · exact ⟨_, [.asked], h.1, by simp, h.2.1⟩
  · exact ⟨_, [], by simpa using h.1, by simp, h.2.1⟩
  · exact ⟨_, [], by simpa using h.1, by simp, h.2.1⟩
  · exact h.admitted
  · exact h.admitted
  · rcases h with h | ⟨outcome, h⟩
    · exact ⟨_, [], by simpa using h.1, by simp, h.2⟩
    · exact h.admitted

end Archiver
