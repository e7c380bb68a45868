import Archiver.Proofs.Harvest.StopLaw

namespace Archiver

/-- The error that a worker's end is for the run. -/
def WorkerEnd.error? : WorkerEnd → Option HarvestError
  | .recorded _ => none
  | .logFailed => some .logFailed
  | .illegal move => some (.illegal move)
  | .lost => some .workerLost

/-- The log refuses the record that a worker appends in a move. -/
def Episode.LogFails (plan : Plan) (around : Surroundings) (x : Episode) : Prop :=
  ∃ w record method, x.worker? = some w ∧ w.phase = .recording record method ∧
    (x.before.shared.store.append (around.logFault (.append x.before.shared.appends))
      plan.saveInterval record method).2 = false

/-- A worker is lost in a move. -/
def Episode.LosesWorker (x : Episode) : Prop :=
  ∃ l, x.after.leaving = x.before.leaving ++ [l] ∧ l.how = .lost

/-- The move in which the worker with a ticket asks for the stop that it owes. -/
def Episode.Pays (y : Episode) (ticket : Nat) : Prop :=
  ∃ l, y.leaver? = some l ∧ l.ticket = ticket ∧ l.owesStop = true

/-- The move in which the worker with a ticket gives its place back. -/
def Episode.Leaves (y : Episode) (ticket : Nat) : Prop :=
  ∃ l, y.leaver? = some l ∧ l.ticket = ticket ∧ l.owesStop = false

/-- Somebody with a ticket is about to leave and owes the run a stop. -/
def Run.Owes (r : Run) (ticket : Nat) : Prop :=
  ∃ l ∈ r.leaving, l.ticket = ticket ∧ l.owesStop = true

/-- What becomes of a run from the move on in which one of its workers asks for a stop. -/
structure HaltLaw (front : List Episode) (y : Episode) (back : List Episode) (r : Run) : Prop where
  cancelled : y.after.shared.cancelled = true ∧ r.shared.cancelled = true
  handed : handedOf (y :: back) = []
  /-- A URL that no worker had is never asked for. -/
  unasked : ∀ url, url ∉ handedOf front → ∀ q ∈ requestsOf (front ++ y :: back), q.url ≠ url.text
  inWork : ∀ q ∈ requestsOf (y :: back), ∃ w ∈ y.before.workers, q.url = w.url.text
  /-- The URLs that a worker had come to their ends. -/
  finishes : (leftOf (front ++ y :: back) ++ r.leaving.map (·.url) ++ r.workers.map (·.url)).Perm
    (handedOf front)

/-- What the failure of the log at one record, which the worker with a ticket appends, does to a run.
The worker asks for a stop in its next move. Nobody waits between the two, so that on one thread they
follow each other and nothing is handed out any more from the failure on; where others run in parallel,
they may move in between. -/
structure FailedLogLaw (front : List Episode) (x : Episode) (back : List Episode) (ticket : Nat)
    (r : Run) : Prop where
  still : handedOf [x] = [] ∧ requestsOf [x] = []
  /-- No other batch starts. -/
  gates : gatesOf (x :: back) = []
  /-- The stop is asked for, or still to come from the worker, which holds its place. -/
  asked : (∃ gap y rest, back = gap ++ y :: rest ∧ y.Pays ticket) ∨
    r.Owes ticket ∧ ticket ∈ r.places.held
  /-- The stop is there before the place is free. -/
  visible : ∀ gap y rest, back = gap ++ y :: rest → y.Leaves ticket → y.before.shared.cancelled = true
  halts : ∀ gap y rest, back = gap ++ y :: rest → y.Pays ticket → HaltLaw (front ++ x :: gap) y rest r
  /-- The run fails, and with the error of the log if no worker is lost. -/
  ends : ∀ result, r.phase = .ended result → r.workers = [] ∧ r.leaving = [] ∧
    r.shared.cancelled = true ∧ (∃ e, result = .error e) ∧
    ((∀ z ∈ front ++ x :: back, ¬ z.LosesWorker) → result = .error .logFailed)

variable {plan : Plan} {around : Surroundings} {frontier queue : List FrontierEntry}
  {before : ProgressStore} {a b m r : Run} {episodes front back : List Episode} {x y : Episode}
  {move : Move} {diff cancelled : Bool} {files : Files} {store : ProgressStore} {ticket : Nat}

section Blame

/-- An error that a run may end with: that of the log, or that of a worker that was lost. -/
def IsBlamed (episodes : List Episode) (e : HarvestError) : Prop :=
  e = .logFailed ∨ e = .workerLost ∧ ∃ z ∈ episodes, z.LosesWorker

/-- Each error of a run, whether it was noted, is still to be noted or has ended it, has its cause in the
story. -/
structure Run.Blames (episodes : List Episode) (r : Run) : Prop where
  noted : ∀ e, r.failure = some e → IsBlamed episodes e
  ends : ∀ how ∈ r.ends, ∀ e, how.error? = some e → IsBlamed episodes e
  ended : ∀ e, r.phase = .ended (.error e) → IsBlamed episodes e

theorem IsBlamed.concat {e : HarvestError} (h : IsBlamed episodes e) (x : Episode) :
    IsBlamed (episodes ++ [x]) e :=
  h.imp_right fun ⟨hlost, z, hz, hloses⟩ => ⟨hlost, z, List.mem_append_left _ hz, hloses⟩

theorem Run.Blames.concat (h : a.Blames episodes) (x : Episode) : a.Blames (episodes ++ [x]) :=
  ⟨fun e he => (h.noted e he).concat x, fun how hh e he => (h.ends how hh e he).concat x,
    fun e he => (h.ended e he).concat x⟩

theorem failure_join (r : Run) (how : WorkerEnd) : (r.join how).failure = r.failure.or how.error? := by
  cases how with
  | recorded outcome => exact (Option.or_none).symm
  | _ => rfl

theorem ends_join (r : Run) (how : WorkerEnd) : (r.join how).ends = r.ends := by cases how <;> rfl

/-- Noting the end of a worker moves its error from the one place to the other. -/
theorem Run.Blames.join (h : a.Blames episodes) {last : WorkerEnd} {rest : List WorkerEnd}
    (hf : a.finished = last :: rest) : (({ a with finished := rest } : Run).join last).Blames episodes := by
  have hends : a.ends = last :: ({ a with finished := rest } : Run).ends := by
    rw [Run.ends, hf, List.cons_append]
    rfl
  constructor
  case noted =>
    intro e he
    rw [failure_join] at he
    rcases Option.or_eq_some_iff.mp he with hnoted | ⟨-, hlast⟩
    · exact h.noted e hnoted
    · exact h.ends last (hends ▸ List.mem_cons_self) e hlast
  case ends =>
    intro how hhow
    rw [ends_join] at hhow
    exact h.ends how (hends ▸ List.mem_cons_of_mem _ hhow)
  case ended =>
    rw [(join_frame _ last).1]
    exact h.ended

theorem Run.Blames.coordinate (h : a.Blames episodes) (made : a.coordinate plan around = some b) :
    b.Blames episodes := by
  cases coordinates_of made with
  | check phase goes =>
    unfold Run.check
    split <;> exact ⟨h.noted, h.ends, nofun⟩
  | join phase finished => exact h.join finished
  | giveUp phase finished workers leaving failure =>
    refine ⟨h.noted, h.ends, fun e he => ?_⟩
    cases he
    exact h.noted _ failure
  | loseBatch => exact ⟨h.noted, h.ends, fun e he => by cases he; exact Or.inl rfl⟩
  | loseRun => exact ⟨h.noted, h.ends, fun e he => by cases he; exact Or.inl rfl⟩
  | closeBatch phase finished workers leaving failure saved onward =>
    exact ⟨h.noted, h.ends, by cases onward <;> exact nofun⟩
  | _ => exact ⟨h.noted, h.ends, nofun⟩

/-- A worker ends with a record, by a failure of the log, or as it is lost. -/
theorem end_of_deed {w : Worker} {heed : Bool} {s s' : Shared} {how : WorkerEnd}
    (h : w.Deed plan around heed s s' (.error how)) :
    (∃ outcome, how = .recorded outcome) ∨ how = .logFailed ∨ how = .lost := by
  cases h.turn with
  | @appends record method phase =>
    rcases shared_append_cases s plan around.logFault record method with ⟨he, -⟩ | ⟨he, -⟩
    · exact Or.inl ⟨_, Except.error.inj he⟩
    · exact Or.inr (Or.inl (Except.error.inj he))
  | breaks ahead => exact Or.inr (Or.inr rfl)

theorem Run.Blames.work (h : a.Blames episodes) (hsound : a.Sound around frontier queue before)
    {heed : Bool} (made : a.step plan around (.work ticket heed) = some b) :
    b.Blames (episodes ++ [⟨a, .work ticket heed, b⟩]) := by
  obtain ⟨w, others, shared, -, -, ⟨w', -, rfl⟩ | ⟨how, hdeed, rfl⟩⟩ := work_episode hsound made
  · exact ⟨(h.concat _).noted, (h.concat _).ends, (h.concat _).ended⟩
  · refine ⟨(h.concat _).noted, ?_, (h.concat _).ended⟩
    rw [ends_finish]
    refine List.forall_mem_append.mpr ⟨(h.concat _).ends, List.forall_mem_singleton.mpr ?_⟩
    intro e he
    rcases end_of_deed hdeed with ⟨outcome, rfl⟩ | rfl | rfl
    · cases he
    · exact Or.inl (Option.some.inj he).symm
    · exact Or.inr ⟨(Option.some.inj he).symm, _, List.mem_concat_self, _, rfl, rfl⟩

theorem Run.Blames.leave (h : a.Blames episodes) (made : a.leave ticket = some b) :
    b.Blames episodes := by
  obtain ⟨l, others, hp, -, ⟨-, rfl⟩ | ⟨-, rfl⟩⟩ := leave_cases made
  · exact ⟨h.noted, by rw [ends_pay]; exact h.ends, h.ended⟩
  · exact ⟨h.noted, fun how hhow => h.ends how ((ends_release hp).mem_iff.mp hhow), h.ended⟩

theorem blames_of_story (hs : 0 < plan.batchSize)
    (h : (Run.start plan diff cancelled frontier files store).Story plan around episodes r) :
    r.Blames episodes := by
  refine h.invariant (P := fun episodes r => r.Blames episodes) ⟨nofun, nofun, nofun⟩ ?_
  intro episodes a b move story hblames made
  cases move with
  | coordinate => exact (hblames.coordinate made).concat _
  | work ticket heed => exact hblames.work (sound_of_reaches hs (reaches_of_story story)) made
  | leave ticket => exact (hblames.leave made).concat _
  | stop =>
    obtain ⟨-, -, rfl⟩ := stop_made made
    exact ⟨(hblames.concat _).noted, (hblames.concat _).ends, (hblames.concat _).ended⟩
  | wait time =>
    obtain ⟨-, rfl⟩ := wait_made made
    exact ⟨(hblames.concat _).noted, (hblames.concat _).ends, (hblames.concat _).ended⟩

end Blame

section Failing

/-- True of a run that can do nothing more but wait for its workers and fail. -/
def RunPhase.isFailing : RunPhase → Bool
  | .admitting _ _ | .joining _ | .ended (.error _) => true
  | _ => false

theorem failing_of_worker (hs : 0 < plan.batchSize)
    (h : (Run.start plan diff cancelled frontier files store).Story plan around episodes r)
    (hbusy : ¬ r.Idle) : r.phase.isFailing = true := by
  have hplace := (sound_of_reaches hs (reaches_of_story h)).place
  unfold Run.Place at hplace
  cases phase : r.phase with
  | admitting batch later => rfl
  | joining later => rfl
  | ended result =>
    cases result with
    | error e => rfl
    | ok outcome => rw [phase] at hplace; exact absurd hplace.1 hbusy
  | opening later => rw [phase] at hplace; exact absurd hplace.1 hbusy
  | checking due valid batch later => rw [phase] at hplace; exact absurd hplace.1 hbusy
  | resting due later => rw [phase] at hplace; exact absurd hplace.1 hbusy
  | closing outcome => rw [phase] at hplace; exact absurd hplace.1 hbusy

/-- A broken run starts no batch, and goes on failing. -/
theorem failing_coordinate (hbroken : a.Broken) (h : a.phase.isFailing = true)
    (made : a.coordinate plan around = some b) :
    b.phase.isFailing = true ∧ (Episode.mk a .coordinate b).gate? = none := by
  cases coordinates_of made with
  | allOut phase => exact ⟨rfl, by simp [Episode.gate?, phase]⟩
  | cutOff phase cancelled => exact ⟨rfl, by simp [Episode.gate?, phase]⟩
  | handOut phase goes room => exact ⟨rfl, by simp [Episode.gate?, phase]⟩
  | @join last rest later phase finished =>
    refine ⟨?_, by simp [Episode.gate?, phase]⟩
    rw [(join_frame _ last).1, phase]
    rfl
  | giveUp phase => exact ⟨rfl, by simp [Episode.gate?, phase]⟩
  | loseBatch phase => exact ⟨rfl, by simp [Episode.gate?, phase]⟩
  | closeBatch phase finished workers leaving failure saved onward =>
    -- with nothing noted and nobody left the run would not be broken
    rcases hbroken with hfailure | ⟨how, hhow, -⟩
    · exact absurd failure hfailure
    · rw [Run.ends, finished, leaving] at hhow
      exact absurd hhow List.not_mem_nil
  | _ phase => rw [phase] at h; cases h

theorem failing_of_story (h : m.Story plan around episodes r) (hbroken : m.Broken)
    (hphase : m.phase.isFailing = true) :
    r.Broken ∧ r.phase.isFailing = true ∧ gatesOf episodes = [] := by
  refine h.invariant (P := fun episodes r => r.Broken ∧ r.phase.isFailing = true ∧
    gatesOf episodes = []) ⟨hbroken, hphase, rfl⟩ ?_
  rintro episodes a b move story ⟨hbroken, hphase, hgates⟩ made
  refine ⟨broken_step made hbroken, ?_⟩
  by_cases hm : move = .coordinate
  · subst hm
    obtain ⟨hnext, hgate⟩ := failing_coordinate hbroken hphase made
    exact ⟨hnext, by rw [gatesOf_still episodes hgate, hgates]⟩
  · obtain ⟨hsame, -, -, -, hgate⟩ := frame_of_other hm made
    exact ⟨hsame ▸ hphase, by rw [gatesOf_still episodes hgate, hgates]⟩

end Failing

section Owing

/-- Somebody who owes the run a stop goes on owing it until they ask for it. -/
theorem owes_step (h : a.Owes ticket) (made : a.step plan around move = some b) :
    b.Owes ticket ∨ (Episode.mk a move b).Pays ticket := by
  obtain ⟨l, hl, hticket, howes⟩ := h
  cases move with
  | coordinate =>
    left
    rcases coordinate_hands made with ⟨-, hleaving, -⟩ | ⟨entry, rest, later, -, -, -, rfl⟩
    · exact ⟨l, hleaving ▸ hl, hticket, howes⟩
    · exact ⟨l, hl, hticket, howes⟩
  | work other heed =>
    left
    obtain ⟨w, shared, -, ⟨w', -, rfl⟩ | ⟨e, -, rfl⟩⟩ := work_found made
    · exact ⟨l, hl, hticket, howes⟩
    · exact ⟨l, List.mem_append_left _ hl, hticket, howes⟩
  | leave other =>
    obtain ⟨l', others, hp, hleaver, hother, ⟨hpays, rfl⟩ | ⟨hpaid, rfl⟩⟩ := leave_episode made
    · by_cases hsame : l.ticket = other
      · exact Or.inr ⟨l', hleaver, hother.trans (hsame.symm.trans hticket), hpays⟩
      · refine Or.inl ⟨l, List.mem_map.mpr ⟨l, hl, ?_⟩, hticket, howes⟩
        rw [if_neg (by simpa using hsame)]
    · refine Or.inl ⟨l, ?_, hticket, howes⟩
      refine (List.mem_cons.mp (hp.mem_iff.mp hl)).resolve_left ?_
      rintro rfl
      exact Bool.false_ne_true (hpaid.symm.trans howes)
  | stop =>
    obtain ⟨-, -, rfl⟩ := stop_made made
    exact Or.inl ⟨l, hl, hticket, howes⟩
  | wait time =>
    obtain ⟨-, rfl⟩ := wait_made made
    exact Or.inl ⟨l, hl, hticket, howes⟩

theorem asked_of_story (h : m.Story plan around episodes r) (hm : m.Owes ticket) :
    (∃ gap y rest, episodes = gap ++ y :: rest ∧ y.Pays ticket) ∨ r.Owes ticket := by
  refine h.invariant (P := fun episodes r =>
    (∃ gap y rest, episodes = gap ++ y :: rest ∧ y.Pays ticket) ∨ r.Owes ticket) (Or.inr hm) ?_
  rintro episodes a b move story (⟨gap, y, rest, rfl, hpays⟩ | howes) made
  · exact Or.inl ⟨gap, y, rest ++ [⟨a, move, b⟩], by simp, hpays⟩
  · rcases owes_step howes made with hnext | hpays
    · exact Or.inr hnext
    · exact Or.inl ⟨episodes, _, [], rfl, hpays⟩

/-- The move in which a stop is asked for is that and nothing else. -/
theorem after_of_pays (made : y.before.step plan around y.move = some y.after) (h : y.Pays ticket) :
    y.after = y.before.pay ticket ∧ y.move.isWork = false ∧ y.handed? = none := by
  obtain ⟨l, hleaver, hticket, howes⟩ := h
  obtain ⟨a, move, b⟩ := y
  cases move with
  | leave other =>
    have made : a.step plan around (.leave other) = some b := made
    obtain ⟨l', others, -, hleaver', hother, hcase⟩ := leave_episode made
    obtain rfl : l = l' := Option.some.inj (hleaver.symm.trans hleaver')
    obtain rfl : other = ticket := hother.symm.trans hticket
    rcases hcase with ⟨-, rfl⟩ | ⟨hpaid, -⟩
    · exact ⟨rfl, rfl, handed_of_same rfl⟩
    · exact absurd (hpaid.symm.trans howes) Bool.false_ne_true
  | _ => cases hleaver

/-- Nobody owes a stop under the ticket of somebody who gives a place back. -/
theorem not_owes_of_leaves (hsound : y.before.Sound around frontier queue before)
    (h : y.Leaves ticket) : ¬ y.before.Owes ticket := by
  rintro ⟨l, hl, hticket, howes⟩
  obtain ⟨l', hleaver, hticket', hpaid⟩ := h
  have hl' : l' ∈ y.before.leaving := by
    unfold Episode.leaver? at hleaver
    split at hleaver
    · exact List.mem_of_find?_eq_some hleaver
    · cases hleaver
  have hn : (y.before.leaving.map (·.ticket)).Nodup :=
    hsound.seats.nodup.sublist (List.sublist_append_right _ _)
  obtain rfl := List.inj_on_of_nodup_map hn hl hl' (hticket.trans hticket'.symm)
  exact Bool.false_ne_true (hpaid.symm.trans howes)

end Owing

section Halting

/-- What has become of a run since it is to stop. -/
structure Run.Halts (m : Run) (episodes : List Episode) (r : Run) : Prop where
  cancelled : r.shared.cancelled = true
  handed : handedOf episodes = []
  workers : ∀ w ∈ r.workers, w.url ∈ m.workers.map (·.url)
  inWork : ∀ q ∈ requestsOf episodes, ∃ w ∈ m.workers, q.url = w.url.text

/-- Where no URL is handed out, the workers after a move are of the URLs of those before. -/
theorem workers_of_step {urls : List CanonicalUrl} (hsound : a.Sound around frontier queue before)
    (hc : a.shared.cancelled = true) (h : ∀ w ∈ a.workers, w.url ∈ urls)
    (made : a.step plan around move = some b) : ∀ w ∈ b.workers, w.url ∈ urls := by
  cases hm : move.isWork with
  | false =>
    rcases still_cases hm made with hq | ⟨entry, rest, later, -, rfl⟩
    · rwa [hq.workers]
    · have hnone := handed_of_cancelled made hc
      rw [handed_of_handOut] at hnone
      cases hnone
  | true =>
    cases move with
    | work ticket heed =>
      obtain ⟨w, others, shared, hp, -, ⟨w', hdeed, rfl⟩ | ⟨e, hdeed, rfl⟩⟩ :=
        work_episode hsound made
      · exact forall_goOn hp h fun hw => (deed_store hdeed).1 ▸ hw
      · exact forall_finish hp h
    | _ => cases hm

theorem Run.Halts.step (h : m.Halts episodes a) (hsound : a.Sound around frontier queue before)
    (made : a.step plan around move = some b) : m.Halts (episodes ++ [⟨a, move, b⟩]) b := by
  constructor
  case cancelled => exact cancelled_step hsound made h.cancelled
  case handed => rw [handedOf_still episodes (handed_of_cancelled made h.cancelled), h.handed]
  case workers => exact workers_of_step hsound h.cancelled h.workers made
  case inWork =>
    intro q hq
    rw [requestsOf_concat] at hq
    rcases List.mem_append.mp hq with hq | hq
    · exact h.inWork q hq
    · obtain ⟨w, hw, hurl⟩ := request_of_worker hsound made hq
      obtain ⟨v, hv, hsame⟩ := List.mem_map.mp (h.workers w hw)
      exact ⟨v, hv, by rw [hurl, hsame]⟩

theorem halts_of_story (hs : 0 < plan.batchSize)
    (hm : (Run.start plan diff cancelled frontier files store).Reaches plan around m)
    (hc : m.shared.cancelled = true) (h : m.Story plan around episodes r) : m.Halts episodes r :=
  h.invariant (P := fun episodes r => m.Halts episodes r)
    ⟨hc, rfl, fun _ hw => List.mem_map_of_mem hw, nofun⟩ fun story hhalts made =>
    hhalts.step (sound_of_reaches hs (hm.trans (reaches_of_story story))) made

/-- Who owes a stop has asked for it before the place is free. -/
theorem cancelled_of_leaves {gap rest : List Episode} (hs : 0 < plan.batchSize)
    (hm : (Run.start plan diff cancelled frontier files store).Reaches plan around m)
    (howes : m.Owes ticket) (h : m.Story plan around (gap ++ y :: rest) r) (hy : y.Leaves ticket) :
    y.before.shared.cancelled = true := by
  obtain ⟨hgap, -, -⟩ := h.cut
  have hsound := sound_of_reaches hs (hm.trans (reaches_of_story hgap))
  obtain ⟨front, z, back, rfl, hz⟩ :=
    (asked_of_story hgap howes).resolve_right (not_owes_of_leaves hsound hy)
  obtain ⟨hfront, made, hback⟩ := hgap.cut
  have hc : z.after.shared.cancelled = true := by rw [(after_of_pays made hz).1]; rfl
  exact (halts_of_story hs ((hm.trans (reaches_of_story hfront)).step made) hc hback).cancelled

/-- From the move on in which a stop is asked for nothing more is handed out. -/
theorem halt_law (hs : 0 < plan.batchSize)
    (h : (Run.start plan diff cancelled frontier files store).Story plan around (front ++ y :: back) r)
    (hy : y.Pays ticket) : HaltLaw front y back r := by
  obtain ⟨hfront, made, hback⟩ := h.cut
  obtain ⟨hafter, hstill, hhanded⟩ := after_of_pays made hy
  have hc : y.after.shared.cancelled = true := by rw [hafter]; rfl
  have hworkers : y.after.workers = y.before.workers := by rw [hafter]; rfl
  have hhalts := halts_of_story hs ((reaches_of_story hfront).step made) hc hback
  have hnone : handedOf (y :: back) = [] := by
    rw [handedOf, List.filterMap_cons, hhanded]
    exact hhalts.handed
  have hall : handedOf (front ++ y :: back) = handedOf front := by
    rw [handedOf_append, hnone, List.append_nil]
  have hhands := hands_of_story hs h
  constructor
  case cancelled => exact ⟨hc, hhalts.cancelled⟩
  case handed => exact hnone
  case unasked =>
    intro url hnew q hq hsame
    obtain ⟨given, hgiven, hasked⟩ := (logged_of_story hs h).asked q hq
    rw [← hhands.handed, hall] at hgiven
    exact hnew (text_inj (hasked.symm.trans hsame) ▸ hgiven)
  case inWork =>
    intro q hq
    rw [requestsOf, List.flatMap_cons, requests_of_still hstill] at hq
    exact hworkers ▸ hhalts.inWork q hq
  case finishes => exact hall ▸ (hhands.left.append_right _).trans hhands.ended

end Halting

section Refusal

/-- A worker that has its record to append can do nothing else. -/
theorem deed_of_recording {w : Worker} {heed : Bool} {s s' : Shared}
    {result : Except WorkerEnd Worker} {record : ProgressRecord} {method : Option String}
    (phase : w.phase = .recording record method) (h : w.Deed plan around heed s s' result) :
    s' = (s.append plan around.logFault record method).1 ∧
      result = (s.append plan around.logFault record method).2 := by
  cases h with
  | appends recording =>
    cases phase.symm.trans recording
    exact ⟨rfl, rfl⟩
  | _ other =>
    rw [phase] at other
    cases other

/-- The move in which the log refuses a record ends its worker, which owes the run a stop. -/
theorem finish_of_logFails (hsound : x.before.Sound around frontier queue before)
    (made : x.before.step plan around x.move = some x.after) (hx : x.LogFails plan around) :
    ∃ w others shared, x.worker? = some w ∧ x.before.workers.Perm (w :: others) ∧
      x.after = x.before.finish shared others w .logFailed ∧
      shared.requests = x.before.shared.requests ∧ x.move ≠ .coordinate := by
  obtain ⟨a, move, b⟩ := x
  obtain ⟨w, record, method, hworker, phase, hrefused⟩ := hx
  cases move with
  | work ticket heed =>
    obtain ⟨w', others, shared, hp, hsame, hcase⟩ := work_episode hsound made
    obtain rfl : w = w' := Option.some.inj (hworker.symm.trans hsame)
    have hend : (a.shared.append plan around.logFault record method).2 = .error .logFailed := by
      simp [Shared.append, hrefused]
    rcases hcase with ⟨w', hdeed, -⟩ | ⟨e, hdeed, hb⟩
    · have hgoes := (deed_of_recording phase hdeed).2
      rw [hend] at hgoes
      cases hgoes
    · obtain ⟨rfl, hends⟩ := deed_of_recording phase hdeed
      rw [hend] at hends
      cases hends
      exact ⟨w, others, _, hworker, hp, hb, rfl, by simp⟩
  | _ => cases hworker

end Refusal

/-- Whatever the queue, the workers, the site, the session and the order of the moves: once the log
has refused a record, no batch starts and the worker of the record asks for a stop before it gives its
place back. From then on nothing is handed out, the URLs in work end, and the run fails, with the error
of the log unless a worker is lost. -/
theorem failed_log_law {config : Config} {w : Worker}
    (h : (Run.start (.of config) diff cancelled frontier files store).Story (.of config) around
      (front ++ x :: back) r)
    (hx : x.LogFails (.of config) around) (hw : x.worker? = some w) :
    (Run.start (.of config) diff cancelled frontier files store).Terminates (.of config) around ∧
      FailedLogLaw front x back w.ticket r := by
  have hs : 0 < (Plan.of config).batchSize := Nat.le_max_right _ _
  obtain ⟨hfront, made, hback⟩ := h.cut
  obtain ⟨w', others, shared, hworker, hp, hafter, hrequests, hmove⟩ :=
    finish_of_logFails (sound_of_reaches hs (reaches_of_story hfront)) made hx
  obtain rfl : w = w' := Option.some.inj (hw.symm.trans hworker)
  obtain ⟨hphase, -, hhanded, -, hgate⟩ := frame_of_other hmove made
  have howes : x.after.Owes w.ticket := by
    rw [hafter]
    exact ⟨w.leaver .logFailed, List.mem_append_right _ (List.mem_singleton_self _), rfl, rfl⟩
  have hbroken : x.after.Broken := by
    rw [hafter]
    exact broken_of_end (by simp)
  obtain ⟨-, hfailing, hgates⟩ := failing_of_story hback hbroken
    (hphase ▸ failing_of_worker hs hfront (not_idle_of_perm hp))
  have hsound := sound_of_reaches hs (reaches_of_story h)
  have hhalts : ∀ gap y rest, back = gap ++ y :: rest → y.Pays w.ticket →
      HaltLaw (front ++ x :: gap) y rest r := by
    rintro gap y rest rfl hy
    have hwhole : (Run.start (.of config) diff cancelled frontier files store).Story (.of config)
        around ((front ++ x :: gap) ++ y :: rest) r := by
      rw [List.append_assoc, List.cons_append]
      exact h
    exact halt_law hs hwhole hy
  refine ⟨terminates_start hs, ?_⟩
  constructor
  case still =>
    refine ⟨List.filterMap_eq_nil_iff.mpr (List.forall_mem_singleton.mpr (handed_of_same hhanded)),
      List.flatMap_eq_nil_iff.mpr (List.forall_mem_singleton.mpr (requests_of_same ?_))⟩
    rw [hafter]
    exact hrequests
  case gates =>
    rw [gatesOf, List.filterMap_cons, hgate]
    exact hgates
  case asked =>
    refine (asked_of_story hback howes).imp_right fun hstill => ⟨hstill, ?_⟩
    obtain ⟨l, hl, hticket, -⟩ := hstill
    refine hsound.seats.held.mem_iff.mpr (List.mem_append_right _ ?_)
    exact List.mem_map.mpr ⟨l, hl, hticket⟩
  case visible =>
    rintro gap y rest rfl hy
    exact cancelled_of_leaves hs ((reaches_of_story hfront).step made) howes hback hy
  case halts => exact hhalts
  case ends =>
    intro result hended
    obtain ⟨hworkers, hleaving⟩ := nobody_of_ended hs h result hended
    have hnone : ¬ r.Owes w.ticket := by
      rintro ⟨l, hl, -⟩
      rw [hleaving] at hl
      exact absurd hl List.not_mem_nil
    obtain ⟨gap, y, rest, hcut, hy⟩ := (asked_of_story hback howes).resolve_right hnone
    refine ⟨hworkers, hleaving, (hhalts gap y rest hcut hy).cancelled.2, ?_⟩
    rw [hended] at hfailing
    cases result with
    | ok outcome => cases hfailing
    | error e =>
      refine ⟨⟨e, rfl⟩, fun hkept => ?_⟩
      rcases (blames_of_story hs h).ended e hended with rfl | ⟨-, z, hz, hloses⟩
      · rfl
      · exact absurd hloses (hkept z hz)

/-- A run that is cut at one of its moves. -/
structure CutPlay where
  front : List Episode
  cut : Episode
  back : List Episode
  result : Run

/-- Makes some moves, the one at which the run is cut, and others. -/
def Run.playAround (r : Run) (plan : Plan) (around : Surroundings) (before : List Move) (move : Move)
    (after : List Move) : CutPlay :=
  let front := r.play plan around before []
  let made := (front.2.step plan around move).getD front.2
  let back := made.play plan around after []
  ⟨front.1, ⟨front.2, move, made⟩, back.1, back.2⟩

theorem story_playAround {before after : List Move}
    (h : ((r.playAround plan around before move after).cut.before.step plan around move).isSome = true) :
    r.Story plan around ((r.playAround plan around before move after).front ++
      (r.playAround plan around before move after).cut ::
        (r.playAround plan around before move after).back)
      (r.playAround plan around before move after).result := by
  have hfront : r.Story plan around (r.play plan around before []).1 (r.play plan around before []).2 :=
    story_play before .start
  obtain ⟨s, made⟩ := Option.isSome_iff_exists.mp h
  have hmade : (r.playAround plan around before move after).cut.after = s := by
    simp only [Run.playAround] at made ⊢
    rw [made, Option.getD_some]
  have hcut := hfront.step made
  have hback : s.Story plan around (s.play plan around after []).1 (s.play plan around after []).2 :=
    story_play after .start
  have hwhole := hcut.trans hback
  rw [List.append_assoc, List.singleton_append] at hwhole
  rw [← hmade] at hwhole
  exact hwhole

def refusingConfig : Config :=
  { (default : Config) with harvest := { (default : HarvestSettings) with
    multiplier := 1.0, batchSize := 3, workers := 2, saveInterval := 1, leastContent := 1 } }

def refusingStart : Run :=
  .start (.of refusingConfig) false false haltedFrontier .empty (.open [] [])

/-- A site all of whose pages are gone, but for one over which its worker is lost, and a log one of
whose records cannot be brought to disk. -/
def refusingAround (refused : Nat) (lost : String) : Surroundings :=
  ⟨fun _ text => ⟨.refused 404, 0, false, text == lost⟩, .notNeeded, none, ⟨0, 0⟩,
    fun use => if use = .append refused then some (.flush (.log 0)) else none⟩

/-- Two workers have their URLs when the first one appends its record, for which the log fails. It asks
for a stop and leaves, and the second one goes on with its URL. -/
def refusedPlay : CutPlay :=
  refusingStart.playAround (.of refusingConfig) (refusingAround 0 "")
    (List.flatten [.replicate 4 .coordinate, .replicate 4 (.work 0 true), [.work 1 true]])
    (.work 0 true)
    (List.flatten [[.leave 0, .leave 0, .coordinate], .replicate 4 (.work 1 true), [.leave 1],
      .replicate 3 .coordinate])

def Run.hasFailedWith (r : Run) (e : HarvestError) : Bool :=
  match r.phase with
  | .ended (.error e') => e' == e
  | _ => false

theorem phase_of_hasFailedWith {e : HarvestError} (h : r.hasFailedWith e = true) :
    r.phase = .ended (.error e) := by
  unfold Run.hasFailedWith at h
  split at h
  · next e' hphase => rw [hphase, eq_of_beq h]
  · cases h

theorem failed_log_law_refused :
    (refusedPlay.cut.LogFails (.of refusingConfig) (refusingAround 0 "") ∧
      (handedOf refusedPlay.front).map (·.text) = ["https://a.test/1", "https://a.test/2"] ∧
      (requestsOf refusedPlay.back).map (·.url) = ["https://a.test/2"] ∧
      (recordsOf refusedPlay.back).map (·.url) = [⟨"https://a.test/2"⟩] ∧
      refusedPlay.result.phase = .ended (.error .logFailed)) ∧
    refusingStart.Terminates (.of refusingConfig) (refusingAround 0 "") ∧
    FailedLogLaw refusedPlay.front refusedPlay.cut refusedPlay.back 0 refusedPlay.result := by
  have hstory : refusingStart.Story (.of refusingConfig) (refusingAround 0 "")
      (refusedPlay.front ++ refusedPlay.cut :: refusedPlay.back) refusedPlay.result :=
    story_playAround (by decide +kernel)
  have hx : refusedPlay.cut.LogFails (.of refusingConfig) (refusingAround 0 "") :=
    ⟨_, _, _, rfl, rfl, by decide +kernel⟩
  exact ⟨⟨hx, by decide +kernel, by decide +kernel, by decide +kernel,
    phase_of_hasFailedWith (by decide +kernel)⟩, failed_log_law hstory hx rfl⟩

/-- The second worker is lost before the log fails for the first one. -/
def lostPlay : CutPlay :=
  refusingStart.playAround (.of refusingConfig) (refusingAround 0 "https://a.test/2")
    (List.flatten [.replicate 4 .coordinate, .replicate 3 (.work 1 true), [.leave 1],
      .replicate 4 (.work 0 true)])
    (.work 0 true)
    (List.flatten [[.leave 0, .leave 0], .replicate 4 .coordinate])

/-- The place of the second worker is free when the log fails for the first one, and the third URL is
handed out before that one asks for the stop. -/
def outrunPlay : CutPlay :=
  refusingStart.playAround (.of refusingConfig) (refusingAround 1 "")
    (List.flatten [.replicate 4 .coordinate, .replicate 5 (.work 1 true), [.leave 1],
      .replicate 4 (.work 0 true)])
    (.work 0 true)
    [.coordinate, .leave 0, .work 2 true, .work 2 true]

/-- The first error of a run may be that of a lost worker, though the log fails as well; and between
two threads a URL may be handed out in the moment from the failure of the log to the stop. -/
theorem failed_log_outrun :
    (refusingStart.Story (.of refusingConfig) (refusingAround 0 "https://a.test/2")
        (lostPlay.front ++ lostPlay.cut :: lostPlay.back) lostPlay.result ∧
      lostPlay.cut.LogFails (.of refusingConfig) (refusingAround 0 "https://a.test/2") ∧
      lostPlay.result.phase = .ended (.error .workerLost)) ∧
    (refusingStart.Story (.of refusingConfig) (refusingAround 1 "")
        (outrunPlay.front ++ outrunPlay.cut :: outrunPlay.back) outrunPlay.result ∧
      outrunPlay.cut.LogFails (.of refusingConfig) (refusingAround 1 "") ∧
      ∃ url ∉ handedOf outrunPlay.front, ∃ q ∈ requestsOf outrunPlay.back, q.url = url.text) := by
  refine ⟨⟨story_playAround (by decide +kernel), ⟨_, _, _, rfl, rfl, by decide +kernel⟩,
    phase_of_hasFailedWith (by decide +kernel)⟩, story_playAround (by decide +kernel),
    ⟨_, _, _, rfl, rfl, by decide +kernel⟩, ⟨"https://a.test/3"⟩, by decide +kernel, ?_⟩
  decide +kernel

end Archiver
