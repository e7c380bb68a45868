import Archiver.Proofs.Harvest.HandOver
import Archiver.Proofs.Harvest.SessionLaw

namespace Archiver

/-- In which order a run hands out its URLs and records them, entry number `k` of the queue being
of batch number `k / batchSize`. -/
structure OrderLaw (plan : Plan) (queue : List FrontierEntry) (before : ProgressStore)
    (episodes : List Episode) (r : Run) : Prop where
  /-- There are never more URLs handed out and not done than workers, where a URL is done once its
  place is given back. -/
  bound : ∀ front back, episodes = front ++ back → (leftOf front).Subperm (handedOf front) ∧
    (handedOf front).length ≤ (leftOf front).length + plan.workers
  order : handedOf episodes <+: queue.map (·.url)
  /-- No URL is handed out before all those of the batches before have their records. -/
  barrier : ∀ front x back url, episodes = front ++ x :: back → x.handed? = some url →
    ((queue.take ((handedOf front).length / plan.batchSize * plan.batchSize)).map (·.url)).Subperm
      ((recordsOf front).map (·.url))
  /-- A single worker asks for the last URL only, once all others have their records. -/
  single : plan.workers = 1 → (∃ outcome, r.phase = .ended (.ok outcome)) →
    ∀ front x back, episodes = front ++ x :: back → ∀ q ∈ x.requests, ∃ url,
      handedOf front = (recordsOf front).map (·.url) ++ [url] ∧ q.url = url.text
  inOrder : plan.workers = 1 → (∃ outcome, r.phase = .ended (.ok outcome)) →
    (recordsOf episodes).map (·.url) = handedOf episodes
  log : r.shared.store.log.written =
    before.log.written ++ (recordsOf episodes).flatMap ProgressRecord.lineBytes

/-- True while the URLs of a batch are handed out or in work. -/
def RunPhase.isOut : RunPhase → Bool
  | .admitting _ _ | .joining _ => true
  | _ => false

/-- While a batch is out, all those before have their records. -/
def Run.Barred (size : Nat) (queue : List FrontierEntry) (records : List ProgressRecord) (r : Run) :
    Prop :=
  r.phase.isOut = true →
    ((queue.take (r.report.batches * size)).map (·.url)).Subperm (records.map (·.url))

/-- The URLs handed out have been recorded in their order, but for those in work. -/
def Run.InOrder (episodes : List Episode) (r : Run) : Prop :=
  (recordsOf episodes).map (·.url) ++ r.workers.map (·.url) = handedOf episodes

variable {plan : Plan} {around : Surroundings} {frontier queue : List FrontierEntry}
  {before : ProgressStore} {a b r : Run} {episodes front back : List Episode} {x : Episode}
  {size : Nat} {records : List ProgressRecord} {diff cancelled : Bool} {files : Files}
  {store : ProgressStore}

/-- A run that comes to an outcome was never broken. -/
theorem unbroken_of_story (h : a.Story plan around episodes b) (hb : ¬ b.Broken) : ¬ a.Broken := by
  induction h with
  | start => exact hb
  | step _ made ih => exact ih fun hbroken => hb (broken_step made hbroken)

section Barrier

theorem Run.Barred.grow (h : a.Barred size queue records) (hphase : b.phase = a.phase)
    (hreport : b.report = a.report) (more : List ProgressRecord) :
    b.Barred size queue (records ++ more) := by
  intro hout
  rw [hreport, List.map_append]
  exact (h (hphase ▸ hout)).trans (List.sublist_append_left _ _).subperm

theorem Run.Barred.coordinate (h : a.Barred size queue (recordsOf episodes)) (hs : 0 < size)
    (hsound : a.Sound around frontier queue before)
    (hlogged : a.Logged queue before episodes)
    (hgate : a.AtGate around size queue (gatesOf episodes))
    (made : a.coordinate plan around = some b) : b.Barred size queue (recordsOf episodes) := by
  intro hout
  cases coordinates_of made with
  | complete phase => cases hout
  | stop phase cancelled => cases hout
  | @check batch later phase goes =>
    obtain ⟨due, valid, hphase, -⟩ := check_cases a around batch later
    rw [hphase] at hout
    cases hout
  | accept phase time =>
    -- nobody is in work while the session is checked, so that the books are complete
    obtain ⟨hhanded, -⟩ := handed_of_checking hs hsound phase hgate
    have hplace := hsound.place
    rw [Run.Place, phase] at hplace
    have hurls := hlogged.urls hplace.1.not_broken
    rw [hplace.1.workers, List.map_nil, List.append_nil, hhanded] at hurls
    exact hurls.symm.subperm
  | expire phase time => cases hout
  | allOut phase => exact h (by rw [phase]; rfl)
  | cutOff phase cancelled => exact h (by rw [phase]; rfl)
  | handOut phase goes room => exact h (by rw [phase]; rfl)
  | @join last rest later phase finished =>
    rw [(join_frame _ last).2.1]
    exact h (by rw [phase]; rfl)
  | giveUp => cases hout
  | loseBatch => cases hout
  | closeBatch phase finished workers leaving failure saved onward => cases onward <;> cases hout
  | rested phase time => cases hout
  | close phase => cases hout
  | loseRun => cases hout

theorem barred_of_story (hs : 0 < plan.batchSize)
    (h : (Run.start plan diff cancelled frontier files store).Story plan around episodes r) :
    r.Barred plan.batchSize (queueOf diff store.snapshot frontier) (recordsOf episodes) := by
  refine h.invariant (P := fun episodes r => r.Barred plan.batchSize
    (queueOf diff store.snapshot frontier) (recordsOf episodes)) (fun hout => nomatch hout) ?_
  intro episodes a b move story hbarred made
  by_cases hm : move = .coordinate
  · subst hm
    rw [recordsOf_still episodes (record_of_still rfl)]
    exact hbarred.coordinate hs (sound_of_reaches hs (reaches_of_story story))
      (logged_of_story hs story) (atGate_of_story hs story).1 made
  · obtain ⟨hphase, hreport, -⟩ := frame_of_other hm made
    rw [recordsOf_concat]
    exact hbarred.grow hphase hreport _

/-- A URL is handed out when all those of the batches before have their records. -/
theorem barrier_of_story (hs : 0 < plan.batchSize)
    (h : (Run.start plan diff cancelled frontier files store).Story plan around front a) {move : Move}
    (made : a.step plan around move = some b) (hne : b.handed ≠ a.handed) :
    (((queueOf diff store.snapshot frontier).take
      (a.handed / plan.batchSize * plan.batchSize)).map (·.url)).Subperm
      ((recordsOf front).map (·.url)) := by
  obtain ⟨hgate, -⟩ := atGate_of_story hs h
  have hgates := gates_of_handOut hs hgate (sound_of_reaches hs (reaches_of_story h)) made hne
  rcases step_cases made with hq | ⟨entry, rest, later, phase, -⟩ | ⟨ticket, heed, hwork⟩
  · exact absurd hq.handed hne
  · rw [Run.AtGate, phase] at hgate
    have hnumber := congrArg (List.count Gate.asked) (hgates.symm.trans hgate.1)
    rw [count_asked_gateSequence, count_asked_gateSequence] at hnumber
    rw [Nat.succ.inj hnumber]
    exact barred_of_story hs h (by rw [phase]; rfl)
  · obtain ⟨w, shared, -, ⟨w', -, rfl⟩ | ⟨e, -, rfl⟩⟩ := work_found hwork
    · exact absurd rfl hne
    · exact absurd rfl hne

end Barrier

section Single

theorem eq_singleton_of_mem {w : Worker} (hw : w ∈ a.workers) (hroom : a.workers.length ≤ 1) :
    a.workers = [w] := by
  obtain ⟨v, hv⟩ := List.length_eq_one_iff.mp (Nat.le_antisymm hroom (List.length_pos_of_mem hw))
  rw [hv] at hw ⊢
  rw [List.mem_singleton.mp hw]

theorem eq_singleton_of_perm {w : Worker} {others : List Worker} (hp : a.workers.Perm (w :: others))
    (hroom : a.workers.length ≤ 1) : a.workers = [w] ∧ others = [] := by
  have hworkers := eq_singleton_of_mem (hp.mem_iff.mpr List.mem_cons_self) hroom
  refine ⟨hworkers, List.length_eq_zero_iff.mp ?_⟩
  have hlength := hp.length_eq
  rw [List.length_cons] at hlength
  omega

theorem Run.InOrder.work (h : a.InOrder episodes) (hroom : a.workers.length ≤ 1)
    (hsound : a.Sound around frontier queue before) (hunbroken : ¬ b.Broken) {ticket : Nat}
    {heed : Bool} (made : a.step plan around (.work ticket heed) = some b) :
    b.InOrder (episodes ++ [⟨a, .work ticket heed, b⟩]) := by
  unfold Run.InOrder at h ⊢
  obtain ⟨w, others, shared, hp, hworker, ⟨w', hdeed, rfl⟩ | ⟨e, hdeed, rfl⟩⟩ :=
    work_episode hsound made
  · obtain ⟨hworkers, rfl⟩ := eq_singleton_of_perm hp hroom
    obtain ⟨hurl, -, hstore⟩ := deed_store hdeed
    rw [recordsOf_still episodes (record_of_same (hstore ▸ rfl)), handedOf_still episodes (handed_of_same rfl)]
    rw [hworkers] at h
    rw [Run.goOn, List.nil_append, List.map_singleton, hurl]
    exact h
  · obtain ⟨hworkers, rfl⟩ := eq_singleton_of_perm hp hroom
    rw [hworkers] at h
    rcases deed_ends rfl hworker (hsound.carries w (hp.mem_iff.mpr List.mem_cons_self)) hdeed with
      ⟨record, hrecord, hurl, -⟩ | ⟨-, -, he⟩
    · rw [recordsOf_concat, hrecord, Option.toList_some, List.map_append, List.map_singleton, hurl,
        handedOf_still episodes (handed_of_same rfl), Run.finish, List.map_nil, List.append_nil]
      exact h
    · exact absurd (broken_of_end he) hunbroken

theorem inOrder_of_story (hs : 0 < plan.batchSize) (hsingle : plan.workers = 1)
    (h : (Run.start plan diff cancelled frontier files store).Story plan around episodes r)
    (hunbroken : ¬ r.Broken) : r.InOrder episodes := by
  induction h with
  | start => rfl
  | @step episodes a b move story made ih =>
    have horder := ih fun hbroken => hunbroken (broken_step made hbroken)
    have hsound := sound_of_reaches hs (reaches_of_story story)
    have hhands := hands_of_story hs story
    have hbusy := hhands.busy hsound
    rw [hsingle] at hbusy
    have hroom : a.workers.length ≤ 1 := by omega
    have hsize : a.places.size = 1 := by rw [hhands.size, hsingle]; rfl
    cases move with
    | coordinate =>
      unfold Run.InOrder at horder ⊢
      rw [recordsOf_still episodes (record_of_still rfl)]
      rcases coordinate_hands made with ⟨hq, -⟩ | ⟨entry, rest, later, phase, -, hfree, rfl⟩
      · rw [handedOf_still episodes (handed_of_same hq.handed), hq.workers]
        exact horder
      · have hseats := hsound.seats.held.length_eq
        rw [Run.tickets, List.length_append, List.length_map] at hseats
        have hnobody : a.workers = [] := List.length_eq_zero_iff.mp (by omega)
        rw [handedOf_concat, handed_of_handOut, ← horder, Run.handOut, hnobody, List.map_nil,
          List.append_nil]
        rfl
    | work ticket heed => exact horder.work hroom hsound hunbroken made
    | leave ticket =>
      unfold Run.InOrder at horder ⊢
      rw [recordsOf_still episodes (record_of_still rfl)]
      obtain ⟨l, others, hp, -, ⟨-, rfl⟩ | ⟨-, rfl⟩⟩ := leave_cases made
      · rw [handedOf_still episodes (handed_of_same rfl)]
        exact horder
      · rw [handedOf_still episodes (handed_of_same rfl)]
        exact horder
    | stop =>
      obtain ⟨-, -, rfl⟩ := stop_made made
      unfold Run.InOrder at horder ⊢
      rw [recordsOf_still episodes (record_of_still rfl), handedOf_still episodes (handed_of_same rfl)]
      exact horder
    | wait time =>
      obtain ⟨-, rfl⟩ := wait_made made
      unfold Run.InOrder at horder ⊢
      rw [recordsOf_still episodes (record_of_still rfl), handedOf_still episodes (handed_of_same rfl)]
      exact horder

end Single

/-- Whatever the queue, the stops and the order of the moves: there are never more URLs in work than
workers, URLs are handed out in the order of the queue, one batch after the other, and a single
worker of a run that comes to an outcome takes them one after the other. -/
theorem order_law {config : Config}
    (h : (Run.start (.of config) diff cancelled frontier files store).Story (.of config) around
      episodes r) :
    OrderLaw (.of config) (queueOf diff store.snapshot frontier) store episodes r := by
  have hs : 0 < (Plan.of config).batchSize := Nat.le_max_right _ _
  have hhands := hands_of_story hs h
  have hsound := sound_of_reaches hs (reaches_of_story h)
  constructor
  case bound =>
    rintro front back rfl
    obtain ⟨m, hfront, -⟩ := h.split
    have hmid := hands_of_story hs hfront
    have hended := hmid.ended.length_eq
    have hleft := hmid.left.length_eq
    have hroom := hmid.busy (sound_of_reaches hs (reaches_of_story hfront))
    have hworkers : 0 < (Plan.of config).workers := Nat.le_max_right _ _
    simp only [List.length_append, List.length_map] at hended hleft
    refine ⟨?_, by omega⟩
    have hsub := (List.sublist_append_left (leftOf front) _).subperm.trans hmid.left.subperm
    exact hsub.trans ((List.sublist_append_left _ _).subperm.trans hmid.ended.subperm)
  case order =>
    rw [hhands.handed]
    exact (List.take_prefix _ _).map _
  case barrier =>
    rintro front x back url rfl hx
    obtain ⟨hfront, made, -⟩ := h.cut
    have hne : x.after.handed ≠ x.before.handed := fun hsame => by
      rw [handed_of_same hsame] at hx
      cases hx
    have hlength := congrArg List.length (hands_of_story hs hfront).handed
    rw [List.length_map, List.length_take, Nat.min_eq_left
      (sound_of_reaches hs (reaches_of_story hfront)).handed] at hlength
    rw [hlength]
    exact barrier_of_story hs hfront made hne
  case single =>
    rintro hsingle ⟨outcome, hphase⟩ front x back rfl q hq
    obtain ⟨hfront, made, hback⟩ := h.cut
    have hafter := unbroken_of_story hback (idle_of_ended hsound hphase).1.not_broken
    have horder := inOrder_of_story hs hsingle hfront fun hbroken => hafter (broken_step made hbroken)
    obtain ⟨w, hw, hurl⟩ := request_of_worker
      (sound_of_reaches hs (reaches_of_story hfront)) made hq
    have hroom := (hands_of_story hs hfront).busy (sound_of_reaches hs (reaches_of_story hfront))
    unfold Run.InOrder at horder
    rw [eq_singleton_of_mem hw (by rw [hsingle] at hroom; omega)] at horder
    exact ⟨w.url, horder.symm, hurl⟩
  case inOrder =>
    rintro hsingle ⟨outcome, hphase⟩
    have hidle := (idle_of_ended hsound hphase).1
    have horder := inOrder_of_story hs hsingle h hidle.not_broken
    unfold Run.InOrder at horder
    rw [hidle.workers, List.map_nil, List.append_nil] at horder
    exact horder
  case log => exact (logged_of_story hs h).written

def lonelyConfig : Config :=
  { (default : Config) with harvest := { (default : HarvestSettings) with batchSize := 2, workers := 1 } }

/-- A single worker takes the URLs of two batches one after the other. -/
def lonelyMoves : List Move := List.flatten
  [.replicate 3 .coordinate, .replicate 5 (.work 0 true), [.leave 0, .coordinate],
    .replicate 5 (.work 1 true), [.leave 1], .replicate 7 .coordinate, .replicate 5 (.work 2 true),
    [.leave 2], .replicate 5 .coordinate]

def lonelyPlay : List Episode × Run :=
  (Run.start (.of lonelyConfig) false false expiryFrontier .empty (.open [] [])).play
    (.of lonelyConfig) { expiryAround with session := .notNeeded } lonelyMoves []

theorem order_law_lonely :
    ((Plan.of lonelyConfig).workers = 1 ∧ lonelyPlay.2.phase = .ended (.ok .completed) ∧
      (requestsOf lonelyPlay.1).map (·.url) = expiryFrontier.map (·.url.text) ∧
      (recordsOf lonelyPlay.1).map (·.url) = expiryFrontier.map (·.url)) ∧
    OrderLaw (.of lonelyConfig) (queueOf false .empty expiryFrontier) (.open [] []) lonelyPlay.1
      lonelyPlay.2 := by
  have hstory : (Run.start (.of lonelyConfig) false false expiryFrontier .empty (.open [] [])).Story
      (.of lonelyConfig) { expiryAround with session := .notNeeded } lonelyPlay.1 lonelyPlay.2 :=
    story_play lonelyMoves .start
  exact ⟨⟨rfl, by rfl, by decide +kernel, by decide +kernel⟩, order_law hstory⟩

end Archiver
