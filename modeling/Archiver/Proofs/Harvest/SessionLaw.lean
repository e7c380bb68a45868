import Mathlib.Data.List.Nodup
import Mathlib.Data.List.TakeDrop
import Archiver.Proofs.Harvest.SessionGate

namespace Archiver

/-- What a session that is no longer valid does to a run: the batches before are complete, and
nothing of the others is ever asked for or recorded. -/
structure Refusal (plan : Plan) (around : Surroundings) (queue : List FrontierEntry)
    (front : List Episode) (x : Episode) (back : List Episode) (r : Run) (n : Nat) : Prop where
  complete : ((recordsOf front).map (·.url)).Perm ((queue.take (n * plan.batchSize)).map (·.url))
  cancels : x.after.shared.cancelled = true ∧ r.shared.cancelled = true
  requests : requestsOf (x :: back) = []
  records : recordsOf (x :: back) = []
  unasked : ∀ entry ∈ queue.drop (n * plan.batchSize), ∀ q ∈ requestsOf (front ++ x :: back),
    q.url ≠ entry.url.text
  unrecorded : ∀ entry ∈ queue.drop (n * plan.batchSize), ∀ record ∈ recordsOf (front ++ x :: back),
    record.url ≠ entry.url
  /-- The run ends so, if the log can be brought to disk. -/
  ends : around.flushFault n = none → r.phase = .ended (.ok (.sessionExpired (n + 1))) ∨
    ∃ s, r.coordinate plan around = some s ∧ s.phase = .ended (.ok (.sessionExpired (n + 1)))

/-- What the moves of a run have to do with its session, batch number `n + 1` being the one that
starts with entry number `n * batchSize` of the queue. -/
structure SessionLaw (plan : Plan) (around : Surroundings) (queue : List FrontierEntry)
    (before : ProgressStore) (episodes : List Episode) (r : Run) : Prop where
  log : r.shared.store.log.written =
    before.log.written ++ (recordsOf episodes).flatMap ProgressRecord.lineBytes
  /-- The session is asked for once before each batch, and for one batch more at most. -/
  once : ∃ n tail, gatesOf episodes = gateSequence n ++ tail ∧
    tail ∈ [[], [Gate.asked], [.asked, .answered false]] ∧ r.handed ≤ n * plan.batchSize
  checks : around.session ≠ .notNeeded → r.checks = (gatesOf episodes).count .asked
  /-- A URL is handed to a worker when the session was asked for just as often as its batch says. -/
  starts : ∀ front x back, episodes = front ++ x :: back → x.after.handed ≠ x.before.handed →
    gatesOf front = gateSequence (x.before.handed / plan.batchSize + 1)
  /-- No URL of a batch or of a later one is asked for before the session was valid for the batch. -/
  requests : ∀ front x back, episodes = front ++ x :: back → ∀ q ∈ x.requests,
    (∃ entry ∈ queue, q.url = entry.url.text) ∧
    ∀ n, ∀ entry ∈ queue.drop (n * plan.batchSize), q.url = entry.url.text →
      gateSequence (n + 1) <+: gatesOf front
  answers : ∀ front x back valid, episodes = front ++ x :: back →
    x.gate? = some (.answered valid) → ∃ n, gatesOf front = gateSequence n ++ [.asked] ∧
      n * plan.batchSize < queue.length ∧
      (∀ answers, around.session = .answers answers → valid = answers n) ∧
      (valid = false → Refusal plan around queue front x back r n)
  /-- Nothing but an answer lets a session expire. -/
  expires : ∀ n, r.phase = .ended (.ok (.sessionExpired n)) → ∃ m, n = m + 1 ∧
    gatesOf episodes = gateSequence m ++ [.asked, .answered false]

variable {plan : Plan} {around : Surroundings} {frontier queue : List FrontierEntry}
  {before : ProgressStore} {a b r : Run} {episodes front back : List Episode} {x : Episode}
  {size : Nat} {gates : List Gate}

/-- Where URLs are distinct, one that was handed out is none of those that come later. -/
theorem not_mem_drop (hn : (queue.map (·.url)).Nodup) {url : CanonicalUrl} {handed n : Nat}
    (hu : url ∈ (queue.take handed).map (·.url)) (hle : handed ≤ n) :
    ∀ entry ∈ queue.drop n, url ≠ entry.url := by
  intro entry hentry he
  rw [List.map_take] at hu
  have hdrop : url ∈ (queue.map (·.url)).drop n := by
    rw [← List.map_drop, he]
    exact List.mem_map_of_mem hentry
  exact List.disjoint_take_drop hn hle hu hdrop

theorem asked_given (hlogged : a.Logged queue before front)
    (hsound : a.Sound around frontier queue before) {move : Move}
    (made : a.step plan around move = some b) {q : Request}
    (hq : q ∈ (Episode.mk a move b).requests) :
    ∃ url ∈ (queue.take a.handed).map (·.url), q.url = url.text := by
  obtain ⟨w, hw, hurl⟩ := request_of_worker hsound made hq
  exact ⟨w.url, hlogged.given w hw, hurl⟩

/-- A URL is handed out once its batch was let in, and no other after it. -/
theorem gates_of_handOut (hs : 0 < size) (hgate : a.AtGate around size queue gates)
    (hsound : a.Sound around frontier queue before) {move : Move}
    (made : a.step plan around move = some b) (hne : b.handed ≠ a.handed) :
    gates = gateSequence (a.handed / size + 1) := by
  rcases step_cases made with hq | ⟨entry, rest, later, phase, rfl⟩ | ⟨ticket, heed, hwork⟩
  · exact absurd hq.handed hne
  · obtain ⟨hlt, -, hdrop⟩ := hsound.next phase
    rw [Run.AtGate, phase] at hgate
    obtain ⟨hgates, -, hlater, hlow, -⟩ := hgate
    have hlength := congrArg List.length hdrop
    rw [hlater, List.length_append, batchesOf_flatten hs, List.length_drop, List.length_drop] at hlength
    have hnumber : a.handed / size = a.report.batches :=
      Nat.div_eq_of_lt_le hlow (by omega)
    rw [hgates, hnumber]
  · obtain ⟨w, shared, -, ⟨w', -, rfl⟩ | ⟨e, -, rfl⟩⟩ := work_found hwork
    · exact absurd rfl hne
    · exact absurd rfl hne

/-- An answer finds all batches before complete. -/
theorem gates_of_answer (hs : 0 < size) (hgate : a.AtGate around size queue gates)
    (hsound : a.Sound around frontier queue before) {move : Move} {valid : Bool}
    (hx : (Episode.mk a move b).gate? = some (.answered valid)) :
    ∃ due batch later, move = .coordinate ∧ a.phase = .checking due valid batch later ∧
      gates = gateSequence a.report.batches ++ [.asked] ∧ a.handed = a.report.batches * size ∧
      a.handed < queue.length ∧
      ∀ answers, around.session = .answers answers → valid = answers a.report.batches := by
  unfold Episode.gate? at hx
  split at hx
  · cases hx
  · next hmove phase =>
    cases hx
    obtain ⟨hhanded, hlt⟩ := handed_of_checking hs hsound phase hgate
    simp only at phase
    rw [Run.AtGate, phase] at hgate
    exact ⟨_, _, _, hmove, phase, hgate.1, hhanded, hlt, hgate.2.2.2⟩
  · cases hx

variable {diff cancelled : Bool} {files : Files} {store : ProgressStore}

theorem refusal (hn : (frontier.map (·.url)).Nodup) (hs : 0 < plan.batchSize)
    (h : (Run.start plan diff cancelled frontier files store).Story plan around
      (front ++ x :: back) r)
    (hx : x.gate? = some (.answered false)) :
    Refusal plan around (queueOf diff store.snapshot frontier) front x back r
      x.before.report.batches := by
  obtain ⟨hfront, made, hback⟩ := h.cut
  have hsound := sound_of_reaches hs (reaches_of_story hfront)
  have hlogged := logged_of_story hs hfront
  obtain ⟨x0, move, x1⟩ := x
  obtain ⟨due, batch, later, rfl, phase, -, hhanded, -⟩ :=
    gates_of_answer hs (atGate_of_story hs hfront).1 hsound hx
  have hidle : x0.Idle := by
    have hplace := hsound.place
    rw [Run.Place, phase] at hplace
    exact hplace.1
  have hx1 : x1 = { x0.cancel with phase := .closing (.sessionExpired (x0.report.batches + 1)) } := by
    have made : x0.coordinate plan around = some x1 := made
    cases coordinates_of made with
    | accept phase' time => cases phase.symm.trans phase'
    | expire phase' time => rfl
    | _ phase' => cases phase.symm.trans phase'
  -- nobody is at work while the session is checked, so that nothing is left but the end
  have hover : x1.IsOver around (.sessionExpired (x0.report.batches + 1)) x0.report.batches := by
    rw [hx1]
    exact ⟨hidle.workers, hidle.leaving, rfl, Or.inl rfl⟩
  obtain ⟨hend, hstill, hcancelled⟩ := hover.story hback
  have hall : ∀ y ∈ (⟨x0, .coordinate, x1⟩ : Episode) :: back, y.move.isWork = false :=
    List.forall_mem_cons.mpr ⟨rfl, hstill⟩
  have hstop : x1.shared.cancelled = true := by rw [hx1]; rfl
  have hqueue := nodup_queueOf hn diff store.snapshot
  constructor
  case complete =>
    have hurls := hlogged.urls hidle.not_broken
    rw [hidle.workers, List.map_nil, List.append_nil, hhanded] at hurls
    exact hurls
  case cancels => exact ⟨hstop, hcancelled hstop⟩
  case requests => exact requestsOf_eq_nil hall
  case records => exact recordsOf_eq_nil hall
  case unasked =>
    intro entry hentry q hq
    rw [requestsOf_append, requestsOf_eq_nil hall, List.append_nil] at hq
    obtain ⟨url, hurl, htext⟩ := hlogged.asked q hq
    rw [htext]
    exact fun he => not_mem_drop hqueue hurl hhanded.le entry hentry (text_inj he)
  case unrecorded =>
    intro entry hentry record hrecord
    rw [recordsOf_append, recordsOf_eq_nil hall, List.append_nil] at hrecord
    exact not_mem_drop hqueue (hlogged.recorded record hrecord) hhanded.le entry hentry
  case ends => exact hend.ends

/-- Whatever the frontier, the batches, the workers, the site, the stops and the answers of the
session: it is asked for once before each batch, no URL is asked for before the session was valid for
its batch, and once it is not the run ends with the batches before complete and the others
untouched. -/
theorem session_law {config : Config} (hn : (frontier.map (·.url)).Nodup)
    (h : (Run.start (.of config) diff cancelled frontier files store).Story (.of config) around
      episodes r) :
    SessionLaw (.of config) around (queueOf diff store.snapshot frontier) store episodes r := by
  have hs : 0 < (Plan.of config).batchSize := Nat.le_max_right _ _
  have hqueue := nodup_queueOf hn diff store.snapshot
  obtain ⟨hgate, hchecks⟩ := atGate_of_story hs h
  constructor
  case log => exact (logged_of_story hs h).written
  case once => exact hgate.admitted
  case checks => exact hchecks
  case starts =>
    rintro front x back rfl hne
    obtain ⟨hfront, made, -⟩ := h.cut
    exact gates_of_handOut hs (atGate_of_story hs hfront).1
      (sound_of_reaches hs (reaches_of_story hfront)) made hne
  case requests =>
    rintro front x back rfl q hq
    obtain ⟨hfront, made, -⟩ := h.cut
    obtain ⟨url, hurl, htext⟩ := asked_given (logged_of_story hs hfront)
      (sound_of_reaches hs (reaches_of_story hfront)) made hq
    obtain ⟨m, tail, hgates, -, hhanded⟩ := (atGate_of_story hs hfront).1.admitted
    refine ⟨?_, fun n entry hentry he => ?_⟩
    · obtain ⟨entry, hentry, rfl⟩ := List.mem_map.mp hurl
      exact ⟨entry, List.mem_of_mem_take hentry, htext⟩
    · have hlt : n < m := by
        by_contra hge
        have hle : x.before.handed ≤ n * (Plan.of config).batchSize :=
          Nat.le_trans hhanded (Nat.mul_le_mul_right _ (Nat.le_of_not_lt hge))
        exact not_mem_drop hqueue hurl hle entry hentry (text_inj (htext.symm.trans he))
      rw [hgates]
      exact (gateSequence_isPrefix hlt).trans (List.prefix_append _ _)
  case answers =>
    rintro front x back valid rfl hx
    obtain ⟨hfront, made, -⟩ := h.cut
    obtain ⟨due, batch, later, hmove, phase, hgates, hhanded, hlt, hanswers⟩ :=
      gates_of_answer hs (atGate_of_story hs hfront).1
        (sound_of_reaches hs (reaches_of_story hfront)) hx
    refine ⟨_, hgates, hhanded ▸ hlt, hanswers, ?_⟩
    rintro rfl
    exact refusal hn hs h hx
  case expires =>
    intro n hphase
    rw [Run.AtGate, hphase] at hgate
    exact ⟨_, hgate.2.2, hgate.1⟩

def expiryConfig : Config :=
  { (default : Config) with harvest := { (default : HarvestSettings) with batchSize := 2, workers := 2 } }

/-- A site on which every page is gone, and a session that is valid once. -/
def expiryAround : Surroundings :=
  ⟨fun _ _ => ⟨.refused 404, 0, false, false⟩, .answers (· == 0), none, ⟨0, 0⟩, fun _ => none⟩

def expiryFrontier : List FrontierEntry :=
  [⟨⟨"https://a.test/1"⟩, "list", none⟩, ⟨⟨"https://a.test/2"⟩, "list", none⟩,
    ⟨⟨"https://a.test/3"⟩, "list", none⟩]

/-- Two workers take turns over the first batch; the session is no longer valid for the second. -/
def expiryMoves : List Move := List.flatten
  [.replicate 4 .coordinate, .flatten (.replicate 5 [.work 1 true, .work 0 true]),
    [.leave 1, .leave 0], .replicate 7 .coordinate]

def expiryPlay : List Episode × Run :=
  (Run.start (.of expiryConfig) false false expiryFrontier .empty (.open [] [])).play
    (.of expiryConfig) expiryAround expiryMoves []

theorem session_law_expired :
    (expiryFrontier.map (·.url)).Nodup ∧
      expiryPlay.2.phase = .ended (.ok (.sessionExpired 2)) ∧
      (recordsOf expiryPlay.1).map (·.url.text) = ["https://a.test/2", "https://a.test/1"] ∧
      gatesOf expiryPlay.1 = [.asked, .answered true, .asked, .answered false] ∧
      SessionLaw (.of expiryConfig) expiryAround (queueOf false .empty expiryFrontier) (.open [] [])
        expiryPlay.1 expiryPlay.2 := by
  have hn : (expiryFrontier.map (·.url)).Nodup := by decide
  have hstory : (Run.start (.of expiryConfig) false false expiryFrontier .empty (.open [] [])).Story
      (.of expiryConfig) expiryAround expiryPlay.1 expiryPlay.2 := story_play expiryMoves .start
  refine ⟨hn, by rfl, by decide +kernel, by decide +kernel, ?_⟩
  exact session_law hn hstory

end Archiver
