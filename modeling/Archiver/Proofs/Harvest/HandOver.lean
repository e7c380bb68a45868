import Archiver.Proofs.Harvest.StoryBooks

namespace Archiver

/-- The URL that is handed to a worker in a move. -/
def Episode.handed? (x : Episode) : Option CanonicalUrl :=
  if x.before.handed < x.after.handed then (x.after.workers.getLast?).map (·.url) else none

/-- The URL whose worker ends in a move. -/
def Episode.ended? (x : Episode) : Option CanonicalUrl :=
  x.worker?.bind fun w => if ∃ v ∈ x.after.workers, v.ticket = w.ticket then none else some w.url

/-- The leaver that makes a move. -/
def Episode.leaver? (x : Episode) : Option Leaver :=
  match x.move with
  | .leave ticket => x.before.leaving.find? fun l => l.ticket == ticket
  | _ => none

/-- The URL whose worker gives its place back in a move. -/
def Episode.left? (x : Episode) : Option CanonicalUrl :=
  x.leaver?.bind fun l => if l.owesStop then none else some l.url

def handedOf (episodes : List Episode) : List CanonicalUrl := episodes.filterMap Episode.handed?

def endedOf (episodes : List Episode) : List CanonicalUrl := episodes.filterMap Episode.ended?

def leftOf (episodes : List Episode) : List CanonicalUrl := episodes.filterMap Episode.left?

/-- The URLs that a run has handed to workers are the first ones of its queue, in their order. Those
whose workers have not ended are in work, those whose workers have ended and not left are about to
leave, and there is room for all of them. -/
structure Run.Hands (plan : Plan) (queue : List FrontierEntry) (episodes : List Episode) (r : Run) :
    Prop where
  handed : handedOf episodes = (queue.take r.handed).map (·.url)
  ended : (endedOf episodes ++ r.workers.map (·.url)).Perm (handedOf episodes)
  left : (leftOf episodes ++ r.leaving.map (·.url)).Perm (endedOf episodes)
  size : r.places.size = max plan.workers 1
  room : r.places.held.length ≤ r.places.size

variable {plan : Plan} {around : Surroundings} {frontier queue : List FrontierEntry}
  {before : ProgressStore} {a b r : Run} {episodes front back : List Episode} {x : Episode}
  {w w' : Worker} {others : List Worker}

theorem handedOf_concat (episodes : List Episode) (x : Episode) :
    handedOf (episodes ++ [x]) = handedOf episodes ++ x.handed?.toList := filterMap_concat _ _ _

theorem handedOf_still (episodes : List Episode) (h : x.handed? = none) :
    handedOf (episodes ++ [x]) = handedOf episodes := by
  rw [handedOf_concat, h, Option.toList_none, List.append_nil]

theorem handedOf_append (front back : List Episode) :
    handedOf (front ++ back) = handedOf front ++ handedOf back := List.filterMap_append

theorem endedOf_concat (episodes : List Episode) (x : Episode) :
    endedOf (episodes ++ [x]) = endedOf episodes ++ x.ended?.toList := filterMap_concat _ _ _

theorem endedOf_still (episodes : List Episode) (h : x.ended? = none) :
    endedOf (episodes ++ [x]) = endedOf episodes := by
  rw [endedOf_concat, h, Option.toList_none, List.append_nil]

theorem leftOf_concat (episodes : List Episode) (x : Episode) :
    leftOf (episodes ++ [x]) = leftOf episodes ++ x.left?.toList := filterMap_concat _ _ _

theorem leftOf_still (episodes : List Episode) (h : x.left? = none) :
    leftOf (episodes ++ [x]) = leftOf episodes := by
  rw [leftOf_concat, h, Option.toList_none, List.append_nil]

theorem handed_of_same (h : x.after.handed = x.before.handed) : x.handed? = none := by
  rw [Episode.handed?, h, if_neg (Nat.lt_irrefl _)]

theorem ended_of_still (h : x.move.isWork = false) : x.ended? = none := by
  rw [Episode.ended?, worker_of_still h]
  rfl

theorem handed_of_handOut (a : Run) (move : Move) (entry : FrontierEntry) (rest : List FrontierEntry)
    (later : List (List FrontierEntry)) :
    (Episode.mk a move (a.handOut entry rest later)).handed? = some entry.url := by
  simp [Episode.handed?, Run.handOut, Worker.start]

/-- A worker that goes on is not at its end. -/
theorem ended_of_goOn (hworker : x.worker? = some w) (hticket : w'.ticket = w.ticket)
    (hafter : w' ∈ x.after.workers) : x.ended? = none := by
  rw [Episode.ended?, hworker, Option.bind_some, if_pos ⟨w', hafter, hticket⟩]

theorem ended_of_finish (hworker : x.worker? = some w)
    (hafter : ∀ v ∈ x.after.workers, v.ticket ≠ w.ticket) : x.ended? = some w.url := by
  rw [Episode.ended?, hworker, Option.bind_some, if_neg fun ⟨v, hv, he⟩ => hafter v hv he]

theorem others_of_perm (hsound : a.Sound around frontier queue before)
    (hp : a.workers.Perm (w :: others)) : ∀ v ∈ others, v.ticket ≠ w.ticket := by
  have hn := (List.nodup_cons.mp ((hp.map (·.ticket)).nodup_iff.mp hsound.tickets)).1
  exact fun v hv he => hn (List.mem_map.mpr ⟨v, hv, he⟩)

theorem left_of_still (h : ∀ ticket, x.move ≠ .leave ticket) : x.left? = none := by
  unfold Episode.left? Episode.leaver?
  split
  · next hm => exact absurd hm (h _)
  · rfl

/-- A leaver is one of those that hold a place and have no URL in work. -/
theorem leave_episode {ticket : Nat} (made : a.step plan around (.leave ticket) = some b) :
    ∃ l others, a.leaving.Perm (l :: others) ∧
      (Episode.mk a (.leave ticket) b).leaver? = some l ∧ l.ticket = ticket ∧
      ((l.owesStop = true ∧ b = a.pay ticket) ∨ (l.owesStop = false ∧ b = a.release l others)) := by
  obtain ⟨l, others, hp, hl, hcase⟩ := leave_cases made
  exact ⟨l, others, hp, hl, by simpa using List.find?_some hl, hcase⟩

theorem hands_start (diff cancelled : Bool) (frontier : List FrontierEntry) (files : Files)
    (store : ProgressStore) :
    (Run.start plan diff cancelled frontier files store).Hands plan
      (queueOf diff store.snapshot frontier) [] :=
  ⟨rfl, .nil, .nil, rfl, Nat.zero_le _⟩

theorem Run.Hands.still (h : a.Hands plan queue episodes) (hhanded : b.handed = a.handed)
    (hworkers : b.workers = a.workers)
    (hleaving : b.leaving.map (·.url) = a.leaving.map (·.url)) (hplaces : b.places = a.places)
    (hnone : x.handed? = none) (hnobody : x.ended? = none) (hleft : x.left? = none) :
    b.Hands plan queue (episodes ++ [x]) := by
  constructor
  case handed => rw [handedOf_still episodes hnone, hhanded, h.handed]
  case ended =>
    rw [handedOf_still episodes hnone, endedOf_still episodes hnobody, hworkers]
    exact h.ended
  case left =>
    rw [leftOf_still episodes hleft, endedOf_still episodes hnobody, hleaving]
    exact h.left
  case size => rw [hplaces, h.size]
  case room => rw [hplaces]; exact h.room

theorem Run.Hands.handOut (h : a.Hands plan queue episodes)
    (hsound : a.Sound around frontier queue before) {entry : FrontierEntry}
    {rest : List FrontierEntry} {later : List (List FrontierEntry)}
    (hphase : a.phase = .admitting (entry :: rest) later) (hroom : a.places.held.length < a.places.size) :
    (a.handOut entry rest later).Hands plan queue
      (episodes ++ [⟨a, .coordinate, a.handOut entry rest later⟩]) := by
  have hx := handed_of_handOut a .coordinate entry rest later
  have hnobody := ended_of_still (x := ⟨a, .coordinate, a.handOut entry rest later⟩) rfl
  have hleft := left_of_still (x := ⟨a, .coordinate, a.handOut entry rest later⟩) (by simp)
  constructor
  case handed =>
    rw [handedOf_concat, hx, h.handed, Run.handOut, (hsound.next hphase).2.1, List.map_append]
    rfl
  case ended =>
    rw [handedOf_concat, hx, endedOf_still episodes hnobody, Run.handOut, List.map_append,
      ← List.append_assoc]
    exact h.ended.append_right _
  case left =>
    rw [leftOf_still episodes hleft, endedOf_still episodes hnobody]
    exact h.left
  case size => exact h.size
  case room =>
    simp only [Run.handOut, List.length_append]
    exact hroom

theorem Run.Hands.work (h : a.Hands plan queue episodes)
    (hsound : a.Sound around frontier queue before) {ticket : Nat} {heed : Bool}
    (made : a.step plan around (.work ticket heed) = some b) :
    b.Hands plan queue (episodes ++ [⟨a, .work ticket heed, b⟩]) := by
  obtain ⟨w, others, shared, hp, hworker, ⟨w', hdeed, rfl⟩ | ⟨e, hdeed, rfl⟩⟩ :=
    work_episode hsound made
  · obtain ⟨hurl, hticket, -⟩ := deed_store hdeed
    have hx := handed_of_same (x := ⟨a, .work ticket heed, a.goOn shared others w'⟩) rfl
    have hnobody := ended_of_goOn hworker hticket
      (List.mem_append_right _ (List.mem_singleton_self w'))
    have hleft := left_of_still (x := ⟨a, .work ticket heed, a.goOn shared others w'⟩) (by simp)
    constructor
    case handed => rw [handedOf_still episodes hx]; exact h.handed
    case ended =>
      rw [handedOf_still episodes hx, endedOf_still episodes hnobody]
      exact ((urls_goOn hp hurl).append_left _).trans h.ended
    case left =>
      rw [leftOf_still episodes hleft, endedOf_still episodes hnobody]
      exact h.left
    case size => exact h.size
    case room => exact h.room
  · have hx := handed_of_same (x := ⟨a, .work ticket heed, a.finish shared others w e⟩) rfl
    have hend := ended_of_finish (x := ⟨a, .work ticket heed, a.finish shared others w e⟩) hworker
      (others_of_perm hsound hp)
    have hleft := left_of_still (x := ⟨a, .work ticket heed, a.finish shared others w e⟩) (by simp)
    constructor
    case handed => rw [handedOf_still episodes hx]; exact h.handed
    case ended =>
      rw [handedOf_still episodes hx, endedOf_concat, hend, Option.toList_some, List.append_assoc,
        List.singleton_append]
      exact ((hp.map (·.url)).symm.append_left _).trans h.ended
    case left =>
      rw [leftOf_still episodes hleft, endedOf_concat, hend, Option.toList_some, Run.finish,
        List.map_append, ← List.append_assoc]
      exact h.left.append_right _
    case size => exact h.size
    case room => exact h.room

theorem Run.Hands.leave (h : a.Hands plan queue episodes) {ticket : Nat}
    (made : a.step plan around (.leave ticket) = some b) :
    b.Hands plan queue (episodes ++ [⟨a, .leave ticket, b⟩]) := by
  obtain ⟨l, others, hp, hleaver, -, ⟨howes, rfl⟩ | ⟨howes, rfl⟩⟩ := leave_episode made
  · refine h.still rfl rfl ?_ rfl (handed_of_same rfl) (ended_of_still rfl) ?_
    · exact map_paid (·.url) (fun _ => rfl) a.leaving ticket
    · rw [Episode.left?, hleaver, Option.bind_some, if_pos howes]
  · have hx := handed_of_same (x := ⟨a, .leave ticket, a.release l others⟩) rfl
    have hnobody := ended_of_still (x := ⟨a, .leave ticket, a.release l others⟩) rfl
    have hleft : (Episode.mk a (.leave ticket) (a.release l others)).left? = some l.url := by
      rw [Episode.left?, hleaver, Option.bind_some, if_neg (Bool.eq_false_iff.mp howes)]
    constructor
    case handed => rw [handedOf_still episodes hx]; exact h.handed
    case ended => rw [handedOf_still episodes hx, endedOf_still episodes hnobody]; exact h.ended
    case left =>
      rw [leftOf_concat, hleft, endedOf_still episodes hnobody, Option.toList_some, List.append_assoc,
        List.singleton_append]
      exact ((hp.map (·.url)).symm.append_left _).trans h.left
    case size => exact h.size
    case room => exact (List.length_erase_le).trans h.room

/-- All that are in work, and those that are about to leave, have room. -/
theorem Run.Hands.busy (h : r.Hands plan queue episodes) (hsound : r.Sound around frontier queue before) :
    r.workers.length + r.leaving.length ≤ max plan.workers 1 := by
  have hlength := hsound.seats.held.length_eq
  rw [Run.tickets, List.length_append, List.length_map, List.length_map] at hlength
  rw [← hlength, ← h.size]
  exact h.room

theorem hands_of_story {diff cancelled : Bool} {files : Files} {store : ProgressStore}
    (hp : 0 < plan.batchSize)
    (h : (Run.start plan diff cancelled frontier files store).Story plan around episodes r) :
    r.Hands plan (queueOf diff store.snapshot frontier) episodes := by
  refine h.invariant (P := fun episodes r => r.Hands plan (queueOf diff store.snapshot frontier)
    episodes) (hands_start diff cancelled frontier files store) ?_
  intro episodes a b move story hhands made
  have hsound := sound_of_reaches hp (reaches_of_story story)
  cases move with
  | coordinate =>
    rcases coordinate_hands made with ⟨hq, hleaving, hplaces⟩ | ⟨entry, rest, later, phase, -, room, rfl⟩
    · exact hhands.still hq.handed hq.workers (congrArg _ hleaving) hplaces (handed_of_same hq.handed)
        (ended_of_still rfl) (left_of_still (by simp))
    · exact hhands.handOut hsound phase room
  | work ticket heed => exact hhands.work hsound made
  | leave ticket => exact hhands.leave made
  | stop =>
    obtain ⟨-, -, rfl⟩ := stop_made made
    exact hhands.still rfl rfl rfl rfl (handed_of_same rfl) (ended_of_still rfl)
      (left_of_still (by simp))
  | wait time =>
    obtain ⟨-, rfl⟩ := wait_made made
    exact hhands.still rfl rfl rfl rfl (handed_of_same rfl) (ended_of_still rfl)
      (left_of_still (by simp))

end Archiver
