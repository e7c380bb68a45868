import Archiver.Discovery.Frontier
import Archiver.Fetch.Pool
import Archiver.Harvest.Worker
import Archiver.Progress.Statistics

namespace Archiver

/-- How a run ended that the log could record. -/
inductive RunOutcome where
  | completed
  | cancelled
  | sessionExpired (batch : Nat)
deriving DecidableEq

/-- Why a run was given up. -/
inductive HarvestError where
  | logFailed
  | illegal (move : IllegalMove)
  | workerLost
deriving DecidableEq

/-- What the URLs of a batch came to. -/
structure Tally where
  attempted : Nat
  succeeded : Nat
  failed : Nat
  skipped : Nat
deriving DecidableEq

def Tally.zero : Tally := ⟨0, 0, 0, 0⟩

def Tally.count (t : Tally) : Outcome → Tally
  | .success => { t with attempted := t.attempted + 1, succeeded := t.succeeded + 1 }
  | .failure => { t with attempted := t.attempted + 1, failed := t.failed + 1 }
  | .skipped => { t with attempted := t.attempted + 1, skipped := t.skipped + 1 }

/-- What a run came to. -/
structure Report where
  frontierSize : Nat
  alreadyDone : Nat
  attempted : Nat
  succeeded : Nat
  failed : Nat
  skipped : Nat
  batches : Nat
deriving DecidableEq

def Report.rate (r : Report) : Float := successRate r.succeeded r.attempted

/-- Adds a batch whose URLs have all ended. -/
def Report.absorb (r : Report) (t : Tally) : Report :=
  { r with
    attempted := r.attempted + t.attempted
    succeeded := r.succeeded + t.succeeded
    failed := r.failed + t.failed
    skipped := r.skipped + t.skipped
    batches := r.batches + 1 }

/-- Where the coordinator of a run stands; `later` holds the batches still to come. -/
inductive RunPhase where
  /-- Before the next batch. -/
  | opening (later : List (List FrontierEntry))
  /-- Waits to learn whether the session is valid. -/
  | checking (due : Nat) (valid : Bool) (batch : List FrontierEntry)
      (later : List (List FrontierEntry))
  /-- Hands the URLs of a batch to workers. -/
  | admitting (batch : List FrontierEntry) (later : List (List FrontierEntry))
  /-- Waits for the workers of a batch to end. -/
  | joining (later : List (List FrontierEntry))
  /-- Rests between two batches. -/
  | resting (due : Nat) (later : List (List FrontierEntry))
  /-- Has the log to bring to disk. -/
  | closing (outcome : RunOutcome)
  | ended (result : Except HarvestError RunOutcome)

/-- A worker that is done with its URL and still holds its place. One that could not append its
record asks for a stop before it goes. -/
structure Leaver where
  ticket : Nat
  url : CanonicalUrl
  how : WorkerEnd
  owesStop : Bool
deriving DecidableEq

def Worker.leaver (w : Worker) (how : WorkerEnd) : Leaver := ⟨w.ticket, w.url, how, how == .logFailed⟩

def Leaver.paid (l : Leaver) : Leaver := { l with owesStop := false }

/-- A run at one moment; the places are held by the tickets of those in work. Workers stand in the
order in which they began to wait, ended ones in the order in which they gave their places back. -/
structure Run where
  shared : Shared
  phase : RunPhase
  handed : Nat
  places : Pool Nat
  workers : List Worker
  leaving : List Leaver
  finished : List WorkerEnd
  tally : Tally
  failure : Option HarvestError
  report : Report
  checks : Nat
  stopped : Bool

/-- Cuts a list into pieces of one size. -/
def cutAll {α : Type} (size : Nat) : Nat → List α → List (List α)
  | 0, _ => []
  | _, [] => []
  | fuel + 1, a :: rest => ((a :: rest).take size) :: cutAll size fuel ((a :: rest).drop size)

def batchesOf {α : Type} (size : Nat) (queue : List α) : List (List α) :=
  cutAll size queue.length queue

/-- The entries that are still to be harvested. -/
def queueOf (diff : Bool) (s : Snapshot) (frontier : List FrontierEntry) : List FrontierEntry :=
  frontier.filter fun e => !(diff && s.isDone e.url)

def Run.start (plan : Plan) (diff cancelled : Bool) (frontier : List FrontierEntry) (files : Files)
    (store : ProgressStore) : Run :=
  let queue := queueOf diff store.snapshot frontier
  { shared := ⟨0, cancelled, .start plan.interval, [], files, store, 0⟩
    phase := .opening (batchesOf plan.batchSize queue)
    handed := 0
    places := .ofSize plan.workers
    workers := []
    leaving := []
    finished := []
    tally := .zero
    failure := none
    report := ⟨frontier.length, frontier.length - queue.length, 0, 0, 0, 0, 0⟩
    checks := 0
    stopped := false }

def Run.cancel (r : Run) : Run := { r with shared := { r.shared with cancelled := true } }

/-- Asks whether the session is valid. -/
def Run.check (r : Run) (around : Surroundings) (batch : List FrontierEntry)
    (later : List (List FrontierEntry)) : Run :=
  match around.session with
  | .notNeeded => { r with phase := .checking r.shared.now true batch later }
  | .answers valid =>
    { r with
      checks := r.checks + 1
      phase := .checking r.shared.now (valid r.checks) batch later }
  | .probe probe =>
    let response := around.site r.shared.requests probe.url
    { r with
      shared := { r.shared with
        requests := ⟨probe.url, r.shared.now⟩ :: r.shared.requests
        cancelled := r.shared.cancelled || response.stops }
      checks := r.checks + 1
      phase := .checking (r.shared.now + response.latency) (probe.accepts response.reply) batch later }

/-- Takes note of a worker's end. One that is not a record stops the run. -/
def Run.join (r : Run) : WorkerEnd → Run
  | .recorded outcome => { r with tally := r.tally.count outcome }
  | .logFailed => { r.cancel with failure := r.failure.or (some .logFailed) }
  | .illegal move => { r.cancel with failure := r.failure.or (some (.illegal move)) }
  | .lost => { r.cancel with failure := r.failure.or (some .workerLost) }

/-- Ends a batch all of whose workers have ended. -/
def Run.closeBatch (r : Run) (plan : Plan) (around : Surroundings)
    (later : List (List FrontierEntry)) : Run :=
  match r.failure with
  | some e => { r with phase := .ended (.error e) }
  | none =>
    let (store, held) := if 0 < plan.saveInterval then
        r.shared.store.tryCheckpointIfDue (around.flushFault r.report.batches) plan.saveInterval
      else (r.shared.store, true)
    let r := { r with shared := { r.shared with store := store } }
    if !held then { r with phase := .ended (.error .logFailed) }
    else
      let r := { r with report := r.report.absorb r.tally, tally := .zero }
      if r.shared.cancelled then { r with phase := .closing .cancelled }
      else if !later.isEmpty && 0 < plan.batchDelay then
        { r with phase := .resting (r.shared.now + plan.batchDelay) later }
      else { r with phase := .opening later }

/-- Brings the log to disk at the end of a run. -/
def Run.close (r : Run) (around : Surroundings) (outcome : RunOutcome) : Run :=
  let (store, held) := r.shared.store.tryCheckpoint (around.flushFault r.report.batches)
  { r with
    shared := { r.shared with store := store }
    phase := .ended (if held then .ok outcome else .error .logFailed) }

/-- The next step of the coordinator, unless it has to wait or the run has ended. -/
def Run.coordinate (r : Run) (plan : Plan) (around : Surroundings) : Option Run :=
  match r.phase with
  | .opening [] => some { r with phase := .closing .completed }
  | .opening (batch :: later) =>
    if r.shared.cancelled then some { r with phase := .closing .cancelled }
    else some (r.check around batch later)
  | .checking due valid batch later =>
    if r.shared.now < due then none
    else if valid then some { r with phase := .admitting batch later }
    else some { r.cancel with phase := .closing (.sessionExpired (r.report.batches + 1)) }
  | .admitting [] later => some { r with phase := .joining later }
  | .admitting (entry :: rest) later =>
    if r.shared.cancelled then some { r with phase := .joining later }
    else
      (r.places.admit? r.handed).map fun places =>
        { r with
          phase := .admitting rest later
          handed := r.handed + 1
          places := places
          workers := r.workers ++ [.start r.handed entry.url] }
  | .joining later =>
    match r.finished with
    | last :: rest => some ({ r with finished := rest }.join last)
    | [] =>
      if r.workers.isEmpty && r.leaving.isEmpty then some (r.closeBatch plan around later) else none
  | .resting due later =>
    if r.shared.cancelled || due ≤ r.shared.now then some { r with phase := .opening later }
    else none
  | .closing outcome => some (r.close around outcome)
  | .ended _ => none

/-- The next step of the worker with a ticket. -/
def Run.work (r : Run) (plan : Plan) (around : Surroundings) (ticket : Nat) (heed : Bool) :
    Option Run :=
  match r.workers.find? fun w => w.ticket == ticket with
  | none => none
  | some w =>
    let others := r.workers.filter fun w => w.ticket != ticket
    match w.step plan around heed r.shared with
    | none => none
    | some (shared, .ok w') => some { r with shared := shared, workers := others ++ [w'] }
    | some (shared, .error e) =>
      some { r with shared := shared, workers := others, leaving := r.leaving ++ [w.leaver e] }

/-- The next step of the leaver with a ticket: the stop it owes, and then it gives its place back. -/
def Run.leave (r : Run) (ticket : Nat) : Option Run :=
  match r.leaving.find? fun l => l.ticket == ticket with
  | none => none
  | some l =>
    if l.owesStop then
      some { r.cancel with
        leaving := r.leaving.map fun l => if l.ticket == ticket then l.paid else l }
    else
      some { r with
        places := r.places.release ticket
        leaving := r.leaving.eraseP fun l => l.ticket == ticket
        finished := r.finished ++ [l.how] }

/-- The stop that the surroundings hold, once its time has come. -/
def Run.stop (r : Run) (around : Surroundings) : Option Run :=
  match around.stopAt with
  | none => none
  | some time =>
    if time ≤ r.shared.now && !r.stopped then some { r.cancel with stopped := true } else none

/-- Lets time pass. -/
def Run.wait (r : Run) (time : Nat) : Option Run :=
  if r.shared.now < time then some { r with shared := { r.shared with now := time } } else none

/-- What may happen next in a run. A move is one use of what those in work share, be it the pace, the
site, the archive, the store, the wish to stop or the places, with all that its party does by itself
until the next such use. The moves of two parties may come in any order even where a party does not
wait between its own, as on several threads; only a look at the wish to stop goes with the step that
it allows. -/
inductive Move where
  | coordinate
  | work (ticket : Nat) (heed : Bool)
  | leave (ticket : Nat)
  | stop
  | wait (time : Nat)
deriving DecidableEq

/-- Makes a move, if it can be made. The moves of a run in any order are its interleavings. -/
def Run.step (plan : Plan) (around : Surroundings) (r : Run) : Move → Option Run
  | .coordinate => r.coordinate plan around
  | .work ticket heed => r.work plan around ticket heed
  | .leave ticket => r.leave ticket
  | .stop => r.stop around
  | .wait time => r.wait time

end Archiver
