import Archiver.Archive.Document
import Archiver.Fetch.State
import Archiver.Harvest.Plan

namespace Archiver

/-- What the workers of a run share: the clock, the wish to stop, the pace, the requests made so
far, the files, the store and how many records it was given. -/
structure Shared where
  now : Nat
  cancelled : Bool
  pacer : Pacer
  requests : List Request
  files : Files
  store : ProgressStore
  appends : Nat

/-- Where a worker stands between two of its steps. -/
inductive WorkerPhase where
  /-- Has its URL, and has done nothing yet. -/
  | ready
  /-- Waits for its time to make a request. -/
  | pacing (due : Nat)
  /-- Waits for the answer. -/
  | fetching (due : Nat) (response : Response)
  /-- Waits before it tries again. -/
  | backingOff (due : Nat) (reply : Reply)
  /-- Has the last answer there will be. -/
  | settling (reply : Reply)
  /-- Has its record to append. -/
  | recording (record : ProgressRecord) (method : Option String)

/-- One URL in work; its ticket tells in which order the URLs of a run were handed out. -/
structure Worker where
  ticket : Nat
  url : CanonicalUrl
  state : FetchState
  retries : Nat
  phase : WorkerPhase

def Worker.start (ticket : Nat) (url : CanonicalUrl) : Worker := ⟨ticket, url, .pending, 0, .ready⟩

/-- How a worker ends. -/
inductive WorkerEnd where
  | recorded (outcome : Outcome)
  | logFailed
  | illegal (move : IllegalMove)
  | lost
deriving DecidableEq

/-- The outcome of a URL, its error text, and the method that took the article from its page. -/
structure Verdict where
  outcome : Outcome
  error : Option String
  method : Option String
deriving DecidableEq

/-- Judges the last answer for a URL. A page is a success once its article is in the archive. -/
def judge (plan : Plan) (captured : Timestamp) (url : CanonicalUrl) (reply : Reply) (files : Files) :
    Verdict × Files :=
  match reply with
  | .page _ body =>
    let e := extractPage plan.leastContent url body.toList
    match e.stage with
    | none => (⟨.failure, some "extraction exhausted", none⟩, files)
    | some stage =>
      match files.archive plan.archiveRoot e captured with
      | .error cause => (⟨.failure, some cause.message, some stage.name⟩, cause.left)
      | .ok files => (⟨.success, none, some stage.name⟩, files)
  | reply =>
    (⟨if reply.isGone then .skipped else .failure, some reply.describe, none⟩, files)

def Outcome.state : Outcome → FetchState
  | .success => .success
  | .failure => .failed
  | .skipped => .skipped

/-- Takes the next free time for a request. -/
def Worker.attempt (w : Worker) (s : Shared) : Shared × Except WorkerEnd Worker :=
  match w.state.become .fetching with
  | .error move => (s, .error (.illegal move))
  | .ok state =>
    let (slot, pacer) := s.pacer.reserve s.now
    ({ s with pacer := pacer }, .ok { w with state := state, phase := .pacing slot })

def Worker.request (w : Worker) (site : Site) (s : Shared) : Shared × Except WorkerEnd Worker :=
  let response := site s.requests w.url.text
  ({ s with
      requests := ⟨w.url.text, s.now⟩ :: s.requests
      cancelled := s.cancelled || response.stops },
    .ok { w with phase := .fetching (s.now + response.latency) response })

/-- True if the answer is the last one: a page, a page that is gone, or no try is left. -/
def Worker.isLast (w : Worker) (policy : RetryPolicy) (reply : Reply) : Bool :=
  reply.isPage || reply.isGone || !policy.allows w.retries

/-- Takes an answer. Before another try there is a wait, which a stop cuts short; where the stop and
the end of the wait meet, `heed` tells that the stop is seen first. -/
def Worker.receive (w : Worker) (policy : RetryPolicy) (heed : Bool) (s : Shared)
    (response : Response) : Except WorkerEnd Worker :=
  if response.losesWorker then .error .lost
  else if w.isLast policy response.reply then .ok { w with phase := .settling response.reply }
  else
    match w.state.become .retrying with
    | .error move => .error (.illegal move)
    | .ok state =>
      match (policy.wait? w.retries).map millisOfWait with
      | none => .error .lost
      | some wait =>
        if s.cancelled && (heed || 0 < wait) then
          .ok { w with state := state, phase := .settling response.reply }
        else .ok { w with state := state, phase := .backingOff (s.now + wait) response.reply }

/-- Ends the wait before another try. -/
def Worker.wake (w : Worker) (heed : Bool) (s : Shared) (due : Nat) (reply : Reply) :
    Option (Shared × Except WorkerEnd Worker) :=
  if s.cancelled && (heed || s.now < due) then some (s, .ok { w with phase := .settling reply })
  else if due ≤ s.now then some ({ w with retries := w.retries + 1 }.attempt s)
  else none

/-- Archives what the last answer brought, and writes the record of it. -/
def Worker.settle (w : Worker) (plan : Plan) (start : Timestamp) (s : Shared) (reply : Reply) :
    Shared × Except WorkerEnd Worker :=
  let time := start.afterMillis s.now
  let (verdict, files) := judge plan time w.url reply s.files
  match w.state.become verdict.outcome.state with
  | .error move => ({ s with files := files }, .error (.illegal move))
  | .ok state =>
    let record := ⟨w.url, verdict.outcome, time, UInt32.ofNat w.retries, verdict.error⟩
    ({ s with files := files },
      .ok { w with state := state, phase := .recording record verdict.method })

/-- Appends the record. -/
def Shared.append (s : Shared) (plan : Plan) (logFault : LogUse → Option LogFault)
    (record : ProgressRecord) (method : Option String) : Shared × Except WorkerEnd Worker :=
  let (store, held) := s.store.append (logFault (.append s.appends)) plan.saveInterval record method
  ({ s with store := store, appends := s.appends + 1 },
    .error (if held then .recorded record.outcome else .logFailed))

/-- The next step of a worker, unless it has to wait. -/
def Worker.step (w : Worker) (plan : Plan) (around : Surroundings) (heed : Bool) (s : Shared) :
    Option (Shared × Except WorkerEnd Worker) :=
  match w.phase with
  | .ready => some (w.attempt s)
  | .pacing due => if due ≤ s.now then some (w.request around.site s) else none
  | .fetching due response =>
    if due ≤ s.now then some (s, w.receive plan.policy heed s response) else none
  | .backingOff due reply => w.wake heed s due reply
  | .settling reply => some (w.settle plan around.start s reply)
  | .recording record method => some (s.append plan around.logFault record method)

/-- True if a worker does not have to wait. -/
def Worker.isReady (w : Worker) (s : Shared) : Bool :=
  match w.phase with
  | .pacing due | .fetching due _ => due ≤ s.now
  | .backingOff due _ => s.cancelled || due ≤ s.now
  | _ => true

/-- The time that a worker waits for. -/
def Worker.due? (w : Worker) : Option Nat :=
  match w.phase with
  | .pacing due | .fetching due _ | .backingOff due _ => some due
  | _ => none

end Archiver
