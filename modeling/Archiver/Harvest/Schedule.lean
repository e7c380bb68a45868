import Archiver.Harvest.Run

namespace Archiver

/-- The time that the coordinator waits for. -/
def RunPhase.due? : RunPhase → Option Nat
  | .checking due _ _ _ | .resting due _ => some due
  | _ => none

/-- The time of the stop that is still to come. -/
def Run.stopDue? (r : Run) (around : Surroundings) : Option Nat :=
  if r.stopped then none else around.stopAt

/-- The next time at which anything that waits goes on. -/
def Run.nextTime? (r : Run) (around : Surroundings) : Option Nat :=
  let dues := r.phase.due?.toList ++ (r.stopDue? around).toList ++ r.workers.filterMap Worker.due?
  (dues.filter fun due => r.shared.now < due).min?

/-- The moves that need not wait, the coordinator's aside: a stop whose time has come, then the
workers in the order in which they began to wait, each of which leaves at once when it is done. -/
def Run.readyMoves (r : Run) (around : Surroundings) : List Move :=
  (if (r.stop around).isSome then [Move.stop] else []) ++
    (r.workers.filter fun w => w.isReady r.shared).flatMap fun w =>
      [.work w.ticket true, .leave w.ticket]

/-- Runs on one thread with the clock of the surroundings: who is on turn goes on until it has to
wait; then come all that are ready, then the coordinator, and only then passes time. -/
def Run.drive (plan : Plan) (around : Surroundings) : Nat → List Move → Run → Run
  | 0, _, r => r
  | fuel + 1, move :: turns, r =>
    match r.step plan around move with
    | some r => Run.drive plan around fuel (move :: turns) r
    | none => Run.drive plan around fuel turns r
  | fuel + 1, [], r =>
    match r.readyMoves around with
    | move :: turns => Run.drive plan around fuel (move :: turns) r
    | [] =>
      match r.coordinate plan around with
      | some r => Run.drive plan around fuel [.coordinate] r
      | none =>
        match r.phase, (r.nextTime? around).bind r.wait with
        | .ended _, _ => r
        | _, none => r
        | _, some r => Run.drive plan around fuel [.coordinate] r

/-- More moves and turns than a run over so many URLs can take. -/
def Plan.fuel (plan : Plan) (count : Nat) : Nat :=
  100 * (count + 1) * (plan.policy.maxRetries.toNat + 3)

/-- Harvests a frontier. -/
def harvest (plan : Plan) (around : Surroundings) (diff cancelled : Bool)
    (frontier : List FrontierEntry) (files : Files) (store : ProgressStore) : Run :=
  Run.drive plan around (plan.fuel frontier.length) [.coordinate]
    (.start plan diff cancelled frontier files store)

/-- How the session of a configuration is checked. -/
def SessionCheck.of (config : Config) : Except ConfigError SessionCheck :=
  match config.session with
  | none => .ok .notNeeded
  | some session =>
    match SessionProbe.of? session.probeUrl session.marker with
    | none => .error (.marker session.marker)
    | some p => .ok (.probe p)

end Archiver
