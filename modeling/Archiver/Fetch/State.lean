namespace Archiver

/-- Where one address stands on its way from the queue to a record. -/
inductive FetchState where
  | pending
  | fetching
  | retrying
  | success
  | skipped
  | failed
deriving DecidableEq

def FetchState.all : List FetchState := [.pending, .fetching, .retrying, .success, .skipped, .failed]

def FetchState.name : FetchState → String
  | .pending => "pending"
  | .fetching => "fetching"
  | .retrying => "retrying"
  | .success => "success"
  | .skipped => "skipped"
  | .failed => "failed"

def FetchState.title : FetchState → String
  | .pending => "Pending"
  | .fetching => "Fetching"
  | .retrying => "Retrying"
  | .success => "Success"
  | .skipped => "Skipped"
  | .failed => "Failed"

/-- No move leaves a terminal state. -/
def FetchState.isTerminal : FetchState → Bool
  | .success | .skipped | .failed => true
  | _ => false

def FetchState.canBecome : FetchState → FetchState → Bool
  | .pending, .fetching => true
  | .fetching, .success | .fetching, .retrying | .fetching, .skipped | .fetching, .failed => true
  | .retrying, .fetching | .retrying, .failed => true
  | _, _ => false

/-- A move that the life of an address does not have. -/
structure IllegalMove where
  source : FetchState
  target : FetchState
deriving DecidableEq

def IllegalMove.message (m : IllegalMove) : String :=
  "Invalid state transition: " ++ m.source.title ++ " -> " ++ m.target.title

def FetchState.become (s t : FetchState) : Except IllegalMove FetchState :=
  if s.canBecome t then .ok t else .error ⟨s, t⟩

end Archiver
