namespace Archiver

/-- What one request for a page came to. -/
inductive Reply where
  | page (status : Nat) (body : String)
  | refused (status : Nat)
  | unreachable (detail : String)
deriving DecidableEq, Inhabited

/-- A status from 200 to 299 brings the page. -/
def Reply.ofStatus (status : Nat) (body : String) : Reply :=
  if 200 ≤ status && status ≤ 299 then .page status body else .refused status

def Reply.isPage : Reply → Bool
  | .page _ _ => true
  | _ => false

/-- True if the server reports the page as gone for good. -/
def Reply.isGone : Reply → Bool
  | .refused status => status == 404 || status == 410
  | _ => false

def Reply.describe : Reply → String
  | .page status _ => "HTTP " ++ toString status
  | .refused status => "HTTP " ++ toString status
  | .unreachable detail => detail

def Reply.body? : Reply → Option String
  | .page _ body => some body
  | _ => none

end Archiver
