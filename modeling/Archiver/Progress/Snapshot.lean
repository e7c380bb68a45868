import Archiver.Progress.Record
import Archiver.Text.Utf8

namespace Archiver

/-- Takes one more record of its URL: the later one stays, and of two at one time the newer. -/
def remember (records : List ProgressRecord) (r : ProgressRecord) : List ProgressRecord :=
  match records with
  | [] => [r]
  | old :: rest =>
    if old.url = r.url then (if old.timestamp.later r.timestamp then old else r) :: rest
    else old :: remember rest r

/-- The latest record of each URL, and how many lines of the log could not be read. -/
structure Snapshot where
  records : List ProgressRecord
  discarded : Nat
deriving DecidableEq, Inhabited

def Snapshot.empty : Snapshot := ⟨[], 0⟩

def Snapshot.remember (s : Snapshot) (r : ProgressRecord) : Snapshot :=
  { s with records := Archiver.remember s.records r }

def Snapshot.latest? (s : Snapshot) (url : CanonicalUrl) : Option ProgressRecord :=
  s.records.find? fun r => r.url == url

/-- True if the latest record of a URL is a success. -/
def Snapshot.isDone (s : Snapshot) (url : CanonicalUrl) : Bool :=
  (s.latest? url).any ProgressRecord.isSuccess

def Snapshot.size (s : Snapshot) : Nat := s.records.length

/-- How many URLs have which outcome. -/
structure OutcomeCounts where
  success : Nat
  failure : Nat
  skipped : Nat
deriving DecidableEq, Inhabited

def OutcomeCounts.total (c : OutcomeCounts) : Nat := c.success + c.failure + c.skipped

def Snapshot.count (s : Snapshot) (outcome : Outcome) : Nat :=
  s.records.countP fun r => r.outcome == outcome

def Snapshot.counts (s : Snapshot) : OutcomeCounts :=
  ⟨s.count .success, s.count .failure, s.count .skipped⟩

/-- The latest records that are no success, by ascending URL. -/
def Snapshot.unfinished (s : Snapshot) : List ProgressRecord :=
  (s.records.filter fun r => !r.isSuccess).mergeSort fun a b => a.url.text ≤ b.url.text

/-- Takes one line of a log; a blank one is nothing. -/
def Snapshot.readLine (s : Snapshot) (line : List Char) : Snapshot :=
  match trim line with
  | [] => s
  | text =>
    match ProgressRecord.read? text with
    | some r => s.remember r
    | none => { s with discarded := s.discarded + 1 }

def Snapshot.ofText (s : List Char) : Snapshot := (lines s).foldl Snapshot.readLine .empty

/-- Replays a log; bytes that are no text count as replacement characters. -/
def Snapshot.ofLog (bytes : List UInt8) : Snapshot := Snapshot.ofText (decodeUtf8 bytes)

end Archiver
