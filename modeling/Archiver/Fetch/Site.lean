import Archiver.Fetch.Pacing
import Archiver.Fetch.Reply
import Archiver.Fetch.Retry

namespace Archiver

/-- One request: its address and the time it starts, in milliseconds. -/
structure Request where
  url : String
  time : Nat
deriving DecidableEq, Inhabited

/-- What a request is answered with, and after how many milliseconds. A stop may be asked for when
the request arrives, and the worker that waits for the answer may be lost. -/
structure Response where
  reply : Reply
  latency : Nat
  stops : Bool
  losesWorker : Bool
deriving DecidableEq, Inhabited

/-- A site answers a request for an address after all requests made before, the newest first. -/
abbrev Site := List Request → String → Response

/-- Answers in an order written down for each page, the last one again and again; a page without
answers fails. -/
def scriptedSite (pages : List (String × List Response)) : Site := fun earlier url =>
  let script := (pages.lookup url).getD []
  let count := earlier.countP fun r => r.url == url
  (script[count]?.or script.getLast?).getD ⟨.refused 500, 0, false, false⟩

/-- Nobody listens at any address. -/
def deadSite : Site := fun _ _ => ⟨.unreachable "Connection refused", 0, false, false⟩

/-- A client that makes one request after another. -/
structure Client where
  now : Nat
  pacer : Pacer
  requests : List Request

def Client.start (interval : Nat) : Client := ⟨0, .start interval, []⟩

/-- Makes a request and waits for its answer. -/
def Client.fetch (c : Client) (site : Site) (url : String) : Client × Reply :=
  let response := site c.requests url
  ({ c with now := c.now + response.latency, requests := ⟨url, c.now⟩ :: c.requests },
    response.reply)

/-- Waits for the next free time of the pacer. -/
def Client.pace (c : Client) : Client :=
  let (slot, pacer) := c.pacer.reserve c.now
  { c with now := slot, pacer := pacer }

def Client.sleep (c : Client) (millis : Nat) : Client := { c with now := c.now + millis }

/-- A page that could not be had. -/
structure Unreachable where
  url : String
  attempts : Nat
  detail : String
deriving DecidableEq

/-- Loads a page, with as many tries more as are left; a page that is gone is not tried again. -/
def Client.tryLoad (site : Site) (policy : RetryPolicy) (url : String) (retries : Nat) :
    Nat → Client → Client × Except Unreachable String
  | left, c =>
    match c.pace.fetch site url with
    | (c, .page _ body) => (c, .ok body)
    | (c, reply) =>
      match left with
      | 0 => (c, .error ⟨url, retries + 1, reply.describe⟩)
      | left + 1 =>
        if reply.isGone then (c, .error ⟨url, retries + 1, reply.describe⟩)
        else tryLoad site policy url (retries + 1) left (c.sleep (policy.waitMillis retries))

def Client.load (site : Site) (policy : RetryPolicy) (c : Client) (url : String) :
    Client × Except Unreachable String :=
  Client.tryLoad site policy url 0 policy.maxRetries.toNat c

end Archiver
