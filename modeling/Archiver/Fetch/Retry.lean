import Archiver.Decimal

namespace Archiver

/-- How often a request is tried again, and after which waits. -/
structure RetryPolicy where
  baseMillis : Nat
  multiplier : Float
  maxRetries : UInt32

def RetryPolicy.maxAttempts (p : RetryPolicy) : Nat := min (p.maxRetries.toNat + 1) 4294967295

/-- True if a request that has been retried `retries` times may be tried once more. -/
def RetryPolicy.allows (p : RetryPolicy) (retries : Nat) : Bool := retries < p.maxRetries.toNat

/-- Squares `x` along the binary digits of the exponent, lowest first. -/
def powerFrom (r x : Float) (n : Nat) : Float :=
  if h : n = 0 then r
  else powerFrom (if n % 2 = 1 then r * x else r) (x * x) (n / 2)
termination_by n
decreasing_by omega

/-- `x` to a natural power by repeated squaring. -/
def power (x : Float) (n : Nat) : Float := powerFrom 1.0 x n

/-- The longest wait there is, in nanoseconds: just below 2^64 seconds. -/
def longestWait : Nat := 18446744073709551615999999999

/-- The nanoseconds nearest to a number of seconds, a half to the even neighbour. -/
def nanosOfSeconds (seconds : Float) : Nat :=
  match Dyadic.ofFloat? seconds with
  | none => longestWait
  | some d => roundHalfEven (d.quotient.1 * 1000000000) d.quotient.2

def secondsOfMillis (millis : Nat) : Float :=
  (UInt64.ofNat (millis / 1000)).toFloat + (UInt64.ofNat (millis % 1000 * 1000000)).toFloat / 1e9

/-- The seconds before retry number `retry`: the base times the multiplier to the power `retry`. -/
def RetryPolicy.seconds (p : RetryPolicy) (retry : Nat) : Float :=
  secondsOfMillis p.baseMillis * power p.multiplier (min retry 2147483647)

/-- The nanoseconds before retry number `retry`. A product that is no number or exceeds every wait
counts as the longest; there is no wait below zero. -/
def RetryPolicy.wait? (p : RetryPolicy) (retry : Nat) : Option Nat :=
  let seconds := p.seconds retry
  if seconds.isFinite && seconds < 18446744073709551616.0 then
    if seconds < 0.0 then none else some (nanosOfSeconds seconds)
  else some longestWait

/-- The milliseconds that a wait takes on a clock of whole milliseconds. An end that lies 2^63 seconds
ahead is past all times of the clock, and such a wait lasts thirty years. -/
def millisOfWait (nanos : Nat) : Nat :=
  if 9223372036854775808000000000 ≤ nanos then 946080000000 else (nanos + 999999) / 1000000

/-- The milliseconds before retry number `retry`; a wait that would be below zero is none. -/
def RetryPolicy.waitMillis (p : RetryPolicy) (retry : Nat) : Nat :=
  ((p.wait? retry).map millisOfWait).getD 0

end Archiver
