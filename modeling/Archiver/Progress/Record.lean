import Archiver.Json
import Archiver.Timestamp
import Archiver.Url.Canonical

namespace Archiver

/-- How the work on a URL ended. -/
inductive Outcome where
  | success
  | failure
  | skipped
deriving DecidableEq, Inhabited

def Outcome.name : Outcome → List Char
  | .success => "success".toList
  | .failure => "failure".toList
  | .skipped => "skipped".toList

def Outcome.ofName? (s : List Char) : Option Outcome :=
  [Outcome.success, .failure, .skipped].find? fun o => o.name == s

/-- One processed URL, as a line of the progress log holds it. -/
structure ProgressRecord where
  url : CanonicalUrl
  outcome : Outcome
  timestamp : Timestamp
  retries : UInt32
  error : Option String
deriving DecidableEq, Inhabited

def ProgressRecord.isSuccess (r : ProgressRecord) : Bool := r.outcome == .success

def jsonOfError : Option String → List Char
  | none => "null".toList
  | some text => jsonString text.toList

/-- The record as one line of JSON, without the line end. -/
def ProgressRecord.line (r : ProgressRecord) : List Char :=
  "\x7b\"url\":".toList ++ jsonString r.url.text.toList ++
  ",\"outcome\":".toList ++ jsonString r.outcome.name ++
  ",\"timestamp\":".toList ++ jsonString r.timestamp.text ++
  ",\"retries\":".toList ++ r.retries.toNat.repr.toList ++
  ",\"error\":".toList ++ jsonOfError r.error ++ ['}']

def JsonValue.text? : JsonValue → Option (List Char)
  | .string text => text
  | _ => none

/-- An outcome is its name, or an object that gives the name the value null. -/
def Outcome.ofJson? : JsonValue → Option Outcome
  | .string (some name) => Outcome.ofName? name
  | .object [(some name, .null)] => Outcome.ofName? name
  | _ => none

/-- A whole number below 2^32 without a sign, a fraction or an exponent. -/
def retriesOfJson? : JsonValue → Option UInt32
  | .number text =>
    if text.all isAsciiDigit && decimalValue text < 4294967296 then
      some (UInt32.ofNat (decimalValue text))
    else none
  | _ => none

/-- Null is no error text; anything else must be a text. -/
def errorOfJson? : JsonValue → Option (Option String)
  | .null => some none
  | .string (some text) => some (some (String.ofList text))
  | _ => none

def timestampOfJson? (v : JsonValue) : Option Timestamp := v.text?.bind Timestamp.read?

def ProgressRecord.ofFields? (url outcome timestamp retries error : JsonValue) :
    Option ProgressRecord := do
  let url ← url.text?
  let outcome ← Outcome.ofJson? outcome
  let timestamp ← timestampOfJson? timestamp
  let retries ← retriesOfJson? retries
  let error ← errorOfJson? error
  return ⟨⟨String.ofList url⟩, outcome, timestamp, retries, error⟩

/-- The values an object gives a key. -/
def valuesOf (key : String) (members : List (Option (List Char) × JsonValue)) : List JsonValue :=
  (members.filter fun m => m.1 == some key.toList).map (·.2)

/-- An object with the five fields, each once and only the error left out at will, or an array of
their values in order. Other members of an object are passed over. -/
def ProgressRecord.ofJson? : JsonValue → Option ProgressRecord
  | .array [url, outcome, timestamp, retries, error] =>
    ProgressRecord.ofFields? url outcome timestamp retries error
  | .object members =>
    if members.all (·.1.isSome) then
      match valuesOf "url" members, valuesOf "outcome" members, valuesOf "timestamp" members,
          valuesOf "retries" members, valuesOf "error" members with
      | [url], [outcome], [timestamp], [retries], [] =>
        ProgressRecord.ofFields? url outcome timestamp retries .null
      | [url], [outcome], [timestamp], [retries], [error] =>
        ProgressRecord.ofFields? url outcome timestamp retries error
      | _, _, _, _, _ => none
    else none
  | _ => none

/-- Reads one line of the progress log. -/
def ProgressRecord.read? (line : List Char) : Option ProgressRecord :=
  (readJson? line).bind ProgressRecord.ofJson?

end Archiver
