import Archiver.Progress.Record
import Archiver.Text.Utf8

namespace Archiver

/-- True for the bytes that may stand in a field only between quotes. -/
def needsQuotes (b : UInt8) : Bool := b == 0x22 || b == 0x2C || b == 0x0A || b == 0x0D

def quoteByte (b : UInt8) : List UInt8 := if b == 0x22 then [0x22, 0x22] else [b]

/-- A field of a table row, as the pieces it is written in; a quote inside quotes is doubled. -/
def fieldPieces (field : List UInt8) : List (List UInt8) :=
  if field.any needsQuotes then [0x22] :: (field.map quoteByte ++ [[0x22]])
  else field.map fun b => [b]

/-- A table row: its fields with a comma between them, and a line end. -/
def rowPieces (fields : List (List UInt8)) : List (List UInt8) :=
  [[0x2C]].intercalate (fields.map fieldPieces) ++ [[0x0A]]

def captureHeader : List (List UInt8) :=
  ["url", "outcome", "timestamp", "retries", "method", "error"].map fun s => encodeUtf8 s.toList

/-- The fields of a record, with the method that took the article from its page. -/
def ProgressRecord.fields (r : ProgressRecord) (method : Option String) : List (List UInt8) :=
  [r.url.text.toList, r.outcome.name, r.timestamp.offsetText, r.retries.toNat.repr.toList,
    (method.getD "").toList, (r.error.getD "").toList].map encodeUtf8

end Archiver
