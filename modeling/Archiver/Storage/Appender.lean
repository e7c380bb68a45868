import Archiver.Text.Utf8

namespace Archiver

/-- A file that is only appended to, through a buffer: the bytes on disk and those held back. -/
structure Appender where
  disk : List UInt8
  held : List UInt8
deriving DecidableEq, Inhabited

def bufferSize : Nat := 8192

/-- Everything appended so far. -/
def Appender.written (a : Appender) : List UInt8 := a.disk ++ a.held

def Appender.flush (a : Appender) : Appender := ⟨a.disk ++ a.held, []⟩

/-- A flush that fails after so many bytes. -/
def Appender.spill (a : Appender) (count : Nat) : Appender :=
  ⟨a.disk ++ a.held.take count, a.held.drop count⟩

/-- A flush that fails after so many bytes, with a buffer that keeps them to write them again. -/
def Appender.leak (a : Appender) (count : Nat) : Appender := ⟨a.disk ++ a.held.take count, a.held⟩

/-- Makes room in the buffer for one piece, which is never split; a piece as large as the buffer
goes to disk at once. -/
def Appender.append (a : Appender) (piece : List UInt8) : Appender :=
  let room := if bufferSize < a.held.length + piece.length then a.flush else a
  if bufferSize ≤ piece.length then ⟨room.written ++ piece, []⟩
  else ⟨room.disk, room.held ++ piece⟩

def Appender.appendAll (a : Appender) (pieces : List (List UInt8)) : Appender :=
  pieces.foldl Appender.append a

@[simp] theorem written_flush (a : Appender) : a.flush.written = a.written := by
  simp [Appender.flush, Appender.written]

@[simp] theorem written_spill (a : Appender) (count : Nat) : (a.spill count).written = a.written := by
  simp [Appender.spill, Appender.written]

@[simp] theorem written_append (a : Appender) (piece : List UInt8) :
    (a.append piece).written = a.written ++ piece := by
  unfold Appender.append
  by_cases hr : bufferSize < a.held.length + piece.length <;>
    by_cases hp : bufferSize ≤ piece.length <;>
    simp [hr, hp, Appender.flush, Appender.written]

end Archiver
