import Archiver.Cli.Command

namespace Archiver

/-- Reads the file at a path into the files of a command, if there is one. -/
def load (files : Files) (path : String) : IO Files := do
  match ← (IO.FS.readBinFile path).toBaseIO with
  | .error _ => return files
  | .ok bytes => return files.place (Path.ofText path) bytes.toList

/-- Reads all that a command line may have to read. -/
def loadAll (arguments : List String) : IO Files := do
  match Invocation.read arguments with
  | .run path _ =>
    let files ← load .empty path
    match Config.load (files.bytes? (Path.ofText path)) with
    | .error _ => return files
    | .ok c => c.paths.foldlM load files
  | _ => return .empty

/-- Writes what is new at a path; a file takes its place in one step. -/
def save (old : Files) (path : Path) (new : Stored) : IO Unit := do
  if old.find? path == some new then return
  match new with
  | .directory => IO.FS.createDirAll path.text
  | .file bytes =>
    IO.FS.writeBinFile path.temporary.text bytes.toByteArray
    IO.FS.rename path.temporary.text path.text

/-- The time at which a new file is made. -/
def clock : IO Timestamp := do
  let (_, path) ← IO.FS.createTempFile
  let time := (← path.metadata).modified
  IO.FS.removeFile path
  return ⟨time.sec, time.nsec.toNat⟩

end Archiver

open Archiver in
/-- Carries out a command line where no site can be reached. -/
def main (arguments : List String) : IO UInt32 := do
  let files ← loadAll arguments
  let result := runCommand arguments deadSite (← clock) files
  for entry in result.files.entries do
    save files entry.1 entry.2
  for line in result.printed do
    IO.println line
  for line in result.complaint.toList do
    IO.eprintln line
  return result.exit.toUInt32
