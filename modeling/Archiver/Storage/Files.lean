import Archiver.Text.Blank
import Archiver.Text.Utf8

namespace Archiver

/-- The names that lead to a file, from the working directory down; a first name `/` starts at the
root instead. -/
abbrev Path := List String

/-- Follows one name from a path: a dot stays, two dots go up. -/
def Path.step (path : Path) (name : String) : Path :=
  if name == "" || name == "." then path
  else if name == ".." then
    match path.getLast? with
    | none | some ".." => path ++ [".."]
    | some "/" => path
    | some _ => path.dropLast
  else path ++ [name]

def Path.ofText (text : String) : Path :=
  let names := (splitAll (· == '/') text.toList).map String.ofList
  names.foldl Path.step (if text.startsWith "/" then ["/"] else [])

/-- A path as it is written; the name `/` at its start is the root. -/
def Path.text : Path → String
  | "/" :: names => "/" ++ String.intercalate "/" names
  | names => String.intercalate "/" names

/-- A file name under a directory; one that starts at the root stands for itself. -/
def joinPath (directory name : String) : String :=
  if name.startsWith "/" then name
  else if directory.isEmpty || directory.endsWith "/" then directory ++ name
  else directory ++ "/" ++ name

/-- What stands at a path. -/
inductive Stored where
  | directory
  | file (bytes : List UInt8)
deriving DecidableEq, Inhabited

/-- A tree of directories and files, in which the working directory always stands. -/
structure Files where
  entries : List (Path × Stored)
deriving Inhabited

def Files.empty : Files := ⟨[]⟩

def Files.find? (f : Files) (path : Path) : Option Stored :=
  if path == [] || path == ["/"] then some .directory else f.entries.lookup path

def Files.isThere (f : Files) (path : Path) : Bool := (f.find? path).isSome

def Files.isDirectory (f : Files) (path : Path) : Bool := f.find? path == some .directory

def Files.bytes? (f : Files) (path : Path) : Option (List UInt8) :=
  match f.find? path with
  | some (.file bytes) => some bytes
  | _ => none

def Files.remove (f : Files) (path : Path) : Files :=
  ⟨f.entries.filter fun e => e.1 != path⟩

def Files.put (f : Files) (path : Path) (stored : Stored) : Files :=
  ⟨(f.remove path).entries ++ [(path, stored)]⟩

/-- A file system takes names of 1 to 255 bytes without the character zero. -/
def isFileName (name : String) : Bool :=
  let size := utf8Length name.toList
  1 ≤ size && size ≤ 255 && !name.toList.contains (Char.ofNat 0)

/-- Makes the directories that lead down from a directory; a file among them is in the way. Where one
cannot be made, those above it are left. -/
def Files.makeBelow (f : Files) (directory : Path) : Path → Except Files Files
  | [] => .ok f
  | name :: rest =>
    let here := directory ++ [name]
    match f.find? here with
    | some (.file _) => .error f
    | some .directory => f.makeBelow here rest
    | none => if isFileName name then (f.put here .directory).makeBelow here rest else .error f

def Files.makeDirectories (f : Files) (path : Path) : Except Files Files := f.makeBelow [] path

/-- Gives a file its bytes; its directory must stand, and it must not be a directory itself. -/
def Files.write (f : Files) (path : Path) (bytes : List UInt8) : Except Files Files :=
  match path.getLast? with
  | none => .error f
  | some name =>
    if f.isDirectory path.dropLast && !f.isDirectory path && isFileName name then
      .ok (f.put path (.file bytes))
    else .error f

/-- The name under which a file is written before it takes its place. -/
def Path.temporary (path : Path) : Path :=
  path.dropLast ++ [path.getLastD "" ++ ".tmp"]

/-- Puts a whole file in its place in one step, with the directories it needs. Where it cannot take
its place, the directories and the temporary file are left. -/
def Files.replace (f : Files) (path : Path) (bytes : List UInt8) : Except Files Files := do
  let made ← f.makeDirectories path.dropLast
  let written ← made.write path.temporary bytes
  ((written.remove path.temporary).write path bytes).mapError fun _ => written

/-- Puts a file where it is to be found, with its directories; one that finds no place is left out. -/
def Files.place (f : Files) (path : Path) (bytes : List UInt8) : Files :=
  ((f.makeDirectories path.dropLast).bind (·.write path bytes)).toOption.getD f

/-- The files below a directory. -/
def Files.below (f : Files) (directory : Path) : List (Path × List UInt8) :=
  f.entries.filterMap fun e =>
    match e.2 with
    | .file bytes => if directory.isPrefixOf e.1 then some (e.1, bytes) else none
    | .directory => none

end Archiver
