import Archiver.Text.Blank

namespace Archiver

/-- The switches of the command line. -/
inductive Switch where
  | verbose
  | quiet
  | discoverOnly
  | fromList
  | full
  | dryRun
  | stats
deriving DecidableEq

def Switch.all : List Switch := [.verbose, .quiet, .discoverOnly, .fromList, .full, .dryRun, .stats]

def Switch.long : Switch → String
  | .verbose => "verbose"
  | .quiet => "quiet"
  | .discoverOnly => "discover-only"
  | .fromList => "from-list"
  | .full => "full"
  | .dryRun => "dry-run"
  | .stats => "stats"

def Switch.short? : Switch → Option Char
  | .verbose => some 'v'
  | .quiet => some 'q'
  | _ => none

/-- The pairs of switches that exclude each other. -/
def conflicts : List (Switch × Switch) :=
  [(.quiet, .verbose), (.discoverOnly, .fromList), (.dryRun, .stats), (.dryRun, .discoverOnly),
    (.dryRun, .fromList), (.stats, .discoverOnly), (.stats, .fromList)]

/-- What a command line asks for. -/
structure Arguments where
  config : Option String
  switches : List Switch
deriving DecidableEq, Inhabited

def Arguments.has (a : Arguments) (s : Switch) : Bool := a.switches.contains s

/-- What reading a command line comes to. -/
inductive Invocation where
  | run (config : String) (a : Arguments)
  | help
  | version
  | misuse
deriving DecidableEq

/-- Adds a switch; only the wish for more words may be repeated. -/
def Arguments.addSwitch (a : Arguments) (s : Switch) : Option Arguments :=
  if s != .verbose && a.has s then none else some { a with switches := a.switches ++ [s] }

/-- Adds the path of the configuration, of which there is one. -/
def Arguments.addConfig (a : Arguments) (path : String) : Option Arguments :=
  if a.config.isSome || path.isEmpty then none else some { a with config := some path }

/-- Reads the letters of one argument of short switches. -/
def Arguments.addLetters (a : Arguments) : List Char → Except Invocation Arguments
  | [] => .ok a
  | 'h' :: _ => .error .help
  | 'V' :: _ => .error .version
  | c :: rest =>
    match (Switch.all.find? fun s => s.short? == some c).bind a.addSwitch with
    | none => .error .misuse
    | some a => a.addLetters rest

def Arguments.addLong (a : Arguments) (name : String) : Except Invocation Arguments :=
  if name == "help" then .error .help
  else if name == "version" then .error .version
  else
    match (Switch.all.find? fun s => s.long == name).bind a.addSwitch with
    | none => .error .misuse
    | some a => .ok a

/-- Takes one argument in front of the two hyphens that end the switches. -/
def Arguments.add (a : Arguments) (argument : String) : Except Invocation Arguments :=
  match argument.toList with
  | '-' :: '-' :: name => a.addLong (String.ofList name)
  | '-' :: c :: rest => a.addLetters (c :: rest)
  | _ => (a.addConfig argument).elim (.error .misuse) .ok

def Arguments.addPaths (a : Arguments) : List String → Except Invocation Arguments
  | [] => .ok a
  | path :: rest => (a.addConfig path).elim (.error .misuse) fun a => a.addPaths rest

def Arguments.addAll (a : Arguments) : List String → Except Invocation Arguments
  | [] => .ok a
  | "--" :: rest => a.addPaths rest
  | argument :: rest =>
    match a.add argument with
    | .error e => .error e
    | .ok a => a.addAll rest

/-- Reads a command line. Help and version are given as soon as they are asked for; missing and
conflicting arguments show at the end. -/
def Invocation.read (arguments : List String) : Invocation :=
  match (Arguments.mk none []).addAll arguments with
  | .error e => e
  | .ok a =>
    match a.config with
    | none => .misuse
    | some config =>
      if conflicts.any fun c => a.has c.1 && a.has c.2 then .misuse else .run config a

end Archiver
