/-
# PhaseTable.Config.Loading -- the first configuration that can be read

Configurations are looked for under a list of paths.  A path without a file is passed
over; a file that cannot be read as a configuration is passed over with a notice.  The
first configuration that is read is checked and counts, even if nothing of it is kept.
When there is none, the built-in configuration is checked in its place.
-/
import PhaseTable.Config.Check
import PhaseTable.Files
import PhaseTable.Log

namespace PhaseTable

set_option autoImplicit false

def configFileName : String := "phase-visualizer.json"

def configDirectoryName : String := ".plantech"

def inDirectory (directory name : String) : String :=
  if directory.toList.getLast? = some '/' then directory ++ name else directory ++ "/" ++ name

/-- A directory that is named. -/
def named? (directory : Option String) : Option String :=
  directory.filter (· ≠ "")

/-- The paths to look under: the directory of the model, then that of the extension. -/
def candidatePaths (model extension : Option String) : List String :=
  ((named? model).map (inDirectory · configFileName)).toList ++
    ((named? extension).map fun root =>
      inDirectory (inDirectory root configDirectoryName) configFileName).toList

/-! ## One file -/

inductive LoadError where
  | unreadable (reason : ReadError)
  | blankFile (path : String)
  | undecodable (reason : DecodeError)
deriving DecidableEq

def DecodeError.textMessage (reason : DecodeError) : String :=
  "json error: " ++ reason.message

def LoadError.message : LoadError → String
  | .unreadable reason => "io error: " ++ reason.message
  | .blankFile path => "config file is empty: " ++ path
  | .undecodable reason => reason.textMessage

/-- The configuration in the file under a path, as it is written. -/
def Config.load (files : FileSystem) (path : String) : Except LoadError Config :=
  match (files path).readText with
  | .error reason => .error (.unreadable reason)
  | .ok s =>
      if Text.blank s then .error (.blankFile path)
      else (Config.parse s).mapError .undecodable

/-! ## The first of several files -/

inductive LoadNotice where
  | failed (path : String) (reason : LoadError)
  | notFound
  | config (notice : ConfigNotice)
deriving DecidableEq

def LoadNotice.message : LoadNotice → String
  | .failed path reason => "config load failed at " ++ path ++ ": " ++ reason.message
  | .notFound => "config not found. Using embedded defaults."
  | .config notice => notice.message

/-- The result of a search: the files that were not read, the path of the one that was, if any, and
the checked configuration. -/
structure Loaded where
  failures : List (String × LoadError)
  path? : Option String
  checked : Checked
deriving DecidableEq

namespace Loaded

/-- The result when no file is left. -/
def builtIn : Loaded :=
  ⟨[], none, Config.check (some .default)⟩

def notices (l : Loaded) : List LoadNotice :=
  l.failures.map (fun failure => .failed failure.1 failure.2) ++
    (if l.path? = none then [.notFound] else []) ++ l.checked.notices.map .config

def failureEntry (path : String) (reason : LoadError) : LogEntry :=
  ⟨.warn, "config load failed", [("path", .text path), ("error", .text reason.message)]⟩

def log (l : Loaded) : List LogEntry :=
  l.failures.map (fun failure => failureEntry failure.1 failure.2) ++
    (match l.path? with
    | some path => [⟨.debug, "loaded table config", [("path", .text path)]⟩]
    | none => [.warning LoadNotice.notFound.message]) ++ l.checked.log

end Loaded

/-- The first configuration that is read from some paths. -/
def loadFirst (files : FileSystem) : List String → Loaded
  | [] => .builtIn
  | path :: rest =>
      if (files path).isFile then
        match Config.load files path with
        | .ok config => ⟨[], some path, Config.check (some config)⟩
        | .error reason =>
            let loaded := loadFirst files rest
            { loaded with failures := (path, reason) :: loaded.failures }
      else loadFirst files rest

end PhaseTable
