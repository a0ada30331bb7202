/-
# PhaseTable.Files -- where configurations are read from

What can be read is a function from paths to what stands there (`FileSystem`); a file may
stand there and yet be out of reach.  `FileTree.state` is that function for a tree of files
that are given by their paths: a directory stands wherever a path leads through it.  Of what
lies outside of the tree only the directories are known that lead to it.

A path is walked name by name, and the first step that fails says what stands there:
nothing has a name of more than 255 bytes.  A path that holds a NUL or is too long as
a whole is not walked at all.
-/

namespace PhaseTable

set_option autoImplicit false

/-- Why no text is read. -/
inductive ReadError where
  | notFound
  | notADirectory
  | nameTooLong
  | nulInName
  | isADirectory
  | notText
  /-- The system refuses, for a reason of its own. -/
  | refused (kind text : String)
deriving DecidableEq

namespace ReadError

def name : ReadError → String
  | .notFound => "NotFound"
  | .notADirectory => "NotADirectory"
  | .nameTooLong => "InvalidFilename"
  | .nulInName => "InvalidInput"
  | .isADirectory => "IsADirectory"
  | .notText => "InvalidData"
  | .refused kind _ => kind

def message : ReadError → String
  | .notFound => "No such file or directory (os error 2)"
  | .notADirectory => "Not a directory (os error 20)"
  | .nameTooLong => "File name too long (os error 36)"
  | .nulInName => "file name contained an unexpected NUL byte"
  | .isADirectory => "Is a directory (os error 21)"
  | .notText => "stream did not contain valid UTF-8"
  | .refused _ text => text

end ReadError

/-- What stands under a path. -/
inductive PathState where
  | absent
  /-- The path leads through a file. -/
  | belowFile
  /-- The path, or a name on it, is too long. -/
  | tooLong
  /-- The path holds a NUL. -/
  | unnameable
  | directory
  | file (content : ByteArray)
  /-- A file that the system does not hand out, with the kind of its refusal and the wording. -/
  | locked (kind text : String)

abbrev FileSystem := String → PathState

def PathState.isFile : PathState → Bool
  | .file _ | .locked _ _ => true
  | _ => false

/-- The text of a file, which must be UTF-8. -/
def PathState.readText : PathState → Except ReadError String
  | .absent => .error .notFound
  | .belowFile => .error .notADirectory
  | .tooLong => .error .nameTooLong
  | .unnameable => .error .nulInName
  | .directory => .error .isADirectory
  | .file content =>
      match String.fromUTF8? content with
      | some s => .ok s
      | none => .error .notText
  | .locked kind text => .error (.refused kind text)

/-! ## Trees of files -/

/-- The parts of a path between its slashes. -/
def pathParts : List Char → List (List Char)
  | [] => [[]]
  | c :: cs =>
      if c = '/' then [] :: pathParts cs
      else
        match pathParts cs with
        | [] => [[c]]
        | part :: rest => (c :: part) :: rest

/-- The part of a path stays where it is. -/
def staysPut (part : String) : Bool :=
  part == "" || part == "."

/-- The steps of a path: its parts that lead somewhere. -/
def pathSteps (path : String) : List String :=
  ((pathParts path.toList).map String.ofList).filter fun part => !staysPut part

def longestName : Nat := 255

def longestPath : Nat := 4095

/-- A file, or nothing for a directory, under its steps. -/
abbrev FileEntry := List String × Option ByteArray

/-- Files and directories below one directory; of equal paths the last one counts. -/
abbrev FileTree := List FileEntry

namespace FileTree

/-- What stands at the end of some steps, which lead through directories. -/
def stateAt (tree : FileTree) (steps : List String) : PathState :=
  match tree.reverse.find? (·.1 = steps) with
  | some (_, some content) => .file content
  | some (_, none) => .directory
  | none =>
      if steps = [] ∨ tree.any fun entry => steps.isPrefixOf entry.1 then .directory else .absent

/-- What stands at the end of the parts of a path that come after one has left the tree. -/
def walkOutside : List String → PathState
  | [] => .directory
  | part :: rest =>
      if staysPut part || part == ".." then walkOutside rest
      else if longestName < part.utf8ByteSize then .tooLong
      else .absent

/-- What stands at the end of the parts of a path that come after some steps. -/
def walk (tree : FileTree) (steps : List String) : List String → PathState
  | [] => tree.stateAt steps
  | part :: rest =>
      match tree.stateAt steps with
      | .directory =>
          if staysPut part then walk tree steps rest
          else if part = ".." then
            if steps = [] then walkOutside rest else walk tree steps.dropLast rest
          else if longestName < part.utf8ByteSize then .tooLong
          else walk tree (steps ++ [part]) rest
      | .file _ | .locked _ _ => .belowFile
      | state => state

def state (tree : FileTree) : FileSystem := fun path =>
  if '\x00' ∈ path.toList then .unnameable
  else if longestPath < path.utf8ByteSize then .tooLong
  else
    let parts := (pathParts path.toList).map String.ofList
    if path.toList.head? = some '/' then walkOutside parts else tree.walk [] parts

end FileTree

end PhaseTable
