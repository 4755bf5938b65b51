import ClassAtlas.Files.FileError

/-!
Trees of files and directories with a working directory. A path is followed name by name; each
name but the last has to lead to a directory. The tree is seen through `entry?`: every operation
changes it at one location.
-/
namespace ClassAtlas.Files

/-- The names from a place up to the root, the innermost first. -/
abbrev Location := List String

inductive Entry where
  | file (content : List UInt8)
  | directory
  deriving DecidableEq, Repr

structure FileTree where
  entries : List (Location × Entry)
  workingDirectory : Location
  deriving Repr

namespace FileTree

def entry? (t : FileTree) : Location → Option Entry
  | [] => some .directory
  | place => t.entries.lookup place

def put (place : Location) (e : Entry) (t : FileTree) : FileTree :=
  { t with entries := (place, e) :: t.entries.filter fun other => other.1 != place }

def isDirectoryAt (t : FileTree) (place : Location) : Bool := t.entry? place == some .directory

def longestName : Nat := 255

def longestPath : Nat := 4095

/-- One step from a place, which has to be a directory. -/
def step (t : FileTree) (place : Location) (name : String) : Except Obstacle Location :=
  match t.entry? place with
  | none => .error .missing
  | some (.file _) => .error .notDirectory
  | some .directory =>
      if name = ".." then .ok place.tail
      else if longestName < name.utf8ByteSize then .error .nameTooLong
      else .ok (name :: place)

def follow (t : FileTree) (place : Location) : List String → Except Obstacle Location
  | [] => .ok place
  | name :: rest => do
      let next ← t.step place name
      t.follow next rest

def start (t : FileTree) (p : Path) : Location :=
  if p.anchor = .here then t.workingDirectory else []

/-- The place that a path leads to, whether or not there is something. -/
def locate (t : FileTree) (p : Path) : Except FileError Location :=
  if p.hasNul then .error .nulInPath
  else if longestPath < p.text.utf8ByteSize then .error (.blocked .nameTooLong p)
  else (t.follow (t.start p) p.parts).mapError (.blocked · p)

def read (t : FileTree) (p : Path) : Except FileError (List UInt8) := do
  let place ← t.locate p
  match t.entry? place with
  | some (.file content) => .ok content
  | some .directory => .error (.blocked .isDirectory p)
  | none => .error (.blocked .missing p)

/-- A path through a missing place or through a file leads nowhere; a name that is too long cannot
even be asked for. -/
def isPresent (t : FileTree) (p : Path) : Except FileError Bool :=
  match t.locate p with
  | .ok place => .ok (t.entry? place).isSome
  | .error (.blocked .nameTooLong q) => .error (.blocked .nameTooLong q)
  | .error _ => .ok false

def isDirectory (t : FileTree) (p : Path) : Bool :=
  match t.locate p with
  | .ok place => t.isDirectoryAt place
  | .error _ => false

def makeDirectory (t : FileTree) (p : Path) : Except FileError FileTree := do
  let place ← t.locate p
  match t.entry? place with
  | some _ => .error (.blocked .taken p)
  | none => .ok (t.put place .directory)

/-- A directory that is there already will do. -/
def accept (t : FileTree) (p : Path) (e : FileError) : Except FileError Unit :=
  if t.isDirectory p then .ok () else .error e

/-- A directory at a path, with the directories above it. Those made before an error stay. -/
def ensureDirectory (t : FileTree) (p : Path) : FileTree × Except FileError Unit :=
  match t.makeDirectory p with
  | .ok made => (made, .ok ())
  | .error (.blocked .missing q) =>
      if _parted : p.parts = [] then (t, .error (.blocked .missing q))
      else
        match t.ensureDirectory p.parent with
        | (above, .error e) => (above, .error e)
        | (above, .ok ()) =>
            match above.makeDirectory p with
            | .ok made => (made, .ok ())
            | .error e => (above, above.accept p e)
  | .error .nulInPath => (t, .error .nulInPath)
  | .error e => (t, t.accept p e)
termination_by p.parts.length
decreasing_by
  have := List.length_pos_iff.mpr _parted
  simp [Path.parent]
  omega

/-- Writing replaces the content of a file or makes a new one. -/
def write (t : FileTree) (p : Path) (content : List UInt8) : Except FileError FileTree := do
  let place ← t.locate p
  if t.isDirectoryAt place then .error (.blocked .isDirectory p)
  else .ok (t.put place (.file content))

end FileTree
end ClassAtlas.Files
