import ClassAtlas.CommandLine.Run

/-!
The program. The places that a command line names are looked up first and the run is computed on
what is there; then the places it would write to are looked up, and a second run decides what is
written.
-/
namespace ClassAtlas.Main

open CommandLine (Outcome Setting)
open Files (Entry FileTree Location Path)

def fileName (place : Location) : String := "/" ++ Text.separated "/" place.reverse

/-- What is at a place in a directory. -/
def lookUp (place : Location) : IO (Option Entry) := do
  try
    return some (.file (← IO.FS.readBinFile (fileName place)).toList)
  catch
    | .inappropriateType .. => return some .directory
    | _ => return none

/-- A tree that knows a place and the places above it. -/
def explore (t : FileTree) : Location → IO FileTree
  | [] => return t
  | name :: above => do
      let t ← explore t above
      if t.isDirectoryAt above && (t.entry? (name :: above)).isNone then
        match ← lookUp (name :: above) with
        | some e => return t.put (name :: above) e
        | none => return t
      else return t

/-- The places that a path passes through. -/
def passed (place : Location) : List String → List Location
  | [] => [place]
  | ".." :: rest => place :: passed place.tail rest
  | name :: rest => place :: passed (name :: place) rest

def placesOf (t : FileTree) (name : String) : List Location :=
  let p := Path.ofText name
  passed (t.start p) p.parts

/-- The files that a command line names. -/
def named (arguments : List String) : List String :=
  match CommandLine.read arguments with
  | .ok i => i.declarations :: (i.config.bind Setting.text?).toList
  | .error _ => []

def exploreAll (t : FileTree) (places : List Location) : IO FileTree := places.foldlM explore t

/-- What a run changed, directories before what is in them. -/
def changes (before after : FileTree) : List (Location × Entry) :=
  (after.entries.filter fun e => before.entry? e.1 != some e.2).mergeSort
    fun a b => a.1.length ≤ b.1.length

def apply : Location × Entry → IO Unit
  | (place, .directory) => IO.FS.createDirAll (fileName place)
  | (place, .file content) => IO.FS.writeBinFile (fileName place) ⟨content.toArray⟩

def environment : IO Environment := do
  let value ← IO.getEnv Config.debugVariable
  return (value.map fun v => (Config.debugVariable, v)).toList

def finish (before : FileTree) (out : Outcome) : IO UInt32 := do
  (changes before out.files).forM apply
  IO.print out.printed
  IO.eprint out.complained
  match out.ending with
  | .ok code => return code.toUInt32
  | .error failure =>
      IO.eprint (failure.report true)
      return 1

end ClassAtlas.Main

open ClassAtlas Main in
def main (arguments : List String) : IO UInt32 := do
  let env ← environment
  let here := Files.Path.ofText (toString (← IO.currentDir))
  let blank : Files.FileTree := ⟨[], here.parts.reverse⟩
  let places := (named arguments).flatMap (placesOf blank)
  let read ← exploreAll blank (blank.workingDirectory :: places)
  let run := CommandLine.run .plain env arguments
  let known ← exploreAll read ((run read).files.entries.map (·.1))
  finish known (run known)
