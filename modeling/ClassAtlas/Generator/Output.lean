import ClassAtlas.Generator.Basic

/-!
Writing files below the output directory. A file that cannot be written is reported and the run
goes on. The content is encoded once the folder is there and before the file is touched, so content
with a surrogate leaves no file behind. Folders and files are named by strings, as in the tree.
-/
namespace ClassAtlas.Generator

open Files (Path FileTree FileError)

def folder (g : Generator) (directory : String) : Path :=
  (Path.ofText g.outputDirectory).join (Path.ofText directory)

/-- Why a file is not written: the files do not allow it, or there are no bytes to write. -/
inductive WriteError where
  | file (e : FileError)
  | content (e : EncodingError)
  deriving DecidableEq, Repr

def WriteError.failure : WriteError → Failure
  | .file e => e.failure
  | .content e => .notEncoded e

/-- A failed attempt is noted with the content and then reported, as an error where the run is
strict and as a warning elsewhere. -/
def reportUnwritten (strict : Bool) (directory file : String) (content : RawText) (e : WriteError)
    (s : Session) : Session :=
  let noted := s.note ("Error writing " ++ file ++ " in " ++ directory ++ ":\n" ++ content)
  noted.report (if strict then .error else .warning) (e.failure.report true)

/-- The path of the written file, unless the attempt failed. -/
def writeFile (g : Generator) (strict : Bool) (directory file : String) (content : RawText)
    (s : Session) : Session × Option Path :=
  let folder := g.folder directory
  let s := s.trace folder.text
  match s.files.ensureDirectory folder with
  | (files, .error e) =>
      (reportUnwritten strict directory file content (.file e) { s with files := files }, none)
  | (files, .ok ()) =>
      let path := folder.join (Path.ofText file)
      let s := { s with files := files }.trace path.text
      match content.encode with
      | .error e => (reportUnwritten strict directory file content (.content e) s, none)
      | .ok bytes =>
          match s.files.write path bytes with
          | .error e => (reportUnwritten strict directory file content (.file e) s, none)
          | .ok files => ({ s with files := files }, some path)

end ClassAtlas.Generator
