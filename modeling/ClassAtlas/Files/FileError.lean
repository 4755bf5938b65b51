import ClassAtlas.Failure
import ClassAtlas.Files.Path

/-!
Why a file operation cannot be carried out. A name too long for the file system has no kind of its
own.
-/
namespace ClassAtlas.Files

inductive Obstacle where
  | missing
  | taken
  | notDirectory
  | isDirectory
  | nameTooLong
  deriving DecidableEq, Repr

namespace Obstacle

def number : Obstacle → Nat
  | missing => 2
  | taken => 17
  | notDirectory => 20
  | isDirectory => 21
  | nameTooLong => 36

def kind : Obstacle → String
  | missing => "FileNotFoundError"
  | taken => "FileExistsError"
  | notDirectory => "NotADirectoryError"
  | isDirectory => "IsADirectoryError"
  | nameTooLong => "OSError"

def description : Obstacle → String
  | missing => "No such file or directory"
  | taken => "File exists"
  | notDirectory => "Not a directory"
  | isDirectory => "Is a directory"
  | nameTooLong => "File name too long"

end Obstacle

inductive FileError where
  | blocked (obstacle : Obstacle) (path : Path)
  | nulInPath
  deriving DecidableEq, Repr

def FileError.failure : FileError → Failure
  | .blocked obstacle path =>
      ⟨obstacle.kind, "[Errno " ++ toString obstacle.number ++ "] " ++ obstacle.description ++ ": "
        ++ Text.quoted path.text⟩
  | .nulInPath => .nulInPath

end ClassAtlas.Files
