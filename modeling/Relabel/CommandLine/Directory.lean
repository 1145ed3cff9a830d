/-!
# Reading an input file

The input is read from a directory of files. A path may name a file that is not there, a
directory, or a file as if it were a directory; and a file may hold bytes that are no text.
-/

namespace Relabel

inductive ReadError where
  | notFound
  | isDirectory
  | notDirectory
  | nameTooLong
  | nullInPath
  | notText
  deriving DecidableEq, Repr

def ReadError.cause : ReadError → String
  | notFound => "No such file or directory (os error 2)"
  | isDirectory => "Is a directory (os error 21)"
  | notDirectory => "Not a directory (os error 20)"
  | nameTooLong => "File name too long (os error 36)"
  | nullInPath => "file name contained an unexpected NUL byte"
  | notText => "stream did not contain valid UTF-8"

def ReadError.message (error : ReadError) (path : String) : String :=
  "Failed to read " ++ path ++ ": " ++ error.cause

structure Directory where
  files : List (String × ByteArray)

namespace Directory

inductive Place where
  | here
  | above
  | file (content : ByteArray)

def maxName : Nat := 255

def maxPath : Nat := 4095

/-- Goes on by one component. An empty component at the end of a path asks for a directory. -/
def step (directory : Directory) (place : Place) (component : String) :
    Except ReadError Place :=
  match place with
  | .file _ => .error .notDirectory
  | place =>
      if component = "" || component = "." then .ok place
      else if component = ".." then .ok .above
      else if component.utf8ByteSize > maxName then .error .nameTooLong
      else match place, directory.files.lookup component with
        | .here, some content => .ok (.file content)
        | _, _ => .error .notFound

def read (directory : Directory) (path : String) : Except ReadError String := do
  if path.contains '\x00' then throw .nullInPath
  if path = "" then throw .notFound
  if path.utf8ByteSize > maxPath then throw .nameTooLong
  let start := if path.startsWith "/" then Place.above else .here
  match ← (path.splitOn "/").foldlM directory.step start with
  | .file content =>
      match String.fromUTF8? content with
      | some text => return text
      | none => throw .notText
  | _ => throw .isDirectory

end Directory

end Relabel
