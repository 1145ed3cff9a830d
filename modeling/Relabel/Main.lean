import Relabel.CommandLine.Directory
import Relabel.CommandLine.Run

/-!
# The tool

Reads a client description from a file or from the standard input and writes it, renamed, to
the standard output.
-/

namespace Relabel

def usage : String :=
  "Renames the models and enum members of a generated client\n\n" ++
  "USAGE:\n    [--name-case none|camel|snake|pascal] [--format json|yaml] [--pretty]\n" ++
  "    [--ignore-hyphen-boundary] [--no-sanitize-enums] [input]"

def ReadError.ofSystem : IO.Error → ReadError
  | .noFileOrDirectory .. => .notFound
  | .inappropriateType _ code _ => if code = 20 then .notDirectory else .isDirectory
  | .resourceExhausted .. => .nameTooLong
  | _ => .notText

def readInput (settings : Settings) : IO (Except String String) := do
  match settings.input? with
  | none =>
      match String.fromUTF8? (← (← IO.getStdin).readBinToEnd) with
      | some text => return .ok text
      | none => return .error "Failed to read stdin: stream did not contain valid UTF-8"
  | some path =>
      try
        match String.fromUTF8? (← IO.FS.readBinFile path) with
        | some text => return .ok text
        | none => return .error (ReadError.message .notText path)
      catch error => return .error ((ReadError.ofSystem error).message path)

end Relabel

open Relabel in
def main (arguments : List String) : IO UInt32 := do
  match Settings.ofArguments arguments with
  | .error .helpAsked =>
      IO.println usage
      return 0
  | .error _ =>
      IO.eprintln usage
      return 1
  | .ok settings =>
      match ← readInput settings with
      | .error message =>
          IO.eprintln ("Error: " ++ message)
          return 1
      | .ok text =>
          match settings.run text with
          | .error error =>
              IO.eprintln ("Error: " ++ error.message)
              return 1
          | .ok written =>
              IO.println written.value
              return 0
