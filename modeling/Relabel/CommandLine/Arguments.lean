import Relabel.CommandLine.Path
import Relabel.Json.Printer
import Relabel.Casing
import Relabel.Renaming.Rules

/-!
# Arguments of the tool

The arguments are taken one after the other. An argument of two dashes and a name is an option
or a flag; an option takes its value after `=` or from the next argument, unless that starts
with a dash. At most one argument is the path of the input. After `--` every argument is a
path. Only then are the values looked at, so an unknown argument or a call for help that comes
first is reported even if a value before it is wrong.
-/

namespace Relabel

inductive UsageError where
  | helpAsked
  | versionAsked
  | unknownArgument
  | missingValue
  | badValue
  | repeated
  deriving DecidableEq, Repr

inductive InputFormat where
  | json
  | yaml
  deriving DecidableEq, Repr

namespace InputFormat

def parse? : String → Option InputFormat
  | "json" => some json
  | "yaml" | "yml" => some yaml
  | _ => none

def ofPath (path : String) : InputFormat :=
  match Path.extension? path with
  | some "yaml" | some "yml" => yaml
  | _ => json

end InputFormat

structure Settings where
  casing : Casing := Casing.byDefault
  options : Options := {}
  format? : Option InputFormat := none
  style : Json.Style := .compact
  input? : Option String := none
  deriving DecidableEq, Repr

/-- The format of the input: the given one, or else that of its path. -/
def Settings.inputFormat (settings : Settings) : InputFormat :=
  settings.format?.getD ((settings.input?.map InputFormat.ofPath).getD .json)

namespace Arguments

inductive Name where
  | casing
  | format
  | ignoreHyphen
  | keepDigits
  | pretty
  | help
  | version
  deriving DecidableEq, Repr

def Name.text : Name → String
  | casing => "name-case"
  | format => "format"
  | ignoreHyphen => "ignore-hyphen-boundary"
  | keepDigits => "no-sanitize-enums"
  | pretty => "pretty"
  | help => "help"
  | version => "version"

def Name.all : List Name :=
  [casing, format, ignoreHyphen, keepDigits, pretty, help, version]

def Name.takesValue : Name → Bool
  | casing | format => true
  | _ => false

structure Taken where
  names : List Name := []
  values : List (Name × String) := []
  input? : Option String := none
  waiting? : Option Name := none
  deriving DecidableEq, Repr

def trimLeft (c : Char) (text : List Char) : List Char :=
  text.dropWhile (· == c)

def takePath (taken : Taken) (path : String) : Except UsageError Taken :=
  match taken.input? with
  | some _ => .error .unknownArgument
  | none => .ok { taken with input? := some path }

def takeName (taken : Taken) (argument : List Char) : Except UsageError Taken :=
  let text := trimLeft '-' argument
  let name := String.ofList (text.takeWhile (· != '='))
  match Name.all.find? (·.text == name), text.dropWhile (· != '=') with
  | none, _ => .error .unknownArgument
  | some .help, _ => .error .helpAsked
  | some .version, _ => .error .versionAsked
  | some name, after =>
      let names := name :: taken.names
      if !name.takesValue then .ok { taken with names, waiting? := none }
      else match after with
        | [] => .ok { taken with names, waiting? := some name }
        | _ :: value =>
            let value := String.ofList (trimLeft '=' value)
            .ok { taken with names, values := (name, value) :: taken.values, waiting? := none }

def takeLetter : Char → Except UsageError Taken
  | 'h' => .error .helpAsked
  | 'V' => .error .versionAsked
  | _ => .error .unknownArgument

def takeArgument (taken : Taken) (argument : String) : Except UsageError Taken :=
  match argument.toList with
  | '-' :: '-' :: rest => takeName taken rest
  | '-' :: c :: _ => takeLetter c
  | _ =>
      match taken.waiting? with
      | some name =>
          .ok { taken with values := (name, argument) :: taken.values, waiting? := none }
      | none => takePath taken argument

def takeAll (taken : Taken) : List String → Except UsageError Taken
  | [] => .ok taken
  | argument :: rest =>
      if argument = "--" then rest.foldlM takePath taken
      else do
        let taken ← takeArgument taken argument
        takeAll taken rest

/-- The value of an option: none if it was not given. Its values are read before it is
refused for being given twice. -/
def valueOf {α : Type} (taken : Taken) (name : Name) (read : String → Option α) :
    Except UsageError (Option α) := do
  let count := taken.names.count name
  let given := (taken.values.filter (·.1 == name)).map Prod.snd
  match given.mapM read with
  | none => throw .badValue
  | some values =>
      if count > 1 then throw .repeated
      return values.head?

def isGiven (taken : Taken) (name : Name) : Except UsageError Bool :=
  match taken.names.count name with
  | 0 => .ok false
  | 1 => .ok true
  | _ => .error .repeated

def checkFormat (taken : Taken) : Except UsageError Unit :=
  if taken.names.contains .format && !taken.values.any (·.1 == .format) then .error .missingValue
  else .ok ()

end Arguments

open Arguments in
/-- Reads the arguments of the tool. A name case without a value is the default one. -/
def Settings.ofArguments (arguments : List String) : Except UsageError Settings := do
  let taken ← takeAll {} arguments
  checkFormat taken
  let casing? ← valueOf taken .casing fun text => (Casing.parse text).toOption
  let format? ← valueOf taken .format InputFormat.parse?
  let ignoreHyphen ← isGiven taken .ignoreHyphen
  let keepDigits ← isGiven taken .keepDigits
  let pretty ← isGiven taken .pretty
  return {
    casing := casing?.getD Casing.byDefault
    options := {
      boundary := if ignoreHyphen then .ignoreHyphen else .standard
      escapeDigits := !keepDigits }
    format?
    style := if pretty then .pretty else .compact
    input? := taken.input? }

end Relabel
