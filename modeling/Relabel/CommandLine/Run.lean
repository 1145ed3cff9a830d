import Relabel.Client.Decode
import Relabel.Client.Encode
import Relabel.CommandLine.Arguments
import Relabel.Json.Printer
import Relabel.Renaming.Tree
import Relabel.Yaml.Document

/-!
# A run of the tool

A run reads a client description, brings its names to the requested case and writes it as a
document.
-/

namespace Relabel

inductive InputError where
  | json (fault : Json.Fault)
  | yaml
  deriving DecidableEq, Repr

def InputError.message : InputError → String
  | json fault => "Failed to parse client JSON: " ++ fault.message
  | yaml => "Failed to parse client YAML"

def Client.ofText (format : InputFormat) (text : String) : Except InputError Client :=
  match format with
  | .json => (Json.readTextWith Client.decode text).mapError .json
  | .yaml => match Yaml.client? text with
      | some client => .ok client
      | none => .error .yaml

def Settings.write (settings : Settings) (client : Client) : Traced String := do
  Traced.report [.started settings.casing client.models.length client.services.length]
  let client ← client.convert settings.casing settings.options
  return client.toJson.print settings.style

/-- What the tool writes for an input text, without the line break at the end. -/
def Settings.run (settings : Settings) (text : String) : Except InputError (Traced String) :=
  settings.write <$> Client.ofText settings.inputFormat text

end Relabel
