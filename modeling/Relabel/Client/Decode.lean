import Relabel.Client.Draft
import Relabel.Client.Service

/-!
# Reading a client description

Every node but an operation error is read from an object. Every key may be missing, and then
has its default. A response and a parameter keep the members that are not their own until
their object has been read; those are then read as a model in memory.
-/

namespace Relabel

open Relabel.Json

def ExportKind.decode (route : Route) (source : Source) : Except Fault ExportKind :=
  source.readTag tags route

def ResponseLocation.decode (route : Route) (source : Source) : Except Fault ResponseLocation :=
  source.readTag tags route

def ParameterLocation.decode (route : Route) (source : Source) :
    Except Fault ParameterLocation :=
  source.readTag tags route

def Convention.decode (route : Route) (source : Source) : Except Fault Convention :=
  source.readTag tags route

def Casing.decode (route : Route) (source : Source) : Except Fault Casing :=
  source.readTag tags route

def readTexts (route : Route) (source : Source) : Except Fault (List String) :=
  source.readList route fun _ item => item.readText

/-! ## Models -/

namespace EnumMember

def declared : List (String × Field) := tagged Field.key Field.all

def set (route : Route) (field : Field) (source : Source) (member : EnumMember) :
    Except Fault EnumMember :=
  match field with
  | .name => return { member with name := ← source.readText }
  | .value => return { member with value := ← source.readNormal route }
  | .type => return { member with type := ← source.readText }
  | .description => return { member with description := ← source.readOptional Source.readText }

def decode (route : Route) (source : Source) : Except Fault EnumMember := do
  let draft ← Draft.ofObject "EnumMember" declared set (fun route source => source.read route) {}
    route source
  return { draft.node with extra := draft.extra }

end EnumMember

namespace Model

def declared : List (String × Field) := tagged Field.key Field.all

def ofDraft (draft : Draft Field Model) : Model :=
  { draft.node with extra := draft.extra }

mutual

def decode (route : Route) : Source → Except Fault Model
  | .object members ending => do
      let inner ← route.enter
      let draft ← takeMembers inner (.start {}) members
      check ending.whenRead?
      return ofDraft draft
  | source => source.refuse "struct Model"

def decodeLink (route : Route) : Source → Except Fault (Option Model)
  | .null => .ok none
  | .object members ending => do
      let inner ← route.enter
      let draft ← takeMembers inner (.start {}) members
      check ending.whenRead?
      return some (ofDraft draft)
  | source => source.refuse "struct Model"

def decodeList (route : Route) : Source → Except Fault (List Model)
  | .array items ending => do
      let inner ← route.enter
      let models ← decodeItems inner items
      check ending.whenRead?
      return models
  | source => source.refuse "a sequence"

def decodeItems (route : Route) : List Source → Except Fault (List Model)
  | [] => .ok []
  | item :: rest => do
      let model ← decode route item
      let models ← decodeItems route rest
      return model :: models

def takeMembers (route : Route) (draft : Draft Field Model) :
    List (Except SyntaxFault String × Source) → Except Fault (Draft Field Model)
  | [] => .ok draft
  | (key, source) :: rest => do
      let draft ← draft.take declared key
        (fun field model => match field with
          | .name => return { model with name := ← source.readText }
          | .kind => return { model with kind := ← ExportKind.decode route source }
          | .type => return { model with type := ← source.readText }
          | .base => return { model with base := ← source.readText }
          | .template => return { model with template := ← source.readOptional Source.readText }
          | .link => return { model with link := ← decodeLink route source }
          | .description =>
              return { model with description := ← source.readOptional Source.readText }
          | .isDefinition => return { model with isDefinition := ← source.readFlag }
          | .isReadOnly => return { model with isReadOnly := ← source.readFlag }
          | .isRequired => return { model with isRequired := ← source.readFlag }
          | .isNullable => return { model with isNullable := ← source.readFlag }
          | .imports => return { model with imports := ← readTexts route source }
          | .members => return { model with members := ← source.readList route EnumMember.decode }
          | .enums => return { model with enums := ← decodeList route source }
          | .properties => return { model with properties := ← decodeList route source })
        (fun _ => source.read route)
      takeMembers route draft rest

end

def ofMembers (members : List (String × Json)) : Except Fault Model :=
  ofDraft <$> takeMembers .memory (.start {}) (Source.ofMembers members)

end Model

/-! ## Operations -/

namespace Response

def declared : List (String × Field) := tagged Field.key Field.all

def set (route : Route) (field : Field) (source : Source) (response : Response) :
    Except Fault Response :=
  match field with
  | .location => return { response with location := ← ResponseLocation.decode route source }
  | .code => return { response with code := ← source.readCode }

def decode (route : Route) (source : Source) : Except Fault Response := do
  let draft ← Draft.ofObject "OperationResponse" declared set
    (fun route source => source.read route) {} route source
  return { draft.node with model := ← Model.ofMembers draft.rest }

end Response

namespace Parameter

def declared : List (String × Field) := tagged Field.key Field.all

def set (route : Route) (field : Field) (source : Source) (parameter : Parameter) :
    Except Fault Parameter :=
  match field with
  | .location => return { parameter with location := ← ParameterLocation.decode route source }
  | .property => return { parameter with property := ← source.readText }
  | .default => return { parameter with default := ← source.readOptional (·.readNormal route) }
  | .mediaType =>
      return { parameter with mediaType := ← source.readOptional Source.readText }

def decode (route : Route) (source : Source) : Except Fault Parameter := do
  let draft ← Draft.ofObject "OperationParameter" declared set
    (fun route source => source.read route) {} route source
  return { draft.node with model := ← Model.ofMembers draft.rest }

end Parameter

namespace OperationError

def declared : List (String × Field) := tagged Field.key Field.all

def set (_ : Route) (field : Field) (source : Source) (error : OperationError) :
    Except Fault OperationError :=
  match field with
  | .code => return { error with code := ← source.readCode }
  | .description => return { error with description := ← source.readText }

def skipOther (_ : Route) (source : Source) : Except Fault Json := do
  source.skip
  return .null

def ofItems : List Source → Except Fault OperationError
  | [] => .ok {}
  | [code] => return { code := ← code.readCode }
  | code :: description :: _ => do
      let code ← code.readCode
      let description ← description.readText
      return { code, description }

/-- Refuses more than two items. After the second one a text may only close the array. -/
def checkLength (route : Route) (count : Nat) (ending : ArrayEnd) : Except Fault Unit :=
  match route with
  | .text _ =>
      if count < 2 then check ending.whenRead?
      else if count = 2 then check ending.whenFull?
      else .error (.form .textAfterValue)
  | .memory => if count > 2 then .error (.content (.tooLong count)) else .ok ()

/-- Reads an operation error from an object or an array. Members that are not declared are
left out. -/
def decode (route : Route) : Source → Except Fault OperationError
  | .array items ending => do
      let _ ← route.enter
      let error ← ofItems items
      checkLength route items.length ending
      return error
  | source => do
      let draft ← Draft.ofObject "OperationError" declared set skipOther {} route source
      return draft.node

end OperationError

namespace Operation

def declared : List (String × Field) := tagged Field.key Field.all

def set (route : Route) (field : Field) (source : Source) (operation : Operation) :
    Except Fault Operation :=
  match field with
  | .service => return { operation with service := ← source.readText }
  | .name => return { operation with name := ← source.readText }
  | .summary => return { operation with summary := ← source.readOptional Source.readText }
  | .description =>
      return { operation with description := ← source.readOptional Source.readText }
  | .deprecated => return { operation with deprecated := ← source.readFlag }
  | .method => return { operation with method := ← source.readText }
  | .path => return { operation with path := ← source.readText }
  | .parameters => return { operation with parameters := ← source.readList route Parameter.decode }
  | .parametersBody =>
      return { operation with
        parametersBody := ← source.readOptional (Parameter.decode route) }
  | .errors => return { operation with errors := ← source.readList route OperationError.decode }
  | .results => return { operation with results := ← source.readList route Response.decode }
  | .responseHeader =>
      return { operation with responseHeader := ← source.readOptional Source.readText }

def decode (route : Route) (source : Source) : Except Fault Operation := do
  let draft ← Draft.ofObject "Operation" declared set (fun route source => source.read route) {}
    route source
  return { draft.node with extra := draft.extra }

end Operation

/-! ## Services and clients -/

namespace Service

def declared : List (String × Field) := tagged Field.key Field.all

def set (route : Route) (field : Field) (source : Source) (service : Service) :
    Except Fault Service :=
  match field with
  | .name => return { service with name := ← source.readText }
  | .operations => return { service with operations := ← source.readList route Operation.decode }
  | .imports => return { service with imports := ← readTexts route source }

def decode (route : Route) (source : Source) : Except Fault Service := do
  let draft ← Draft.ofObject "Service" declared set (fun route source => source.read route) {}
    route source
  return { draft.node with extra := draft.extra }

end Service

namespace Client

def declared : List (String × Field) := tagged Field.key Field.all

def set (route : Route) (field : Field) (source : Source) (client : Client) :
    Except Fault Client :=
  match field with
  | .version => return { client with version := ← source.readText }
  | .server => return { client with server := ← source.readText }
  | .models => return { client with models := ← Model.decodeList route source }
  | .services => return { client with services := ← source.readList route Service.decode }

def decode (route : Route) (source : Source) : Except Fault Client := do
  let draft ← Draft.ofObject "Client" declared set (fun route source => source.read route) {}
    route source
  return { draft.node with extra := draft.extra }

end Client

end Relabel
