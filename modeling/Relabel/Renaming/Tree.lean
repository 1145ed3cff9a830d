import Relabel.Client.Service
import Relabel.Renaming.Event
import Relabel.Renaming.Rules

/-!
# Renaming a client

The models of a client and the results of its operations are renamed, and with a model all
that it holds: its link, the members of its enumeration, its enumerations and its properties.
An interface keeps its name, since other parts of the client refer to it by that name; what it
holds is renamed. The parameters of an operation keep the names of the interface that is
called.
-/

namespace Relabel

def EnumMember.rename (rules : Rules) (member : EnumMember) : Traced EnumMember := do
  let name := rules.member member.name
  Traced.reportChange .renamedMember member.name name
  return { member with name }

namespace Model

def newName (rules : Rules) (kind : ExportKind) (name : String) : String :=
  if kind == .interface then name else rules.model name

mutual

def rename (rules : Rules) : Model → Traced Model
  | { name, kind, type, base, template, link, description, isDefinition, isReadOnly, isRequired,
      isNullable, imports, members, enums, properties, extra } => do
      let newName := newName rules kind name
      Traced.reportChange .renamedModel name newName
      let link ← renameLink rules link
      let members ← Traced.each (EnumMember.rename rules) members
      let enums ← renameList rules enums
      let properties ← renameList rules properties
      return {
        name := newName, kind, type, base, template, link, description, isDefinition,
        isReadOnly, isRequired, isNullable, imports, members, enums, properties, extra }

def renameLink (rules : Rules) : Option Model → Traced (Option Model)
  | none => return none
  | some model => do
      let model ← rename rules model
      return some model

def renameList (rules : Rules) : List Model → Traced (List Model)
  | [] => return []
  | model :: rest => do
      let model ← rename rules model
      let rest ← renameList rules rest
      return model :: rest

end

end Model

def Response.rename (rules : Rules) (response : Response) : Traced Response := do
  let model ← response.model.rename rules
  return { response with model }

def Operation.rename (rules : Rules) (operation : Operation) : Traced Operation := do
  let results ← Traced.each (Response.rename rules) operation.results
  return { operation with results }

def Service.rename (rules : Rules) (service : Service) : Traced Service := do
  Traced.report [.convertingResults service.name service.operations.length]
  let operations ← Traced.each (Operation.rename rules) service.operations
  return { service with operations }

def Client.rename (rules : Rules) (client : Client) : Traced Client := do
  Traced.report [.convertingNames client.models.length client.services.length]
  let models ← Traced.each (Model.rename rules) client.models
  let services ← Traced.each (Service.rename rules) client.services
  return { client with models, services }

def Client.convert (casing : Casing) (options : Options) (client : Client) :
    Traced Client :=
  match casing with
  | .keep => return client
  | .use convention => do
      Traced.report [.convertingClient convention]
      client.rename (convention.rules options)

end Relabel
