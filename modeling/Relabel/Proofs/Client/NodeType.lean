import Relabel.Proofs.Client.Agreement

/-!
# Types of nodes

The eight types of nodes of a client description, each with its values, its reader and its
writer.  The slots of a type are the declared keys whose values hold nodes in turn.
-/

namespace Relabel

open Relabel.Json

inductive NodeType where
  | member
  | model
  | response
  | parameter
  | error
  | operation
  | service
  | client
  deriving DecidableEq, Repr

namespace NodeType

def Value : NodeType → Type
  | member => EnumMember
  | model => Model
  | response => Response
  | parameter => Parameter
  | error => OperationError
  | operation => Operation
  | service => Service
  | client => Client

def decode : (type : NodeType) → Route → Source → Except Fault type.Value
  | member => EnumMember.decode
  | model => Model.decode
  | response => Response.decode
  | parameter => Parameter.decode
  | error => OperationError.decode
  | operation => Operation.decode
  | service => Service.decode
  | client => Client.decode

def toJson : (type : NodeType) → type.Value → Json
  | member => EnumMember.toJson
  | model => Model.toJson
  | response => Response.toJson
  | parameter => Parameter.toJson
  | error => OperationError.toJson
  | operation => Operation.toJson
  | service => Service.toJson
  | client => Client.toJson

/-- The declared keys; those of a response and of a parameter include those of the model. -/
def keys : NodeType → List String
  | member => EnumMember.layout.keys
  | model => Model.layout.keys
  | response => Response.layout.keys ++ Model.layout.keys
  | parameter => Parameter.layout.keys ++ Model.layout.keys
  | error => OperationError.layout.keys
  | operation => Operation.layout.keys
  | service => Service.layout.keys
  | client => Client.layout.keys

theorem uniform_decode (type : NodeType) {document : Json} (h : document.NoRepeats) :
    Uniform type.decode document := by
  cases type with
  | member => exact EnumMember.uniform_decode h
  | model => exact Model.uniform_decode h
  | response => exact Response.uniform_decode h
  | parameter => exact Parameter.uniform_decode h
  | error => exact OperationError.uniform_decode h
  | operation => exact Operation.uniform_decode h
  | service => exact Service.uniform_decode h
  | client => exact Client.uniform_decode h

end NodeType

/-- How the value of a declared key holds nodes: it is one, or an array of them. -/
inductive Slot where
  | one (type : NodeType)
  | list (type : NodeType)
  deriving DecidableEq, Repr

def Slot.nodes : Slot → Json → List (NodeType × Json)
  | one type, .object members => [(type, .object members)]
  | list type, .array items => items.map (type, ·)
  | _, _ => []

namespace NodeType

def slots : NodeType → List (String × Slot)
  | member | error => []
  | model | response | parameter =>
      [(Model.Field.link.key, .one model), (Model.Field.members.key, .list member),
        (Model.Field.enums.key, .list model), (Model.Field.properties.key, .list model)]
  | operation =>
      [(Operation.Field.parameters.key, .list parameter),
        (Operation.Field.parametersBody.key, .one parameter),
        (Operation.Field.errors.key, .list error), (Operation.Field.results.key, .list response)]
  | service => [(Service.Field.operations.key, .list operation)]
  | client => [(Client.Field.models.key, .list model), (Client.Field.services.key, .list service)]

/-- `Holds T document U inner`: read as a node of type `T`, the document holds the document
`inner` as a node of type `U`, itself included. -/
inductive Holds : NodeType → Json → NodeType → Json → Prop where
  | self (type : NodeType) (document : Json) : Holds type document type document
  | step {type next last : NodeType} {members : List (String × Json)} {key : String}
      {value inner final : Json} {slot : Slot} (member : (key, value) ∈ members)
      (declared : (key, slot) ∈ type.slots) (node : (next, inner) ∈ slot.nodes value)
      (rest : Holds next inner last final) : Holds type (.object members) last final

end NodeType

end Relabel
