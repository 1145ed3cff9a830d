import Relabel.Proofs.Renaming.Value

/-!
# Positions in a client

A renaming walks from a client to its models and services, from a service through its
operations to their results, and in a model to its link, the members of its enumeration, its
enumerations and its properties.  A position is the list of steps of such a walk.  Parameters
have no position.
-/

namespace Relabel

/-- A node of a client description that a renaming comes to. -/
inductive Node where
  | client (client : Client)
  | service (service : Service)
  | operation (operation : Operation)
  | response (response : Response)
  | model (model : Model)
  | member (member : EnumMember)

inductive Step where
  | model (index : Nat)
  | service (index : Nat)
  | operation (index : Nat)
  | result (index : Nat)
  | content
  | link
  | member (index : Nat)
  | enum (index : Nat)
  | property (index : Nat)
  deriving DecidableEq, Repr

namespace Node

def child? : Step → Node → Option Node
  | .model index, client c => c.models[index]?.map model
  | .service index, client c => c.services[index]?.map service
  | .operation index, service s => s.operations[index]?.map operation
  | .result index, operation o => o.results[index]?.map response
  | .content, response r => some (model r.model)
  | .link, model m => m.link.map model
  | .member index, model m => m.members[index]?.map member
  | .enum index, model m => m.enums[index]?.map model
  | .property index, model m => m.properties[index]?.map model
  | _, _ => none

def at? : List Step → Node → Option Node
  | [], node => some node
  | step :: path, node => (node.child? step).bind (at? path)

def rename (rules : Rules) : Node → Node
  | client c => client (c.rename rules).value
  | service s => service (s.rename rules).value
  | operation o => operation (o.rename rules).value
  | response r => response (r.rename rules).value
  | model m => model (m.rename rules).value
  | member e => member (e.rename rules).value

theorem child?_rename (rules : Rules) (step : Step) (node : Node) :
    (node.rename rules).child? step = (node.child? step).map (rename rules) := by
  cases node with
  | client c => cases step <;> simp [child?, rename, Client.value_rename, Function.comp_def]
  | service s => cases step <;> simp [child?, rename, Service.value_rename, Function.comp_def]
  | operation o => cases step <;> simp [child?, rename, Operation.value_rename, Function.comp_def]
  | response r => cases step <;> simp [child?, rename, Response.value_rename]
  | model m =>
      rw [rename, Model.value_rename]
      cases step <;> simp [child?, rename, Function.comp_def]
  | member e => cases step <;> rfl

theorem at?_rename (rules : Rules) (path : List Step) (node : Node) :
    (node.rename rules).at? path = (node.at? path).map (rename rules) := by
  induction path generalizing node with
  | nil => rfl
  | cons step path ih =>
      simp only [at?, child?_rename]
      cases node.child? step with
      | none => rfl
      | some child => exact ih child

end Node

end Relabel
