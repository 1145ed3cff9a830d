import Relabel.Json.Reader

/-!
# Reading the members of a node

The members of an object are taken one after the other. A declared key sets a part of the node
and may occur only once. Any other member is kept as it stands, for the part of the node that
asks for the remaining members.
-/

namespace Relabel

open Relabel.Json

structure Draft (φ α : Type) where
  node : α
  seen : List φ
  others : List (String × Json)

namespace Draft

variable {φ α : Type}

def start (node : α) : Draft φ α := ⟨node, [], []⟩

def rest (draft : Draft φ α) : List (String × Json) :=
  draft.others.reverse

def extra (draft : Draft φ α) : List (String × Json) :=
  sortMembers (normalizeMembers draft.rest)

/-- Takes one member: `set` reads the value of a declared key into the node, `other` reads the
value of any other key. -/
def take [BEq φ] (declared : List (String × φ)) (key : Except SyntaxFault String)
    (set : φ → α → Except Fault α) (other : Unit → Except Fault Json) (draft : Draft φ α) :
    Except Fault (Draft φ α) := do
  let key ← readable key
  match declared.lookup key with
  | some field =>
      if draft.seen.contains field then throw (.content (.duplicateKey key))
      let node ← set field draft.node
      return { draft with node, seen := field :: draft.seen }
  | none =>
      let value ← other ()
      return { draft with others := (key, value) :: draft.others }

def takeAll [BEq φ] (declared : List (String × φ)) (set : φ → Source → α → Except Fault α)
    (other : Source → Except Fault Json) (draft : Draft φ α) :
    List (Except SyntaxFault String × Source) → Except Fault (Draft φ α)
  | [] => .ok draft
  | (key, value) :: rest => do
      let draft ← draft.take declared key (set · value) fun _ => other value
      takeAll declared set other draft rest

def ofObject [BEq φ] (name : String) (declared : List (String × φ))
    (set : Route → φ → Source → α → Except Fault α)
    (other : Route → Source → Except Fault Json) (node : α) (route : Route) :
    Source → Except Fault (Draft φ α)
  | .object members ending => do
      let inner ← route.enter
      let draft ← (start node).takeAll declared (set inner) (other inner) members
      check ending.whenRead?
      return draft
  | source => source.refuse ("struct " ++ name)

end Draft

end Relabel
