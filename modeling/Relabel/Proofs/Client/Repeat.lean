import Relabel.Proofs.Client.NodeType

/-!
# Repeated keys

A document that is read as a node is refused if it repeats a key that the node declares, and so
is every document that holds it: what is read as a whole has been read node by node.
-/

namespace Relabel

open Relabel.Json

/-- A document that is read as a node of a type, from a text or from memory. -/
def NodeType.Read (type : NodeType) (document : Json) : Prop :=
  ∃ route value, type.decode route (Source.ofJson document) = .ok value

/-! ## No declared key occurs twice -/

namespace Layout

variable {φ α : Type} [DecidableEq φ] (layout : Layout φ α)

theorem count_le_one_of_ofObject {name : String} {others : Route → Source → Except Fault Json}
    {route : Route} {members : List (String × Json)} {draft : Draft φ α}
    (h : Draft.ofObject name layout.declared layout.set others layout.empty route
      (Source.ofJson (.object members)) = .ok draft) {key : String} (hkey : key ∈ layout.keys) :
    (members.map Prod.fst).count key ≤ 1 := by
  obtain ⟨-, htake⟩ := layout.ofObject_document_eq_ok_iff.mp h
  have hnodup := (layout.nodup_claimed_of_takeAll htake).1
  rw [← List.count_filter (p := (· ∈ layout.keys)) (by simpa using hkey)]
  exact List.nodup_iff_count_le_one.mp hnodup key

theorem count_unclaimed {members : List (String × Json)} {key : String}
    (hkey : key ∉ layout.keys) :
    ((layout.unclaimed members).map Prod.fst).count key = (members.map Prod.fst).count key := by
  have hfilter : (layout.unclaimed members).map Prod.fst =
      (members.map Prod.fst).filter (· ∉ layout.keys) := by
    rw [List.filter_map]
    rfl
  rw [hfilter, List.count_filter (by simpa using hkey)]

theorem exists_read_model {β : Type} {reader : Route → Source → Except Fault β} {name : String}
    (finish : α → Model → β)
    (hreader : ∀ route source, reader route source = do
      let draft ← layout.read name route source
      return finish draft.node (← Model.ofMembers draft.rest))
    {route : Route} {members : List (String × Json)} {value : β}
    (h : reader route (Source.ofJson (.object members)) = .ok value) :
    (∃ draft, layout.read name route (Source.ofJson (.object members)) = .ok draft) ∧
      NodeType.model.Read (.object (layout.unclaimed members)) := by
  rw [hreader, bind_eq_ok_iff] at h
  obtain ⟨draft, hdraft, h⟩ := h
  obtain ⟨model, hmodel, -⟩ := bind_eq_ok_iff.mp h
  rw [Model.ofMembers_eq, layout.rest_of_read hdraft] at hmodel
  exact ⟨⟨draft, hdraft⟩, .memory, model, hmodel⟩

end Layout

theorem Model.count_le_one {members : List (String × Json)}
    (h : NodeType.model.Read (.object members)) {key : String} (hkey : key ∈ layout.keys) :
    (members.map Prod.fst).count key ≤ 1 := by
  obtain ⟨route, model, hread⟩ := h
  obtain ⟨draft, hdraft, -⟩ := map_eq_ok_iff.mp ((decode_eq route _).symm.trans hread)
  exact layout.count_le_one_of_ofObject hdraft hkey

theorem Layout.count_le_one_of_read_model {φ α β : Type} [DecidableEq φ] (layout : Layout φ α)
    {reader : Route → Source → Except Fault β} {name : String} (finish : α → Model → β)
    (hreader : ∀ route source, reader route source = do
      let draft ← layout.read name route source
      return finish draft.node (← Model.ofMembers draft.rest))
    {route : Route} {members : List (String × Json)} {value : β}
    (h : reader route (Source.ofJson (.object members)) = .ok value) {key : String}
    (hkey : key ∈ layout.keys ++ Model.layout.keys) :
    (members.map Prod.fst).count key ≤ 1 := by
  obtain ⟨⟨draft, hdraft⟩, hmodel⟩ := layout.exists_read_model finish hreader h
  by_cases hown : key ∈ layout.keys
  · exact layout.count_le_one_of_ofObject hdraft hown
  · rw [← layout.count_unclaimed hown]
    exact Model.count_le_one hmodel ((List.mem_append.mp hkey).resolve_left hown)

theorem NodeType.count_le_one (type : NodeType) {members : List (String × Json)}
    (h : type.Read (.object members)) {key : String} (hkey : key ∈ type.keys) :
    (members.map Prod.fst).count key ≤ 1 := by
  cases type with
  | model => exact Model.count_le_one h hkey
  | response =>
      obtain ⟨route, response, hread⟩ := h
      exact Response.layout.count_le_one_of_read_model (fun node model => { node with model })
        Response.decode_eq hread hkey
  | parameter =>
      obtain ⟨route, parameter, hread⟩ := h
      exact Parameter.layout.count_le_one_of_read_model (fun node model => { node with model })
        Parameter.decode_eq hread hkey
  | error =>
      obtain ⟨route, error, hread⟩ := h
      obtain ⟨draft, hdraft, -⟩ := bind_eq_ok_iff.mp hread
      exact OperationError.layout.count_le_one_of_ofObject hdraft hkey
  | member =>
      obtain ⟨route, member, hread⟩ := h
      obtain ⟨draft, hdraft, -⟩ := bind_eq_ok_iff.mp hread
      exact EnumMember.layout.count_le_one_of_ofObject hdraft hkey
  | operation =>
      obtain ⟨route, operation, hread⟩ := h
      obtain ⟨draft, hdraft, -⟩ := bind_eq_ok_iff.mp hread
      exact Operation.layout.count_le_one_of_ofObject hdraft hkey
  | service =>
      obtain ⟨route, service, hread⟩ := h
      obtain ⟨draft, hdraft, -⟩ := bind_eq_ok_iff.mp hread
      exact Service.layout.count_le_one_of_ofObject hdraft hkey
  | client =>
      obtain ⟨route, client, hread⟩ := h
      obtain ⟨draft, hdraft, -⟩ := bind_eq_ok_iff.mp hread
      exact Client.layout.count_le_one_of_ofObject hdraft hkey

/-! ## What is read holds what is read -/

def Slot.Read (slot : Slot) (value : Json) : Prop :=
  ∀ node ∈ slot.nodes value, node.1.Read node.2

theorem Slot.read_one {type : NodeType} {α : Type} {route : Route} {value : Json}
    {set : Option type.Value → α}
    (h : ∃ part, (do return set (← (Source.ofJson value).readOptional (type.decode route))) =
      (.ok part : Except Fault α)) :
    (Slot.one type).Read value := by
  intro node hnode
  obtain ⟨part, hpart⟩ := h
  obtain ⟨result, hresult, -⟩ := bind_eq_ok_iff.mp hpart
  cases value with
  | object members =>
      rw [Slot.nodes, List.mem_singleton] at hnode
      obtain ⟨inner, hinner, -⟩ := map_eq_ok_iff.mp hresult
      rw [hnode]
      exact ⟨route, inner, hinner⟩
  | _ => cases hnode

theorem Slot.read_list {type : NodeType} {α : Type} {route : Route} {value : Json}
    {set : List type.Value → α}
    (h : ∃ part, (do return set (← (Source.ofJson value).readList route type.decode)) =
      (.ok part : Except Fault α)) :
    (Slot.list type).Read value := by
  intro node hnode
  obtain ⟨part, hpart⟩ := h
  obtain ⟨result, hresult, -⟩ := bind_eq_ok_iff.mp hpart
  cases value with
  | array items =>
      obtain ⟨item, hitem, rfl⟩ := List.mem_map.mp hnode
      rw [Source.ofJson, Source.ofItems_eq] at hresult
      obtain ⟨inner, -, hvalues⟩ := bind_eq_ok_iff.mp hresult
      obtain ⟨values, hvalues, -⟩ := bind_eq_ok_iff.mp hvalues
      obtain ⟨read, hread⟩ := exists_of_mapM_eq_ok hvalues (List.mem_map_of_mem hitem)
      exact ⟨inner, read, hread⟩
  | _ => cases hnode

theorem Layout.exists_set_of_ofObject {φ α : Type} [DecidableEq φ] (layout : Layout φ α)
    {name : String} {others : Route → Source → Except Fault Json} {route : Route}
    {members : List (String × Json)} {draft : Draft φ α}
    (h : Draft.ofObject name layout.declared layout.set others layout.empty route
      (Source.ofJson (.object members)) = .ok draft) (field : φ) {value : Json}
    (hmember : (layout.key field, value) ∈ members) :
    ∃ part, layout.set route.inner field (Source.ofJson value) layout.empty = .ok part := by
  obtain ⟨-, htake⟩ := layout.ofObject_document_eq_ok_iff.mp h
  exact layout.exists_set_of_takeAll (List.mem_map.mpr ⟨_, hmember, rfl⟩) htake

theorem Model.read_slot {members : List (String × Json)}
    (h : NodeType.model.Read (.object members)) {key : String} {value : Json} {slot : Slot}
    (hmember : (key, value) ∈ members) (hslot : (key, slot) ∈ NodeType.model.slots) :
    slot.Read value := by
  obtain ⟨route, model, hread⟩ := h
  obtain ⟨draft, hdraft, -⟩ := map_eq_ok_iff.mp ((decode_eq route _).symm.trans hread)
  have hset := layout.exists_set_of_ofObject hdraft
  simp only [NodeType.slots, List.mem_cons, Prod.mk.injEq, List.not_mem_nil, or_false] at hslot
  rcases hslot with ⟨rfl, rfl⟩ | ⟨rfl, rfl⟩ | ⟨rfl, rfl⟩ | ⟨rfl, rfl⟩
  · exact Slot.read_one (hset .link hmember)
  · exact Slot.read_list (hset .members hmember)
  · exact Slot.read_list (hset .enums hmember)
  · exact Slot.read_list (hset .properties hmember)

theorem Layout.read_slot_of_read_model {φ α β : Type} [DecidableEq φ] (layout : Layout φ α)
    {reader : Route → Source → Except Fault β} {name : String} (finish : α → Model → β)
    (hreader : ∀ route source, reader route source = do
      let draft ← layout.read name route source
      return finish draft.node (← Model.ofMembers draft.rest))
    (hkeys : ∀ slot ∈ NodeType.model.slots, slot.1 ∉ layout.keys)
    {route : Route} {members : List (String × Json)} {result : β}
    (h : reader route (Source.ofJson (.object members)) = .ok result) {key : String} {value : Json}
    {slot : Slot} (hmember : (key, value) ∈ members)
    (hslot : (key, slot) ∈ NodeType.model.slots) : slot.Read value := by
  obtain ⟨-, hmodel⟩ := layout.exists_read_model finish hreader h
  exact Model.read_slot hmodel (layout.mem_unclaimed.mpr ⟨hmember, hkeys _ hslot⟩) hslot

theorem NodeType.read_slot (type : NodeType) {members : List (String × Json)}
    (h : type.Read (.object members)) {key : String} {value : Json} {slot : Slot}
    (hmember : (key, value) ∈ members) (hslot : (key, slot) ∈ type.slots) : slot.Read value := by
  cases type with
  | member => cases hslot
  | model => exact Model.read_slot h hmember hslot
  | response =>
      obtain ⟨route, response, hread⟩ := h
      exact Response.layout.read_slot_of_read_model (fun node model => { node with model })
        Response.decode_eq (by decide) hread hmember hslot
  | parameter =>
      obtain ⟨route, parameter, hread⟩ := h
      exact Parameter.layout.read_slot_of_read_model (fun node model => { node with model })
        Parameter.decode_eq (by decide) hread hmember hslot
  | error => cases hslot
  | operation =>
      obtain ⟨route, operation, hread⟩ := h
      obtain ⟨draft, hdraft, -⟩ := bind_eq_ok_iff.mp hread
      have hset := Operation.layout.exists_set_of_ofObject hdraft
      simp only [slots, List.mem_cons, Prod.mk.injEq, List.not_mem_nil, or_false] at hslot
      rcases hslot with ⟨rfl, rfl⟩ | ⟨rfl, rfl⟩ | ⟨rfl, rfl⟩ | ⟨rfl, rfl⟩
      · exact Slot.read_list (hset .parameters hmember)
      · exact Slot.read_one (hset .parametersBody hmember)
      · exact Slot.read_list (hset .errors hmember)
      · exact Slot.read_list (hset .results hmember)
  | service =>
      obtain ⟨route, service, hread⟩ := h
      obtain ⟨draft, hdraft, -⟩ := bind_eq_ok_iff.mp hread
      have hset := Service.layout.exists_set_of_ofObject hdraft
      simp only [slots, List.mem_singleton, Prod.mk.injEq] at hslot
      obtain ⟨rfl, rfl⟩ := hslot
      exact Slot.read_list (hset .operations hmember)
  | client =>
      obtain ⟨route, client, hread⟩ := h
      obtain ⟨draft, hdraft, -⟩ := bind_eq_ok_iff.mp hread
      have hset := Client.layout.exists_set_of_ofObject hdraft
      simp only [slots, List.mem_cons, Prod.mk.injEq, List.not_mem_nil, or_false] at hslot
      rcases hslot with ⟨rfl, rfl⟩ | ⟨rfl, rfl⟩
      · obtain ⟨part, hpart⟩ := hset .models hmember
        exact Slot.read_list ⟨part, (Client.layout_set_models ..).symm.trans hpart⟩
      · exact Slot.read_list (hset .services hmember)

theorem NodeType.Holds.read {type last : NodeType} {document final : Json}
    (h : type.Holds document last final) (hread : type.Read document) : last.Read final := by
  induction h with
  | self => exact hread
  | step hmember hslot hnode _ ih => exact ih (read_slot _ hread hmember hslot _ hnode)

end Relabel
