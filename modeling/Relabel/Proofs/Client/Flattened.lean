import Relabel.Proofs.Client.Acceptance
import Relabel.Proofs.Client.Written

/-!
# Models in the objects of responses and parameters

A response and a parameter share one object with a model.  Without their own keys the object is
read as that model, and is written as that model after a renaming.
-/

namespace Relabel

open Relabel.Json

/-- An object without the members of some keys. -/
def Json.without (keys : List String) : Json → Json
  | .object members => .object (members.filter fun member => member.1 ∉ keys)
  | document => document

theorem Json.without_append {keys : List String} {own rest : List (String × Json)}
    (hown : ∀ member ∈ own, member.1 ∈ keys) (hrest : ∀ member ∈ rest, member.1 ∉ keys) :
    (Json.object (own ++ rest)).without keys = .object rest := by
  have hnone : own.filter (fun member => member.1 ∉ keys) = [] :=
    List.filter_eq_nil_iff.mpr (by simpa using hown)
  have hall : rest.filter (fun member => member.1 ∉ keys) = rest :=
    List.filter_eq_self.mpr (by simpa using hrest)
  rw [without, List.filter_append, hnone, hall, List.nil_append]

namespace Response

theorem decode_model {members : List (String × Json)} {response : Response}
    (h : readJsonWith decode (.object members) = .ok response) :
    readJsonWith Model.decode ((Json.object members).without layout.keys) = .ok response.model := by
  obtain ⟨draft, model, -, hmodel, rfl⟩ :=
    (layout.read_model_eq_ok_iff (fun node model => { node with model }) decode_eq).mp h
  exact hmodel

theorem toJson_without {response : Response} (h : response.Canonical) :
    response.toJson.without layout.keys = response.model.toJson := by
  refine without_append ?_ (Model.undeclared_toMembers (by decide) h.undeclared)
  simp [layout, Layout.keys, Field.all]

end Response

namespace Parameter

theorem decode_model {members : List (String × Json)} {parameter : Parameter}
    (h : readJsonWith decode (.object members) = .ok parameter) :
    readJsonWith Model.decode ((Json.object members).without layout.keys) =
      .ok parameter.model := by
  obtain ⟨draft, model, -, hmodel, rfl⟩ :=
    (layout.read_model_eq_ok_iff (fun node model => { node with model }) decode_eq).mp h
  exact hmodel

theorem toJson_without {parameter : Parameter} (h : parameter.Canonical) :
    parameter.toJson.without layout.keys = parameter.model.toJson := by
  refine without_append ?_ (Model.undeclared_toMembers (by decide) h.undeclared)
  simp [layout, Layout.keys, Field.all]

end Parameter

/-- A response, and a parameter, is read from an object if the values of its own keys are accepted
and the rest is read as a model, which is the model that it has. To rename the response is to
rename that model. -/
theorem NodeType.reads_model_of_rest {members : List (String × Json)}
    (h : (members.map Prod.fst).Nodup) :
    let ofResponse := ["in", "code"]
    let ofParameter := ["in", "prop", "default", "mediaType"]
    let document := Json.object members
    ((∃ result, readJsonWith Response.decode document = .ok result) ↔
      (∀ member ∈ members, ∀ kind, (member.1, kind) ∈ response.ownFields →
        kind.Admits member.2) ∧
      ∃ model, readJsonWith Model.decode (document.without ofResponse) = .ok model) ∧
    (∀ result, readJsonWith Response.decode document = .ok result →
      readJsonWith Model.decode (document.without ofResponse) = .ok result.model ∧
      ∀ rules, (result.rename rules).value.toJson.without ofResponse =
        (result.model.rename rules).value.toJson) ∧
    ((∃ input, readJsonWith Parameter.decode document = .ok input) ↔
      (∀ member ∈ members, ∀ kind, (member.1, kind) ∈ parameter.ownFields →
        kind.Admits member.2) ∧
      ∃ model, readJsonWith Model.decode (document.without ofParameter) = .ok model) ∧
    ∀ input, readJsonWith Parameter.decode document = .ok input →
      readJsonWith Model.decode (document.without ofParameter) = .ok input.model ∧
      input.toJson.without ofParameter = input.model.toJson := by
  intro ofResponse ofParameter document
  refine ⟨?_, ?_, ?_, ?_⟩
  · exact Response.layout.exists_read_model_iff_admits (fun node model => { node with model })
      Response.decode_eq h fun field member _ => Response.accepts_set field member.2
  · intro result hresult
    have hcanonical := Response.yields_decode _ _ _ hresult
    exact ⟨Response.decode_model hresult, fun rules =>
      Response.toJson_without (hcanonical.rename rules)⟩
  · exact Parameter.layout.exists_read_model_iff_admits (fun node model => { node with model })
      Parameter.decode_eq h fun field member _ => Parameter.accepts_set field member.2
  · intro input hinput
    have hcanonical := Parameter.yields_decode _ _ _ hinput
    exact ⟨Parameter.decode_model hinput, Parameter.toJson_without hcanonical⟩

theorem NodeType.default_kept_by_response_taken_by_parameter :
    let members : List (String × Json) :=
      [("in", .text "header"), ("name", .text "courier_depot"), ("default", .bool true)]
    (members.map Prod.fst).Nodup ∧
    ∃ result input, readJsonWith Response.decode (.object members) = .ok result ∧
      readJsonWith Model.decode
        (.object [("name", .text "courier_depot"), ("default", .bool true)]) = .ok result.model ∧
      (∀ rules, (result.rename rules).value.toJson.without ["in", "code"] =
        (result.model.rename rules).value.toJson) ∧
      readJsonWith Parameter.decode (.object members) = .ok input ∧
      readJsonWith Model.decode (.object [("name", .text "courier_depot")]) = .ok input.model := by
  intro members
  have hnodup : (members.map Prod.fst).Nodup := by decide
  obtain ⟨-, hresponse, -, hparameter⟩ := reads_model_of_rest hnodup
  obtain ⟨hresult, hrename⟩ := hresponse _ rfl
  obtain ⟨hinput, -⟩ := hparameter _ rfl
  exact ⟨hnodup, _, _, rfl, hresult, hrename, rfl, hinput⟩

end Relabel
