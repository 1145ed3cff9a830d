import Relabel.Proofs.Client.Field
import Relabel.Proofs.Json.Yields
import Relabel.Proofs.Renaming.Value

/-!
# Canonical nodes

What every node satisfies that has been read: its opaque values are in normal form, and what it
keeps beside its declared keys is in normal form too and does not repeat one of them.  A renaming
changes nothing of this.
-/

namespace Relabel

open Relabel.Json

/-! ## What is left over -/

/-- Members that a node can keep beside those that it declares. -/
structure Kept (keys : List String) (extra : List (String × Json)) : Prop where
  normal : sortMembers (normalizeMembers extra) = extra
  undeclared : ∀ member ∈ extra, member.1 ∉ keys

theorem Kept.nil (keys : List String) : Kept keys [] := ⟨rfl, List.forall_mem_nil _⟩

theorem exists_rest_of_mem_extra {φ α : Type} {draft : Draft φ α} {member : String × Json}
    (h : member ∈ draft.extra) : ∃ value, (member.1, value) ∈ draft.rest := by
  have hmember := mem_of_mem_sortMembers h
  rw [normalizeMembers_eq] at hmember
  obtain ⟨⟨key, value⟩, hrest, rfl⟩ := List.mem_map.mp hmember
  exact ⟨value, hrest⟩

namespace Layout

variable {φ α : Type} [DecidableEq φ] (layout : Layout φ α) {name : String} {route : Route}
  {source : Source} {draft : Draft φ α}

theorem undeclared_rest (h : layout.read name route source = .ok draft) :
    ∀ member ∈ draft.rest, member.1 ∉ layout.keys := by
  obtain ⟨members, rfl, -, htake⟩ := layout.ofObject_eq_ok_iff.mp h
  simp only [Draft.rest, List.mem_reverse]
  refine layout.takeAll_induction
    (P := fun draft => ∀ member ∈ draft.others, member.1 ∉ layout.keys)
    (fun _ _ _ _ _ hdraft _ _ _ => hdraft) ?_ (List.forall_mem_nil _) htake
  intro _ _ draft name value hdraft _ hname _
  exact List.forall_mem_cons.mpr ⟨hname, hdraft⟩

theorem kept_extra (h : layout.read name route source = .ok draft) :
    Kept layout.keys draft.extra where
  normal := sortMembers_normalizeMembers_idem draft.rest
  undeclared := by
    intro member hmember
    obtain ⟨value, hrest⟩ := exists_rest_of_mem_extra hmember
    exact layout.undeclared_rest h (member.1, value) hrest

theorem of_read {P : α → Prop} (hempty : P layout.empty)
    (hset : ∀ part ∈ source.parts, ∀ field node, P node →
      Yields (fun route source => layout.set route field source node) P part)
    (h : layout.read name route source = .ok draft) : P draft.node := by
  obtain ⟨members, rfl, -, htake⟩ := layout.ofObject_eq_ok_iff.mp h
  refine layout.takeAll_induction (P := fun draft => P draft.node) ?_
    (fun _ _ _ _ _ hdraft _ _ _ => hdraft) hempty htake
  intro member hmember draft field node hdraft _ _ hnode
  exact hset member.2 (List.mem_map_of_mem hmember) field draft.node hdraft _ node hnode

theorem yields_of_read {β : Type} {reader : Route → Source → Except Fault β} {P : α → Prop}
    {Q : β → Prop} (finish : α → List (String × Json) → β)
    (hreader : ∀ route source, reader route source =
      (fun draft => finish draft.node draft.extra) <$> layout.read name route source)
    (hempty : P layout.empty)
    (hset : ∀ part ∈ source.parts, ∀ field node, P node →
      Yields (fun route source => layout.set route field source node) P part)
    (hfinish : ∀ node extra, P node → Kept layout.keys extra → Q (finish node extra)) :
    Yields reader Q source := by
  intro route node h
  rw [hreader, map_eq_ok_iff] at h
  obtain ⟨draft, hdraft, rfl⟩ := h
  exact hfinish _ _ (layout.of_read hempty hset hdraft) (layout.kept_extra hdraft)

end Layout

/-! ## Models -/

structure EnumMember.Canonical (member : EnumMember) : Prop where
  value : member.value.normalize = member.value
  extra : Kept layout.keys member.extra

inductive Model.Canonical : Model → Prop where
  | intro {model : Model} (link : ∀ inner ∈ model.link, Canonical inner)
      (members : ∀ member ∈ model.members, member.Canonical)
      (enums : ∀ inner ∈ model.enums, Canonical inner)
      (properties : ∀ inner ∈ model.properties, Canonical inner)
      (extra : Kept layout.keys model.extra) : Canonical model

namespace EnumMember

theorem canonical_empty : Canonical {} := ⟨rfl, .nil _⟩

theorem Canonical.yields_set {member : EnumMember} (h : member.Canonical) (field : Field)
    (source : Source) :
    Yields (fun route source => layout.set route field source member) Canonical source := by
  cases field with
  | value => exact (yields_readNormal source).map fun _ hvalue => ⟨hvalue, h.extra⟩
  | _ => exact yields_return fun _ => ⟨h.value, h.extra⟩

theorem yields_decode (source : Source) : Yields decode Canonical source :=
  layout.yields_of_read (fun node extra => { node with extra }) decode_eq canonical_empty
    (fun part _ field _ hnode => hnode.yields_set field part)
    fun _ _ hnode hextra => ⟨hnode.value, hextra⟩

theorem Canonical.rename (rules : Rules) {member : EnumMember} (h : member.Canonical) :
    (member.rename rules).value.Canonical :=
  ⟨h.value, h.extra⟩

end EnumMember

namespace Model

theorem canonical_empty : Canonical {} :=
  .intro nofun (List.forall_mem_nil _) (List.forall_mem_nil _) (List.forall_mem_nil _) (.nil _)

theorem Canonical.yields_set {model : Model} (h : model.Canonical) (field : Field)
    {source : Source} (hmodel : Yields decode Canonical source)
    (hparts : ∀ part ∈ source.parts, Yields decode Canonical part) :
    Yields (fun route source => layout.set route field source model) Canonical source := by
  obtain ⟨link, members, enums, properties, extra⟩ := h
  cases field with
  | link =>
      exact (yields_readOptional hmodel).map fun _ hlink =>
        ⟨hlink, members, enums, properties, extra⟩
  | members =>
      exact (yields_readList fun part _ => EnumMember.yields_decode part).map fun _ hmembers =>
        ⟨link, hmembers, enums, properties, extra⟩
  | enums =>
      exact (yields_readList hparts).map fun _ henums => ⟨link, members, henums, properties, extra⟩
  | properties =>
      exact (yields_readList hparts).map fun _ hproperties =>
        ⟨link, members, enums, hproperties, extra⟩
  | _ => exact yields_return fun _ => ⟨link, members, enums, properties, extra⟩

theorem Canonical.keep {model : Model} (h : model.Canonical) {extra : List (String × Json)}
    (hextra : Kept layout.keys extra) : Canonical { model with extra } := by
  obtain ⟨link, members, enums, properties, -⟩ := h
  exact ⟨link, members, enums, properties, hextra⟩

theorem yields_decode (source : Source) : Yields decode Canonical source := by
  -- A list of models is a part of its object, and its items are parts of that part.
  suffices h : Yields decode Canonical source ∧
      ∀ part ∈ source.parts, Yields decode Canonical part from h.1
  induction source using Source.induction_on_parts with
  | step source ih =>
      refine ⟨?_, fun part hpart => (ih part hpart).1⟩
      exact layout.yields_of_read (fun node extra => { node with extra }) decode_eq canonical_empty
        (fun part hpart field _ hnode => hnode.yields_set field (ih part hpart).1 (ih part hpart).2)
        fun _ _ hnode hextra => hnode.keep hextra

theorem Canonical.rename (rules : Rules) {model : Model} (h : model.Canonical) :
    (model.rename rules).value.Canonical := by
  induction h with
  | intro _ members _ _ extra ihlink ihenums ihproperties =>
      rw [value_rename]
      refine .intro ?_ ?_ ?_ ?_ extra
      · intro inner hinner
        obtain ⟨old, hold, rfl⟩ := Option.map_eq_some_iff.mp hinner
        exact ihlink old hold
      · exact List.forall_mem_map.mpr fun member hmember => (members member hmember).rename rules
      · exact List.forall_mem_map.mpr ihenums
      · exact List.forall_mem_map.mpr ihproperties

theorem exists_mem_of_ofMembers {members : List (String × Json)} {model : Model}
    (h : ofMembers members = .ok model) {member : String × Json} (hmember : member ∈ model.extra) :
    ∃ value, (member.1, value) ∈ members := by
  rw [ofMembers_eq, decode_eq, map_eq_ok_iff] at h
  obtain ⟨draft, hdraft, rfl⟩ := h
  obtain ⟨value, hvalue⟩ := exists_rest_of_mem_extra hmember
  rw [layout.rest_of_read hdraft, layout.mem_unclaimed] at hvalue
  exact ⟨value, hvalue.1⟩

theorem canonical_of_ofMembers {members : List (String × Json)} {model : Model}
    (h : ofMembers members = .ok model) : model.Canonical := by
  rw [ofMembers_eq] at h
  exact yields_decode _ _ _ h

end Model

/-! ## Responses and parameters -/

/-- The model and the response share one object, so what is left over is declared by neither. -/
structure Response.Canonical (response : Response) : Prop where
  model : response.model.Canonical
  undeclared : ∀ member ∈ response.model.extra, member.1 ∉ layout.keys

structure Parameter.Canonical (parameter : Parameter) : Prop where
  default : ∀ value ∈ parameter.default, value.normalize = value
  given : .null ∉ parameter.default
  model : parameter.model.Canonical
  undeclared : ∀ member ∈ parameter.model.extra, member.1 ∉ layout.keys

theorem Layout.undeclared_model {φ α : Type} [DecidableEq φ] (layout : Layout φ α) {name : String}
    {route : Route} {source : Source} {draft : Draft φ α} {model : Model}
    (hread : layout.read name route source = .ok draft)
    (hmodel : Model.ofMembers draft.rest = .ok model) :
    ∀ member ∈ model.extra, member.1 ∉ layout.keys := by
  intro member hmember
  obtain ⟨value, hvalue⟩ := Model.exists_mem_of_ofMembers hmodel hmember
  exact layout.undeclared_rest hread (member.1, value) hvalue

namespace Response

theorem yields_decode (source : Source) : Yields decode Canonical source := by
  intro route response h
  simp only [decode_eq, bind_eq_ok_iff, pure_eq_ok_iff] at h
  obtain ⟨draft, hdraft, model, hmodel, rfl⟩ := h
  exact ⟨Model.canonical_of_ofMembers hmodel, layout.undeclared_model hdraft hmodel⟩

theorem Canonical.rename (rules : Rules) {response : Response} (h : response.Canonical) :
    (response.rename rules).value.Canonical := by
  rw [value_rename]
  refine ⟨h.model.rename rules, ?_⟩
  rw [Model.value_rename]
  exact h.undeclared

end Response

namespace Parameter

theorem canonical_empty : Canonical {} :=
  ⟨nofun, nofun, Model.canonical_empty, List.forall_mem_nil _⟩

theorem Canonical.yields_set {parameter : Parameter} (h : parameter.Canonical) (field : Field)
    (source : Source) :
    Yields (fun route source => layout.set route field source parameter) Canonical source := by
  cases field with
  | default =>
      exact (yields_readOptional_readNormal source).map fun _ hdefault =>
        ⟨hdefault.1, hdefault.2, h.model, h.undeclared⟩
  | _ => exact yields_return fun _ => ⟨h.default, h.given, h.model, h.undeclared⟩

theorem yields_decode (source : Source) : Yields decode Canonical source := by
  intro route parameter h
  simp only [decode_eq, bind_eq_ok_iff, pure_eq_ok_iff] at h
  obtain ⟨draft, hdraft, model, hmodel, rfl⟩ := h
  have hnode : draft.node.Canonical :=
    layout.of_read canonical_empty (fun part _ field _ hnode => hnode.yields_set field part) hdraft
  exact ⟨hnode.default, hnode.given, Model.canonical_of_ofMembers hmodel,
    layout.undeclared_model hdraft hmodel⟩

end Parameter

/-! ## Operations, services and clients -/

structure Operation.Canonical (operation : Operation) : Prop where
  parameters : ∀ parameter ∈ operation.parameters, parameter.Canonical
  parametersBody : ∀ parameter ∈ operation.parametersBody, parameter.Canonical
  results : ∀ result ∈ operation.results, result.Canonical
  extra : Kept layout.keys operation.extra

structure Service.Canonical (service : Service) : Prop where
  operations : ∀ operation ∈ service.operations, operation.Canonical
  extra : Kept layout.keys service.extra

structure Client.Canonical (client : Client) : Prop where
  models : ∀ model ∈ client.models, model.Canonical
  services : ∀ service ∈ client.services, service.Canonical
  extra : Kept layout.keys client.extra

namespace Operation

theorem canonical_empty : Canonical {} :=
  ⟨List.forall_mem_nil _, nofun, List.forall_mem_nil _, .nil _⟩

theorem Canonical.yields_set {operation : Operation} (h : operation.Canonical) (field : Field)
    (source : Source) :
    Yields (fun route source => layout.set route field source operation) Canonical source := by
  cases field with
  | parameters =>
      exact (yields_readList fun part _ => Parameter.yields_decode part).map fun _ hparameters =>
        ⟨hparameters, h.parametersBody, h.results, h.extra⟩
  | parametersBody =>
      exact (yields_readOptional (Parameter.yields_decode source)).map fun _ hbody =>
        ⟨h.parameters, hbody, h.results, h.extra⟩
  | results =>
      exact (yields_readList fun part _ => Response.yields_decode part).map fun _ hresults =>
        ⟨h.parameters, h.parametersBody, hresults, h.extra⟩
  | _ => exact yields_return fun _ => ⟨h.parameters, h.parametersBody, h.results, h.extra⟩

theorem yields_decode (source : Source) : Yields decode Canonical source :=
  layout.yields_of_read (fun node extra => { node with extra }) decode_eq canonical_empty
    (fun part _ field _ hnode => hnode.yields_set field part)
    fun _ _ hnode hextra => ⟨hnode.parameters, hnode.parametersBody, hnode.results, hextra⟩

theorem Canonical.rename (rules : Rules) {operation : Operation} (h : operation.Canonical) :
    (operation.rename rules).value.Canonical := by
  rw [value_rename]
  refine ⟨h.parameters, h.parametersBody, ?_, h.extra⟩
  exact List.forall_mem_map.mpr fun result hresult => (h.results result hresult).rename rules

end Operation

namespace Service

theorem canonical_empty : Canonical {} := ⟨List.forall_mem_nil _, .nil _⟩

theorem Canonical.yields_set {service : Service} (h : service.Canonical) (field : Field)
    (source : Source) :
    Yields (fun route source => layout.set route field source service) Canonical source := by
  cases field with
  | operations =>
      exact (yields_readList fun part _ => Operation.yields_decode part).map fun _ hoperations =>
        ⟨hoperations, h.extra⟩
  | _ => exact yields_return fun _ => ⟨h.operations, h.extra⟩

theorem yields_decode (source : Source) : Yields decode Canonical source :=
  layout.yields_of_read (fun node extra => { node with extra }) decode_eq canonical_empty
    (fun part _ field _ hnode => hnode.yields_set field part)
    fun _ _ hnode hextra => ⟨hnode.operations, hextra⟩

theorem Canonical.rename (rules : Rules) {service : Service} (h : service.Canonical) :
    (service.rename rules).value.Canonical := by
  rw [value_rename]
  refine ⟨?_, h.extra⟩
  exact List.forall_mem_map.mpr fun operation hoperation =>
    (h.operations operation hoperation).rename rules

end Service

namespace Client

theorem canonical_empty : Canonical {} :=
  ⟨List.forall_mem_nil _, List.forall_mem_nil _, .nil _⟩

theorem Canonical.yields_set {client : Client} (h : client.Canonical) (field : Field)
    (source : Source) :
    Yields (fun route source => layout.set route field source client) Canonical source := by
  cases field with
  | models =>
      simp only [layout_set_models]
      exact (yields_readList fun part _ => Model.yields_decode part).map fun _ hmodels =>
        ⟨hmodels, h.services, h.extra⟩
  | services =>
      exact (yields_readList fun part _ => Service.yields_decode part).map fun _ hservices =>
        ⟨h.models, hservices, h.extra⟩
  | _ => exact yields_return fun _ => ⟨h.models, h.services, h.extra⟩

theorem yields_decode (source : Source) : Yields decode Canonical source :=
  layout.yields_of_read (fun node extra => { node with extra }) decode_eq canonical_empty
    (fun part _ field _ hnode => hnode.yields_set field part)
    fun _ _ hnode hextra => ⟨hnode.models, hnode.services, hextra⟩

theorem Canonical.rename (rules : Rules) {client : Client} (h : client.Canonical) :
    (client.rename rules).value.Canonical := by
  rw [value_rename]
  refine ⟨?_, ?_, h.extra⟩
  · exact List.forall_mem_map.mpr fun model hmodel => (h.models model hmodel).rename rules
  · exact List.forall_mem_map.mpr fun service hservice =>
      (h.services service hservice).rename rules

end Client

end Relabel
