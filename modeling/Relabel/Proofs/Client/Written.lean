import Relabel.Proofs.Client.Canonical
import Relabel.Proofs.Json.ReadBack

/-!
# Written nodes

A node is written with all its declared keys and then with what it keeps beside them.  Member by
member, the reader finds the parts of the node again.
-/

namespace Relabel

open Relabel.Json

namespace Layout

variable {φ α : Type} [DecidableEq φ] (layout : Layout φ α)

theorem nodup_all : layout.all.Nodup := layout.nodup_keys.of_map _

def written (fields : List φ) (write : φ → Json) (extra : List (String × Json)) :
    List (String × Json) :=
  fields.map (fun field => (layout.key field, write field)) ++ extra

def copyAll (source : α) (fields : List φ) (node : α) : α :=
  fields.foldl (fun node field => layout.copy field source node) node

/-- Read as a field of any node, the document sets the part that the field is of the source. -/
def Restores (source : α) (field : φ) (document : Json) : Prop :=
  ∀ node, ReadsAs (fun route part => layout.set route field part node) document
    (layout.copy field source node)

variable {route : Route} {source : α} {fields : List φ} {write : φ → Json}

theorem takeAll_fields {other : Source → Except Fault Json} {draft : Draft φ α}
    (hset : ∀ field ∈ fields, layout.Restores source field (write field))
    (hnodup : fields.Nodup) (hseen : ∀ field ∈ fields, field ∉ draft.seen) :
    draft.takeAll layout.declared (layout.set route) other
        ((fields.map fun field => (layout.key field, write field)).map Source.ofMember) =
      route.gate (deepest (fields.map fun field => (write field).depth))
        { draft with
          node := layout.copyAll source fields draft.node
          seen := fields.reverse ++ draft.seen } := by
  induction fields generalizing draft with
  | nil => simp [Draft.takeAll, copyAll]
  | cons field fields ih =>
      obtain ⟨hfield, hfields⟩ := List.forall_mem_cons.mp hseen
      obtain ⟨hnew, hnodup⟩ := List.nodup_cons.mp hnodup
      obtain ⟨hvalue, hset⟩ := List.forall_mem_cons.mp hset
      simp only [List.map_cons, Draft.takeAll, Source.ofMember, layout.take_key hfield,
        hvalue draft.node route, Route.gate_map, deepest_cons]
      refine Route.gate_bind ?_
      have hunseen : ∀ other ∈ fields, other ∉ field :: draft.seen := fun other hother =>
        List.not_mem_cons_of_ne_of_not_mem (ne_of_mem_of_not_mem hother hnew) (hfields other hother)
      rw [ih hset hnodup hunseen]
      simp [copyAll]

theorem takeAll_undeclared {set : φ → Source → α → Except Fault α}
    {others : Route → Source → Except Fault Json} {draft : Draft φ α}
    {members : List (String × Json)} (hkeys : ∀ member ∈ members, member.1 ∉ layout.keys)
    (hothers : ∀ member ∈ members, ReadsAs others member.2 member.2) :
    draft.takeAll layout.declared set (others route) (members.map Source.ofMember) =
      route.gate (deepest (members.map fun member => member.2.depth))
        { draft with others := members.reverse ++ draft.others } := by
  induction members generalizing draft with
  | nil => simp [Draft.takeAll]
  | cons member members ih =>
      obtain ⟨hkey, hkeys⟩ := List.forall_mem_cons.mp hkeys
      obtain ⟨hother, hothers⟩ := List.forall_mem_cons.mp hothers
      simp only [List.map_cons, Draft.takeAll, Source.ofMember, layout.take_other hkey,
        hother route, Route.gate_map, deepest_cons]
      refine Route.gate_bind ?_
      rw [ih hkeys hothers]
      simp

section reading

variable {name : String} {extra : List (String × Json)}
  (hset : ∀ field ∈ fields, layout.Restores source field (write field)) (hnodup : fields.Nodup)

include hset hnodup

theorem ofObject_written {others : Route → Source → Except Fault Json}
    (hextra : ∀ member ∈ extra, member.1 ∉ layout.keys)
    (hothers : ∀ member ∈ extra, ReadsAs others member.2 member.2) :
    ReadsAs (Draft.ofObject name layout.declared layout.set others layout.empty)
      (.object (layout.written fields write extra))
      ⟨layout.copyAll source fields layout.empty, fields.reverse, extra.reverse⟩ := by
  intro route
  have hclosed : check ObjectEnd.closed.whenRead? = .ok () := rfl
  rw [depth_object, Source.ofJson, Source.ofMembers_eq]
  simp only [Draft.ofObject, hclosed, ok_bind, bind_pure]
  refine Route.enter_bind_gate ?_
  rw [written, List.map_append, List.map_append, deepest_append, takeAll_append,
    layout.takeAll_fields hset hnodup (fun _ _ => List.not_mem_nil), List.map_map]
  refine Route.gate_bind ?_
  rw [layout.takeAll_undeclared hextra hothers]
  simp [Draft.start]

theorem readsAs_read (hextra : ∀ member ∈ extra, member.1 ∉ layout.keys) :
    ReadsAs (layout.read name) (.object (layout.written fields write extra))
      ⟨layout.copyAll source fields layout.empty, fields.reverse, extra.reverse⟩ :=
  layout.ofObject_written hset hnodup hextra fun member _ route => Source.read_ofJson route member.2

variable {β : Type} {reader : Route → Source → Except Fault β} {final : β}

theorem readsAs_of_read (finish : α → List (String × Json) → β)
    (hreader : ∀ route source, reader route source =
      (fun draft => finish draft.node draft.extra) <$> layout.read name route source)
    (hextra : Kept layout.keys extra)
    (hfinal : finish (layout.copyAll source fields layout.empty) extra = final) :
    ReadsAs reader (.object (layout.written fields write extra)) final := by
  intro route
  rw [hreader, layout.readsAs_read hset hnodup hextra.undeclared route, Route.gate_map,
    Draft.extra, Draft.rest, List.reverse_reverse, hextra.normal, hfinal]

theorem readsAs_of_read_model {model : Model} (finish : α → Model → β)
    (hreader : ∀ route source, reader route source = do
      let draft ← layout.read name route source
      return finish draft.node (← Model.ofMembers draft.rest))
    (hextra : ∀ member ∈ extra, member.1 ∉ layout.keys) (hmodel : Model.ofMembers extra = .ok model)
    (hfinal : finish (layout.copyAll source fields layout.empty) model = final) :
    ReadsAs reader (.object (layout.written fields write extra)) final := by
  intro route
  rw [hreader, layout.readsAs_read hset hnodup hextra route, ← Nat.max_zero (depth _)]
  refine Route.gate_bind ?_
  simp only [Draft.rest, List.reverse_reverse, hmodel, Route.gate_zero, ok_bind, hfinal]
  rfl

end reading

end Layout

/-! ## Models -/

namespace EnumMember

def write (member : EnumMember) : Field → Json
  | .name => .text member.name
  | .value => member.value
  | .type => .text member.type
  | .description => .ofText? member.description

theorem Canonical.restores {member : EnumMember} (h : member.Canonical) (field : Field) :
    layout.Restores member field (member.write field) := by
  intro node
  cases field with
  | name => exact (readsAs_readText _).map _
  | value => exact (readsAs_readNormal h.value).map _
  | type => exact (readsAs_readText _).map _
  | description => exact (readsAs_ofText? _).map _

theorem Canonical.readsAs {member : EnumMember} (h : member.Canonical) :
    ReadsAs decode member.toJson member :=
  layout.readsAs_of_read (fun field _ => h.restores field) layout.nodup_all
    (fun node extra => { node with extra }) decode_eq h.extra rfl

end EnumMember

namespace Model

def write (model : Model) : Field → Json
  | .name => .text model.name
  | .kind => .text model.kind.text
  | .type => .text model.type
  | .base => .text model.base
  | .template => .ofText? model.template
  | .link => model.link.elim .null toJson
  | .description => .ofText? model.description
  | .isDefinition => .bool model.isDefinition
  | .isReadOnly => .bool model.isReadOnly
  | .isRequired => .bool model.isRequired
  | .isNullable => .bool model.isNullable
  | .imports => .ofTexts model.imports
  | .members => .array (model.members.map EnumMember.toJson)
  | .enums => .array (model.enums.map toJson)
  | .properties => .array (model.properties.map toJson)

theorem linkToJson_eq (link : Option Model) : linkToJson link = link.elim .null toJson := by
  cases link <;> rfl

theorem listToJson_eq (models : List Model) : listToJson models = models.map toJson := by
  induction models with
  | nil => rfl
  | cons model models ih => rw [listToJson, ih, List.map_cons, toJson]

theorem toMembers_eq (model : Model) :
    model.toMembers = layout.written layout.all model.write model.extra := by
  cases model
  simp only [toMembers, linkToJson_eq, listToJson_eq]
  rfl

theorem readsAs_kind (kind : ExportKind) : ReadsAs ExportKind.decode (.text kind.text) kind :=
  readsAs_readTag (by cases kind <;> rfl)

theorem Canonical.readsAs {model : Model} (h : model.Canonical) :
    ReadsAs decode model.toJson model := by
  induction h with
  | intro link members enums properties extra ihlink ihenums ihproperties =>
      rename_i model
      have hset : ∀ field ∈ Field.all, layout.Restores model field (model.write field) := by
        intro field _ node
        cases field with
        | name | type | base => exact (readsAs_readText _).map _
        | kind => exact (readsAs_kind _).map _
        | template | description => exact (readsAs_ofText? _).map _
        | link =>
            exact (readsAs_readOptional toJson fun inner hinner =>
              ⟨nofun, ihlink inner hinner⟩).map _
        | isDefinition | isReadOnly | isRequired | isNullable => exact (readsAs_readFlag _).map _
        | imports => exact (readsAs_ofTexts _).map _
        | members =>
            exact (readsAs_readList fun member hmember => (members member hmember).readsAs).map _
        | enums => exact (readsAs_readList ihenums).map _
        | properties => exact (readsAs_readList ihproperties).map _
      rw [toJson, toMembers_eq]
      refine layout.readsAs_of_read hset layout.nodup_all (fun node extra => { node with extra })
        decode_eq extra ?_
      cases model
      rfl

theorem ofMembers_toMembers {model : Model} (h : model.Canonical) :
    ofMembers model.toMembers = .ok model :=
  (ofMembers_eq _).trans (h.readsAs .memory)

theorem key_of_mem_toMembers {model : Model} {member : String × Json}
    (h : member ∈ model.toMembers) : member.1 ∈ layout.keys ∨ member ∈ model.extra := by
  rw [toMembers_eq] at h
  rcases List.mem_append.mp h with hfield | hextra
  · obtain ⟨field, -, rfl⟩ := List.mem_map.mp hfield
    exact .inl (layout.key_mem_keys field)
  · exact .inr hextra

end Model

/-! ## Responses, parameters and errors -/

theorem Model.undeclared_toMembers {keys : List String} {model : Model}
    (hkeys : ∀ key ∈ layout.keys, key ∉ keys) (hextra : ∀ member ∈ model.extra, member.1 ∉ keys) :
    ∀ member ∈ model.toMembers, member.1 ∉ keys := by
  intro member hmember
  rcases key_of_mem_toMembers hmember with hkey | hmember
  · exact hkeys member.1 hkey
  · exact hextra member hmember

namespace Response

def write (response : Response) : Field → Json
  | .location => .text response.location.text
  | .code => .ofCode response.code

theorem readsAs_location (location : ResponseLocation) :
    ReadsAs ResponseLocation.decode (.text location.text) location :=
  readsAs_readTag (by cases location <;> rfl)

theorem restores (response : Response) (field : Field) :
    layout.Restores response field (response.write field) := by
  intro node
  cases field with
  | location => exact (readsAs_location _).map _
  | code => exact (readsAs_readCode _).map _

theorem Canonical.readsAs {response : Response} (h : response.Canonical) :
    ReadsAs decode response.toJson response :=
  layout.readsAs_of_read_model (fun field _ => response.restores field) layout.nodup_all
    (fun node model => { node with model }) decode_eq
    (Model.undeclared_toMembers (by decide) h.undeclared) (Model.ofMembers_toMembers h.model) rfl

end Response

namespace Parameter

def write (parameter : Parameter) : Field → Json
  | .location => .text parameter.location.text
  | .property => .text parameter.property
  | .default => parameter.default.getD .null
  | .mediaType => .ofText? parameter.mediaType

theorem readsAs_location (location : ParameterLocation) :
    ReadsAs ParameterLocation.decode (.text location.text) location :=
  readsAs_readTag (by cases location <;> rfl)

theorem Canonical.readsAs_default {parameter : Parameter} (h : parameter.Canonical) :
    ReadsAs (fun route => Source.readOptional (·.readNormal route))
      (parameter.default.getD .null) parameter.default := by
  have hwrite : parameter.default.getD .null = parameter.default.elim .null id := by
    cases parameter.default <;> rfl
  rw [hwrite]
  refine readsAs_readOptional id fun value hvalue => ⟨?_, ?_⟩
  · exact ne_of_mem_of_not_mem hvalue h.given
  · exact readsAs_readNormal (h.default value hvalue)

theorem Canonical.restores {parameter : Parameter} (h : parameter.Canonical) (field : Field) :
    layout.Restores parameter field (parameter.write field) := by
  intro node
  cases field with
  | location => exact (readsAs_location _).map _
  | property => exact (readsAs_readText _).map _
  | default => exact h.readsAs_default.map _
  | mediaType => exact (readsAs_ofText? _).map _

theorem Canonical.readsAs {parameter : Parameter} (h : parameter.Canonical) :
    ReadsAs decode parameter.toJson parameter :=
  layout.readsAs_of_read_model (fun field _ => h.restores field) layout.nodup_all
    (fun node model => { node with model }) decode_eq
    (Model.undeclared_toMembers (by decide) h.undeclared) (Model.ofMembers_toMembers h.model) rfl

end Parameter

namespace OperationError

def write (error : OperationError) : Field → Json
  | .code => .ofCode error.code
  | .description => .text error.description

theorem restores (error : OperationError) (field : Field) :
    layout.Restores error field (error.write field) := by
  intro node
  cases field with
  | code => exact (readsAs_readCode _).map _
  | description => exact (readsAs_readText _).map _

theorem readsAs (error : OperationError) : ReadsAs decode error.toJson error := by
  intro route
  have hread : ReadsAs (Draft.ofObject "OperationError" layout.declared layout.set skipOther
      layout.empty) (.object (layout.written layout.all error.write []))
      ⟨error, layout.all.reverse, []⟩ :=
    layout.ofObject_written (fun field _ => error.restores field) layout.nodup_all
      (List.forall_mem_nil _) (List.forall_mem_nil _)
  calc decode route (Source.ofJson error.toJson)
      = Draft.node <$> Draft.ofObject "OperationError" layout.declared layout.set skipOther
          layout.empty route (Source.ofJson (.object (layout.written layout.all error.write []))) :=
        (map_eq_pure_bind ..).symm
    _ = route.gate error.toJson.depth error := by
        rw [hread route, Route.gate_map]
        rfl

end OperationError

/-! ## Operations, services and clients -/

namespace Operation

def write (operation : Operation) : Field → Json
  | .service => .text operation.service
  | .name => .text operation.name
  | .summary => .ofText? operation.summary
  | .description => .ofText? operation.description
  | .deprecated => .bool operation.deprecated
  | .method => .text operation.method
  | .path => .text operation.path
  | .parameters => .array (operation.parameters.map Parameter.toJson)
  | .parametersBody => operation.parametersBody.elim .null Parameter.toJson
  | .errors => .array (operation.errors.map OperationError.toJson)
  | .results => .array (operation.results.map Response.toJson)
  | .responseHeader => .ofText? operation.responseHeader

theorem Canonical.restores {operation : Operation} (h : operation.Canonical) (field : Field) :
    layout.Restores operation field (operation.write field) := by
  intro node
  cases field with
  | service | name | method | path => exact (readsAs_readText _).map _
  | summary | description | responseHeader => exact (readsAs_ofText? _).map _
  | deprecated => exact (readsAs_readFlag _).map _
  | parameters =>
      exact (readsAs_readList fun parameter hparameter =>
        (h.parameters parameter hparameter).readsAs).map _
  | parametersBody =>
      exact (readsAs_readOptional Parameter.toJson fun parameter hparameter =>
        ⟨nofun, (h.parametersBody parameter hparameter).readsAs⟩).map _
  | errors => exact (readsAs_readList fun error _ => error.readsAs).map _
  | results =>
      exact (readsAs_readList fun result hresult => (h.results result hresult).readsAs).map _

theorem Canonical.readsAs {operation : Operation} (h : operation.Canonical) :
    ReadsAs decode operation.toJson operation := by
  refine layout.readsAs_of_read (fun field _ => h.restores field) layout.nodup_all
    (fun node extra => { node with extra }) decode_eq h.extra ?_
  cases operation
  rfl

end Operation

namespace Service

def write (service : Service) : Field → Json
  | .name => .text service.name
  | .operations => .array (service.operations.map Operation.toJson)
  | .imports => .ofTexts service.imports

theorem Canonical.restores {service : Service} (h : service.Canonical) (field : Field) :
    layout.Restores service field (service.write field) := by
  intro node
  cases field with
  | name => exact (readsAs_readText _).map _
  | operations =>
      exact (readsAs_readList fun operation hoperation =>
        (h.operations operation hoperation).readsAs).map _
  | imports => exact (readsAs_ofTexts _).map _

theorem Canonical.readsAs {service : Service} (h : service.Canonical) :
    ReadsAs decode service.toJson service :=
  layout.readsAs_of_read (fun field _ => h.restores field) layout.nodup_all
    (fun node extra => { node with extra }) decode_eq h.extra rfl

end Service

namespace Client

def write (client : Client) : Field → Json
  | .version => .text client.version
  | .server => .text client.server
  | .models => .array (client.models.map Model.toJson)
  | .services => .array (client.services.map Service.toJson)

theorem Canonical.restores {client : Client} (h : client.Canonical) (field : Field) :
    layout.Restores client field (client.write field) := by
  intro node
  cases field with
  | version | server => exact (readsAs_readText _).map _
  | models =>
      simp only [layout_set_models]
      exact (readsAs_readList fun model hmodel => (h.models model hmodel).readsAs).map _
  | services =>
      exact (readsAs_readList fun service hservice => (h.services service hservice).readsAs).map _

theorem Canonical.readsAs {client : Client} (h : client.Canonical) :
    ReadsAs decode client.toJson client :=
  layout.readsAs_of_read (fun field _ => h.restores field) layout.nodup_all
    (fun node extra => { node with extra }) decode_eq h.extra rfl

end Client

end Relabel
