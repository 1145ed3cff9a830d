import Relabel.Proofs.Client.Assembly
import Relabel.Proofs.Renaming.Composition

/-!
# What is written for a node

Read and renamed, every type of node is written as its document rewritten by the rules.  In a
response this goes for the model in the same object too; a parameter is written with the names that
it has.
-/

namespace Relabel

open Relabel.Json

/-! ## Models -/

/-- Rules that give no name to what has none. -/
structure Rules.KeepEmpty (rules : Rules) : Prop where
  model : rules.model "" = ""
  member : rules.member "" = ""

namespace EnumMember

theorem lawful : layout.Lawful where
  copy_copy := by rintro ⟨⟩ a b node <;> rfl
  copy_self := by rintro ⟨⟩ node <;> rfl

variable {rules : Rules}

theorem writes (hrules : rules.KeepEmpty) :
    Layout.Writes layout grammar fun member field => (member.rename rules).value.write field where
  own := by
    intro field source node hname
    cases field with
    | name => exact absurd rfl hname
    | _ => rfl
  missing := by
    intro field node h
    rw [← h]
    cases field with
    | name => exact congrArg Json.text hrules.member
    | _ => rfl

theorem writesName :
    layout.WritesName rules .member fun member field => (member.rename rules).value.write field :=
  Layout.writesName_of_text Field.name rfl (fun name => { name }) name (fun _ _ => rfl)
    (fun _ _ => rfl) (fun member => rules.member member.name) (fun _ => rfl) fun _ _ _ => rfl

theorem rewrites_set (field : Field) (hfield : field ≠ .name) (document : Json) :
    Rewrites rules (fun route source => layout.set route field source layout.empty) (grammar field)
      (fun member => (member.rename rules).value.write field) document := by
  cases field with
  | name => contradiction
  | value => exact rewrites_readNormal.map fun _ => rfl
  | type => exact rewrites_readText.map fun _ => rfl
  | description => exact (rewrites_readOptional rewrites_readText).map fun _ => rfl

theorem rewrites_decode (hrules : rules.KeepEmpty) {document : Json} (h : document.NoRepeats) :
    Rewrites rules decode (.node .member) (fun member => (member.rename rules).value.toJson)
      document :=
  lawful.rewrites_of_read (by decide) NodeType.fields_member
    (fun node extra => { node with extra }) decode_eq (fun _ _ => rfl) (writes hrules) writesName h
    fun field hname part _ => rewrites_set field (fun hfield => hname (hfield ▸ rfl)) part

end EnumMember

namespace Model

theorem lawful : layout.Lawful where
  copy_copy := by rintro ⟨⟩ a b node <;> rfl
  copy_self := by rintro ⟨⟩ ⟨⟩ <;> rfl

theorem write_rename (rules : Rules) (model : Model) (field : Field) :
    (model.rename rules).value.write field =
      match field with
      | .name => .text (newName rules model.kind model.name)
      | .link => model.link.elim .null fun inner => (inner.rename rules).value.toJson
      | .members => .array (model.members.map fun member => (member.rename rules).value.toJson)
      | .enums => .array (model.enums.map fun inner => (inner.rename rules).value.toJson)
      | .properties => .array (model.properties.map fun inner => (inner.rename rules).value.toJson)
      | field => model.write field := by
  rw [value_rename]
  cases field with
  | link => simp [write, Option.elim_map, Function.comp_def]
  | members | enums | properties => simp [write]
  | _ => rfl

variable {rules : Rules}

theorem writes (hrules : rules.KeepEmpty) :
    Layout.Writes layout grammar fun model field => (model.rename rules).value.write field where
  own := by
    intro field source node hname
    rw [write_rename, write_rename]
    cases field with
    | name => exact absurd rfl hname
    | _ => rfl
  missing := by
    intro field node h
    rw [← h, write_rename]
    cases field with
    | name =>
        have hempty : newName rules node.kind "" = "" := by simp [newName, hrules.model]
        exact congrArg Json.text hempty
    | _ => rfl

theorem renames_newName (rules : Rules) {written : List (String × Json)} {kind : ExportKind}
    (h : ∀ value, ("export", value) ∈ written ↔ value = .text kind.text) (name : String) :
    NodeType.model.Renames rules written name (newName rules kind name) := by
  have hinterface : ("export", Json.text "interface") ∈ written ↔ kind = .interface := by
    rw [h]
    cases kind <;> simp [ExportKind.text]
  rw [NodeType.Renames, hinterface]
  by_cases hkind : kind = .interface <;> simp [newName, hkind]

theorem writesName :
    layout.WritesName rules .model fun model field => (model.rename rules).value.write field := by
  refine Layout.writesName_of_text Field.name rfl (fun name => { name }) name (fun _ _ => rfl)
    (fun _ _ => rfl) (fun model => newName rules model.kind model.name)
    (fun model => write_rename rules model .name) fun model rest hrest => ?_
  refine renames_newName rules (fun value => ?_) model.name
  have hkind : (model.rename rules).value.write .kind = .text model.kind.text := write_rename ..
  rw [← hkind]
  exact Layout.mem_written_key Field.kind hrest

theorem rewrites_set (field : Field) (hfield : field ≠ .name) (hrules : rules.KeepEmpty)
    {document : Json} (h : document.NoRepeats)
    (hmodels : ∀ inner : Json, inner.Within document →
      Rewrites rules decode (.node .model) (fun model => (model.rename rules).value.toJson) inner) :
    Rewrites rules (fun route source => layout.set route field source layout.empty) (grammar field)
      (fun model => (model.rename rules).value.write field) document := by
  have hmodel := hmodels document .self
  have hitems : ∀ part ∈ document.parts, Rewrites rules decode (.node .model)
      (fun model => (model.rename rules).value.toJson) part :=
    fun part hpart => hmodels part (.part hpart .self)
  cases field with
  | name => contradiction
  | type | base => exact rewrites_readText.map fun _ => write_rename ..
  | kind => exact rewrites_readTag.map fun _ => write_rename ..
  | template | description =>
      exact (rewrites_readOptional rewrites_readText).map fun _ => write_rename ..
  | link => exact (rewrites_readOptional hmodel).map fun _ => write_rename ..
  | isDefinition | isReadOnly | isRequired | isNullable =>
      exact rewrites_readFlag.map fun _ => write_rename ..
  | imports =>
      exact (rewrites_readList fun part _ => rewrites_readText).map fun _ => write_rename ..
  | members =>
      exact (rewrites_readList fun part hpart =>
        EnumMember.rewrites_decode hrules (h.part hpart)).map fun _ => write_rename ..
  | enums | properties => exact (rewrites_readList hitems).map fun _ => write_rename ..

theorem toJson_rename (rules : Rules) (node : Model) (extra : List (String × Json)) :
    (({ node with extra } : Model).rename rules).value.toJson =
      .object (layout.written layout.all (node.rename rules).value.write extra) := by
  rw [toJson, toMembers_eq, value_rename, value_rename]
  rfl

theorem rewrites_decode (hrules : rules.KeepEmpty) {document : Json} (h : document.NoRepeats) :
    Rewrites rules decode (.node .model) (fun model => (model.rename rules).value.toJson)
      document := by
  induction document using induction_on_within with
  | step document ih =>
      refine lawful.rewrites_of_read (by decide) NodeType.fields_model
        (fun node extra => { node with extra }) decode_eq (toJson_rename rules) (writes hrules)
        writesName h fun field hname part hpart => ?_
      refine rewrites_set field (fun hfield => hname (hfield ▸ rfl)) hrules (h.part hpart)
        fun inner hinner => ?_
      exact ih part hpart inner hinner ((h.part hpart).within hinner)

end Model

/-! ## Responses, parameters and errors -/

theorem Rules.keepEmpty_identity : identity.KeepEmpty := ⟨rfl, rfl⟩

namespace Layout

variable {φ α β : Type} [DecidableEq φ] {layout : Layout φ α} {grammar : φ → Kind}
  {type : NodeType} {name : String} {reader : Route → Source → Except Fault β} {json : β → Json}
  {write : α → φ → Json} {rules : Rules} {document : Json}

theorem Lawful.rewrites_of_read_model (hlawful : layout.Lawful) (htype : type ≠ .error)
    (hfields : type.fields = layout.fields grammar ++ NodeType.model.fields)
    (hkeys : ∀ key ∈ NodeType.model.fields.map Prod.fst, key ∉ layout.keys)
    (finish : α → Model → β)
    (hreader : ∀ route source, reader route source = do
      let draft ← layout.read name route source
      return finish draft.node (← Model.ofMembers draft.rest))
    (hjson : ∀ node model, json (finish node model) =
      .object (layout.written layout.all (write node)
        (model.rename (type.rulesWithin rules)).value.toMembers))
    (hwrites : Writes layout grammar write)
    (hrenames : ∀ {written rest old new},
      (("export", .text "interface") ∈ written ↔ ("export", .text "interface") ∈ rest) →
      NodeType.model.Renames (type.rulesWithin rules) rest old new →
      type.Renames rules written old new)
    (hrules : (type.rulesWithin rules).KeepEmpty) (h : document.NoRepeats)
    (hset : ∀ field, ∀ part ∈ document.parts,
      Rewrites (type.rulesWithin rules)
        (fun route source => layout.set route field source layout.empty) (grammar field)
        (write · field) part) :
    Rewrites rules reader (.node type) json document := by
  intro route b hread
  have hobject := hread
  rw [hreader, bind_eq_ok_iff] at hobject
  obtain ⟨draft, hdraft, -⟩ := hobject
  obtain ⟨members, rfl⟩ := layout.eq_object_of_read hdraft
  obtain ⟨draft, model, hdraft, hmodel, rfl⟩ :=
    (layout.read_model_eq_ok_iff finish hreader).mp hread
  have hassembles := hlawful.assembles h.nodup hdraft
  have hrest : Rewritten (type.rulesWithin rules) (.node .model)
      (.object (layout.unclaimed members))
      (.object (model.rename (type.rulesWithin rules)).value.toMembers) :=
    Model.rewrites_decode hrules (layout.noRepeats_unclaimed h) _ _ hmodel
  -- What is left over of the object is the object of the model, so its members are known.
  obtain ⟨hcompleted, hvalues, hname⟩ := rewritten_object_iff.mp hrest
  have hkept : Completed NodeType.model.fields (type ≠ .error) (layout.unclaimed members)
      (model.rename (type.rulesWithin rules)).value.toMembers := by
    simpa [htype] using hcompleted
  have hexport : "export" ∉ layout.keys := hkeys _ (by decide)
  have hnamed : "name" ∉ layout.keys := hkeys _ (by decide)
  rw [hjson]
  refine rewritten_written hfields hkeys hassembles hwrites hkept hvalues
    (fun field _ => hset field) fun _ value hmember => ?_
  have hgiven := layout.mem_unclaimed.mpr ⟨hmember, hnamed⟩
  obtain ⟨old, new, hold, hnew, hmodel⟩ := hname (by decide) value hgiven
  refine ⟨old, new, hold, (mem_written_of_not_mem_keys hnamed).mpr hnew, ?_⟩
  exact hrenames (mem_written_of_not_mem_keys hexport) hmodel

end Layout

namespace Response

theorem lawful : layout.Lawful where
  copy_copy := by rintro ⟨⟩ a b node <;> rfl
  copy_self := by rintro ⟨⟩ node <;> rfl

theorem writes : Layout.Writes layout grammar write where
  own := by rintro ⟨⟩ source node _ <;> rfl
  missing := by
    intro field node h
    rw [← h]
    cases field <;> rfl

variable {rules : Rules}

theorem rewrites_set (field : Field) (document : Json) :
    Rewrites rules (fun route source => layout.set route field source layout.empty) (grammar field)
      (write · field) document := by
  cases field with
  | location => exact rewrites_readTag.map fun _ => rfl
  | code => exact rewrites_readCode.map fun _ => rfl

theorem rewrites_decode (hrules : rules.KeepEmpty) {document : Json} (h : document.NoRepeats) :
    Rewrites rules decode (.node .response)
      (fun response => (response.rename rules).value.toJson) document := by
  refine lawful.rewrites_of_read_model (by decide) NodeType.fields_response (by decide)
    (fun node model => { node with model }) decode_eq (fun _ _ => rfl) writes ?_ hrules h
    fun field part _ => rewrites_set field part
  intro written rest old new hexport hrenames
  rw [NodeType.Renames, hexport]
  exact hrenames

end Response

namespace Parameter

theorem lawful : layout.Lawful where
  copy_copy := by rintro ⟨⟩ a b node <;> rfl
  copy_self := by rintro ⟨⟩ node <;> rfl

theorem writes : Layout.Writes layout grammar write where
  own := by rintro ⟨⟩ source node _ <;> rfl
  missing := by
    intro field node h
    rw [← h]
    cases field <;> rfl

variable {rules : Rules}

theorem rewrites_default (document : Json) :
    Rewrites rules (fun route => Source.readOptional (·.readNormal route)) .any
      (·.getD .null) document := by
  intro route default hread
  cases document with
  | null =>
      cases hread
      exact .any .null
  | _ =>
      simp only [Source.ofJson, Source.readOptional, map_eq_ok_iff] at hread
      obtain ⟨value, hvalue, rfl⟩ := hread
      exact rewrites_readNormal route value hvalue

theorem rewrites_set (field : Field) (document : Json) :
    Rewrites rules (fun route source => layout.set route field source layout.empty) (grammar field)
      (write · field) document := by
  cases field with
  | location => exact rewrites_readTag.map fun _ => rfl
  | property => exact rewrites_readText.map fun _ => rfl
  | default => exact (rewrites_default document).map fun _ => rfl
  | mediaType => exact (rewrites_readOptional rewrites_readText).map fun _ => rfl

theorem rewrites_decode {document : Json} (h : document.NoRepeats) :
    Rewrites rules decode (.node .parameter) toJson document := by
  refine lawful.rewrites_of_read_model (by decide) NodeType.fields_parameter (by decide)
    (fun node model => { node with model }) decode_eq (fun node model => ?_) writes ?_
    Rules.keepEmpty_identity h fun field part _ => rewrites_set field part
  · rw [NodeType.rulesWithin, Model.rename_identity]
    rfl
  · intro written rest old new _ hrenames
    by_cases hexport : ("export", Json.text "interface") ∈ rest
    · exact hrenames.1 hexport
    · exact hrenames.2 hexport

end Parameter

namespace OperationError

theorem lawful : layout.Lawful where
  copy_copy := by rintro ⟨⟩ a b node <;> rfl
  copy_self := by rintro ⟨⟩ node <;> rfl

theorem writes : Layout.Writes layout grammar write where
  own := by rintro ⟨⟩ source node _ <;> rfl
  missing := by
    intro field node h
    rw [← h]
    cases field <;> rfl

variable {rules : Rules}

theorem rewrites_set (field : Field) (document : Json) :
    Rewrites rules (fun route source => layout.set route field source layout.empty) (grammar field)
      (write · field) document := by
  cases field with
  | code => exact rewrites_readCode.map fun _ => rfl
  | description => exact rewrites_readText.map fun _ => rfl

theorem toJson_of_ofItems {items : List Json} {error : OperationError}
    (h : ofItems (items.map Source.ofJson) = .ok error) :
    error.toJson = .object [("code", items[0]?.getD (Kind.missing .code)),
      ("description", items[1]?.getD (Kind.missing .text))] := by
  match items with
  | [] =>
      cases h
      rfl
  | [code] =>
      simp only [List.map_cons, List.map_nil, ofItems, bind_eq_ok_iff, pure_eq_ok_iff] at h
      obtain ⟨value, hcode, rfl⟩ := h
      rw [readCode_ofJson_eq_ok hcode]
      rfl
  | code :: description :: rest =>
      simp only [List.map_cons, ofItems, bind_eq_ok_iff, pure_eq_ok_iff] at h
      obtain ⟨value, hcode, s, hdescription, rfl⟩ := h
      rw [readCode_ofJson_eq_ok hcode, readText_ofJson_eq_ok hdescription]
      rfl

theorem rewrites_decode {document : Json} (h : document.NoRepeats) :
    Rewrites rules decode (.node .error) toJson document := by
  intro route error hread
  cases document with
  | array items =>
      simp only [Source.ofJson, Source.ofItems_eq, decode, bind_eq_ok_iff, pure_eq_ok_iff,
        List.length_map] at hread
      obtain ⟨_, -, error, hitems, ⟨⟩, hlength, rfl⟩ := hread
      have hshort : items.length ≤ 2 := by
        have hcheck := toOption_checkLength route items.length
        rw [hlength] at hcheck
        by_contra hlong
        simp [hlong] at hcheck
      rw [toJson_of_ofItems hitems]
      exact .pair hshort
  | object members =>
      rw [decode_object, map_eq_ok_iff] at hread
      obtain ⟨draft, hdraft, rfl⟩ := hread
      have hassembles := lawful.assembles h.nodup hdraft
      have hrest : Completed [] (NodeType.error ≠ .error) (layout.unclaimed members) [] :=
        completed_nil (by simp) _
      have hjson : draft.node.toJson =
          .object (layout.written layout.all draft.node.write []) := rfl
      have hnone : ∀ key ∈ ([] : List (String × Kind)).map Prod.fst, key ∉ layout.keys := by simp
      rw [hjson]
      refine Layout.rewritten_written (List.append_nil _).symm hnone hassembles writes hrest
        (Rewritten.values_nil _ _ _) (fun field _ part _ => rewrites_set field part) fun hname => ?_
      exact absurd hname (by decide)
  | _ => cases hread

end OperationError

/-! ## Operations, services and clients -/

namespace Operation

theorem lawful : layout.Lawful where
  copy_copy := by rintro ⟨⟩ a b node <;> rfl
  copy_self := by rintro ⟨⟩ node <;> rfl

variable {rules : Rules}

theorem writes :
    Layout.Writes layout grammar
      fun operation field => (operation.rename rules).value.write field where
  own := by
    intro field source node _
    rw [value_rename, value_rename]
    cases field <;> rfl
  missing := by
    intro field node h
    rw [← h, value_rename]
    cases field <;> rfl

theorem writesName :
    layout.WritesName rules .operation
      fun operation field => (operation.rename rules).value.write field :=
  Layout.writesName_of_text Field.name rfl (fun name => { name }) name (fun _ _ => rfl)
    (fun _ _ => rfl) name (fun _ => rfl) fun _ _ _ => rfl

theorem rewrites_set (field : Field) (hrules : rules.KeepEmpty) {document : Json}
    (h : document.NoRepeats) :
    Rewrites rules (fun route source => layout.set route field source layout.empty) (grammar field)
      (fun operation => (operation.rename rules).value.write field) document := by
  cases field with
  | service | name | method | path => exact rewrites_readText.map fun _ => rfl
  | summary | description | responseHeader =>
      exact (rewrites_readOptional rewrites_readText).map fun _ => rfl
  | deprecated => exact rewrites_readFlag.map fun _ => rfl
  | parameters =>
      exact (rewrites_readList fun _ hpart => Parameter.rewrites_decode (h.part hpart)).map
        fun _ => rfl
  | parametersBody =>
      exact (rewrites_readOptional (Parameter.rewrites_decode h)).map fun _ => rfl
  | errors =>
      exact (rewrites_readList fun _ hpart => OperationError.rewrites_decode (h.part hpart)).map
        fun _ => rfl
  | results =>
      exact (rewrites_readList fun _ hpart =>
        Response.rewrites_decode hrules (h.part hpart)).map fun _ => by simp [value_rename, write]

theorem rewrites_decode (hrules : rules.KeepEmpty) {document : Json} (h : document.NoRepeats) :
    Rewrites rules decode (.node .operation)
      (fun operation => (operation.rename rules).value.toJson) document :=
  lawful.rewrites_of_read (by decide) NodeType.fields_operation
    (fun node extra => { node with extra }) decode_eq (fun _ _ => rfl) writes writesName h
    fun field _ _ hpart => rewrites_set field hrules (h.part hpart)

end Operation

namespace Service

theorem lawful : layout.Lawful where
  copy_copy := by rintro ⟨⟩ a b node <;> rfl
  copy_self := by rintro ⟨⟩ node <;> rfl

variable {rules : Rules}

theorem writes :
    Layout.Writes layout grammar fun service field => (service.rename rules).value.write field where
  own := by
    intro field source node _
    rw [value_rename, value_rename]
    cases field <;> rfl
  missing := by
    intro field node h
    rw [← h, value_rename]
    cases field <;> rfl

theorem writesName :
    layout.WritesName rules .service
      fun service field => (service.rename rules).value.write field :=
  Layout.writesName_of_text Field.name rfl (fun name => { name }) name (fun _ _ => rfl)
    (fun _ _ => rfl) name (fun _ => rfl) fun _ _ _ => rfl

theorem rewrites_set (field : Field) (hrules : rules.KeepEmpty) {document : Json}
    (h : document.NoRepeats) :
    Rewrites rules (fun route source => layout.set route field source layout.empty) (grammar field)
      (fun service => (service.rename rules).value.write field) document := by
  cases field with
  | name => exact rewrites_readText.map fun _ => rfl
  | operations =>
      exact (rewrites_readList fun _ hpart =>
        Operation.rewrites_decode hrules (h.part hpart)).map fun _ => by simp [value_rename, write]
  | imports => exact (rewrites_readList fun part _ => rewrites_readText).map fun _ => rfl

theorem rewrites_decode (hrules : rules.KeepEmpty) {document : Json} (h : document.NoRepeats) :
    Rewrites rules decode (.node .service) (fun service => (service.rename rules).value.toJson)
      document :=
  lawful.rewrites_of_read (by decide) NodeType.fields_service
    (fun node extra => { node with extra }) decode_eq (fun _ _ => rfl) writes writesName h
    fun field _ _ hpart => rewrites_set field hrules (h.part hpart)

end Service

namespace Client

theorem lawful : layout.Lawful where
  copy_copy := by rintro ⟨⟩ a b node <;> rfl
  copy_self := by rintro ⟨⟩ node <;> rfl

variable {rules : Rules}

theorem writes :
    Layout.Writes layout grammar fun client field => (client.rename rules).value.write field where
  own := by
    intro field source node _
    rw [value_rename, value_rename]
    cases field <;> rfl
  missing := by
    intro field node h
    rw [← h, value_rename]
    cases field <;> rfl

theorem rewrites_set (field : Field) (hrules : rules.KeepEmpty) {document : Json}
    (h : document.NoRepeats) :
    Rewrites rules (fun route source => layout.set route field source layout.empty) (grammar field)
      (fun client => (client.rename rules).value.write field) document := by
  cases field with
  | version | server => exact rewrites_readText.map fun _ => rfl
  | models =>
      simp only [layout_set_models]
      exact (rewrites_readList fun _ hpart =>
        Model.rewrites_decode hrules (h.part hpart)).map fun _ => by simp [value_rename, write]
  | services =>
      exact (rewrites_readList fun _ hpart =>
        Service.rewrites_decode hrules (h.part hpart)).map fun _ => by simp [value_rename, write]

theorem rewrites_decode (hrules : rules.KeepEmpty) {document : Json} (h : document.NoRepeats) :
    Rewrites rules decode (.node .client) (fun client => (client.rename rules).value.toJson)
      document := by
  refine lawful.rewrites_of_read (by decide) NodeType.fields_client
    (fun node extra => { node with extra }) decode_eq (fun _ _ => rfl) writes ?_ h
    fun field _ _ hpart => rewrites_set field hrules (h.part hpart)
  intro route members node rest field value _ _ hfield
  exact absurd hfield (by cases field <;> decide)

end Client

end Relabel
