import Relabel.Proofs.Client.Field
import Relabel.Proofs.Json.Uniform

/-!
# Nodes from a text and from memory

Every node of a client description is the same whether it is read from a document without
repeated keys as it stands, or from its normal form in memory.
-/

namespace Relabel

open Relabel.Json

namespace Layout

variable {φ α β : Type} [DecidableEq φ] (layout : Layout φ α) (name : String) {document : Json}

def outcome (x : Except Fault (Draft φ α)) : Option (α × List (String × Json)) :=
  x.toOption.map fun draft => (draft.node, draft.extra)

theorem outcome_read_normalize (h : document.NoRepeats)
    (hset : ∀ part ∈ document.parts, ∀ field,
      Uniform (fun route source => layout.set route field source layout.empty) part)
    {route : Route} (hadmits : route.admits document.depth) :
    outcome (layout.read name route (Source.ofJson document)) =
      outcome (layout.read name .memory (Source.ofJson document.normalize)) := by
  cases document with
  | object members =>
      refine layout.read_normalize h.nodup hadmits ?_
      intro member hmember field _
      have hinner := (Route.admits_depth_object.mp hadmits).2
      exact hset member.2 (mem_parts_of_mem_members hmember) field route.inner
        (hinner member hmember)
  | _ => rfl

theorem uniform_of_read {reader : Route → Source → Except Fault β} {name : String}
    (finish : α → List (String × Json) → β)
    (hreader : ∀ route source, reader route source =
      (fun draft => finish draft.node draft.extra) <$> layout.read name route source)
    (h : document.NoRepeats)
    (hset : ∀ part ∈ document.parts, ∀ field,
      Uniform (fun route source => layout.set route field source layout.empty) part) :
    Uniform reader document := by
  intro route hadmits
  have hread := layout.outcome_read_normalize name h hset hadmits
  have hfinish := congrArg (Option.map fun result => finish result.1 result.2) hread
  simpa only [hreader, outcome, toOption_map, Option.map_map, Function.comp_def] using hfinish

end Layout

/-! ## Members of enumerations -/

namespace EnumMember

theorem uniform_set (field : Field) (document : Json) :
    Uniform (fun route source => layout.set route field source layout.empty) document := by
  cases field with
  | name => exact (uniform_readText document).map _
  | value => exact (uniform_readNormal document).map _
  | type => exact (uniform_readText document).map _
  | description => exact (uniform_readOptional (uniform_readText document)).map _

theorem uniform_decode {document : Json} (h : document.NoRepeats) : Uniform decode document :=
  layout.uniform_of_read (fun node extra => { node with extra }) decode_eq h
    fun part _ field => uniform_set field part

end EnumMember

/-! ## Models -/

theorem uniform_readTexts (document : Json) : Uniform readTexts document :=
  uniform_readList fun part _ => uniform_readText part

namespace Model

theorem uniform_set (field : Field) {document : Json} (h : document.NoRepeats)
    (hmodels : ∀ inner : Json, inner.Within document → Uniform decode inner) :
    Uniform (fun route source => layout.set route field source layout.empty) document := by
  have hmodel := hmodels document .self
  have hitems : ∀ part ∈ document.parts, Uniform decode part :=
    fun part hpart => hmodels part (.part hpart .self)
  cases field with
  | name => exact (uniform_readText document).map _
  | kind => exact (uniform_readTag ExportKind.tags h).map _
  | type => exact (uniform_readText document).map _
  | base => exact (uniform_readText document).map _
  | template => exact (uniform_readOptional (uniform_readText document)).map _
  | link => exact (uniform_readOptional hmodel).map _
  | description => exact (uniform_readOptional (uniform_readText document)).map _
  | isDefinition => exact (uniform_readFlag document).map _
  | isReadOnly => exact (uniform_readFlag document).map _
  | isRequired => exact (uniform_readFlag document).map _
  | isNullable => exact (uniform_readFlag document).map _
  | imports => exact (uniform_readTexts document).map _
  | members =>
      have hmembers : ∀ part ∈ document.parts, Uniform EnumMember.decode part :=
        fun part hpart => EnumMember.uniform_decode (h.part hpart)
      exact (uniform_readList hmembers).map _
  | enums => exact (uniform_readList hitems).map _
  | properties => exact (uniform_readList hitems).map _

theorem uniform_decode {document : Json} (h : document.NoRepeats) : Uniform decode document := by
  induction document using induction_on_within with
  | step document ih =>
      have hset : ∀ part ∈ document.parts, ∀ field,
          Uniform (fun route source => layout.set route field source layout.empty) part := by
        intro part hpart field
        refine uniform_set field (h.part hpart) fun inner hinner => ?_
        exact ih part hpart inner hinner ((h.part hpart).within hinner)
      exact layout.uniform_of_read (fun node extra => { node with extra }) decode_eq h hset

end Model

/-! ## Responses and parameters -/

theorem Layout.noRepeats_rest {φ α : Type} [DecidableEq φ] (layout : Layout φ α) {name : String}
    {route : Route} {document : Json} {draft : Draft φ α} (h : document.NoRepeats)
    (hread : layout.read name route (Source.ofJson document) = .ok draft) :
    (object draft.rest).NoRepeats := by
  cases document with
  | object members =>
      rw [layout.rest_of_read hread, noRepeats_object]
      obtain ⟨hnodup, hvalues⟩ := noRepeats_object.mp h
      exact ⟨hnodup.sublist (List.filter_sublist.map _),
        fun member hmember => hvalues member (List.mem_of_mem_filter hmember)⟩
  | _ => cases hread

/-- A node whose members left over make up a model is the same in a document and in its normal
form, since these members are in one normal form. -/
theorem Layout.uniform_of_read_model {φ α β : Type} [DecidableEq φ] (layout : Layout φ α)
    {reader : Route → Source → Except Fault β} {name : String} {document : Json}
    (finish : α → Model → β)
    (hreader : ∀ route source, reader route source = do
      let draft ← layout.read name route source
      return finish draft.node (← Model.ofMembers draft.rest))
    (h : document.NoRepeats)
    (hset : ∀ part ∈ document.parts, ∀ field,
      Uniform (fun route source => layout.set route field source layout.empty) part) :
    Uniform reader document := by
  have hmodel : ∀ (route : Route) {document : Json}, document.NoRepeats →
      (reader route (Source.ofJson document)).toOption =
      (outcome (layout.read name route (Source.ofJson document))).bind fun result =>
        (Model.decode .memory (Source.ofJson (.object result.2))).toOption.map (finish result.1) := by
    intro route document h
    rw [hreader]
    cases hread : layout.read name route (Source.ofJson document) with
    | error fault => rfl
    | ok draft =>
        have hnormal := Model.uniform_decode (layout.noRepeats_rest h hread) .memory rfl
        rw [Json.normalize, ← Draft.extra] at hnormal
        simp only [ok_bind, outcome, toOption_ok, Option.map_some, Option.bind_some,
          toOption_bind, toOption_pure, Model.ofMembers_eq, hnormal]
        exact Option.map_eq_bind.symm
  intro route hadmits
  rw [hmodel route h, hmodel .memory (noRepeats_normalize document),
    layout.outcome_read_normalize name h hset hadmits]

namespace Response

theorem uniform_set (field : Field) {document : Json} (h : document.NoRepeats) :
    Uniform (fun route source => layout.set route field source layout.empty) document := by
  cases field with
  | location => exact (uniform_readTag ResponseLocation.tags h).map _
  | code => exact (uniform_readCode document).map _

theorem uniform_decode {document : Json} (h : document.NoRepeats) : Uniform decode document :=
  layout.uniform_of_read_model (fun node model => { node with model }) decode_eq h
    fun _ hpart field => uniform_set field (h.part hpart)

end Response

namespace Parameter

theorem uniform_set (field : Field) {document : Json} (h : document.NoRepeats) :
    Uniform (fun route source => layout.set route field source layout.empty) document := by
  cases field with
  | location => exact (uniform_readTag ParameterLocation.tags h).map _
  | property => exact (uniform_readText document).map _
  | default => exact (uniform_readOptional (uniform_readNormal document)).map _
  | mediaType => exact (uniform_readOptional (uniform_readText document)).map _

theorem uniform_decode {document : Json} (h : document.NoRepeats) : Uniform decode document :=
  layout.uniform_of_read_model (fun node model => { node with model }) decode_eq h
    fun _ hpart field => uniform_set field (h.part hpart)

end Parameter

/-! ## Errors -/

namespace OperationError

theorem uniform_set (field : Field) (document : Json) :
    Uniform (fun route source => layout.set route field source layout.empty) document := by
  cases field with
  | code => exact (uniform_readCode document).map _
  | description => exact (uniform_readText document).map _

theorem exists_skipOther (route : Route) (document : Json) :
    ∃ value, skipOther route (Source.ofJson document) = .ok value := by
  rw [skipOther, skip_ofJson]
  exact ⟨.null, rfl⟩

theorem toOption_ofItems (items : List Json) :
    (ofItems (items.map Source.ofJson)).toOption =
      (ofItems ((items.map Json.normalize).map Source.ofJson)).toOption := by
  match items with
  | [] => rfl
  | [code] => exact ((uniform_readCode code).map _) .memory rfl
  | code :: description :: rest =>
      have hcode := uniform_readCode code .memory rfl
      have hdescription := uniform_readText description .memory rfl
      simp only [List.map_cons, ofItems, toOption_bind, hcode, hdescription]

theorem toOption_checkLength (route : Route) (count : Nat) :
    (checkLength route count .closed).toOption = if count ≤ 2 then some () else none := by
  rcases Nat.lt_trichotomy count 2 with hlt | rfl | hgt
  · cases route <;> simp [checkLength, hlt, hlt.le, hlt.not_gt, ArrayEnd.whenRead?, check]
  · cases route <;> rfl
  · cases route <;> simp [checkLength, hgt, hgt.not_ge, hgt.not_gt, hgt.ne']

theorem decode_array {route : Route} (hroute : route.admits 1) (items : List Json) :
    (decode route (Source.ofJson (.array items))).toOption =
      (ofItems (items.map Source.ofJson)).toOption.bind fun error =>
        (if items.length ≤ 2 then some () else none).map fun _ => error := by
  simp only [Source.ofJson, Source.ofItems_eq, decode, Route.enter_eq,
    Route.gate_of_admits hroute, ok_bind, toOption_bind, List.length_map, toOption_checkLength,
    toOption_pure, Option.map_eq_bind, Function.comp_def]

theorem uniform_decode {document : Json} (h : document.NoRepeats) : Uniform decode document := by
  intro route hadmits
  cases document with
  | array items =>
      rw [depth_array, Route.admits_succ] at hadmits
      rw [normalize_array, decode_array hadmits.1, decode_array rfl, toOption_ofItems,
        List.length_map]
  | object members =>
      obtain ⟨hroute, hinner⟩ := Route.admits_depth_object.mp hadmits
      have hagrees : layout.Agrees route.inner members := by
        intro member hmember field _
        exact uniform_set field member.2 route.inner (hinner member hmember)
      rw [normalize_object, decode_object, decode_object, toOption_map, toOption_map,
        ← normalize_object]
      exact layout.ofObject_normalize h.nodup hroute hagrees
        (fun _ _ => exists_skipOther _ _) (exists_skipOther _)
  | _ => rfl

end OperationError

/-! ## Operations, services and clients -/

namespace Operation

theorem uniform_set (field : Field) {document : Json} (h : document.NoRepeats) :
    Uniform (fun route source => layout.set route field source layout.empty) document := by
  cases field with
  | service => exact (uniform_readText document).map _
  | name => exact (uniform_readText document).map _
  | summary => exact (uniform_readOptional (uniform_readText document)).map _
  | description => exact (uniform_readOptional (uniform_readText document)).map _
  | deprecated => exact (uniform_readFlag document).map _
  | method => exact (uniform_readText document).map _
  | path => exact (uniform_readText document).map _
  | parameters =>
      exact (uniform_readList fun _ hpart => Parameter.uniform_decode (h.part hpart)).map _
  | parametersBody => exact (uniform_readOptional (Parameter.uniform_decode h)).map _
  | errors =>
      exact (uniform_readList fun _ hpart => OperationError.uniform_decode (h.part hpart)).map _
  | results =>
      exact (uniform_readList fun _ hpart => Response.uniform_decode (h.part hpart)).map _
  | responseHeader => exact (uniform_readOptional (uniform_readText document)).map _

theorem uniform_decode {document : Json} (h : document.NoRepeats) : Uniform decode document :=
  layout.uniform_of_read (fun node extra => { node with extra }) decode_eq h
    fun _ hpart field => uniform_set field (h.part hpart)

end Operation

namespace Service

theorem uniform_set (field : Field) {document : Json} (h : document.NoRepeats) :
    Uniform (fun route source => layout.set route field source layout.empty) document := by
  cases field with
  | name => exact (uniform_readText document).map _
  | operations =>
      exact (uniform_readList fun _ hpart => Operation.uniform_decode (h.part hpart)).map _
  | imports => exact (uniform_readTexts document).map _

theorem uniform_decode {document : Json} (h : document.NoRepeats) : Uniform decode document :=
  layout.uniform_of_read (fun node extra => { node with extra }) decode_eq h
    fun _ hpart field => uniform_set field (h.part hpart)

end Service

namespace Client

theorem uniform_set (field : Field) {document : Json} (h : document.NoRepeats) :
    Uniform (fun route source => layout.set route field source layout.empty) document := by
  cases field with
  | version => exact (uniform_readText document).map _
  | server => exact (uniform_readText document).map _
  | models =>
      simp only [layout_set_models]
      exact (uniform_readList fun _ hpart => Model.uniform_decode (h.part hpart)).map _
  | services =>
      exact (uniform_readList fun _ hpart => Service.uniform_decode (h.part hpart)).map _

theorem uniform_decode {document : Json} (h : document.NoRepeats) : Uniform decode document :=
  layout.uniform_of_read (fun node extra => { node with extra }) decode_eq h
    fun _ hpart field => uniform_set field (h.part hpart)

end Client

end Relabel
