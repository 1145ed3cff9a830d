import Relabel.Proofs.Client.Grammar

/-!
# What is accepted as a node

A document in memory is read as a node of a type exactly if it follows the grammar of the type.
Readers of single values, lists, optional values and tags each accept one kind of value, and the
reader of a node accepts an object if its declared members are accepted one by one.
-/

namespace Relabel

open Relabel.Json

/-- A reader finds a value in a document in memory exactly if the document is of a kind. -/
def Accepts {α : Type} (reader : Route → Source → Except Fault α) (kind : Kind)
    (document : Json) : Prop :=
  (∃ a, reader .memory (Source.ofJson document) = .ok a) ↔ kind.Admits document

variable {α β : Type} {reader : Route → Source → Except Fault α} {kind : Kind} {document : Json}

/-! ## Single values -/

theorem Accepts.map (h : Accepts reader kind document) (f : α → β) :
    Accepts (fun route source => return f (← reader route source)) kind document := by
  refine Iff.trans ?_ h
  simp only [bind_eq_ok_iff, pure_eq_ok_iff]
  constructor
  · rintro ⟨_, a, ha, -⟩
    exact ⟨a, ha⟩
  · rintro ⟨a, ha⟩
    exact ⟨f a, a, ha, rfl⟩

theorem accepts_readText (document : Json) :
    Accepts (fun _ => Source.readText) .text document := by
  rw [Accepts, Kind.admits_text_iff]
  cases document <;> simp [Source.ofJson, Source.readText, Source.refuse, readable]

theorem accepts_readFlag (document : Json) :
    Accepts (fun _ => Source.readFlag) .flag document := by
  rw [Accepts, Kind.admits_flag_iff]
  cases document <;> simp [Source.ofJson, Source.readFlag, Source.refuse]

theorem accepts_readCode (document : Json) :
    Accepts (fun _ => Source.readCode) .code document := by
  rw [Accepts, Kind.admits_code_iff]
  cases document with
  | number n =>
      cases n with
      | whole n fits =>
          by_cases hcode : 0 ≤ n ∧ n < 65536
          · simp [Source.ofJson, Source.readCode, hcode]
            omega
          · simp [Source.ofJson, Source.readCode, hcode, fits]
            omega
      | real x => simp [Source.ofJson, Source.readCode, Source.refuse]
  | _ => simp [Source.ofJson, Source.readCode, Source.refuse]

theorem accepts_readNormal (document : Json) :
    Accepts (fun route source => source.readNormal route) .any document := by
  have hread := Source.read_ofJson .memory document
  refine ⟨fun _ => .any document, fun _ => ⟨document.normalize, ?_⟩⟩
  simp only [Source.readNormal, hread]
  rfl

theorem Source.exists_read_ofJson (document : Json) :
    ∃ value, (Source.ofJson document).read .memory = .ok value :=
  ⟨document, Source.read_ofJson .memory document⟩

theorem accepts_readOptional (h : Accepts reader kind document) :
    Accepts (fun route => Source.readOptional (reader route)) (.optional kind) document := by
  rw [Accepts, Kind.admits_optional_iff]
  cases document with
  | null => simp [Source.ofJson, Source.readOptional]
  | _ => simpa [Accepts, Source.ofJson, Source.readOptional, map_eq_ok_iff] using h

theorem exists_mapM_eq_ok_iff {ε : Type} {f : α → Except ε β} {items : List α} :
    (∃ results, items.mapM f = .ok results) ↔ ∀ a ∈ items, ∃ b, f a = .ok b := by
  constructor
  · rintro ⟨results, h⟩ a ha
    exact exists_of_mapM_eq_ok h ha
  · intro h
    induction items with
    | nil => exact ⟨[], rfl⟩
    | cons a items ih =>
        obtain ⟨⟨b, hb⟩, hrest⟩ := List.forall_mem_cons.mp h
        obtain ⟨bs, hbs⟩ := ih hrest
        exact ⟨b :: bs, mapM_eq_ok_cons_iff.mpr ⟨b, bs, hb, hbs, rfl⟩⟩

theorem accepts_readList (h : ∀ part ∈ document.parts, Accepts reader kind part) :
    Accepts (fun route => Source.readList route reader) (.list kind) document := by
  rw [Accepts, Kind.admits_list_iff]
  cases document with
  | array items =>
      have hroute : Route.memory.admits 1 := rfl
      simp only [Source.ofJson, Source.ofItems_eq, Source.readList_array hroute, List.mapM_map,
        exists_mapM_eq_ok_iff]
      constructor
      · intro hitems
        exact ⟨items, rfl, fun item hitem => (h item hitem).mp (hitems item hitem)⟩
      · rintro ⟨_, ⟨⟩, hitems⟩ item hitem
        exact (h item hitem).mpr (hitems item hitem)
  | _ => simp [Source.ofJson, Source.readList, Source.refuse]

theorem exists_findTag_iff {text : α → String} {values : List α} {word : String} :
    (∃ a, Source.findTag (tagged text values) word = .ok a) ↔ word ∈ values.map text := by
  rw [← not_iff_not, ← lookup_tagged_eq_none, Source.findTag]
  cases (tagged text values).lookup word <;> simp

theorem accepts_readTag {text : α → String} {values : List α} {missing : String}
    (document : Json) :
    Accepts (fun route => Source.readTag (tagged text values) route)
      (.tag missing (values.map text)) document := by
  rw [Accepts, Kind.admits_tag_iff]
  simp only [← exists_findTag_iff, Source.readTag]
  cases document with
  | object members =>
      match members with
      | [] => simp [Source.ofJson, Source.readTagInMemory]
      | [(key, value)] =>
          cases value <;>
            simp [Source.ofJson, Source.ofMember, Source.readTagInMemory, readable, ok_bind,
              Source.readUnit, Source.refuse, bind_eq_ok_iff]
      | first :: second :: rest => simp [Source.ofJson, Source.readTagInMemory]
  | _ => simp [Source.ofJson, Source.readTagInMemory, readable, ok_bind, Source.refuse]

/-! ## Members -/

theorem accepts_node {type : NodeType} (htype : type ≠ .error)
    (hread : ∀ a, reader .memory (Source.ofJson document) = .ok a →
      ∃ members, document = .object members)
    (hobject : ∀ members, document = .object members → Accepts reader (.node type) document) :
    Accepts reader (.node type) document := by
  constructor
  · rintro ⟨a, ha⟩
    obtain ⟨members, hdocument⟩ := hread a ha
    exact (hobject members hdocument).mp ⟨a, ha⟩
  · intro hadmits
    obtain ⟨members, hdocument⟩ := Kind.exists_object_of_admits htype hadmits
    exact (hobject members hdocument).mpr hadmits

namespace Layout

variable {φ : Type} [DecidableEq φ] (layout : Layout φ α) {members : List (String × Json)}

def ReadsFields (route : Route) (members : List (String × Json)) : Prop :=
  ∀ field value, (layout.key field, value) ∈ members →
    ∃ part, layout.set route field (Source.ofJson value) layout.empty = .ok part

theorem exists_takeAll_iff {route : Route} {other : Source → Except Fault Json}
    {draft : Draft φ α} (hnodup : (members.map Prod.fst).Nodup)
    (hseen : ∀ field ∈ draft.seen, layout.key field ∉ members.map Prod.fst)
    (hother : ∀ document, ∃ value, other (Source.ofJson document) = .ok value) :
    (∃ final, draft.takeAll layout.declared (layout.set route) other
        (members.map Source.ofMember) = .ok final) ↔ layout.ReadsFields route members := by
  constructor
  · rintro ⟨final, h⟩ field value hmember
    exact layout.exists_set_of_takeAll (List.mem_map.mpr ⟨_, hmember, rfl⟩) h
  · intro h
    induction members generalizing draft with
    | nil => exact ⟨draft, rfl⟩
    | cons member members ih =>
        obtain ⟨name, value⟩ := member
        simp only [List.map_cons, List.nodup_cons] at hnodup
        simp only [List.map_cons, layout.takeAll_cons_eq_ok_iff, Source.ofMember,
          layout.take_eq_ok_iff]
        have hrest : layout.ReadsFields route members :=
          fun field value hmember => h field value (.tail _ hmember)
        by_cases hname : name ∈ layout.keys
        · obtain ⟨field, -, rfl⟩ := List.mem_map.mp hname
          obtain ⟨part, hpart⟩ := h field value (.head _)
          have hnew : field ∉ draft.seen := fun hmem => hseen field hmem (.head _)
          have hset : layout.set route field (Source.ofJson value) draft.node =
              .ok (layout.copy field part draft.node) :=
            layout.set_eq_ok_iff.mpr ⟨part, hpart, rfl⟩
          let next : Draft φ α :=
            { draft with node := layout.copy field part draft.node, seen := field :: draft.seen }
          have hnext : ∀ other ∈ next.seen, layout.key other ∉ members.map Prod.fst := by
            refine List.forall_mem_cons.mpr ⟨hnodup.1, ?_⟩
            exact fun other hmem hin => hseen other hmem (.tail _ hin)
          obtain ⟨final, hfinal⟩ := ih hnodup.2 hnext hrest
          exact ⟨final, next, .inl ⟨field, _, rfl, hnew, hset, rfl⟩, hfinal⟩
        · obtain ⟨other, hvalue⟩ := hother value
          let next : Draft φ α := { draft with others := (name, other) :: draft.others }
          have hnext : ∀ field ∈ next.seen, layout.key field ∉ members.map Prod.fst :=
            fun field hmem hin => hseen field hmem (.tail _ hin)
          obtain ⟨final, hfinal⟩ := ih hnodup.2 hnext hrest
          exact ⟨final, next, .inr ⟨name, other, rfl, hname, hvalue, rfl⟩, hfinal⟩

theorem exists_ofObject_iff (name : String) {others : Route → Source → Except Fault Json}
    (hnodup : (members.map Prod.fst).Nodup)
    (hothers : ∀ document, ∃ value, others .memory (Source.ofJson document) = .ok value) :
    (∃ draft, Draft.ofObject name layout.declared layout.set others layout.empty .memory
        (Source.ofJson (.object members)) = .ok draft) ↔ layout.ReadsFields .memory members := by
  simp only [layout.ofObject_document_eq_ok_iff, Route.admits_memory, true_and]
  exact layout.exists_takeAll_iff hnodup (List.forall_mem_nil _) hothers

variable {grammar : φ → Kind}

theorem readsFields_iff
    (hset : ∀ field, ∀ member ∈ members,
      Accepts (fun route source => layout.set route field source layout.empty) (grammar field)
        member.2) :
    layout.ReadsFields .memory members ↔
      ∀ member ∈ members, ∀ kind, (member.1, kind) ∈ layout.fields grammar →
        kind.Admits member.2 := by
  constructor
  · rintro h ⟨key, value⟩ hmember kind hkind
    obtain ⟨field, rfl, rfl⟩ := layout.mem_fields.mp hkind
    exact (hset field _ hmember).mp (h field value hmember)
  · intro h field value hmember
    exact (hset field _ hmember).mpr (h _ hmember _ (layout.mem_fields.mpr ⟨field, rfl, rfl⟩))

theorem eq_object_of_read {name : String} {route : Route} {draft : Draft φ α}
    (h : layout.read name route (Source.ofJson document) = .ok draft) :
    ∃ members, document = .object members := by
  obtain ⟨members, hsource, -⟩ := layout.ofObject_eq_ok_iff.mp h
  cases document with
  | object members => exact ⟨members, rfl⟩
  | _ => cases hsource

theorem accepts_of_read {type : NodeType} {name : String} (finish : Draft φ α → β)
    {reader : Route → Source → Except Fault β} (htype : type ≠ .error)
    (hfields : type.fields = layout.fields grammar)
    (hreader : ∀ route source, reader route source = finish <$> layout.read name route source)
    (h : document.NoRepeats)
    (hset : ∀ field, ∀ part ∈ document.parts,
      Accepts (fun route source => layout.set route field source layout.empty) (grammar field)
        part) :
    Accepts reader (.node type) document := by
  have hread : (∃ b, reader .memory (Source.ofJson document) = .ok b) ↔
      ∃ draft, layout.read name .memory (Source.ofJson document) = .ok draft := by
    simp only [hreader, map_eq_ok_iff]
    rw [exists_comm]
    simp
  refine accepts_node htype (fun b hb => ?_) fun members hdocument => ?_
  · obtain ⟨draft, hdraft⟩ := hread.mp ⟨b, hb⟩
    exact layout.eq_object_of_read hdraft
  · subst hdocument
    rw [Accepts, hread, Layout.read, Kind.admits_object_iff, hfields,
      layout.exists_ofObject_iff name h.nodup Source.exists_read_ofJson]
    exact layout.readsFields_iff fun field member hmember =>
      hset field _ (mem_parts_of_mem_members hmember)

/-! ## A node and a model in one object -/

section model

variable {name : String} (finish : α → Model → β) {reader : Route → Source → Except Fault β}
  (hreader : ∀ route source, reader route source = do
    let draft ← layout.read name route source
    return finish draft.node (← Model.ofMembers draft.rest))

include hreader

theorem read_model_eq_ok_iff {route : Route} {b : β} :
    reader route (Source.ofJson (.object members)) = .ok b ↔
      ∃ draft model, layout.read name route (Source.ofJson (.object members)) = .ok draft ∧
        Model.decode .memory (Source.ofJson (.object (layout.unclaimed members))) = .ok model ∧
        finish draft.node model = b := by
  simp only [hreader, bind_eq_ok_iff, pure_eq_ok_iff, Model.ofMembers_eq]
  constructor
  · rintro ⟨draft, hdraft, model, hmodel, hfinish⟩
    rw [layout.rest_of_read hdraft] at hmodel
    exact ⟨draft, model, hdraft, hmodel, hfinish⟩
  · rintro ⟨draft, model, hdraft, hmodel, hfinish⟩
    rw [← layout.rest_of_read hdraft] at hmodel
    exact ⟨draft, hdraft, model, hmodel, hfinish⟩

theorem exists_read_model_iff {route : Route} :
    (∃ b, reader route (Source.ofJson (.object members)) = .ok b) ↔
      (∃ draft, layout.read name route (Source.ofJson (.object members)) = .ok draft) ∧
        ∃ model, Model.decode .memory
          (Source.ofJson (.object (layout.unclaimed members))) = .ok model := by
  simp only [layout.read_model_eq_ok_iff finish hreader]
  constructor
  · rintro ⟨b, draft, model, hdraft, hmodel, -⟩
    exact ⟨⟨draft, hdraft⟩, model, hmodel⟩
  · rintro ⟨⟨draft, hdraft⟩, model, hmodel⟩
    exact ⟨_, draft, model, hdraft, hmodel, rfl⟩

theorem exists_read_model_iff_admits (hnodup : (members.map Prod.fst).Nodup)
    (hset : ∀ field, ∀ member ∈ members,
      Accepts (fun route source => layout.set route field source layout.empty) (grammar field)
        member.2) :
    (∃ b, reader .memory (Source.ofJson (.object members)) = .ok b) ↔
      (∀ member ∈ members, ∀ kind, (member.1, kind) ∈ layout.fields grammar →
        kind.Admits member.2) ∧
      ∃ model,
        Model.decode .memory (Source.ofJson (.object (layout.unclaimed members))) = .ok model := by
  rw [layout.exists_read_model_iff finish hreader, Layout.read,
    layout.exists_ofObject_iff name hnodup Source.exists_read_ofJson, layout.readsFields_iff hset]

end model

theorem admits_unclaimed_iff {type : NodeType}
    (hfields : type.fields = layout.fields grammar ++ NodeType.model.fields)
    (hkeys : ∀ key ∈ Model.layout.keys, key ∉ layout.keys) :
    (Kind.node type).Admits (.object members) ↔
      (∀ member ∈ members, ∀ kind, (member.1, kind) ∈ layout.fields grammar →
        kind.Admits member.2) ∧
      (Kind.node .model).Admits (.object (layout.unclaimed members)) := by
  simp only [Kind.admits_object_iff, hfields, List.mem_append, layout.mem_unclaimed]
  constructor
  · intro h
    exact ⟨fun member hmember kind hkind => h member hmember kind (.inl hkind),
      fun member hmember kind hkind => h member hmember.1 kind (.inr hkind)⟩
  · rintro ⟨hown, hmodel⟩ member hmember kind (hkind | hkind)
    · exact hown member hmember kind hkind
    · have hkey : member.1 ∈ Model.layout.keys := by
        rw [← Model.layout.map_fst_fields Model.grammar]
        exact List.mem_map.mpr ⟨_, hkind, rfl⟩
      exact hmodel member ⟨hmember, hkeys _ hkey⟩ kind hkind

end Layout

/-! ## Models -/

namespace EnumMember

theorem accepts_set (field : Field) (document : Json) :
    Accepts (fun route source => layout.set route field source layout.empty) (grammar field)
      document := by
  cases field with
  | name | type => exact (accepts_readText document).map _
  | value => exact (accepts_readNormal document).map _
  | description => exact (accepts_readOptional (accepts_readText document)).map _

theorem accepts_decode (h : document.NoRepeats) : Accepts decode (.node .member) document :=
  layout.accepts_of_read _ (by decide) NodeType.fields_member decode_eq h
    fun field part _ => accepts_set field part

end EnumMember

namespace Model

theorem accepts_set (field : Field) (h : document.NoRepeats)
    (hmodels : ∀ inner : Json, inner.Within document → Accepts decode (.node .model) inner) :
    Accepts (fun route source => layout.set route field source layout.empty) (grammar field)
      document := by
  have hmodel := hmodels document .self
  have hitems : ∀ part ∈ document.parts, Accepts decode (.node .model) part :=
    fun part hpart => hmodels part (.part hpart .self)
  cases field with
  | name | type | base => exact (accepts_readText document).map _
  | kind => exact (accepts_readTag document).map _
  | template | description => exact (accepts_readOptional (accepts_readText document)).map _
  | link => exact (accepts_readOptional hmodel).map _
  | isDefinition | isReadOnly | isRequired | isNullable => exact (accepts_readFlag document).map _
  | imports => exact (accepts_readList fun part _ => accepts_readText part).map _
  | members =>
      exact (accepts_readList fun part hpart =>
        EnumMember.accepts_decode (h.part hpart)).map _
  | enums | properties => exact (accepts_readList hitems).map _

theorem accepts_decode (h : document.NoRepeats) : Accepts decode (.node .model) document := by
  induction document using induction_on_within with
  | step document ih =>
      refine layout.accepts_of_read _ (by decide) NodeType.fields_model decode_eq h
        fun field part hpart => accepts_set field (h.part hpart) fun inner hinner => ?_
      exact ih part hpart inner hinner ((h.part hpart).within hinner)

end Model

/-! ## Responses, parameters and errors -/

theorem Layout.noRepeats_unclaimed {φ : Type} [DecidableEq φ] (layout : Layout φ α)
    {members : List (String × Json)} (h : (object members).NoRepeats) :
    (object (layout.unclaimed members)).NoRepeats := by
  obtain ⟨hnodup, hvalues⟩ := noRepeats_object.mp h
  exact noRepeats_object.mpr ⟨hnodup.sublist (List.filter_sublist.map _),
    fun member hmember => hvalues member (List.mem_of_mem_filter hmember)⟩

theorem Layout.accepts_of_read_model {φ : Type} [DecidableEq φ] (layout : Layout φ α)
    {grammar : φ → Kind} {type : NodeType} {name : String} (finish : α → Model → β)
    {reader : Route → Source → Except Fault β} (htype : type ≠ .error)
    (hfields : type.fields = layout.fields grammar ++ NodeType.model.fields)
    (hkeys : ∀ key ∈ Model.layout.keys, key ∉ layout.keys)
    (hreader : ∀ route source, reader route source = do
      let draft ← layout.read name route source
      return finish draft.node (← Model.ofMembers draft.rest))
    (h : document.NoRepeats)
    (hset : ∀ field, ∀ part ∈ document.parts,
      Accepts (fun route source => layout.set route field source layout.empty) (grammar field)
        part) :
    Accepts reader (.node type) document := by
  refine accepts_node htype (fun b hb => ?_) fun members hdocument => ?_
  · rw [hreader, bind_eq_ok_iff] at hb
    obtain ⟨draft, hdraft, -⟩ := hb
    exact layout.eq_object_of_read hdraft
  · subst hdocument
    have hmodel := Model.accepts_decode (layout.noRepeats_unclaimed h)
    rw [Accepts] at hmodel
    rw [Accepts, layout.admits_unclaimed_iff hfields hkeys, ← hmodel]
    exact layout.exists_read_model_iff_admits finish hreader h.nodup fun field member hmember =>
      hset field _ (mem_parts_of_mem_members hmember)

namespace Response

theorem accepts_set (field : Field) (document : Json) :
    Accepts (fun route source => layout.set route field source layout.empty) (grammar field)
      document := by
  cases field with
  | location => exact (accepts_readTag document).map _
  | code => exact (accepts_readCode document).map _

theorem accepts_decode (h : document.NoRepeats) : Accepts decode (.node .response) document :=
  layout.accepts_of_read_model (fun node model => { node with model }) (by decide)
    NodeType.fields_response (by decide) decode_eq h fun field part _ => accepts_set field part

end Response

namespace Parameter

theorem accepts_readOptional_readNormal (document : Json) :
    Accepts (fun route => Source.readOptional (·.readNormal route)) .any document := by
  have h := accepts_readOptional (accepts_readNormal document)
  exact ⟨fun _ => .any document, fun _ => h.mpr (.some (.any document))⟩

theorem accepts_set (field : Field) (document : Json) :
    Accepts (fun route source => layout.set route field source layout.empty) (grammar field)
      document := by
  cases field with
  | location => exact (accepts_readTag document).map _
  | property => exact (accepts_readText document).map _
  | default => exact (accepts_readOptional_readNormal document).map _
  | mediaType => exact (accepts_readOptional (accepts_readText document)).map _

theorem accepts_decode (h : document.NoRepeats) : Accepts decode (.node .parameter) document :=
  layout.accepts_of_read_model (fun node model => { node with model }) (by decide)
    NodeType.fields_parameter (by decide) decode_eq h fun field part _ => accepts_set field part

end Parameter

namespace OperationError

theorem accepts_set (field : Field) (document : Json) :
    Accepts (fun route source => layout.set route field source layout.empty) (grammar field)
      document := by
  cases field with
  | code => exact (accepts_readCode document).map _
  | description => exact (accepts_readText document).map _

theorem exists_ofItems_iff (items : List Json) :
    (∃ error, ofItems (items.map Source.ofJson) = .ok error) ↔
      (∀ item ∈ items[0]?, Kind.code.Admits item) ∧ ∀ item ∈ items[1]?, Kind.text.Admits item := by
  match items with
  | [] => simp [ofItems]
  | [code] =>
      have hcode := (accepts_readCode code).map fun value => ({ code := value } : OperationError)
      rw [Accepts] at hcode
      simpa [ofItems] using hcode
  | code :: description :: rest =>
      have hcode := accepts_readCode code
      have hdescription := accepts_readText description
      rw [Accepts] at hcode hdescription
      simp only [List.map_cons, ofItems, bind_eq_ok_iff, pure_eq_ok_iff, List.getElem?_cons_zero,
        List.getElem?_cons_succ, Option.mem_some_iff, forall_eq', ← hcode, ← hdescription]
      constructor
      · rintro ⟨error, code, hcode, description, hdescription, -⟩
        exact ⟨⟨code, hcode⟩, description, hdescription⟩
      · rintro ⟨⟨code, hcode⟩, description, hdescription⟩
        exact ⟨_, code, hcode, description, hdescription, rfl⟩

theorem accepts_decode (h : document.NoRepeats) : Accepts decode (.node .error) document := by
  cases document with
  | array items =>
      have hroute : Route.memory.admits 1 := rfl
      rw [Accepts, Kind.admits_pair_iff, ← exists_ofItems_iff]
      simp only [← toOption_eq_some_iff, decode_array hroute]
      by_cases hshort : items.length ≤ 2 <;> simp [hshort]
  | object members =>
      have hread := layout.exists_ofObject_iff "OperationError" h.nodup
        (exists_skipOther .memory)
      rw [Accepts, Kind.admits_object_iff, NodeType.fields_error,
        ← layout.readsFields_iff fun field member _ => accepts_set field member.2, ← hread]
      simp only [decode_object, map_eq_ok_iff]
      rw [exists_comm]
      simp
  | _ =>
      constructor
      · rintro ⟨_, hread⟩
        cases hread
      · intro hadmits
        cases hadmits

end OperationError

/-! ## Operations, services and clients -/

namespace Operation

theorem accepts_set (field : Field) (h : document.NoRepeats) :
    Accepts (fun route source => layout.set route field source layout.empty) (grammar field)
      document := by
  cases field with
  | service | name | method | path => exact (accepts_readText document).map _
  | summary | description | responseHeader =>
      exact (accepts_readOptional (accepts_readText document)).map _
  | deprecated => exact (accepts_readFlag document).map _
  | parameters =>
      exact (accepts_readList fun _ hpart => Parameter.accepts_decode (h.part hpart)).map _
  | parametersBody => exact (accepts_readOptional (Parameter.accepts_decode h)).map _
  | errors =>
      exact (accepts_readList fun _ hpart => OperationError.accepts_decode (h.part hpart)).map _
  | results =>
      exact (accepts_readList fun _ hpart => Response.accepts_decode (h.part hpart)).map _

theorem accepts_decode (h : document.NoRepeats) : Accepts decode (.node .operation) document :=
  layout.accepts_of_read _ (by decide) NodeType.fields_operation decode_eq h
    fun field _ hpart => accepts_set field (h.part hpart)

end Operation

namespace Service

theorem accepts_set (field : Field) (h : document.NoRepeats) :
    Accepts (fun route source => layout.set route field source layout.empty) (grammar field)
      document := by
  cases field with
  | name => exact (accepts_readText document).map _
  | operations =>
      exact (accepts_readList fun _ hpart => Operation.accepts_decode (h.part hpart)).map _
  | imports => exact (accepts_readList fun part _ => accepts_readText part).map _

theorem accepts_decode (h : document.NoRepeats) : Accepts decode (.node .service) document :=
  layout.accepts_of_read _ (by decide) NodeType.fields_service decode_eq h
    fun field _ hpart => accepts_set field (h.part hpart)

end Service

namespace Client

theorem accepts_set (field : Field) (h : document.NoRepeats) :
    Accepts (fun route source => layout.set route field source layout.empty) (grammar field)
      document := by
  cases field with
  | version | server => exact (accepts_readText document).map _
  | models =>
      simp only [layout_set_models]
      exact (accepts_readList fun _ hpart => Model.accepts_decode (h.part hpart)).map _
  | services =>
      exact (accepts_readList fun _ hpart => Service.accepts_decode (h.part hpart)).map _

theorem accepts_decode (h : document.NoRepeats) : Accepts decode (.node .client) document :=
  layout.accepts_of_read _ (by decide) NodeType.fields_client decode_eq h
    fun field _ hpart => accepts_set field (h.part hpart)

end Client

/-- A document in memory, in which no key can be repeated, is read as a node exactly if it follows
the grammar of its type. -/
theorem NodeType.reads_iff_conforms (type : NodeType) {document : Json} (h : document.NoRepeats) :
    (∃ node, readJsonWith type.decode document = .ok node) ↔ type.Conforms document := by
  cases type with
  | member => exact EnumMember.accepts_decode h
  | model => exact Model.accepts_decode h
  | response => exact Response.accepts_decode h
  | parameter => exact Parameter.accepts_decode h
  | error => exact OperationError.accepts_decode h
  | operation => exact Operation.accepts_decode h
  | service => exact Service.accepts_decode h
  | client => exact Client.accepts_decode h

theorem NodeType.conforms_tag_object_not_fraction :
    let courier : Json := .object [("code", .ofCode 200), ("enum", .array [.object []]),
      ("in", .object [("header", .null)]), ("name", .text "Courier")]
    let fraction : Json :=
      .object [("code", .number (.real ⟨false, 0x4069000000000000, by decide⟩))]
    courier.NoRepeats ∧ response.Conforms courier ∧
      fraction.NoRepeats ∧ ¬ response.Conforms fraction := by
  intro courier fraction
  have hcourier : courier.NoRepeats := noRepeats_normalize courier
  have hfraction : fraction.NoRepeats := noRepeats_normalize fraction
  refine ⟨hcourier, (response.reads_iff_conforms hcourier).mp ⟨_, rfl⟩, hfraction, ?_⟩
  rw [← response.reads_iff_conforms hfraction]
  rintro ⟨_, hread⟩
  cases hread

end Relabel
