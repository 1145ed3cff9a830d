import Relabel.Client.Decode
import Relabel.Client.Encode
import Relabel.Proofs.Client.Members

/-!
# Layouts of the nodes of a client

Every node of a client description has a layout, and is read as its layout tells.  The reader of
models runs through nested models by itself; it is the same reader, member by member.
-/

namespace Relabel

open Relabel.Json

namespace EnumMember

def copy (field : Field) (source member : EnumMember) : EnumMember :=
  match field with
  | .name => { member with name := source.name }
  | .value => { member with value := source.value }
  | .type => { member with type := source.type }
  | .description => { member with description := source.description }

def layout : Layout Field EnumMember where
  key := Field.key
  all := Field.all
  set := set
  empty := {}
  copy := copy
  nodup_keys := by decide
  mem_all := by rintro ⟨⟩ <;> decide
  set_eq := by rintro route ⟨⟩ source node <;> simp [set, copy]
  copy_comm := by rintro ⟨⟩ ⟨⟩ h a b node <;> first | rfl | contradiction

theorem decode_eq (route : Route) (source : Source) :
    decode route source =
      (fun draft => { draft.node with extra := draft.extra }) <$>
        layout.read "EnumMember" route source :=
  (map_eq_pure_bind ..).symm

end EnumMember

namespace Model

def set (route : Route) (field : Field) (source : Source) (model : Model) :
    Except Fault Model :=
  match field with
  | .name => return { model with name := ← source.readText }
  | .kind => return { model with kind := ← ExportKind.decode route source }
  | .type => return { model with type := ← source.readText }
  | .base => return { model with base := ← source.readText }
  | .template => return { model with template := ← source.readOptional Source.readText }
  | .link => return { model with link := ← source.readOptional (decode route) }
  | .description => return { model with description := ← source.readOptional Source.readText }
  | .isDefinition => return { model with isDefinition := ← source.readFlag }
  | .isReadOnly => return { model with isReadOnly := ← source.readFlag }
  | .isRequired => return { model with isRequired := ← source.readFlag }
  | .isNullable => return { model with isNullable := ← source.readFlag }
  | .imports => return { model with imports := ← readTexts route source }
  | .members => return { model with members := ← source.readList route EnumMember.decode }
  | .enums => return { model with enums := ← source.readList route decode }
  | .properties => return { model with properties := ← source.readList route decode }

def copy (field : Field) (source model : Model) : Model :=
  match field with
  | .name => { model with name := source.name }
  | .kind => { model with kind := source.kind }
  | .type => { model with type := source.type }
  | .base => { model with base := source.base }
  | .template => { model with template := source.template }
  | .link => { model with link := source.link }
  | .description => { model with description := source.description }
  | .isDefinition => { model with isDefinition := source.isDefinition }
  | .isReadOnly => { model with isReadOnly := source.isReadOnly }
  | .isRequired => { model with isRequired := source.isRequired }
  | .isNullable => { model with isNullable := source.isNullable }
  | .imports => { model with imports := source.imports }
  | .members => { model with members := source.members }
  | .enums => { model with enums := source.enums }
  | .properties => { model with properties := source.properties }

def layout : Layout Field Model where
  key := Field.key
  all := Field.all
  set := set
  empty := {}
  copy := copy
  nodup_keys := by decide
  mem_all := by rintro ⟨⟩ <;> decide
  set_eq := by rintro route ⟨⟩ source node <;> simp [set, copy]
  copy_comm := by rintro ⟨⟩ ⟨⟩ h a b node <;> first | rfl | contradiction

theorem decodeLink_eq (route : Route) (source : Source) :
    decodeLink route source = source.readOptional (decode route) := by
  cases source with
  | object members ending =>
      simp only [decodeLink, Source.readOptional, decode, map_bind, map_pure]
  | number n => cases n <;> rfl
  | text s => cases s <;> rfl
  | _ => rfl

theorem decodeItems_eq (route : Route) (items : List Source) :
    decodeItems route items = items.mapM (decode route) := by
  induction items with
  | nil => rfl
  | cons item items ih => rw [decodeItems, List.mapM_cons, ih]

theorem decodeList_eq (route : Route) (source : Source) :
    decodeList route source = source.readList route decode := by
  cases source with
  | array items ending => simp only [decodeList, Source.readList, decodeItems_eq]
  | _ => rfl

theorem takeMembers_eq (route : Route) (draft : Draft Field Model)
    (members : List (Except SyntaxFault String × Source)) :
    takeMembers route draft members =
      draft.takeAll layout.declared (layout.set route) (Source.read route) members := by
  induction members generalizing draft with
  | nil => rfl
  | cons member members ih =>
      have hset : (fun field model => layout.set route field member.2 model) =
          fun field model => set route field member.2 model := rfl
      rw [takeMembers, Draft.takeAll]
      simp only [ih, hset]
      congr 1
      unfold set
      simp only [decodeLink_eq, decodeList_eq]
      rfl

theorem decode_eq (route : Route) (source : Source) :
    decode route source = ofDraft <$> layout.read "Model" route source := by
  cases source with
  | object members ending =>
      simp only [decode, takeMembers_eq, Layout.read, Draft.ofObject, map_bind, map_pure]
      rfl
  | number n => cases n <;> rfl
  | text s => cases s <;> rfl
  | _ => rfl

theorem ofMembers_eq (members : List (String × Json)) :
    ofMembers members = decode .memory (Source.ofJson (.object members)) := by
  have hclosed : check ObjectEnd.closed.whenRead? = .ok () := rfl
  simp only [ofMembers, Source.ofJson, decode, Route.enter, ok_bind, hclosed]
  exact map_eq_pure_bind ..

end Model

namespace Response

def copy (field : Field) (source response : Response) : Response :=
  match field with
  | .location => { response with location := source.location }
  | .code => { response with code := source.code }

def layout : Layout Field Response where
  key := Field.key
  all := Field.all
  set := set
  empty := {}
  copy := copy
  nodup_keys := by decide
  mem_all := by rintro ⟨⟩ <;> decide
  set_eq := by rintro route ⟨⟩ source node <;> simp [set, copy]
  copy_comm := by rintro ⟨⟩ ⟨⟩ h a b node <;> first | rfl | contradiction

theorem decode_eq (route : Route) (source : Source) :
    decode route source = do
      let draft ← layout.read "OperationResponse" route source
      return { draft.node with model := ← Model.ofMembers draft.rest } := rfl

end Response

namespace Parameter

def copy (field : Field) (source parameter : Parameter) : Parameter :=
  match field with
  | .location => { parameter with location := source.location }
  | .property => { parameter with property := source.property }
  | .default => { parameter with default := source.default }
  | .mediaType => { parameter with mediaType := source.mediaType }

def layout : Layout Field Parameter where
  key := Field.key
  all := Field.all
  set := set
  empty := {}
  copy := copy
  nodup_keys := by decide
  mem_all := by rintro ⟨⟩ <;> decide
  set_eq := by rintro route ⟨⟩ source node <;> simp [set, copy]
  copy_comm := by rintro ⟨⟩ ⟨⟩ h a b node <;> first | rfl | contradiction

theorem decode_eq (route : Route) (source : Source) :
    decode route source = do
      let draft ← layout.read "OperationParameter" route source
      return { draft.node with model := ← Model.ofMembers draft.rest } := rfl

end Parameter

namespace OperationError

def copy (field : Field) (source error : OperationError) : OperationError :=
  match field with
  | .code => { error with code := source.code }
  | .description => { error with description := source.description }

def layout : Layout Field OperationError where
  key := Field.key
  all := Field.all
  set := set
  empty := {}
  copy := copy
  nodup_keys := by decide
  mem_all := by rintro ⟨⟩ <;> decide
  set_eq := by rintro route ⟨⟩ source node <;> simp [set, copy]
  copy_comm := by rintro ⟨⟩ ⟨⟩ h a b node <;> first | rfl | contradiction

theorem decode_object (route : Route) (members : List (String × Json)) :
    decode route (Source.ofJson (.object members)) =
      Draft.node <$> Draft.ofObject "OperationError" layout.declared layout.set skipOther
        layout.empty route (Source.ofJson (.object members)) :=
  (map_eq_pure_bind ..).symm

end OperationError

namespace Operation

def copy (field : Field) (source operation : Operation) : Operation :=
  match field with
  | .service => { operation with service := source.service }
  | .name => { operation with name := source.name }
  | .summary => { operation with summary := source.summary }
  | .description => { operation with description := source.description }
  | .deprecated => { operation with deprecated := source.deprecated }
  | .method => { operation with method := source.method }
  | .path => { operation with path := source.path }
  | .parameters => { operation with parameters := source.parameters }
  | .parametersBody => { operation with parametersBody := source.parametersBody }
  | .errors => { operation with errors := source.errors }
  | .results => { operation with results := source.results }
  | .responseHeader => { operation with responseHeader := source.responseHeader }

def layout : Layout Field Operation where
  key := Field.key
  all := Field.all
  set := set
  empty := {}
  copy := copy
  nodup_keys := by decide
  mem_all := by rintro ⟨⟩ <;> decide
  set_eq := by rintro route ⟨⟩ source node <;> simp [set, copy]
  copy_comm := by rintro ⟨⟩ ⟨⟩ h a b node <;> first | rfl | contradiction

theorem decode_eq (route : Route) (source : Source) :
    decode route source =
      (fun draft => { draft.node with extra := draft.extra }) <$>
        layout.read "Operation" route source :=
  (map_eq_pure_bind ..).symm

end Operation

namespace Service

def copy (field : Field) (source service : Service) : Service :=
  match field with
  | .name => { service with name := source.name }
  | .operations => { service with operations := source.operations }
  | .imports => { service with imports := source.imports }

def layout : Layout Field Service where
  key := Field.key
  all := Field.all
  set := set
  empty := {}
  copy := copy
  nodup_keys := by decide
  mem_all := by rintro ⟨⟩ <;> decide
  set_eq := by rintro route ⟨⟩ source node <;> simp [set, copy]
  copy_comm := by rintro ⟨⟩ ⟨⟩ h a b node <;> first | rfl | contradiction

theorem decode_eq (route : Route) (source : Source) :
    decode route source =
      (fun draft => { draft.node with extra := draft.extra }) <$>
        layout.read "Service" route source :=
  (map_eq_pure_bind ..).symm

end Service

namespace Client

def copy (field : Field) (source client : Client) : Client :=
  match field with
  | .version => { client with version := source.version }
  | .server => { client with server := source.server }
  | .models => { client with models := source.models }
  | .services => { client with services := source.services }

def layout : Layout Field Client where
  key := Field.key
  all := Field.all
  set := set
  empty := {}
  copy := copy
  nodup_keys := by decide
  mem_all := by rintro ⟨⟩ <;> decide
  set_eq := by rintro route ⟨⟩ source node <;> simp [set, copy]
  copy_comm := by rintro ⟨⟩ ⟨⟩ h a b node <;> first | rfl | contradiction

theorem decode_eq (route : Route) (source : Source) :
    decode route source =
      (fun draft => { draft.node with extra := draft.extra }) <$>
        layout.read "Client" route source :=
  (map_eq_pure_bind ..).symm

theorem layout_set_models (route : Route) (source : Source) (client : Client) :
    layout.set route .models source client =
      (do return { client with models := ← source.readList route Model.decode }) := by
  rw [← Model.decodeList_eq]
  rfl

end Client

end Relabel
