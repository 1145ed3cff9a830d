import Relabel.Client.Encode
import Relabel.Proofs.Client.NodeType

/-!
# The grammar of client descriptions

The declared keys of every type of node, with the kind of value that each one takes, and the
documents of a kind.  A response and a parameter have the keys of a model besides their own.
-/

namespace Relabel

open Relabel.Json

inductive Kind where
  | text
  | flag
  | code
  /-- One of some words. A missing value stands for the first argument. -/
  | tag (missing : String) (words : List String)
  | any
  | optional (kind : Kind)
  | list (kind : Kind)
  | node (type : NodeType)
  deriving DecidableEq, Repr

/-- What is written where a declared key had no value. -/
def Kind.missing : Kind → Json
  | text => .text ""
  | flag => .bool false
  | code => .ofCode 0
  | tag word _ => .text word
  | list _ => .array []
  | any | optional _ | node _ => .null

namespace NodeType

/-- The declared keys of a node, without those of the model in the same object. -/
def ownFields : NodeType → List (String × Kind)
  | member =>
      [("name", .text), ("value", .any), ("type", .text), ("description", .optional .text)]
  | model =>
      [("name", .text),
        ("export", .tag "reference" ["reference", "generic", "enum", "array", "dictionary",
          "interface", "one-of", "any-of", "all-of"]),
        ("type", .text), ("base", .text), ("template", .optional .text),
        ("link", .optional (.node model)), ("description", .optional .text),
        ("isDefinition", .flag), ("isReadOnly", .flag), ("isRequired", .flag),
        ("isNullable", .flag), ("imports", .list .text), ("enum", .list (.node member)),
        ("enums", .list (.node model)), ("properties", .list (.node model))]
  | response => [("in", .tag "response" ["response", "header"]), ("code", .code)]
  | parameter =>
      [("in", .tag "query" ["path", "query", "header", "formData", "body", "cookie"]),
        ("prop", .text), ("default", .any), ("mediaType", .optional .text)]
  | error => [("code", .code), ("description", .text)]
  | operation =>
      [("service", .text), ("name", .text), ("summary", .optional .text),
        ("description", .optional .text), ("deprecated", .flag), ("method", .text),
        ("path", .text), ("parameters", .list (.node parameter)),
        ("parametersBody", .optional (.node parameter)), ("errors", .list (.node error)),
        ("results", .list (.node response)), ("responseHeader", .optional .text)]
  | service =>
      [("name", .text), ("operations", .list (.node operation)), ("imports", .list .text)]
  | client =>
      [("version", .text), ("server", .text), ("models", .list (.node model)),
        ("services", .list (.node service))]

def fields (type : NodeType) : List (String × Kind) :=
  match type with
  | response | parameter => ownFields type ++ ownFields model
  | _ => ownFields type

end NodeType

/-! ## The fields of a layout -/

namespace Layout

variable {φ α : Type} [DecidableEq φ] (layout : Layout φ α)

def fields (grammar : φ → Kind) : List (String × Kind) :=
  layout.all.map fun field => (layout.key field, grammar field)

theorem mem_fields {grammar : φ → Kind} {key : String} {kind : Kind} :
    (key, kind) ∈ layout.fields grammar ↔
      ∃ field, key = layout.key field ∧ kind = grammar field := by
  simp [fields, layout.mem_all, eq_comm]

theorem map_fst_fields (grammar : φ → Kind) :
    (layout.fields grammar).map Prod.fst = layout.keys := by
  simp [fields, keys]

end Layout

def EnumMember.grammar : Field → Kind
  | .name | .type => .text
  | .value => .any
  | .description => .optional .text

def Model.grammar : Field → Kind
  | .name | .type | .base => .text
  | .kind => .tag "reference" (ExportKind.tags.map Prod.fst)
  | .template | .description => .optional .text
  | .link => .optional (.node .model)
  | .isDefinition | .isReadOnly | .isRequired | .isNullable => .flag
  | .imports => .list .text
  | .members => .list (.node .member)
  | .enums | .properties => .list (.node .model)

def Response.grammar : Field → Kind
  | .location => .tag "response" (ResponseLocation.tags.map Prod.fst)
  | .code => .code

def Parameter.grammar : Field → Kind
  | .location => .tag "query" (ParameterLocation.tags.map Prod.fst)
  | .property => .text
  | .default => .any
  | .mediaType => .optional .text

def OperationError.grammar : Field → Kind
  | .code => .code
  | .description => .text

def Operation.grammar : Field → Kind
  | .service | .name | .method | .path => .text
  | .summary | .description | .responseHeader => .optional .text
  | .deprecated => .flag
  | .parameters => .list (.node .parameter)
  | .parametersBody => .optional (.node .parameter)
  | .errors => .list (.node .error)
  | .results => .list (.node .response)

def Service.grammar : Field → Kind
  | .name => .text
  | .operations => .list (.node .operation)
  | .imports => .list .text

def Client.grammar : Field → Kind
  | .version | .server => .text
  | .models => .list (.node .model)
  | .services => .list (.node .service)

namespace NodeType

theorem fields_member : member.fields = EnumMember.layout.fields EnumMember.grammar := rfl

theorem fields_model : model.fields = Model.layout.fields Model.grammar := rfl

theorem fields_response :
    response.fields = Response.layout.fields Response.grammar ++ model.fields := rfl

theorem fields_parameter :
    parameter.fields = Parameter.layout.fields Parameter.grammar ++ model.fields := rfl

theorem fields_error : error.fields = OperationError.layout.fields OperationError.grammar := rfl

theorem fields_operation : operation.fields = Operation.layout.fields Operation.grammar := rfl

theorem fields_service : service.fields = Service.layout.fields Service.grammar := rfl

theorem fields_client : client.fields = Client.layout.fields Client.grammar := rfl

end NodeType

/-! ## The documents of a kind -/

/-- `kind.Admits value`: the value is one of the kind. Keys that a node does not declare may have
any value. -/
inductive Kind.Admits : Kind → Json → Prop where
  | text (s : String) : Admits .text (.text s)
  | flag (b : Bool) : Admits .flag (.bool b)
  | code {n : Int} {fits : FitsWord n} (low : 0 ≤ n) (high : n ≤ 65535) :
      Admits .code (.number (.whole n fits))
  | tag {missing word : String} {words : List String} (known : word ∈ words) :
      Admits (.tag missing words) (.text word)
  | tagKey {missing word : String} {words : List String} (known : word ∈ words) :
      Admits (.tag missing words) (.object [(word, .null)])
  | any (value : Json) : Admits .any value
  | none (kind : Kind) : Admits (.optional kind) .null
  | some {kind : Kind} {value : Json} (inner : Admits kind value) : Admits (.optional kind) value
  | list {kind : Kind} {items : List Json} (inner : ∀ item ∈ items, Admits kind item) :
      Admits (.list kind) (.array items)
  | node {type : NodeType} {members : List (String × Json)}
      (declared : ∀ member ∈ members, ∀ kind, (member.1, kind) ∈ type.fields →
        Admits kind member.2) :
      Admits (.node type) (.object members)
  | pair {items : List Json} (short : items.length ≤ 2)
      (code : ∀ item ∈ items[0]?, Admits .code item)
      (description : ∀ item ∈ items[1]?, Admits .text item) :
      Admits (.node .error) (.array items)

def NodeType.Conforms (type : NodeType) (document : Json) : Prop :=
  (Kind.node type).Admits document

namespace Kind

variable {value : Json}

theorem admits_text_iff : text.Admits value ↔ ∃ s, value = .text s := by
  constructor
  · intro h
    cases h with
    | text s => exact ⟨s, rfl⟩
  · rintro ⟨s, rfl⟩
    exact .text s

theorem admits_flag_iff : flag.Admits value ↔ ∃ b, value = .bool b := by
  constructor
  · intro h
    cases h with
    | flag b => exact ⟨b, rfl⟩
  · rintro ⟨b, rfl⟩
    exact .flag b

theorem admits_code_iff :
    code.Admits value ↔ ∃ n fits, value = .number (.whole n fits) ∧ 0 ≤ n ∧ n ≤ 65535 := by
  constructor
  · intro h
    cases h with
    | code low high => exact ⟨_, _, rfl, low, high⟩
  · rintro ⟨n, fits, rfl, low, high⟩
    exact .code low high

theorem admits_tag_iff {missing : String} {words : List String} :
    (tag missing words).Admits value ↔
      ∃ word ∈ words, value = .text word ∨ value = .object [(word, .null)] := by
  constructor
  · intro h
    cases h with
    | tag known => exact ⟨_, known, .inl rfl⟩
    | tagKey known => exact ⟨_, known, .inr rfl⟩
  · rintro ⟨word, known, rfl | rfl⟩
    · exact .tag known
    · exact .tagKey known

theorem admits_optional_iff {kind : Kind} :
    (optional kind).Admits value ↔ value = .null ∨ kind.Admits value := by
  constructor
  · intro h
    cases h with
    | none => exact .inl rfl
    | some inner => exact .inr inner
  · rintro (rfl | inner)
    · exact .none kind
    · exact .some inner

theorem admits_list_iff {kind : Kind} :
    (list kind).Admits value ↔
      ∃ items, value = .array items ∧ ∀ item ∈ items, kind.Admits item := by
  constructor
  · intro h
    cases h with
    | list inner => exact ⟨_, rfl, inner⟩
  · rintro ⟨items, rfl, inner⟩
    exact .list inner

theorem admits_object_iff {type : NodeType} {members : List (String × Json)} :
    (node type).Admits (.object members) ↔
      ∀ member ∈ members, ∀ kind, (member.1, kind) ∈ type.fields → kind.Admits member.2 := by
  constructor
  · intro h
    cases h with
    | node declared => exact declared
  · exact .node

theorem exists_object_of_admits {type : NodeType} (htype : type ≠ .error)
    (h : (node type).Admits value) : ∃ members, value = .object members := by
  cases h with
  | node => exact ⟨_, rfl⟩
  | pair => contradiction

theorem admits_pair_iff {items : List Json} :
    (node .error).Admits (.array items) ↔
      items.length ≤ 2 ∧ (∀ item ∈ items[0]?, code.Admits item) ∧
        ∀ item ∈ items[1]?, text.Admits item := by
  constructor
  · intro h
    cases h with
    | pair short first second => exact ⟨short, first, second⟩
  · rintro ⟨short, first, second⟩
    exact .pair short first second

end Kind

end Relabel
