import Relabel.Client.Decode
import Relabel.Yaml.Kind

/-!
# Client descriptions in YAML

What a scalar of a description stands for depends on what is asked for: a text takes any
scalar as it is written, so that `1` is a text where a name is expected. The members of a
client are therefore read by the shape of the part they belong to, into a document in memory
that is then read as any other.

Members that are kept until their object has been read have lost that choice: their scalars
are taken for what they look like, and a text must look like one. Such are the members that a
part does not declare, and those that a response or a parameter passes on to its model.
-/

namespace Relabel.Yaml

inductive Part where
  | client
  | service
  | operation
  | response
  | parameter
  | error
  | model
  | member
  deriving DecidableEq, Repr

inductive Shape where
  | text
  | optionalText
  | plain
  | tag (known : List String)
  | free
  | texts
  | part (part : Part)
  | optionalPart (part : Part)
  | parts (part : Part)
  deriving DecidableEq, Repr

namespace Shape

def ofModelField : Model.Field → Shape
  | .name | .type | .base => text
  | .kind => tag (ExportKind.tags.map Prod.fst)
  | .template | .description => optionalText
  | .link => optionalPart .model
  | .isDefinition | .isReadOnly | .isRequired | .isNullable => plain
  | .imports => texts
  | .members => parts .member
  | .enums | .properties => parts .model

def ofMemberField : EnumMember.Field → Shape
  | .name | .type => text
  | .value => free
  | .description => optionalText

def ofResponseField : Response.Field → Shape
  | .location => tag (ResponseLocation.tags.map Prod.fst)
  | .code => plain

def ofParameterField : Parameter.Field → Shape
  | .location => tag (ParameterLocation.tags.map Prod.fst)
  | .property => text
  | .default => free
  | .mediaType => optionalText

def ofErrorField : OperationError.Field → Shape
  | .code => plain
  | .description => text

def ofOperationField : Operation.Field → Shape
  | .service | .name | .method | .path => text
  | .summary | .description | .responseHeader => optionalText
  | .deprecated => plain
  | .parameters => parts .parameter
  | .parametersBody => optionalPart .parameter
  | .errors => parts .error
  | .results => parts .response

def ofServiceField : Service.Field → Shape
  | .name => text
  | .operations => parts .operation
  | .imports => texts

def ofClientField : Client.Field → Shape
  | .version | .server => text
  | .models => parts .model
  | .services => parts .service

end Shape

def Part.declared? (part : Part) (key : String) : Option Shape :=
  match part with
  | client => (Client.declared.lookup key).map Shape.ofClientField
  | service => (Service.declared.lookup key).map Shape.ofServiceField
  | operation => (Operation.declared.lookup key).map Shape.ofOperationField
  | response => (Response.declared.lookup key).map Shape.ofResponseField
  | parameter => (Parameter.declared.lookup key).map Shape.ofParameterField
  | error => (OperationError.declared.lookup key).map Shape.ofErrorField
  | model => (Model.declared.lookup key).map Shape.ofModelField
  | member => (EnumMember.declared.lookup key).map Shape.ofMemberField

def Part.keptShape (part : Part) (key : String) : Shape :=
  match part with
  | response | parameter => (Part.model.declared? key).getD .free
  | _ => .free

/-- Where a node is read: whether its scalars have been taken for what they look like, and how
many collections may still be opened. -/
structure Place where
  kept : Bool
  depth : Nat
  deriving DecidableEq, Repr

def maxDepth : Nat := 128

def Place.enter (place : Place) : Option Place :=
  if place.depth = 0 then none else some { place with depth := place.depth - 1 }

def textOf? (place : Place) : Node → Option String
  | .scalar plain tag? text => do
      if !place.kept then return text
      match ← Kind.ofScalar plain tag? text with
      | .text text => some text
      | _ => none
  | _ => none

def freeScalar (plain : Bool) (tag? : Option Tag) (text : String) : Option Json := do
  match ← Kind.ofScalar plain tag? text with
  | .null | .notFinite => some .null
  | .bool b => some (.bool b)
  | .number n => some (.number n)
  | .text s => some (.text s)
  | .tooWide => none

def plainScalar? : Node → Option Json
  | .scalar plain tag? text => do
      match ← Kind.ofScalar plain tag? text with
      | .bool b => some (.bool b)
      | .number n => some (.number n)
      | _ => none
  | _ => none

/-- Whether a node is a scalar that stands for nothing; none if its tag says so and its text
does not. As long as scalars have not been taken for what they look like, only a plain one can
stand for nothing, and no tag but that of null counts. -/
def isNull? (place : Place) : Node → Option Bool
  | .scalar plain tag? text =>
      if place.kept || (plain && tag?.all (· == ⟨"!!", "null"⟩)) then
        (Kind.ofScalar plain tag? text).map (· == .null)
      else some false
  | _ => some false

def isUnit : Node → Bool
  | .scalar plain tag? text => Kind.ofScalar plain tag? text == some .null
  | _ => false

def index? : Node → Option Nat
  | .scalar true none text =>
      match Kind.ofPlain text with
      | .number (.whole n _) => if text.toList.head? = some '-' then none else some n.toNat
      | _ => none
  | _ => none

/-- The tag that a key names. Once scalars have been taken for what they look like, a number
names the tag at that place among the known ones, counted from zero. -/
def tagOfKey? (place : Place) (known : List String) (key : Node) : Option String :=
  (textOf? place key).or (if place.kept then (index? key).bind (known[·]?) else none)

/-- A tag: a scalar, or a mapping of the tag alone to null. A scalar that carries the tag as
its own, and not as its text, is refused. -/
def tag? (place : Place) (known : List String) : Node → Option Json
  | .mapping [(key, value)] => do
      let tag ← tagOfKey? place known key
      if isUnit value then some (.text tag) else none
  | .scalar plain own? text =>
      if !place.kept && own?.any fun own => own.handle == "!" && known.contains own.suffix then none
      else .text <$> textOf? place (.scalar plain own? text)
  | _ => none

def texts? (place : Place) : Node → Option Json
  | .sequence items => do
      let inner ← place.enter
      return .array (← items.mapM fun item => .text <$> textOf? inner item)
  | _ => none

mutual

def freeOf? (place : Place) : Node → Option Json
  | .scalar plain tag? text => freeScalar plain tag? text
  | .sequence items => do
      let inner ← place.enter
      return .array (← freeItems? inner items)
  | .mapping entries => do
      let inner ← place.enter
      return .object (← freeMembers? inner entries)
  | .cycle => none

def freeItems? (place : Place) : List Node → Option (List Json)
  | [] => some []
  | item :: rest => do
      let item ← freeOf? place item
      let rest ← freeItems? place rest
      return item :: rest

def freeMembers? (place : Place) : List (Node × Node) → Option (List (String × Json))
  | [] => some []
  | (key, value) :: rest => do
      let key ← textOf? place key
      let value ← freeOf? place value
      let rest ← freeMembers? place rest
      return (key, value) :: rest

end

def leafOf? (place : Place) (shape : Shape) (node : Node) : Option Json :=
  match shape with
  | .text => .text <$> textOf? place node
  | .optionalText => do
      if ← isNull? place node then return .null
      .text <$> textOf? place node
  | .plain => plainScalar? node
  | .tag known => tag? place known node
  | .texts => texts? place node
  | _ => freeOf? place node

def errorOf? (place : Place) : List Node → Option (List Json)
  | [] => some []
  | [code] => do return [← leafOf? place .plain code]
  | [code, description] => do
      return [← leafOf? place .plain code, ← leafOf? place .text description]
  | _ => none

mutual

def valueOf? (place : Place) (shape : Shape) : Node → Option Json
  | .mapping entries =>
      match shape with
      | .part part | .optionalPart part => do
          let inner ← place.enter
          return .object (← membersOf? inner part entries)
      | .parts _ => none
      | shape => leafOf? place shape (.mapping entries)
  | .sequence items =>
      match shape with
      | .parts part => do
          let inner ← place.enter
          return .array (← itemsOf? inner (.part part) items)
      | .part .error => do
          let inner ← place.enter
          return .array (← errorOf? inner items)
      | .part _ | .optionalPart _ => none
      | shape => leafOf? place shape (.sequence items)
  | node =>
      match shape with
      | .optionalPart _ => do if ← isNull? place node then some .null else none
      | .part _ | .parts _ => none
      | shape => leafOf? place shape node

def itemsOf? (place : Place) (shape : Shape) : List Node → Option (List Json)
  | [] => some []
  | item :: rest => do
      let item ← valueOf? place shape item
      let rest ← itemsOf? place shape rest
      return item :: rest

def membersOf? (place : Place) (part : Part) :
    List (Node × Node) → Option (List (String × Json))
  | [] => some []
  | (key, value) :: rest => do
      let key ← textOf? place key
      let value? ← match part.declared? key with
        | some shape => some <$> valueOf? place shape value
        | none =>
            if part = .error then pure none
            else some <$> valueOf? { place with kept := true } (part.keptShape key) value
      let rest ← membersOf? place part rest
      return match value? with
        | some value => (key, value) :: rest
        | none => rest

end

def client? (text : String) : Option Client := do
  let node ← Node.ofText? text
  let json ← valueOf? ⟨false, maxDepth⟩ (.part .client) node
  (Json.readJsonWith Client.decode json).toOption

end Relabel.Yaml
