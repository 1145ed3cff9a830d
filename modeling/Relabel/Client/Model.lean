import Relabel.Client.Tag
import Relabel.Json.Value

/-!
# Models

A model is a named type of a generated client. Models nest: a model may link to another one,
and has models as its enumerations and properties. Keys of a description that are not declared
here are kept, sorted by key, and are written after the declared ones.
-/

namespace Relabel

structure EnumMember where
  name : String := ""
  value : Json := .null
  type : String := ""
  description : Option String := none
  /-- The members that are not declared, sorted by key. -/
  extra : List (String × Json) := []
  deriving Inhabited

structure Model where
  name : String := ""
  kind : ExportKind := .reference
  type : String := ""
  base : String := ""
  template : Option String := none
  link : Option Model := none
  description : Option String := none
  isDefinition : Bool := false
  isReadOnly : Bool := false
  isRequired : Bool := false
  isNullable : Bool := false
  imports : List String := []
  members : List EnumMember := []
  enums : List Model := []
  properties : List Model := []
  extra : List (String × Json) := []
  deriving Inhabited

namespace EnumMember

inductive Field where
  | name
  | value
  | type
  | description
  deriving DecidableEq, Repr

def Field.key : Field → String
  | name => "name"
  | value => "value"
  | type => "type"
  | description => "description"

def Field.all : List Field :=
  [name, value, type, description]

def named (name : String) (value : Json) : EnumMember :=
  { name, value }

end EnumMember

namespace Model

inductive Field where
  | name
  | kind
  | type
  | base
  | template
  | link
  | description
  | isDefinition
  | isReadOnly
  | isRequired
  | isNullable
  | imports
  | members
  | enums
  | properties
  deriving DecidableEq, Repr

def Field.key : Field → String
  | name => "name"
  | kind => "export"
  | type => "type"
  | base => "base"
  | template => "template"
  | link => "link"
  | description => "description"
  | isDefinition => "isDefinition"
  | isReadOnly => "isReadOnly"
  | isRequired => "isRequired"
  | isNullable => "isNullable"
  | imports => "imports"
  | members => "enum"
  | enums => "enums"
  | properties => "properties"

def Field.all : List Field :=
  [name, kind, type, base, template, link, description, isDefinition, isReadOnly, isRequired,
    isNullable, imports, members, enums, properties]

def named (name : String) (kind : ExportKind) : Model :=
  { name, kind }

def setLink (model link : Model) : Model :=
  { model with link := some link }

def addMember (model : Model) (member : EnumMember) : Model :=
  { model with members := model.members ++ [member] }

def addEnum (model enum : Model) : Model :=
  { model with enums := model.enums ++ [enum] }

def addProperty (model property : Model) : Model :=
  { model with properties := model.properties ++ [property] }

/-- An interface is referred to by its name in the whole client. -/
def isInterface (model : Model) : Bool :=
  model.kind == .interface

end Model

end Relabel
