import Relabel.Casing

/-!
# Tags

The fixed words of a client description. Each kind of tag is listed with its words, in the
order in which a message names them.
-/

namespace Relabel

inductive ExportKind where
  | reference
  | generic
  | enum
  | array
  | dictionary
  | interface
  | oneOf
  | anyOf
  | allOf
  deriving DecidableEq, Repr

def ExportKind.text : ExportKind → String
  | reference => "reference"
  | generic => "generic"
  | enum => "enum"
  | array => "array"
  | dictionary => "dictionary"
  | interface => "interface"
  | oneOf => "one-of"
  | anyOf => "any-of"
  | allOf => "all-of"

inductive ResponseLocation where
  | response
  | header
  deriving DecidableEq, Repr

def ResponseLocation.text : ResponseLocation → String
  | response => "response"
  | header => "header"

inductive ParameterLocation where
  | path
  | query
  | header
  | formData
  | body
  | cookie
  deriving DecidableEq, Repr

def ParameterLocation.text : ParameterLocation → String
  | path => "path"
  | query => "query"
  | header => "header"
  | formData => "formData"
  | body => "body"
  | cookie => "cookie"

def tagged {α : Type} (text : α → String) (values : List α) : List (String × α) :=
  values.map fun value => (text value, value)

def ExportKind.tags : List (String × ExportKind) :=
  tagged text [reference, generic, enum, array, dictionary, interface, oneOf, anyOf, allOf]

def ResponseLocation.tags : List (String × ResponseLocation) :=
  tagged text [response, header]

def ParameterLocation.tags : List (String × ParameterLocation) :=
  tagged text [path, query, header, formData, body, cookie]

def Convention.tags : List (String × Convention) :=
  tagged text [camel, snake, pascal]

def Casing.tags : List (String × Casing) :=
  tagged text all

end Relabel
