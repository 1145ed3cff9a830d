import Relabel.Client.Model

/-!
# Operations

An operation is one method of a service. Its parameters and its results are models with a few
keys of their own, and are written as one object each: the own keys, then those of the model.
-/

namespace Relabel

structure Response where
  location : ResponseLocation := .response
  code : UInt16 := 0
  model : Model := {}
  deriving Inhabited

/-- A parameter of an operation. Its names are those of the interface that is called. -/
structure Parameter where
  location : ParameterLocation := .query
  property : String := ""
  default : Option Json := none
  mediaType : Option String := none
  model : Model := {}
  deriving Inhabited

structure OperationError where
  code : UInt16 := 0
  description : String := ""
  deriving Inhabited, DecidableEq, Repr

structure Operation where
  service : String := ""
  name : String := ""
  summary : Option String := none
  description : Option String := none
  deprecated : Bool := false
  method : String := ""
  path : String := ""
  parameters : List Parameter := []
  parametersBody : Option Parameter := none
  errors : List OperationError := []
  results : List Response := []
  responseHeader : Option String := none
  extra : List (String × Json) := []
  deriving Inhabited

namespace Response

inductive Field where
  | location
  | code
  deriving DecidableEq, Repr

def Field.key : Field → String
  | location => "in"
  | code => "code"

def Field.all : List Field :=
  [location, code]

def ofModel (code : UInt16) (model : Model) : Response :=
  { code, model }

end Response

namespace Parameter

inductive Field where
  | location
  | property
  | default
  | mediaType
  deriving DecidableEq, Repr

def Field.key : Field → String
  | location => "in"
  | property => "prop"
  | default => "default"
  | mediaType => "mediaType"

def Field.all : List Field :=
  [location, property, default, mediaType]

end Parameter

namespace OperationError

inductive Field where
  | code
  | description
  deriving DecidableEq, Repr

def Field.key : Field → String
  | code => "code"
  | description => "description"

def Field.all : List Field :=
  [code, description]

end OperationError

namespace Operation

inductive Field where
  | service
  | name
  | summary
  | description
  | deprecated
  | method
  | path
  | parameters
  | parametersBody
  | errors
  | results
  | responseHeader
  deriving DecidableEq, Repr

def Field.key : Field → String
  | service => "service"
  | name => "name"
  | summary => "summary"
  | description => "description"
  | deprecated => "deprecated"
  | method => "method"
  | path => "path"
  | parameters => "parameters"
  | parametersBody => "parametersBody"
  | errors => "errors"
  | results => "results"
  | responseHeader => "responseHeader"

def Field.all : List Field :=
  [service, name, summary, description, deprecated, method, path, parameters, parametersBody,
    errors, results, responseHeader]

def named (name method path : String) : Operation :=
  { name, method, path }

def addResult (operation : Operation) (result : Response) : Operation :=
  { operation with results := operation.results ++ [result] }

end Operation

end Relabel
