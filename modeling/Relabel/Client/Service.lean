import Relabel.Client.Operation

/-!
# Services and clients

A service groups operations. A client is the whole description: its models and its services.
-/

namespace Relabel

structure Service where
  name : String := ""
  operations : List Operation := []
  imports : List String := []
  extra : List (String × Json) := []
  deriving Inhabited

structure Client where
  version : String := ""
  server : String := ""
  models : List Model := []
  services : List Service := []
  extra : List (String × Json) := []
  deriving Inhabited

namespace Service

inductive Field where
  | name
  | operations
  | imports
  deriving DecidableEq, Repr

def Field.key : Field → String
  | name => "name"
  | operations => "operations"
  | imports => "imports"

def Field.all : List Field :=
  [name, operations, imports]

def named (name : String) : Service :=
  { name }

def addOperation (service : Service) (operation : Operation) : Service :=
  { service with operations := service.operations ++ [operation] }

end Service

namespace Client

inductive Field where
  | version
  | server
  | models
  | services
  deriving DecidableEq, Repr

def Field.key : Field → String
  | version => "version"
  | server => "server"
  | models => "models"
  | services => "services"

def Field.all : List Field :=
  [version, server, models, services]

end Client

end Relabel
