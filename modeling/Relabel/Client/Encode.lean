import Relabel.Client.Service

/-!
# Writing a client description as a document

Every node is written with all its declared keys in the order of its fields, whether they were
given or not, and then with its other members. Two nodes are equal if they are written alike,
where numbers are compared as numbers.
-/

namespace Relabel

namespace Json

def ofTexts (texts : List String) : Json :=
  .array (texts.map .text)

def ofText? (text? : Option String) : Json :=
  text?.elim .null .text

def ofCode (code : UInt16) : Json :=
  .number (.whole code.toNat (by have := code.toNat_lt; constructor <;> omega))

end Json

def EnumMember.toMembers (member : EnumMember) : List (String × Json) :=
  [(Field.key .name, .text member.name), (Field.key .value, member.value),
    (Field.key .type, .text member.type),
    (Field.key .description, .ofText? member.description)] ++ member.extra

def EnumMember.toJson (member : EnumMember) : Json :=
  .object member.toMembers

namespace Model

mutual

def toMembers : Model → List (String × Json)
  | { name, kind, type, base, template, link, description, isDefinition, isReadOnly, isRequired,
      isNullable, imports, members, enums, properties, extra } =>
      [(Field.key .name, .text name), (Field.key .kind, .text kind.text),
        (Field.key .type, .text type), (Field.key .base, .text base),
        (Field.key .template, .ofText? template), (Field.key .link, linkToJson link),
        (Field.key .description, .ofText? description),
        (Field.key .isDefinition, .bool isDefinition),
        (Field.key .isReadOnly, .bool isReadOnly),
        (Field.key .isRequired, .bool isRequired),
        (Field.key .isNullable, .bool isNullable),
        (Field.key .imports, .ofTexts imports),
        (Field.key .members, .array (members.map EnumMember.toJson)),
        (Field.key .enums, .array (listToJson enums)),
        (Field.key .properties, .array (listToJson properties))] ++ extra

def linkToJson : Option Model → Json
  | none => .null
  | some model => .object (toMembers model)

def listToJson : List Model → List Json
  | [] => []
  | model :: rest => .object (toMembers model) :: listToJson rest

end

def toJson (model : Model) : Json :=
  .object model.toMembers

end Model

def Response.toJson (response : Response) : Json :=
  .object ([(Field.key .location, .text response.location.text),
    (Field.key .code, .ofCode response.code)] ++ response.model.toMembers)

def Parameter.toJson (parameter : Parameter) : Json :=
  .object ([(Field.key .location, .text parameter.location.text),
    (Field.key .property, .text parameter.property),
    (Field.key .default, parameter.default.getD .null),
    (Field.key .mediaType, .ofText? parameter.mediaType)] ++ parameter.model.toMembers)

def OperationError.toJson (error : OperationError) : Json :=
  .object [(Field.key .code, .ofCode error.code),
    (Field.key .description, .text error.description)]

def Operation.toJson (operation : Operation) : Json :=
  .object ([(Field.key .service, .text operation.service),
    (Field.key .name, .text operation.name),
    (Field.key .summary, .ofText? operation.summary),
    (Field.key .description, .ofText? operation.description),
    (Field.key .deprecated, .bool operation.deprecated),
    (Field.key .method, .text operation.method),
    (Field.key .path, .text operation.path),
    (Field.key .parameters, .array (operation.parameters.map Parameter.toJson)),
    (Field.key .parametersBody, operation.parametersBody.elim .null Parameter.toJson),
    (Field.key .errors, .array (operation.errors.map OperationError.toJson)),
    (Field.key .results, .array (operation.results.map Response.toJson)),
    (Field.key .responseHeader, .ofText? operation.responseHeader)] ++ operation.extra)

def Service.toJson (service : Service) : Json :=
  .object ([(Field.key .name, .text service.name),
    (Field.key .operations, .array (service.operations.map Operation.toJson)),
    (Field.key .imports, .ofTexts service.imports)] ++ service.extra)

def Client.toJson (client : Client) : Json :=
  .object ([(Field.key .version, .text client.version),
    (Field.key .server, .text client.server),
    (Field.key .models, .array (client.models.map Model.toJson)),
    (Field.key .services, .array (client.services.map Service.toJson))] ++ client.extra)

instance : BEq EnumMember := ⟨fun a b => a.toJson == b.toJson⟩
instance : BEq Model := ⟨fun a b => a.toJson == b.toJson⟩
instance : BEq Response := ⟨fun a b => a.toJson == b.toJson⟩
instance : BEq Operation := ⟨fun a b => a.toJson == b.toJson⟩
instance : BEq Service := ⟨fun a b => a.toJson == b.toJson⟩
instance : BEq Client := ⟨fun a b => a.toJson == b.toJson⟩

end Relabel
