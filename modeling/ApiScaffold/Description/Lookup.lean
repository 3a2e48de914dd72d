import ApiScaffold.Description.Basic
import ApiScaffold.Fault

/-!
# Lookups in a description

Paths, operations, schemas and parameters by name, and the references between them.

- `Description.pathItem` and `Description.operation` look declarations up;
- `Description.resolveSchema` follows references to definitions until a schema is none;
- `Description.resolveParameter` follows a reference to a shared parameter.
-/

namespace ApiScaffold.Description

/-- The item of a path. -/
def pathItem (api : Description) (path : String) : Built PathItem :=
  match api.paths.get? path with
  | some item => .ok item
  | none => .error (.description (.undeclaredPath path))

/-- **The operation** of a path and a method. -/
def operation (api : Description) (path : String) (method : Method) : Built Operation := do
  let item ← api.pathItem path
  match item.operation? method with
  | some operation => .ok operation
  | none => .error (.description (.undeclaredOperation method path))

/-- What a reference to a definition starts with. -/
def definitionsRoot : String := "#/definitions/"

/-- What a reference to a shared parameter starts with. -/
def parametersRoot : String := "#/parameters/"

/-- The name in a reference below a root. -/
def nameBelow? (root target : String) : Option String :=
  let start := root.toList
  let cs := target.toList
  if start.isPrefixOf cs then some (String.ofList (cs.drop start.length)) else none

/-- The reference of a schema, if it is one. -/
def schemaReference? (schema : Json) : Option String := (schema.field? "$ref").bind Json.text?

/-- The schema that a reference names. -/
def referencedSchema (api : Description) (target : String) : Built Json :=
  match nameBelow? definitionsRoot target with
  | none => .error (.description (.unexpectedSchemaReference target))
  | some name =>
    match api.definitions.get? name with
    | some schema => .ok schema
    | none => .error (.description (.unknownSchema name))

/-- Follows references for a number of steps; a schema that still is a reference then lies on a
cycle. -/
def followSchema (api : Description) : Nat → Json → Built Json
  | 0, _ => .error (.description .schemaCycle)
  | steps + 1, schema =>
    match schemaReference? schema with
    | none => .ok schema
    | some target => do api.followSchema steps (← api.referencedSchema target)

/-- **Resolved schema.** A chain of references that visits more schemas than the start and the
definitions together has come back to one of them. -/
def resolveSchema (api : Description) (schema : Json) : Built Json :=
  api.followSchema (api.definitions.length + 1) schema

/-- **Resolved parameter.** -/
def resolveParameter (api : Description) : ParameterEntry → Built Parameter
  | .inline parameter => .ok parameter
  | .reference target =>
    match nameBelow? parametersRoot target with
    | none => .error (.description (.unexpectedParameterReference target))
    | some name =>
      match api.parameters.get? name with
      | some parameter => .ok parameter
      | none => .error (.description (.unknownParameter name))

end ApiScaffold.Description
