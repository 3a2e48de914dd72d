import ApiScaffold.Data.Outline
import ApiScaffold.Description.Basic

/-!
# Reading descriptions

Each type of a description has a decoder from data. Unknown fields are skipped; a field with a default
may be missing, but a value that is there has to fit. A path item is read in two steps: first as JSON
values, then its known keys as strictly as JSON, whatever the format of the text was.
-/

namespace ApiScaffold

namespace Info

/-- One field. -/
def set (name : String) (d : Data) (info : Info) : Decoded Info := do
  match name with
  | "title" => return { info with title := ← d.optional Data.text }
  | _ => return { info with version := ← d.optional Data.text }

/-- The fields in order. -/
def fieldNames : List String := ["title", "version"]

/-- What is read of title and version. -/
def outline : Outline := .ofNames fieldNames fun _ => .all

/-- Title and version. Given by position, both have to be there. -/
def decode (d : Data) : Decoded Info := d.record fieldNames [] fieldNames {} set

end Info

namespace Parameter

/-- The fields of a parameter that have a meaning of their own. -/
def knownFields : List String := ["name", "in", "required", "type", "description", "schema"]

/-- The fields of a parameter as far as they are read. -/
structure Draft where
  name : Option String := none
  location : Option ParameterLocation := none
  required : Option Bool := none
  type : Option (Option String) := none
  description : Option (Option String) := none
  schema : Option (Option Json) := none
  extra : List (String × Data) := []

/-- Sets a field that is not there yet. -/
def once {α : Type} (field : Option α) (value : Decoded α) : Decoded (Option α) :=
  match field with
  | some _ => Data.mismatch
  | none => value.map some

/-- One field. -/
def Draft.set (p : Draft) (name : String) (d : Data) : Decoded Draft := do
  match name with
  | "name" => return { p with name := ← once p.name d.text }
  | "in" => return { p with location := ← once p.location (d.text.map ParameterLocation.ofTag) }
  | "required" => return { p with required := ← once p.required d.flag }
  | "type" => return { p with type := ← once p.type (d.optional Data.text) }
  | "description" => return { p with description := ← once p.description (d.optional Data.text) }
  | "schema" => return { p with schema := ← once p.schema (d.optional Data.json) }
  | _ => return { p with extra := p.extra ++ [(name, d)] }

/-- **A parameter**: a map that names it and its location. -/
def decode (d : Data) : Decoded Parameter := do
  match d.fields? with
  | none => Data.mismatch
  | some fields =>
    let p ← fields.foldlM (fun (p : Draft) (name, d) => p.set name d) {}
    match p.name, p.location with
    | some name, some location =>
      return {
        name
        location
        required := p.required.getD false
        type := p.type.join
        description := p.description.join
        schema := p.schema.join
        extra := ← Data.fieldsOf Data.textKeyedJson p.extra [] }
    | _, _ => Data.mismatch

end Parameter

namespace ParameterEntry

/-- The reference of an entry, if it is one. -/
def reference? (fields : List (String × Data)) : Option String :=
  match Entries.get? fields "$ref" with
  | some (.leaf (.text target)) => some target
  | _ => none

/-- **An entry**: a reference if it has one, and a parameter declared in place otherwise. -/
def decode (d : Data) : Decoded ParameterEntry :=
  match d.fields?.bind reference? with
  | some target => .ok (.reference target)
  | none => (Parameter.decode d).map .inline

end ParameterEntry

namespace Response

/-- One field. -/
def set (name : String) (d : Data) (r : Response) : Decoded Response := do
  match name with
  | "description" => return { r with description := ← d.text }
  | _ => return { r with schema := ← d.optional Data.json }

/-- A response. -/
def decode (d : Data) : Decoded Response := d.record ["description", "schema"] [] [] {} set

end Response

/-- Security requirements. -/
def SecurityRequirement.decode (d : Data) : Decoded SecurityRequirement :=
  d.entries (·.list Data.text)

namespace Operation

/-- The fields of an operation in order. -/
def fieldNames : List String :=
  ["operationId", "summary", "description", "parameters", "responses", "consumes", "produces",
    "security", "deprecated"]

/-- One field. -/
def set (name : String) (d : Data) (o : Operation) : Decoded Operation := do
  match name with
  | "operationId" => return { o with operationId := ← d.optional Data.text }
  | "summary" => return { o with summary := ← d.optional Data.text }
  | "description" => return { o with description := ← d.optional Data.text }
  | "parameters" => return { o with parameters := ← d.list ParameterEntry.decode }
  | "responses" => return { o with responses := ← d.entries Response.decode }
  | "consumes" => return { o with consumes := ← d.list Data.text }
  | "produces" => return { o with produces := ← d.list Data.text }
  | "security" => return { o with security := ← d.list SecurityRequirement.decode }
  | _ => return { o with deprecated := ← d.flag }

/-- **An operation.** -/
def decode (d : Data) : Decoded Operation := d.record fieldNames [] [] {} set

end Operation

namespace PathItem

/-- Sets one entry of a path item; keys that are neither a method nor `parameters` are skipped. -/
def set (item : PathItem) (key : String) (value : Json) : Decoded PathItem := do
  if key = "parameters" then
    return { item with parameters := ← (Data.ofJson value).list ParameterEntry.decode }
  else
    match Method.ofKey? key with
    | some m =>
      return item.insert m (← Operation.decode (Data.ofJson value))
    | none => return item

/-- **A path item** of JSON values under distinct keys. -/
def ofEntries (fields : Entries Json) : Decoded PathItem :=
  fields.foldlM (fun item (key, value) => item.set key value) .empty

/-- A path item of data. -/
def decode (d : Data) : Decoded PathItem := do ofEntries (← d.entries Data.json)

end PathItem

namespace SecurityScheme

/-- The fields of a security scheme as far as they are read. -/
structure Fields where
  type : String := ""
  placement : Option String := none
  name : Option String := none

/-- One field. -/
def Fields.set (name : String) (d : Data) (f : Fields) : Decoded Fields := do
  match name with
  | "type" => return { f with type := ← d.text }
  | "in" => return { f with placement := ← d.optional Data.text }
  | _ => return { f with name := ← d.optional Data.text }

/-- The placement of a tag; a missing tag is an unknown placement without a name. -/
def placementOf : Option String → KeyPlacement
  | none => .unknown ""
  | some tag => if tag = "query" then .query else if tag = "header" then .header else .unknown tag

/-- The scheme that the fields describe. -/
def ofFields (f : Fields) : SecurityScheme :=
  if f.type = "basic" then .basic
  else if f.type = "oauth2" then .oauth2
  else if f.type = "apiKey" then .apiKey (placementOf f.placement) (f.name.getD "")
  else .unknown f.type

/-- The fields of a security scheme in order. -/
def fieldNames : List String := ["type", "in", "name"]

/-- What is read of a security scheme. -/
def outline : Outline := .ofNames fieldNames fun _ => .all

/-- **A security scheme.** -/
def decode (d : Data) : Decoded SecurityScheme :=
  (d.record fieldNames [] [] {} Fields.set).map ofFields

end SecurityScheme

namespace Description

/-- The fields of a description in order. -/
def fieldNames : List String :=
  ["swagger", "info", "host", "basePath", "schemes", "consumes", "produces", "security",
    "securityDefinitions", "definitions", "parameters", "paths"]

/-- One field. -/
def set (name : String) (d : Data) (api : Description) : Decoded Description := do
  match name with
  | "swagger" => return { api with swagger := ← d.optional Data.text }
  | "info" => return { api with info := ← d.optional Info.decode }
  | "host" => return { api with declaredHost := ← d.optional Data.text }
  | "basePath" => return { api with basePath := ← d.optional Data.text }
  | "schemes" => return { api with schemes := ← d.list Data.text }
  | "consumes" => return { api with consumes := ← d.list Data.text }
  | "produces" => return { api with produces := ← d.list Data.text }
  | "security" => return { api with security := ← d.list SecurityRequirement.decode }
  | "securityDefinitions" =>
    return { api with securityDefinitions := ← d.entries SecurityScheme.decode }
  | "definitions" => return { api with definitions := ← d.entries Data.json }
  | "parameters" => return { api with parameters := ← d.entries Parameter.decode }
  | _ => return { api with paths := ← d.entries PathItem.decode }

/-- **What is read** of a description. -/
def outline : Outline :=
  .ofNames fieldNames fun name =>
    match name with
    | "info" => Info.outline
    | "securityDefinitions" => .entries SecurityScheme.outline
    | _ => .all

/-- **A description.** -/
def decode (d : Data) : Decoded Description := d.record fieldNames [] [] {} set

end Description

end ApiScaffold
