import ApiScaffold.Method
import ApiScaffold.Text.Words

/-!
# API descriptions

The parts of a Swagger 2.0 description that tests are built from, in the order of the document. Tags
that are not recognised (of a parameter's location, a security scheme's type or a key's placement) are
kept, so that whoever meets them can name them.
-/

namespace ApiScaffold

/-- A security requirement: scheme names with their scopes. -/
abbrev SecurityRequirement := Entries (List String)

/-- Title and version of an API. -/
structure Info where
  title : Option String := none
  version : Option String := none
  deriving DecidableEq, Repr, Inhabited

/-- **Where a parameter travels.** -/
inductive ParameterLocation where
  | path
  | query
  | header
  | formData
  | body
  | unknown (tag : String)
  deriving DecidableEq, Repr, Inhabited

namespace ParameterLocation

/-- The location of a tag. -/
def ofTag (tag : String) : ParameterLocation :=
  if tag = "path" then .path
  else if tag = "query" then .query
  else if tag = "header" then .header
  else if tag = "formData" then .formData
  else if tag = "body" then .body
  else .unknown tag

/-- The tag of a location. -/
def tag : ParameterLocation → String
  | .path => "path"
  | .query => "query"
  | .header => "header"
  | .formData => "formData"
  | .body => "body"
  | .unknown tag => tag

end ParameterLocation

/-- **A declared parameter.** Keys other than the named ones are kept in `extra`. -/
structure Parameter where
  name : String
  location : ParameterLocation
  required : Bool := false
  type : Option String := none
  description : Option String := none
  schema : Option Json := none
  extra : Entries Json := []
  deriving BEq, Repr, Inhabited

/-- A parameter of an operation or path: declared in place, or a reference to a shared one. -/
inductive ParameterEntry where
  | reference (target : String)
  | inline (parameter : Parameter)
  deriving BEq, Repr, Inhabited

/-- A declared response. -/
structure Response where
  description : String := ""
  schema : Option Json := none
  deriving BEq, Repr, Inhabited

/-- **An operation** of a path. -/
structure Operation where
  operationId : Option String := none
  summary : Option String := none
  description : Option String := none
  parameters : List ParameterEntry := []
  responses : Entries Response := []
  consumes : List String := []
  produces : List String := []
  security : List SecurityRequirement := []
  deprecated : Bool := false
  deriving BEq, Repr, Inhabited

/-- **A path** with its shared parameters and its operations. Each method has at most one of them. -/
structure PathItem where
  parameters : List ParameterEntry := []
  operations : List (Method × Operation) := []
  distinct : (operations.map (·.1)).Nodup := by decide
  deriving Repr

namespace PathItem

/-- The item without parameters and operations. -/
def empty : PathItem := {}

instance : Inhabited PathItem := ⟨empty⟩

instance : BEq PathItem :=
  ⟨fun a b => a.parameters == b.parameters && a.operations == b.operations⟩

/-- The operation of a method. -/
def operation? (item : PathItem) (m : Method) : Option Operation :=
  (item.operations.find? fun (m', _) => m' = m).map (·.2)

/-- **Active operations**: those that are not deprecated. -/
def active (item : PathItem) : List (Method × Operation) :=
  item.operations.filter fun (_, o) => !o.deprecated

/-- Operations with one more: a method that is there keeps its place and takes the new operation. -/
def insertOperation (m : Method) (o : Operation) :
    List (Method × Operation) → List (Method × Operation)
  | [] => [(m, o)]
  | (m', o') :: rest =>
    if m' = m then (m, o) :: rest else (m', o') :: insertOperation m o rest

theorem mem_map_insertOperation {m m' : Method} {o : Operation}
    {operations : List (Method × Operation)}
    (h : m' ∈ (insertOperation m o operations).map (·.1)) :
    m' = m ∨ m' ∈ operations.map (·.1) := by
  induction operations with
  | nil => simpa [insertOperation] using h
  | cons entry rest ih =>
    obtain ⟨k, v⟩ := entry
    by_cases hk : k = m
    · subst hk
      rw [insertOperation, if_pos rfl] at h
      exact .inr h
    · rw [insertOperation, if_neg hk, List.map_cons, List.mem_cons] at h
      rcases h with rfl | h
      · exact .inr (List.mem_cons_self ..)
      · exact (ih h).imp_right (List.mem_cons_of_mem _)

theorem nodup_insertOperation {m : Method} {o : Operation}
    {operations : List (Method × Operation)} (h : (operations.map (·.1)).Nodup) :
    ((insertOperation m o operations).map (·.1)).Nodup := by
  induction operations with
  | nil => simp [insertOperation]
  | cons entry rest ih =>
    obtain ⟨k, v⟩ := entry
    rw [List.map_cons, List.nodup_cons] at h
    by_cases hk : k = m
    · subst hk
      rw [insertOperation, if_pos rfl, List.map_cons, List.nodup_cons]
      exact h
    · rw [insertOperation, if_neg hk, List.map_cons, List.nodup_cons]
      refine ⟨fun hmem => ?_, ih h.2⟩
      rcases mem_map_insertOperation hmem with rfl | hmem
      · exact hk rfl
      · exact h.1 hmem

/-- **Insertion** of the operation of a method. -/
def insert (item : PathItem) (m : Method) (o : Operation) : PathItem where
  parameters := item.parameters
  operations := insertOperation m o item.operations
  distinct := nodup_insertOperation item.distinct

end PathItem

/-- Where a key that authenticates a request travels. -/
inductive KeyPlacement where
  | query
  | header
  | unknown (tag : String)
  deriving DecidableEq, Repr, Inhabited

/-- **A security scheme.** -/
inductive SecurityScheme where
  | basic
  | apiKey (placement : KeyPlacement) (name : String)
  | oauth2
  | unknown (type : String)
  deriving DecidableEq, Repr, Inhabited

/-- **An API description.** -/
structure Description where
  swagger : Option String := none
  info : Option Info := none
  declaredHost : Option String := none
  basePath : Option String := none
  schemes : List String := []
  consumes : List String := []
  produces : List String := []
  security : List SecurityRequirement := []
  securityDefinitions : Entries SecurityScheme := []
  definitions : Entries Json := []
  parameters : Entries Parameter := []
  paths : Entries PathItem := []
  deriving BEq, Repr, Inhabited

namespace Description

/-- The scheme of a description that declares none. -/
def defaultScheme : String := "http"

/-- The host of a description that declares none. -/
def defaultHost : String := "localhost:10010"

/-- The title of the API. -/
def title (api : Description) : Option String := api.info.bind (·.title)

/-- The first declared scheme. -/
def scheme (api : Description) : String := api.schemes.head?.getD defaultScheme

/-- The host. -/
def host (api : Description) : String := api.declaredHost.getD defaultHost

/-- **Origin**: scheme and host. -/
def origin (api : Description) : String := api.scheme ++ "://" ++ api.host

/-- **Prefix of every path**: the base path, unless it is missing or only a slash. -/
def basePathPrefix (api : Description) : String :=
  match api.basePath with
  | none => ""
  | some base => if base = "/" then "" else base

/-- **Names of environment variables**, one for each security scheme. -/
def environmentNames (api : Description) : List String :=
  api.securityDefinitions.names.map Text.screamingSnake

end Description

end ApiScaffold
