import ApiScaffold.Expression
import ApiScaffold.Path.Braces
import ApiScaffold.Path.Template

/-!
# Resolution of names

A name is resolved in three tiers, and the first that answers wins: a value of the run configuration
that is not `null`, then the first earlier step that lists the name among the fields drawn from it,
and otherwise nothing.
-/

namespace ApiScaffold

/-- Named values of the run configuration. -/
abbrev ValuePool := Entries Json

/-- For each earlier step the names of the fields drawn from it. -/
abbrev Dependencies := Entries (List String)

namespace Resolution

/-- The value that a pool sets for a name. -/
def explicit? (pool : ValuePool) (name : String) : Option Json :=
  (pool.get? name).filter fun v => !v.isNull

/-- The first step that a name is drawn from. -/
def source? (deps : Dependencies) (name : String) : Option String :=
  (deps.find? fun (_, fields) => fields.contains name).map (·.1)

/-- **Resolved name.** -/
def resolve (name : String) (pool : ValuePool) (deps : Dependencies) : Expression :=
  match explicit? pool name with
  | some v => .literal v
  | none =>
    match source? deps name with
    | some step => .dependency step name
    | none => .missing

/-- A resolved value with its name. -/
def value (name : String) (pool : ValuePool) (deps : Dependencies) : ResolvedValue :=
  ⟨name, resolve name pool deps⟩

/-- The segment of a token. -/
def segment (pool : ValuePool) (deps : Dependencies) : PathToken → PathSegment
  | .text cs => .text (String.ofList cs)
  | .placeholder name =>
    .placeholder (String.ofList name) (resolve (String.ofList name) pool deps)

/-- **Resolved path**: encoded braces are decoded first. -/
def path (template : String) (pool : ValuePool) (deps : Dependencies) : ResolvedPath :=
  ⟨(PathToken.scan (Braces.decode template.toList)).map (segment pool deps)⟩

/-- **Key of a request** in the query and body values of a run configuration: base path and path,
without the origin, with braces decoded. It is the same for both dialects. -/
def requestKey (basePath path : String) : String :=
  String.ofList (Braces.decode (basePath ++ path).toList)

/-- **Fields of a schema**: the names of its properties. -/
def objectFields (schema : Json) : List String :=
  match (schema.field? "properties").bind Json.fields? with
  | some properties => Entries.names properties
  | none => []

end Resolution

end ApiScaffold
