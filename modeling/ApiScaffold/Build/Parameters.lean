import ApiScaffold.Description.Lookup
import ApiScaffold.Suite.Basic

/-!
# Layers of parameters

An operation has its own parameters and those of its path, and its own ones replace those of the path
with the same name. `ParameterBuckets.merge` sorts them by location: first what is left of the path's,
then the operation's, each in order. Only an operation may declare a body.
-/

namespace ApiScaffold.ParameterBuckets

/-- The buckets with one more parameter at the end of the bucket of its location. -/
def place (b : ParameterBuckets) (p : Parameter) : Built ParameterBuckets :=
  match p.location with
  | .path => .ok { b with path := b.path ++ [p] }
  | .query => .ok { b with query := b.query ++ [p] }
  | .header => .ok { b with header := b.header ++ [p] }
  | .formData => .ok { b with formData := b.formData ++ [p] }
  | .body => .ok { b with body := b.body ++ [p] }
  | .unknown tag => .error (.configuration (.unknownLocation p.name tag))

/-- Whether one of the operation's parameters replaces a name. -/
def redeclares (own : List Parameter) (name : String) : Bool := own.any fun p => p.name = name

/-- Places the parameters of the path that are not replaced. -/
def placeShared (api : Description) (own : List Parameter) :
    List ParameterEntry → ParameterBuckets → Built ParameterBuckets
  | [], b => .ok b
  | entry :: rest, b => do
    let p ← api.resolveParameter entry
    if redeclares own p.name then placeShared api own rest b
    else if p.location = .body then .error (.configuration (.sharedBodyParameter p.name))
    else placeShared api own rest (← b.place p)

/-- **Merged parameters** of a path and one of its operations. -/
def merge (api : Description) (item : PathItem) (operation : Operation) :
    Built ParameterBuckets := do
  let own ← operation.parameters.mapM api.resolveParameter
  let b ← placeShared api own item.parameters {}
  own.foldlM place b

end ApiScaffold.ParameterBuckets
