import ApiScaffold.Description.Basic

/-!
# Writing parameters

`Parameter.toJson` gives the JSON value of a parameter: the fields with a meaning of their own first,
without those that are absent, and then the other keys in order.
-/

namespace ApiScaffold

/-- **JSON value** of a parameter. -/
def Parameter.toJson (p : Parameter) : Json :=
  .obj
    ([("name", .str p.name), ("in", .str p.location.tag), ("required", .bool p.required)] ++
      Json.fieldIfAny "type" .str p.type ++
      Json.fieldIfAny "description" .str p.description ++
      Json.fieldIfAny "schema" id p.schema ++
      p.extra)

end ApiScaffold
