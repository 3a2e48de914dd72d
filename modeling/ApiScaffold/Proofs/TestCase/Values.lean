import ApiScaffold.Proofs.Expression
import ApiScaffold.Proofs.Path.Tokens
import ApiScaffold.Proofs.TestCase

/-!
# Values of a test case

A case sends values in three places: in its path, in the query and in the body. Each place has names and
a pool of the run configuration, and every name is resolved in the same three tiers. Here is what the
names are: placeholders of the decoded URL, parameters of the query, and for each parameter of the body
the properties of its schema (`TestCase.NamesOfBody`). Nothing is left out and nothing is reordered.
-/

namespace ApiScaffold.TestCase

variable {api : Description} {config : RunConfig} {request : CaseRequest} {t : TestCase}

/-! ### Names of a body -/

/-- **Names that a body parameter stands for**: the properties of its schema, once references are
followed; its own name if there is no schema, or the schema has no properties. -/
inductive NamesOfBody (api : Description) (p : Parameter) : List String → Prop
  | properties {schema resolved : Json} {fields : Entries Json} (hschema : p.schema = some schema)
    (hresolved : api.resolveSchema schema = .ok resolved)
    (hfields : resolved.field? "properties" = some (.obj fields)) (hne : fields ≠ []) :
    NamesOfBody api p fields.names
  | withoutSchema (hschema : p.schema = none) : NamesOfBody api p [p.name]
  | withoutProperties {schema resolved : Json} (hschema : p.schema = some schema)
    (hresolved : api.resolveSchema schema = .ok resolved)
    (hnone : ∀ fields, resolved.field? "properties" = some (.obj fields) → fields = []) :
    NamesOfBody api p [p.name]

/-- The fields of a schema are the names of its properties, if these are an object. -/
theorem objectFields_eq_nil_iff {schema : Json} : Resolution.objectFields schema = [] ↔
    ∀ fields, schema.field? "properties" = some (.obj fields) → fields = [] := by
  rw [Resolution.objectFields]
  cases h : schema.field? "properties" with
  | none => simp
  | some v => cases v <;> simp [Json.fields?, Entries.names]

theorem objectFields_of_properties {schema : Json} {fields : Entries Json}
    (h : schema.field? "properties" = some (.obj fields)) :
    Resolution.objectFields schema = fields.names := by
  rw [Resolution.objectFields, h]
  rfl

theorem namesOfBody_of_bodyNames {p : Parameter} {names : List String}
    (h : bodyNames api p = .ok names) : NamesOfBody api p names := by
  rw [bodyNames] at h
  cases hschema : p.schema with
  | none =>
    rw [hschema] at h
    obtain rfl := Except.ok.inj h
    exact .withoutSchema hschema
  | some schema =>
    rw [hschema] at h
    obtain ⟨resolved, hresolved, h⟩ := Built.bind_eq_ok.mp h
    obtain rfl := Built.pure_eq_ok.mp h
    by_cases hnone : Resolution.objectFields resolved = []
    · rw [hnone]
      exact .withoutProperties hschema hresolved (objectFields_eq_nil_iff.mp hnone)
    · obtain ⟨fields, hfields, hne⟩ : ∃ fields,
          resolved.field? "properties" = some (.obj fields) ∧ fields ≠ [] := by
        simpa using mt objectFields_eq_nil_iff.mpr hnone
      rw [if_neg (by simpa using hnone), objectFields_of_properties hfields]
      exact .properties hschema hresolved hfields hne

/-! ### Values in their places -/

/-- **A value of a name**: it has that name, and what the name resolves to. -/
structure IsValueOf (pool : ValuePool) (deps : Dependencies) (target : String) (v : ResolvedValue) :
    Prop where
  name : v.name = target
  expression : Resolution.Tier pool deps target v.expression

theorem isValueOf_value (pool : ValuePool) (deps : Dependencies) (name : String) :
    IsValueOf pool deps name (Resolution.value name pool deps) :=
  ⟨rfl, Resolution.tier_resolve ..⟩

/-- The values of a body, one for each name of each parameter. -/
theorem forall₂_bodyValuesOf {pool : ValuePool} {deps : Dependencies} {ps : List Parameter}
    {values : List ResolvedValue} (h : bodyValuesOf api pool deps ps = .ok values) :
    ∃ names, List.Forall₂ (NamesOfBody api) ps names ∧
      List.Forall₂ (IsValueOf pool deps) names.flatten values := by
  obtain ⟨names, hnames, h⟩ := Built.bind_eq_ok.mp h
  obtain rfl := Built.pure_eq_ok.mp h
  refine ⟨names, (Built.mapM_eq_ok.mp hnames).imp fun _ _ => namesOfBody_of_bodyNames, ?_⟩
  rw [List.forall₂_map_right_iff, List.forall₂_same]
  exact fun name _ => isValueOf_value pool deps name

/-- **Every value follows the tiers.** In a case that is built, the segments of the path are the tokens
of the decoded URL, with each placeholder resolved from the path parameters; there is a value for each
parameter of the query, and for each name that a parameter of the body stands for, in this order, resolved
from what the run configuration has under the key of the request. Every code is that of its expression and
is not empty, and no text of the path has a placeholder left in it. -/
theorem values_of_build {context : RunContext} (h : (context.build api config request).1 = .ok t) :
    t.requestKey = Resolution.requestKey api.basePathPrefix request.path ∧
    (∃ item operation, api.pathItem request.path = .ok item ∧
      api.operation request.path request.method = .ok operation ∧
      ParameterBuckets.merge api item operation = .ok t.parameters) ∧
    List.Forall₂ (Resolution.SegmentOf config.pathParams request.deps)
      (PathToken.scan (Braces.decode (requestUrl api config request.path).toList))
      t.requestPath.segments ∧
    List.Forall₂ (fun p v =>
        IsValueOf ((config.queryVals.get? t.requestKey).getD []) request.deps p.name v)
      t.parameters.query t.queryValues ∧
    (∃ names, List.Forall₂ (NamesOfBody api) t.parameters.body names ∧
      List.Forall₂ (IsValueOf ((config.bodyVals.get? t.requestKey).getD []) request.deps)
        names.flatten t.bodyValues) ∧
    (∀ v ∈ t.queryValues ++ t.bodyValues, v.code = v.expression.code ∧ v.code ≠ "") ∧
    t.requestPath.code ≠ "" ∧
    ∀ text, .text text ∈ t.requestPath.segments → PathToken.IsPlain text.toList := by
  rw [RunContext.build_fst] at h
  obtain ⟨item, operation, answer, parameters, credentials, values, hitem, hoperation, -, hmerge, -,
    hbody, rfl⟩ := build_eq_ok.mp h
  refine ⟨rfl, ⟨item, operation, hitem, hoperation, hmerge⟩, Resolution.forall₂_path .., ?_,
    forall₂_bodyValuesOf hbody, fun v _ => ⟨rfl, v.expression.code_ne_empty⟩,
    ResolvedPath.code_ne_empty _, fun text htext => ?_⟩
  · refine List.forall₂_map_right_iff.mpr (List.forall₂_same.mpr fun p _ => ?_)
    exact isValueOf_value _ _ p.name
  · obtain ⟨token, htoken, hsegment⟩ := List.mem_map.mp htext
    cases token with
    | text cs =>
      obtain rfl := PathSegment.text.inj hsegment
      rw [String.toList_ofList]
      exact PathToken.isPlain_of_mem_scan htoken
    | placeholder name => cases hsegment

/-- A pet is renamed: its identifier is drawn from the step that made it, and of the properties of its
schema the name is set. -/
theorem values_of_build_rename :
    let path := "/pets/\x7bid\x7d"
    let pet : Json := .obj [("properties", .obj [("name", .obj []), ("owner", .obj [])])]
    let schema : Json := .obj [("$ref", .str "#/definitions/Pet")]
    let operation : Operation :=
      { parameters := [.inline { name := "pet", location := .body, schema := some schema }]
        responses := [("200", {})] }
    let api : Description :=
      { definitions := [("Pet", pet)], paths := [(path, { operations := [(.put, operation)] })] }
    let config : RunConfig := { bodyVals := [(path, [("name", .str "Rex")])] }
    let deps : Dependencies := [("create", ["id", "owner"])]
    let request : CaseRequest :=
      ⟨path, .put, "200", jsonType, jsonType, some ⟨"rename", path, .put, deps⟩⟩
    ∃ t, (({} : RunContext).build api config request).1 = .ok t ∧
      List.Forall₂ (Resolution.SegmentOf [] deps)
        [.text "/pets/".toList, .placeholder "id".toList] t.requestPath.segments ∧
      ∃ names, List.Forall₂ (NamesOfBody api) t.parameters.body names ∧
        List.Forall₂ (IsValueOf [("name", .str "Rex")] deps) names.flatten t.bodyValues := by
  intro path pet schema operation api config deps request
  have h : ∃ t, (({} : RunContext).build api config request).1 = .ok t := ⟨_, rfl⟩
  obtain ⟨t, h⟩ := h
  obtain ⟨hkey, -, hpath, -, hbody, -⟩ := values_of_build h
  have htokens : PathToken.scan (Braces.decode (requestUrl api config request.path).toList) =
      [.text "/pets/".toList, .placeholder "id".toList] := by decide +kernel
  have hrequestKey : Resolution.requestKey api.basePathPrefix request.path = path := by decide +kernel
  have hpool : (config.bodyVals.get? t.requestKey).getD [] = [("name", .str "Rex")] := by
    rw [hkey, hrequestKey]
    rfl
  rw [htokens] at hpath
  rw [hpool] at hbody
  exact ⟨t, h, hpath, hbody⟩

end ApiScaffold.TestCase
