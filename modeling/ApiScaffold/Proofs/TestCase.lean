import ApiScaffold.Build.TestCase
import ApiScaffold.Proofs.Built
import ApiScaffold.Proofs.Credentials
import ApiScaffold.Proofs.Resolution

/-!
# What a built test case holds

`TestCase.build` is a chain of lookups and checks with one assembly at its end.
`TestCase.build_eq_ok` says when the chain succeeds and with which case; everything else about a
built case follows from it.

- A built case carries the types, the step and the load test that were asked for.
- Each named expression of a built case (`TestCase.expressions`) is what its name resolves to.
- Without security requirements there are no credentials.
-/

namespace ApiScaffold

/-! ### Building in a context -/

namespace RunContext

variable {api : Description} {config : RunConfig} {request : CaseRequest}

theorem build_fst (context : RunContext) :
    (context.build api config request).1 =
      TestCase.build api config context.security request := by
  rw [RunContext.build]
  cases TestCase.build api config context.security request <;> rfl

/-- A case that is built leaves a note of its load test in the context. -/
theorem build_eq_of_ok (context : RunContext) {t : TestCase}
    (h : TestCase.build api config context.security request = .ok t) :
    context.build api config request = (.ok t, context.noteLoadTest t) := by
  rw [RunContext.build, h]

/-- A fault leaves the context as it was. -/
theorem build_eq_of_error (context : RunContext) {fault : Fault}
    (h : TestCase.build api config context.security request = .error fault) :
    context.build api config request = (.error fault, context) := by
  rw [RunContext.build, h]

end RunContext

namespace TestCase

variable {api : Description} {config : RunConfig} {security : List SecurityRequirement}
  {request : CaseRequest} {t : TestCase}

/-! ### The chain of checks -/

/-- **Success of a case**: each lookup and each check succeeds, and the case is assembled from what
they gave. -/
theorem build_eq_ok :
    build api config security request = .ok t ↔
      ∃ item operation answer parameters credentials bodyValues,
        api.pathItem request.path = .ok item ∧
        api.operation request.path request.method = .ok operation ∧
        response operation request = .ok answer ∧
        ParameterBuckets.merge api item operation = .ok parameters ∧
        Credentials.ofRequirements api security = .ok credentials ∧
        bodyValuesOf api
          ((config.bodyValues (Resolution.requestKey api.basePathPrefix request.path)).getD [])
          request.deps parameters.body = .ok bodyValues ∧
        assemble api config request answer parameters credentials bodyValues = t := by
  simp only [build, Built.bind_eq_ok, Built.pure_eq_ok]
  constructor
  · rintro ⟨item, h1, operation, h2, answer, h3, parameters, h4, credentials, h5, values, h6, h7⟩
    exact ⟨item, operation, answer, parameters, credentials, values, h1, h2, h3, h4, h5, h6, h7⟩
  · rintro ⟨item, operation, answer, parameters, credentials, values, h1, h2, h3, h4, h5, h6, h7⟩
    exact ⟨item, h1, operation, h2, answer, h3, parameters, h4, credentials, h5, values, h6, h7⟩

/-- A built case is assembled from its request, whatever the checks gave. -/
theorem assembled_of_build (h : build api config security request = .ok t) :
    ∃ answer parameters credentials bodyValues,
      assemble api config request answer parameters credentials bodyValues = t := by
  obtain ⟨_, _, answer, parameters, credentials, bodyValues, -, -, -, -, -, -, ht⟩ :=
    build_eq_ok.mp h
  exact ⟨answer, parameters, credentials, bodyValues, ht⟩

theorem returnType_of_build (h : build api config security request = .ok t) :
    t.returnType = request.returnType := by
  obtain ⟨_, _, _, _, rfl⟩ := assembled_of_build h
  rfl

theorem step_of_build (h : build api config security request = .ok t) :
    t.step = request.step.map fun step => ⟨step.step, step.deps⟩ := by
  obtain ⟨_, _, _, _, rfl⟩ := assembled_of_build h
  rfl

/-- A declared response is the one that a request asks for. -/
theorem response_eq_ok {operation : Operation} {answer : Response} :
    response operation request = .ok answer ↔
      operation.responses.get? request.responseCode = some answer := by
  rw [response]
  cases operation.responses.get? request.responseCode with
  | none => simp
  | some declared => simp

/-- The schema of a case is that of the declared response. -/
theorem schema_of_build (h : build api config security request = .ok t) :
    ∃ operation answer, api.operation request.path request.method = .ok operation ∧
      operation.responses.get? request.responseCode = some answer ∧
      t.schema = answer.schema := by
  obtain ⟨_, operation, answer, _, _, _, -, hoperation, hanswer, -, -, -, ht⟩ := build_eq_ok.mp h
  refine ⟨operation, answer, hoperation, response_eq_ok.mp hanswer, ?_⟩
  rw [← ht, assemble]

/-- The credentials of a case are those of the first requirement, whose schemes are all declared. -/
theorem credentials_of_build (h : build api config security request = .ok t) :
    (∀ name ∈ Credentials.namesOf security, Credentials.IsDeclared api name) ∧
      Credentials.ofNames api (Credentials.namesOf security) = t.credentials := by
  obtain ⟨_, _, _, _, credentials, _, -, -, -, -, hc, -, rfl⟩ := build_eq_ok.mp h
  exact Credentials.ofRequirements_eq_ok.mp hc

/-- Without security requirements nothing is put into a place. -/
theorem credentials_of_build_nil (h : build api config [] request = .ok t) :
    t.credentials = {} :=
  (credentials_of_build h).2.symm

theorem placedFrom_of_build (h : build api config security request = .ok t) :
    t.credentials.PlacedFrom api (Credentials.namesOf security) := by
  rw [← (credentials_of_build h).2]
  exact Credentials.placedFrom_ofNames _

/-! ### Named expressions -/

/-- The values of a body are what the names of its fields resolve to. -/
theorem named_bodyValues {pool : ValuePool} {deps : Dependencies} {ps : List Parameter}
    {values : List ResolvedValue} {v : ResolvedValue}
    (h : bodyValuesOf api pool deps ps = .ok values) (hv : v ∈ values) :
    v.expression = Resolution.resolve v.name pool deps := by
  obtain ⟨names, -, h⟩ := Built.bind_eq_ok.mp h
  obtain rfl := Built.pure_eq_ok.mp h
  obtain ⟨name, -, rfl⟩ := List.mem_map.mp hv
  rfl

/-- **Named expressions** of a case: those of its path, of its query and of its body. -/
def expressions (t : TestCase) : List (String × Expression) :=
  t.requestPath.segments.filterMap (·.named?) ++
    (t.queryValues ++ t.bodyValues).map fun v => (v.name, v.expression)

/-- **Every expression of a built case is resolved**: it is what its name resolves to, with the
dependencies of the request and a pool of the run configuration. -/
theorem expression_of_build (h : build api config security request = .ok t) {name : String}
    {e : Expression} (he : (name, e) ∈ t.expressions) :
    ∃ pool, e = Resolution.resolve name pool request.deps := by
  obtain ⟨_, _, _, parameters, _, values, -, -, -, -, -, hbody, rfl⟩ := build_eq_ok.mp h
  rcases List.mem_append.mp he with he | he
  · exact ⟨_, Resolution.path_named he⟩
  · obtain ⟨v, hv, heq⟩ := List.mem_map.mp he
    obtain ⟨rfl, rfl⟩ := Prod.mk.inj heq
    rcases List.mem_append.mp hv with hv | hv
    · obtain ⟨p, -, rfl⟩ := List.mem_map.mp hv
      exact ⟨_, rfl⟩
    · exact ⟨_, named_bodyValues hbody hv⟩

end TestCase

/-! ### A small description -/

/-- **Pets**: one path to add a pet and one to read it back, both behind a key. The theorems on
whole builds are tried out on it. -/
def Description.pets : Description where
  security := [[("key", [])]]
  securityDefinitions := [("key", .apiKey .header "X-Key")]
  paths :=
    [("/pets",
        { operations := [(.post, { responses := [("200", { schema := some (.obj []) })] })] }),
      ("/pets/\x7bid\x7d", { operations := [(.get, { responses := [("200", {})] })] })]

end ApiScaffold
