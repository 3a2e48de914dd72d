import ApiScaffold.Proofs.Credentials
import ApiScaffold.Proofs.Pairing
import ApiScaffold.Proofs.Parameters
import ApiScaffold.Proofs.Path.Run

/-!
# What a path has to declare properly

A description may hold tags without a meaning. They are met when a case is built: it is built exactly if
the parameters and schemes of its operation are recognised (`Operation.IsRecognized`) and the schemas of
its bodies resolve. So a path is built exactly if this holds of each of its active operations that
declares a response, whatever the run configuration says. An operation without responses has no cases,
and nothing of it is looked at.
-/

namespace ApiScaffold

/-! ### Recognised operations -/

namespace Operation

/-- Whether an operation declares a parameter of a name. -/
def Redeclares (api : Description) (operation : Operation) (name : String) : Prop :=
  ∃ entry ∈ operation.parameters, ∃ p, api.resolveParameter entry = .ok p ∧ p.name = name

/-- **Recognised operations** of a path item: each parameter that counts has a recognised location, and
only one of the operation itself may be a body; each scheme of the first requirement is declared and
recognised. -/
structure IsRecognized (api : Description) (item : PathItem) (operation : Operation) : Prop where
  own : ∀ entry ∈ operation.parameters, ∃ p, api.resolveParameter entry = .ok p ∧
    p.location.IsKnown
  shared : ∀ entry ∈ item.parameters, ∃ p, api.resolveParameter entry = .ok p ∧
    (operation.Redeclares api p.name ∨ p.location.IsKnown ∧ p.location ≠ .body)
  schemes : ∀ name ∈ Credentials.namesOf (RunContext.inherit operation.security api.security),
    Credentials.IsDeclared api name

/-- **Resolved bodies**: the schema of each body parameter leads to one that is no reference. -/
def BodiesResolve (api : Description) (operation : Operation) : Prop :=
  ∀ entry ∈ operation.parameters, ∀ p, api.resolveParameter entry = .ok p → p.location = .body →
    ∀ schema, p.schema = some schema → ∃ resolved, api.resolveSchema schema = .ok resolved

end Operation

/-! ### Parameters -/

namespace ParameterBuckets

variable {api : Description} {item : PathItem} {operation : Operation} {b : ParameterBuckets}

/-- Entries and what they resolve to, from the side of the entries. -/
theorem forall_mem_resolved_iff {entries : List ParameterEntry} {ps : List Parameter}
    (h : List.Forall₂ (fun entry p => api.resolveParameter entry = .ok p) entries ps)
    {P : Parameter → Prop} :
    (∀ p ∈ ps, P p) ↔ ∀ entry ∈ entries, ∃ p, api.resolveParameter entry = .ok p ∧ P p := by
  induction h with
  | nil => simp
  | cons hp _ ih => simp [hp, ih]

theorem redeclares_iff_of_resolved {own : List Parameter}
    (h : List.Forall₂ (fun entry p => api.resolveParameter entry = .ok p) operation.parameters own)
    {name : String} : redeclares own name = true ↔ operation.Redeclares api name := by
  rw [redeclares_iff, Operation.Redeclares]
  refine (Pairing.exists_mem_congr (h.imp fun entry p hp => ?_)).symm
  simp [hp]

/-- **A merge succeeds** exactly if every parameter that counts is recognised. A shared parameter that
the operation declares anew is not looked at, but its reference has to resolve. -/
theorem exists_merge_iff : (∃ b, merge api item operation = .ok b) ↔
    (∀ entry ∈ operation.parameters, ∃ p, api.resolveParameter entry = .ok p ∧
      p.location.IsKnown) ∧
    ∀ entry ∈ item.parameters, ∃ p, api.resolveParameter entry = .ok p ∧
      (operation.Redeclares api p.name ∨ p.location.IsKnown ∧ p.location ≠ .body) := by
  have hinherited {own shared : List Parameter}
      (hown : List.Forall₂ (fun entry p => api.resolveParameter entry = .ok p)
        operation.parameters own) :
      (∀ p ∈ inherited own shared, p.location.IsKnown ∧ p.location ≠ .body) ↔
        ∀ p ∈ shared, operation.Redeclares api p.name ∨
          p.location.IsKnown ∧ p.location ≠ .body := by
    simp only [inherited, List.mem_filter, Bool.not_eq_true', ← Bool.not_eq_true,
      redeclares_iff_of_resolved hown, and_imp, or_iff_not_imp_left]
  constructor
  · rintro ⟨b, h⟩
    obtain ⟨own, shared, hown, hshared, hhanded, hknown, -⟩ := merge_eq_ok.mp h
    exact ⟨(forall_mem_resolved_iff hown).mp hknown,
      (forall_mem_resolved_iff hshared).mp ((hinherited hown).mp hhanded)⟩
  · rintro ⟨hown, hshared⟩
    obtain ⟨own, hown'⟩ := Pairing.exists_forall₂_iff.mpr
      fun entry hentry => (hown entry hentry).imp fun _ h => h.1
    obtain ⟨shared, hshared'⟩ := Pairing.exists_forall₂_iff.mpr
      fun entry hentry => (hshared entry hentry).imp fun _ h => h.1
    exact ⟨_, merge_eq_ok.mpr ⟨own, shared, hown', hshared',
      (hinherited hown').mpr ((forall_mem_resolved_iff hshared').mpr hshared),
      (forall_mem_resolved_iff hown').mpr hown, rfl⟩⟩

/-- Only the operation itself puts parameters into the body. -/
theorem mem_body_of_merge (h : merge api item operation = .ok b) {p : Parameter} :
    p ∈ b.body ↔ p.location = .body ∧
      ∃ entry ∈ operation.parameters, api.resolveParameter entry = .ok p := by
  obtain ⟨own, shared, hown, -, hhanded, -, rfl⟩ := merge_eq_ok.mp h
  have hmem : (∃ entry ∈ operation.parameters, api.resolveParameter entry = .ok p) ↔
      ∃ q ∈ own, q = p := by
    refine Pairing.exists_mem_congr (hown.imp fun entry q hq => ?_)
    simp [hq]
  rw [hmem, exists_eq_right]
  simp only [ofList, List.mem_filter, List.mem_append, decide_eq_true_eq]
  constructor
  · rintro ⟨hp | hp, hbody⟩
    · exact absurd hbody (hhanded p hp).2
    · exact ⟨hbody, hp⟩
  · rintro ⟨hbody, hp⟩
    exact ⟨.inr hp, hbody⟩

end ParameterBuckets

/-- An operation is recognised exactly if its parameters merge and its schemes are declared. -/
theorem Operation.isRecognized_iff {api : Description} {item : PathItem} {operation : Operation} :
    operation.IsRecognized api item ↔ (∃ b, ParameterBuckets.merge api item operation = .ok b) ∧
      ∀ name ∈ Credentials.namesOf (RunContext.inherit operation.security api.security),
        Credentials.IsDeclared api name := by
  rw [ParameterBuckets.exists_merge_iff]
  constructor
  · rintro ⟨hown, hshared, hschemes⟩
    exact ⟨⟨hown, hshared⟩, hschemes⟩
  · rintro ⟨⟨hown, hshared⟩, hschemes⟩
    exact ⟨hown, hshared, hschemes⟩

/-! ### One case -/

namespace TestCase

variable {api : Description} {config : RunConfig}

theorem exists_bodyNames_iff {p : Parameter} : (∃ names, bodyNames api p = .ok names) ↔
    ∀ schema, p.schema = some schema → ∃ resolved, api.resolveSchema schema = .ok resolved := by
  rw [bodyNames]
  cases p.schema with
  | none => simp
  | some schema =>
    simp only [Built.bind_eq_ok, Built.pure_eq_ok, Option.some.injEq, forall_eq']
    constructor
    · rintro ⟨names, resolved, h, -⟩
      exact ⟨resolved, h⟩
    · rintro ⟨resolved, h⟩
      exact ⟨_, resolved, h, rfl⟩

/-- The values of a body are there exactly if each schema resolves. -/
theorem exists_bodyValuesOf_iff {pool : ValuePool} {deps : Dependencies} {ps : List Parameter} :
    (∃ values, bodyValuesOf api pool deps ps = .ok values) ↔
      ∀ p ∈ ps, ∀ schema, p.schema = some schema →
        ∃ resolved, api.resolveSchema schema = .ok resolved := by
  have hnames : (∃ values, bodyValuesOf api pool deps ps = .ok values) ↔
      ∃ names, List.Forall₂ (fun p ns => bodyNames api p = .ok ns) ps names := by
    simp only [bodyValuesOf, Built.bind_eq_ok, Built.pure_eq_ok, Built.mapM_eq_ok]
    constructor
    · rintro ⟨_, names, h, -⟩
      exact ⟨names, h⟩
    · rintro ⟨names, h⟩
      exact ⟨_, names, h, rfl⟩
  rw [hnames, Pairing.exists_forall₂_iff]
  simp only [exists_bodyNames_iff]

/-- **A declared response has a case** exactly if the parameters of its operation merge, the schemes of
the first requirement are declared and recognised, and its bodies resolve. -/
theorem exists_build_iff {security : List SecurityRequirement} {request : CaseRequest}
    {item : PathItem} {operation : Operation} {answer : Response}
    (hitem : api.pathItem request.path = .ok item)
    (hoperation : api.operation request.path request.method = .ok operation)
    (hanswer : response operation request = .ok answer) :
    (∃ t, build api config security request = .ok t) ↔
      (∃ b, ParameterBuckets.merge api item operation = .ok b) ∧
        (∀ name ∈ Credentials.namesOf security, Credentials.IsDeclared api name) ∧
        operation.BodiesResolve api := by
  constructor
  · rintro ⟨t, h⟩
    obtain ⟨i, o, a, b, c, values, hi, ho, -, hb, hc, hv, -⟩ := build_eq_ok.mp h
    obtain rfl := Except.ok.inj (hi.symm.trans hitem)
    obtain rfl := Except.ok.inj (ho.symm.trans hoperation)
    refine ⟨⟨b, hb⟩, (Credentials.ofRequirements_eq_ok.mp hc).1, fun entry hentry p hp hbody => ?_⟩
    exact exists_bodyValuesOf_iff.mp ⟨values, hv⟩ p
      ((ParameterBuckets.mem_body_of_merge hb).mpr ⟨hbody, entry, hentry, hp⟩)
  · rintro ⟨⟨b, hb⟩, hschemes, hbodies⟩
    have hc := Credentials.ofRequirements_eq_ok.mpr ⟨hschemes, rfl⟩
    have hresolve : ∀ p ∈ b.body, ∀ schema, p.schema = some schema →
        ∃ resolved, api.resolveSchema schema = .ok resolved := by
      intro p hp
      obtain ⟨hbody, entry, hentry, hentryp⟩ := (ParameterBuckets.mem_body_of_merge hb).mp hp
      exact hbodies entry hentry p hentryp hbody
    obtain ⟨values, hv⟩ := exists_bodyValuesOf_iff.mpr hresolve
    exact ⟨_, build_eq_ok.mpr
      ⟨item, operation, answer, b, _, values, hitem, hoperation, hanswer, hb, hc, hv, rfl⟩⟩

end TestCase

/-! ### One operation -/

namespace OperationBlock

variable {api : Description} {config : RunConfig} {path : String} {method : Method}

/-- Each request of an operation asks for a response that the operation declares. -/
theorem exists_response_of_mem_requestsOf {operation : Operation} {request : CaseRequest}
    (h : request ∈ requestsOf api path method operation) :
    ∃ answer, TestCase.response operation request = .ok answer := by
  simp only [requestsOf, requests, List.mem_flatMap, List.mem_map] at h
  obtain ⟨code, hcode, contentType, -, returnType, -, rfl⟩ := h
  obtain ⟨answer, hanswer⟩ := Entries.exists_get?_eq_some_iff.mpr hcode
  exact ⟨answer, TestCase.response_eq_ok.mpr hanswer⟩

/-- **An operation has a block** exactly if it declares no response, or it is recognised and its bodies
resolve. -/
theorem exists_isBlockOf_iff {item : PathItem} {operation : Operation}
    (hitem : api.pathItem path = .ok item) (hoperation : api.operation path method = .ok operation) :
    (∃ block, IsBlockOf api config path method block) ↔
      (operation.responses ≠ [] → operation.IsRecognized api item ∧
        operation.BodiesResolve api) := by
  have hblock : (∃ block, IsBlockOf api config path method block) ↔
      ∀ request ∈ requestsOf api path method operation, ∃ t,
        TestCase.build api config (RunContext.inherit operation.security api.security) request =
          .ok t := by
    rw [← Pairing.exists_forall₂_iff]
    constructor
    · rintro ⟨block, -, o, ho, hcases⟩
      obtain rfl := Except.ok.inj (ho.symm.trans hoperation)
      exact ⟨block.tests, hcases⟩
    · rintro ⟨tests, hcases⟩
      exact ⟨⟨method, tests⟩, rfl, operation, hoperation, hcases⟩
  have hcase {request : CaseRequest} (h : request ∈ requestsOf api path method operation) :
      (∃ t, TestCase.build api config (RunContext.inherit operation.security api.security)
          request = .ok t) ↔
        operation.IsRecognized api item ∧ operation.BodiesResolve api := by
    obtain ⟨answer, hanswer⟩ := exists_response_of_mem_requestsOf h
    obtain ⟨rfl, rfl⟩ := mem_requests h
    rw [TestCase.exists_build_iff hitem hoperation hanswer, Operation.isRecognized_iff, and_assoc]
  rw [hblock, ← requestsOf_ne_nil]
  constructor
  · intro hall hne
    obtain ⟨request, hrequest⟩ := List.exists_mem_of_ne_nil _ hne
    exact (hcase hrequest).mp (hall request hrequest)
  · intro h request hrequest
    exact (hcase hrequest).mpr (h (List.ne_nil_of_mem hrequest))

end OperationBlock

/-! ### The whole path -/

namespace PathBlock

variable {api : Description} {config : RunConfig} {path : String}

/-- **A path is built** exactly if it is declared and each of its active operations has a block. -/
theorem exists_build_iff : (∃ built, build api config path = .ok built) ↔
    ∃ item, api.pathItem path = .ok item ∧
      ∀ entry ∈ item.active, ∃ block, OperationBlock.IsBlockOf api config path entry.1 block := by
  have hrun (methods : List Method) :
      (∃ blocks, (buildOperations api config path methods {}).1 = .ok blocks) ↔
        ∀ method ∈ methods, ∃ block, OperationBlock.IsBlockOf api config path method block := by
    rw [← Pairing.exists_forall₂_iff]
    constructor
    · rintro ⟨blocks, h⟩
      exact ⟨blocks, (buildOperations_eq_ok.mp ⟨_, Prod.ext h rfl, rfl⟩).1⟩
    · rintro ⟨blocks, h⟩
      have hbuilt : ∃ context, buildOperations api config path methods {} = (.ok blocks, context) ∧
          context.imports = .join (blocks.map (OperationBlock.importsOf api path)) :=
        buildOperations_eq_ok.mpr ⟨h, Imports.empty_or _⟩
      obtain ⟨context, hbuilt, -⟩ := hbuilt
      exact ⟨blocks, by rw [hbuilt]⟩
  simp only [build, Built.bind_eq_ok, Built.pure_eq_ok]
  constructor
  · rintro ⟨built, item, hitem, operations, h, -⟩
    refine ⟨item, hitem, fun entry hentry => ?_⟩
    exact (hrun _).mp ⟨operations, h⟩ entry.1 (List.mem_map_of_mem hentry)
  · rintro ⟨item, hitem, h⟩
    have hmethods : ∀ method ∈ item.active.map (·.1), ∃ block,
        OperationBlock.IsBlockOf api config path method block := by
      intro method hmethod
      obtain ⟨entry, hentry, rfl⟩ := List.mem_map.mp hmethod
      exact h entry hentry
    obtain ⟨operations, hoperations⟩ := (hrun _).mpr hmethods
    exact ⟨_, item, hitem, operations, hoperations, rfl⟩

/-- **What is not recognised is not passed over**, where there is a case that meets it. A path is built
exactly if it is declared and each of its active operations that declares a response is recognised, with
bodies that resolve; the run configuration has no say in it. -/
theorem exists_build_iff_recognized (api : Description) (config : RunConfig) (path : String) :
    (∃ built, build api config path = .ok built) ↔
      ∃ item, api.pathItem path = .ok item ∧
        ∀ entry ∈ item.active, entry.2.responses ≠ [] →
          entry.2.IsRecognized api item ∧ entry.2.BodiesResolve api := by
  rw [exists_build_iff]
  refine exists_congr fun item => and_congr_right fun hitem => ?_
  refine forall₂_congr fun entry hentry => ?_
  exact OperationBlock.exists_isBlockOf_iff hitem
    (Description.operation_of_mem_active hitem hentry)

/-- **An operation without responses is not looked at**: a parameter in a cookie, which is no location
of a parameter, is passed over. -/
theorem exists_build_of_not_isRecognized :
    let cookie : Parameter := { name := "sid", location := .unknown "cookie" }
    let operation : Operation := { parameters := [.inline cookie] }
    let item : PathItem := { operations := [(.get, operation)] }
    let api : Description := { paths := [("/cookies", item)] }
    (∃ block, build api {} "/cookies" = .ok (some block)) ∧ api.pathItem "/cookies" = .ok item ∧
      (.get, operation) ∈ item.active ∧ ¬ operation.IsRecognized api item := by
  intro cookie operation item api
  refine ⟨⟨_, rfl⟩, rfl, List.mem_singleton_self _, fun h => ?_⟩
  obtain ⟨p, hp, hknown⟩ := h.own (.inline cookie) (List.mem_singleton_self _)
  obtain rfl := Except.ok.inj hp
  exact hknown "cookie" rfl

end PathBlock

end ApiScaffold
