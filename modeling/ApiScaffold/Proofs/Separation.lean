import ApiScaffold.Build.Path
import ApiScaffold.Build.Sequence
import ApiScaffold.Proofs.Path.Run

/-!
# Separation of outputs

What is built for one path does not depend on the other paths, nor on operations of its own that
are deprecated, and what is built for a sequence depends on the paths of its steps only. Neither
depends on which paths and sequences a run configuration selects. So a change elsewhere in a
document leaves the output, its absence or its fault as it is.

The comparison is between two descriptions that share all but their paths
(`Description.SameBeyondPaths`) and two run configurations that share all but their selections
(`RunConfig.SameBeyondSelection`).
-/

namespace ApiScaffold

/-! ### What is shared -/

/-- **Descriptions that differ in their paths only.** -/
def Description.SameBeyondPaths (a b : Description) : Prop :=
  { a with paths := [] } = { b with paths := [] }

/-- **Run configurations that differ in what they select only.** -/
def RunConfig.SameBeyondSelection (c d : RunConfig) : Prop :=
  { c with pathNames := [], sequences := [] } = { d with pathNames := [], sequences := [] }

/-- **Items of a path that differ in deprecated operations only.** -/
structure PathItem.SameActive (i j : PathItem) : Prop where
  parameters : i.parameters = j.parameters
  active : i.active = j.active

namespace Description

variable (api : Description) (paths : Entries PathItem)

/-- The description with other paths. -/
def withPaths : Description := { api with paths := paths }

/-- A description that differs in its paths only is the other one with paths of its own. -/
theorem SameBeyondPaths.eq_withPaths {a b : Description} (h : a.SameBeyondPaths b) :
    b = a.withPaths b.paths :=
  congrArg (fun api : Description => { api with paths := b.paths }) (Eq.symm h)

/-! ### Lookups that do not read paths -/

/-- Shared parameters are not kept among the paths. -/
theorem resolveParameter_withPaths :
    (api.withPaths paths).resolveParameter = api.resolveParameter := by
  funext entry
  cases entry <;> rfl

/-- Neither are shared schemas, at any length of a chain of references. -/
theorem followSchema_withPaths (steps : Nat) (schema : Json) :
    (api.withPaths paths).followSchema steps schema = api.followSchema steps schema := by
  induction steps generalizing schema with
  | zero => rfl
  | succ n ih =>
    rw [followSchema, followSchema]
    cases schemaReference? schema with
    | none => rfl
    | some target =>
      change (api.referencedSchema target >>= _) = (api.referencedSchema target >>= _)
      simp only [ih]

/-- So a schema resolves to the same result, a fault included. -/
theorem resolveSchema_withPaths :
    (api.withPaths paths).resolveSchema = api.resolveSchema := by
  funext schema
  exact followSchema_withPaths api paths _ schema

end Description

namespace TestCase

variable (api : Description) (paths : Entries PathItem)

/-- Names of body values come from resolved schemas. -/
theorem bodyValuesOf_withPaths (pool : ValuePool) (deps : Dependencies) (ps : List Parameter) :
    bodyValuesOf (api.withPaths paths) pool deps ps = bodyValuesOf api pool deps ps := by
  have hnames : bodyNames (api.withPaths paths) = bodyNames api := by
    funext p
    rw [bodyNames, bodyNames, Description.resolveSchema_withPaths]
  rw [bodyValuesOf, bodyValuesOf, hnames]

end TestCase

namespace ParameterBuckets

/-- Placing shared parameters looks at their references and at the operation's own parameters. -/
theorem placeShared_withPaths (api : Description) (paths : Entries PathItem)
    (own : List Parameter) (entries : List ParameterEntry) (b : ParameterBuckets) :
    placeShared (api.withPaths paths) own entries b = placeShared api own entries b := by
  induction entries generalizing b with
  | nil => rfl
  | cons entry rest ih =>
    rw [placeShared, placeShared, Description.resolveParameter_withPaths]
    simp only [ih]

/-- **The parameters of an operation** depend on its path item and on what is shared, not on other
paths. -/
theorem merge_withPaths (api : Description) (paths : Entries PathItem) {i j : PathItem}
    (h : i.parameters = j.parameters) (operation : Operation) :
    merge (api.withPaths paths) j operation = merge api i operation := by
  rw [merge, merge, Description.resolveParameter_withPaths, h]
  simp only [placeShared_withPaths]

end ParameterBuckets

/-! ### One case -/

/-- **Descriptions that agree on an operation**: apart from paths they are the same, and they
declare the operation, and the parameters around it, in the same way or fail in the same way. -/
structure Description.AgreeOn (a b : Description) (path : String) (method : Method) : Prop where
  beyond : a.SameBeyondPaths b
  parameters : (a.pathItem path).map (·.parameters) = (b.pathItem path).map (·.parameters)
  operation : a.operation path method = b.operation path method

variable {a b : Description} {c d : RunConfig}

/-- A configuration that differs in what is selected only is the other one with a selection of its own.
-/
theorem RunConfig.SameBeyondSelection.eq (h : c.SameBeyondSelection d) :
    d = { c with pathNames := d.pathNames, sequences := d.sequences } :=
  congrArg (fun config : RunConfig =>
    { config with pathNames := d.pathNames, sequences := d.sequences }) (Eq.symm h)

/-- A case is the same in descriptions that agree on its operation. -/
theorem TestCase.build_eq_of_agreeOn (hconfig : c.SameBeyondSelection d) {request : CaseRequest}
    (h : a.AgreeOn b request.path request.method) (security : List SecurityRequirement) :
    TestCase.build a c security request = TestCase.build b d security request := by
  obtain ⟨hbeyond, hparameters, hoperation⟩ := h
  rw [TestCase.build, TestCase.build, ← hoperation]
  cases hi : a.pathItem request.path with
  | error fault =>
    rw [hi] at hparameters
    cases hj : b.pathItem request.path with
    | error other =>
      rw [hj] at hparameters
      obtain rfl := Except.error.inj hparameters
      rfl
    | ok j =>
      rw [hj] at hparameters
      cases hparameters
  | ok i =>
    rw [hi] at hparameters
    cases hj : b.pathItem request.path with
    | error other =>
      rw [hj] at hparameters
      cases hparameters
    | ok j =>
      rw [hj] at hparameters
      have hsame : i.parameters = j.parameters := Except.ok.inj hparameters
      -- what is left reads neither the paths nor the selection
      rw [hbeyond.eq_withPaths, hconfig.eq]
      simp only [Built.ok_bind, ParameterBuckets.merge_withPaths a b.paths hsame,
        TestCase.bodyValuesOf_withPaths]
      rfl

/-- The context goes on in the same way. -/
theorem RunContext.build_eq_of_agreeOn (hconfig : c.SameBeyondSelection d)
    {request : CaseRequest} (h : a.AgreeOn b request.path request.method) (context : RunContext) :
    context.build a c request = context.build b d request := by
  rw [RunContext.build, RunContext.build, TestCase.build_eq_of_agreeOn hconfig h]

/-- What an operation takes over comes from the document's lists, and these are shared. -/
theorem RunContext.adopt_eq_of_sameBeyondPaths (h : a.SameBeyondPaths b) (context : RunContext)
    (operation : Operation) : context.adopt a operation = context.adopt b operation := by
  rw [h.eq_withPaths]
  rfl

/-! ### One path -/

namespace OperationBlock

/-- **A run over tests** gives the same under both: each test agrees, and so does the context that it
leaves. -/
theorem buildTests_eq_of_agreeOn (hconfig : c.SameBeyondSelection d)
    {requests : List CaseRequest}
    (h : ∀ request ∈ requests, a.AgreeOn b request.path request.method) (context : RunContext) :
    buildTests a c requests context = buildTests b d requests context := by
  induction requests generalizing context with
  | nil => rfl
  | cons request rest ih =>
    rw [List.forall_mem_cons] at h
    rw [buildTests, buildTests, RunContext.build_eq_of_agreeOn hconfig h.1]
    simp only [ih h.2]

/-- An operation is built alike in descriptions that agree on it, faults included. -/
theorem build_eq_of_agreeOn (hconfig : c.SameBeyondSelection d) {path : String} {method : Method}
    (h : a.AgreeOn b path method) (context : RunContext) :
    build a c path method context = build b d path method context := by
  rw [build, build, ← h.operation]
  cases a.operation path method with
  | error fault => rfl
  | ok operation =>
    simp only [RunContext.adopt_eq_of_sameBeyondPaths h.beyond]
    rw [buildTests_eq_of_agreeOn hconfig]
    intro request hrequest
    obtain ⟨rfl, rfl⟩ := mem_requests hrequest
    exact h

end OperationBlock

namespace PathBlock

/-- A run over methods does too, with the context of one operation handed on to the next. -/
theorem buildOperations_eq_of_agreeOn (hconfig : c.SameBeyondSelection d) {path : String}
    {methods : List Method} (h : ∀ method ∈ methods, a.AgreeOn b path method)
    (context : RunContext) :
    buildOperations a c path methods context = buildOperations b d path methods context := by
  induction methods generalizing context with
  | nil => rfl
  | cons method rest ih =>
    rw [List.forall_mem_cons] at h
    rw [buildOperations, buildOperations, OperationBlock.build_eq_of_agreeOn hconfig h.1]
    simp only [ih h.2]

/-- Items with the same active operations agree on each of them. -/
theorem agreeOn_of_mem_active (hbeyond : a.SameBeyondPaths b) {path : String} {i j : PathItem}
    (hi : a.pathItem path = .ok i) (hj : b.pathItem path = .ok j) (h : i.SameActive j)
    {method : Method} (hmethod : method ∈ i.active.map (·.1)) : a.AgreeOn b path method := by
  obtain ⟨⟨m, operation⟩, hentry, rfl⟩ := List.mem_map.mp hmethod
  refine ⟨hbeyond, ?_, ?_⟩
  · rw [hi, hj]
    exact congrArg Except.ok h.parameters
  · rw [Description.operation_of_mem_active hi hentry]
    rw [h.active] at hentry
    exact (Description.operation_of_mem_active hj hentry).symm

/-- **A path is built alike** in descriptions that declare it with the same active operations. -/
theorem build_eq_of_sameActive (hbeyond : a.SameBeyondPaths b) (hconfig : c.SameBeyondSelection d)
    {path : String} (h : Option.Rel PathItem.SameActive (a.paths.get? path) (b.paths.get? path)) :
    build a c path = build b d path := by
  have hpathItem (api : Description) {item : PathItem} (hget : api.paths.get? path = some item) :
      api.pathItem path = .ok item := by
    rw [Description.pathItem, hget]
  cases hi : a.paths.get? path with
  | none =>
    rw [hi] at h
    cases hj : b.paths.get? path with
    | none => rw [build, build, Description.pathItem, Description.pathItem, hi, hj]; rfl
    | some j =>
      rw [hj] at h
      cases h
  | some i =>
    rw [hi] at h
    cases hj : b.paths.get? path with
    | none =>
      rw [hj] at h
      cases h
    | some j =>
      rw [hj] at h
      obtain ⟨hsame⟩ := h
      have hagree : ∀ method ∈ i.active.map (·.1), a.AgreeOn b path method := by
        intro method hmethod
        exact agreeOn_of_mem_active hbeyond (hpathItem a hi) (hpathItem b hj) hsame hmethod
      rw [build, build, hpathItem a hi, hpathItem b hj, Built.ok_bind, Built.ok_bind,
        ← hsame.active, buildOperations_eq_of_agreeOn hconfig hagree]
      rw [hbeyond.eq_withPaths]
      rfl

end PathBlock

/-! ### One sequence -/

namespace SequenceBlock

/-- The same item of a path makes descriptions agree on all its operations. -/
theorem agreeOn_of_get?_eq (hbeyond : a.SameBeyondPaths b) {path : String}
    (h : a.paths.get? path = b.paths.get? path) (method : Method) : a.AgreeOn b path method := by
  have hitem : a.pathItem path = b.pathItem path := by
    rw [Description.pathItem, Description.pathItem, h]
  exact ⟨hbeyond, congrArg _ hitem, by rw [Description.operation, Description.operation, hitem]⟩

/-- A run over steps does too. The names of earlier steps are the same, and so the checks on sources
are. -/
theorem buildSteps_eq_of_agreeOn (hbeyond : a.SameBeyondPaths b) (hconfig : c.SameBeyondSelection d)
    (name : String) {steps : List SequenceStep}
    (h : ∀ step ∈ steps, a.AgreeOn b step.path step.operation) (earlier : List String)
    (context : RunContext) :
    buildSteps a c name steps earlier context = buildSteps b d name steps earlier context := by
  induction steps generalizing earlier context with
  | nil => rfl
  | cons step rest ih =>
    rw [List.forall_mem_cons] at h
    obtain ⟨hstep, hrest⟩ := h
    have hoperation : stepOperation a step = stepOperation b step := by
      rw [stepOperation, stepOperation, hstep.operation]
    have hcase (context : RunContext) : context.build a c (caseRequest step) =
        context.build b d (caseRequest step) :=
      RunContext.build_eq_of_agreeOn hconfig hstep context
    rw [buildSteps, buildSteps, hoperation]
    simp only [RunContext.adopt_eq_of_sameBeyondPaths hbeyond, hcase, ih hrest]

end SequenceBlock

/-- **Outputs are separate.** A path is built alike (with the same block, without one, or with the
same fault) when the other paths change, when operations of its own that are deprecated wherever
they are declared do, and when the run configuration selects other paths and sequences. A sequence
is built alike when paths that none of its steps names change, and likewise for the run
configuration. -/
theorem build_eq_of_agreement (a b : Description) (c d : RunConfig) (hbeyond : a.SameBeyondPaths b)
    (hconfig : c.SameBeyondSelection d) :
    (∀ path, Option.Rel PathItem.SameActive (a.paths.get? path) (b.paths.get? path) →
      PathBlock.build a c path = PathBlock.build b d path) ∧
    ∀ name (steps : List SequenceStep),
      (∀ step ∈ steps, a.paths.get? step.path = b.paths.get? step.path) →
      SequenceBlock.build a c name steps = SequenceBlock.build b d name steps := by
  constructor
  · intro path h
    exact PathBlock.build_eq_of_sameActive hbeyond hconfig h
  · intro name steps h
    have hsteps : ∀ step ∈ steps, a.AgreeOn b step.path step.operation := by
      intro step hstep
      exact SequenceBlock.agreeOn_of_get?_eq hbeyond (h step hstep) step.operation
    rw [SequenceBlock.build, SequenceBlock.build,
      SequenceBlock.buildSteps_eq_of_agreeOn hbeyond hconfig name hsteps, hbeyond.eq_withPaths]
    rfl

/-- Another path, a deprecated operation and a selection change nothing for the paths of pets. -/
theorem build_eq_of_agreement_pets :
    let api := Description.pets.withPaths
      [("/pets",
          { operations :=
              [(.get, { deprecated := true }),
                (.post, { responses := [("200", { schema := some (.obj []) })] })] }),
        ("/dogs", {}),
        ("/pets/\x7bid\x7d", { operations := [(.get, { responses := [("200", {})] })] })]
    PathBlock.build .pets {} "/pets" = PathBlock.build api { pathNames := ["/dogs"] } "/pets" ∧
      SequenceBlock.build .pets {} "read" [⟨"read", "/pets/\x7bid\x7d", .get, []⟩] =
        SequenceBlock.build api { pathNames := ["/dogs"] } "read"
          [⟨"read", "/pets/\x7bid\x7d", .get, []⟩] := by
  intro api
  obtain ⟨hpaths, hsequences⟩ :=
    build_eq_of_agreement .pets api {} { pathNames := ["/dogs"] } rfl rfl
  refine ⟨hpaths "/pets" (.some ⟨rfl, rfl⟩), hsequences "read" _ ?_⟩
  intro step hstep
  rw [List.mem_singleton.mp hstep]
  rfl

end ApiScaffold
