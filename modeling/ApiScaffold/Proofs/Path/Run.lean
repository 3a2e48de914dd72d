import ApiScaffold.Build.Path
import ApiScaffold.Proofs.Description.Lookup
import ApiScaffold.Proofs.Imports
import ApiScaffold.Proofs.Pairing
import ApiScaffold.Proofs.TestCase
import Mathlib.Data.List.Forall2

/-!
# A run over the operations of a path

One context goes through all cases of all operations of a path. As with sequences it leaves no
trace in what is built: the cases of an operation are those of its requests on their own
(`PathBlock.IsBlockOf`), and the imports of the path are the union of what its cases ask for.
-/

namespace ApiScaffold

/-! ### One operation -/

namespace OperationBlock

variable {api : Description} {config : RunConfig} {path : String} {method : Method}

/-- After a case, the others are built in the context that it leaves. -/
theorem buildTests_cons {request : CaseRequest} {rest : List CaseRequest} {context : RunContext}
    {t : TestCase} (h : TestCase.build api config context.security request = .ok t) :
    buildTests api config (request :: rest) context =
      ((buildTests api config rest (context.after t)).1.map (t :: ·),
        (buildTests api config rest (context.after t)).2) := by
  rw [buildTests, RunContext.build_eq_of_ok context h]
  rfl

/-- **A run over the requests of an operation**: the cases are built under the security of the
context, and only the imports of the context grow. -/
theorem buildTests_eq_ok (context : RunContext) {requests : List CaseRequest}
    {context' : RunContext} {tests : List TestCase} :
    buildTests api config requests context = (.ok tests, context') ↔
      List.Forall₂ (fun request t => TestCase.build api config context.security request = .ok t)
        requests tests ∧
      context' = { context with
        imports := context.imports.or (.join (tests.map (.ofCase context.isSecured))) } := by
  induction requests generalizing context context' tests with
  | nil =>
    rw [List.forall₂_nil_left_iff, buildTests, Prod.mk.injEq, Except.ok.injEq]
    constructor
    · rintro ⟨rfl, rfl⟩
      exact ⟨rfl, by simp⟩
    · rintro ⟨rfl, rfl⟩
      exact ⟨rfl, by simp⟩
  | cons request rest ih =>
    rw [List.forall₂_cons_left_iff]
    cases ht : TestCase.build api config context.security request with
    | error fault =>
      rw [buildTests, RunContext.build_eq_of_error context ht]
      simp
    | ok t =>
      rw [buildTests_cons ht, Prod.mk.injEq, Built.map_eq_ok]
      constructor
      · rintro ⟨⟨more, hmore, rfl⟩, rfl⟩
        -- the context after the first test has the same security, so the rest is built under it too
        obtain ⟨hcases, hlast⟩ := (ih _).mp (Prod.ext hmore rfl)
        refine ⟨⟨t, more, rfl, hcases, rfl⟩, ?_⟩
        refine hlast.trans ?_
        rw [RunContext.after, Imports.or_assoc]
        rfl
      · rintro ⟨⟨t', more, htt, hcases, rfl⟩, rfl⟩
        obtain rfl := Except.ok.inj htt
        have hrun := (ih (context.after t)).mpr ⟨hcases, rfl⟩
        refine ⟨⟨more, by rw [hrun], rfl⟩, ?_⟩
        rw [hrun, RunContext.after, Imports.or_assoc]
        rfl

theorem mem_requests {codes consumes produces : List String} {request : CaseRequest}
    (h : request ∈ requests path method codes consumes produces) :
    request.path = path ∧ request.method = method := by
  simp only [requests, List.mem_flatMap, List.mem_map] at h
  obtain ⟨code, -, contentType, -, returnType, -, rfl⟩ := h
  exact ⟨rfl, rfl⟩

/-- The requests of an operation of a description. -/
def requestsOf (api : Description) (path : String) (method : Method) (operation : Operation) :
    List CaseRequest :=
  requests path method operation.responses.names
    (typesOrJson (RunContext.inherit operation.consumes api.consumes))
    (typesOrJson (RunContext.inherit operation.produces api.produces))

/-- **The block of an operation**: it holds the cases of its requests, each on its own. -/
def IsBlockOf (api : Description) (config : RunConfig) (path : String) (method : Method)
    (block : OperationBlock) : Prop :=
  block.method = method ∧ ∃ operation, api.operation path method = .ok operation ∧
    List.Forall₂
      (fun request t => TestCase.build api config
        (RunContext.inherit operation.security api.security) request = .ok t)
      (requestsOf api path method operation) block.tests

/-- What the cases of an operation ask for together. -/
def importsOf (api : Description) (path : String) (block : OperationBlock) : Imports :=
  .join (block.tests.map (.ofCase (api.isSecured path block.method)))

/-- A declared operation is built from its requests, in the context that has adopted it. -/
theorem build_of_operation {operation : Operation} (h : api.operation path method = .ok operation)
    (context : RunContext) :
    build api config path method context =
      ((buildTests api config (requestsOf api path method operation)
          (context.adopt api operation)).1.map (⟨method, ·⟩),
        (buildTests api config (requestsOf api path method operation)
          (context.adopt api operation)).2) := by
  rw [build, h]
  rfl

/-- **Success of an operation**: its block holds the cases of its requests, and the imports grow by
what they ask for. -/
theorem build_eq_ok {context : RunContext} {block : OperationBlock} {imports : Imports} :
    (∃ context', build api config path method context = (.ok block, context') ∧
        context'.imports = imports) ↔
      IsBlockOf api config path method block ∧
        context.imports.or (importsOf api path block) = imports := by
  rw [IsBlockOf]
  cases ho : api.operation path method with
  | error fault =>
    rw [build, ho]
    simp
  | ok operation =>
    simp only [build_of_operation ho, Prod.mk.injEq, Built.map_eq_ok]
    have himports (tests : List TestCase) : importsOf api path ⟨method, tests⟩ =
        .join (tests.map (.ofCase (context.adopt api operation).isSecured)) := by
      rw [importsOf, Description.isSecured_of_operation ho context]
    constructor
    · rintro ⟨context', ⟨⟨tests, htests, rfl⟩, hlast⟩, rfl⟩
      obtain ⟨hcases, hrun⟩ := (buildTests_eq_ok _).mp (Prod.ext htests hlast)
      refine ⟨⟨rfl, operation, rfl, hcases⟩, ?_⟩
      rw [hrun, himports]
      rfl
    · rintro ⟨⟨rfl, other, hother, hcases⟩, rfl⟩
      obtain rfl := Except.ok.inj hother
      have hrun := (buildTests_eq_ok (context.adopt api operation)).mpr ⟨hcases, rfl⟩
      refine ⟨_, ⟨⟨block.tests, by rw [hrun], rfl⟩, rfl⟩, ?_⟩
      rw [hrun, himports]
      rfl

/-! ### The shape of a block -/

theorem typesOrJson_ne_nil (types : List String) : typesOrJson types ≠ [] := by
  rw [typesOrJson]
  cases types <;> simp

/-- There are requests as soon as there is a response, since JSON stands in for missing types. -/
theorem requestsOf_ne_nil {operation : Operation} :
    requestsOf api path method operation ≠ [] ↔ operation.responses ≠ [] := by
  have hconsumes := typesOrJson_ne_nil (RunContext.inherit operation.consumes api.consumes)
  have hproduces := typesOrJson_ne_nil (RunContext.inherit operation.produces api.produces)
  rw [requestsOf, requests, Entries.names]
  cases operation.responses with
  | nil => simp
  | cons entry rest =>
    obtain ⟨contentType, hcontent⟩ := List.exists_mem_of_ne_nil _ hconsumes
    obtain ⟨returnType, hreturn⟩ := List.exists_mem_of_ne_nil _ hproduces
    refine ⟨fun _ => List.cons_ne_nil _ _, fun _ => List.ne_nil_of_mem (a := ?_) ?_⟩
    · exact ⟨path, method, entry.1, contentType, returnType, none⟩
    · rw [List.map_cons, List.flatMap_cons]
      refine List.mem_append_left _ (List.mem_flatMap.mpr ⟨contentType, hcontent, ?_⟩)
      exact List.mem_map.mpr ⟨returnType, hreturn, rfl⟩

end OperationBlock

/-! ### The whole path -/

namespace PathBlock

open OperationBlock (IsBlockOf importsOf)

variable {api : Description} {config : RunConfig} {path : String}

/-- **One operation of a run**: its block is built, and the rest runs in the context after it. -/
theorem buildOperations_cons_eq_ok {method : Method} {rest : List Method}
    {context context' : RunContext} {blocks : List OperationBlock} :
    buildOperations api config path (method :: rest) context = (.ok blocks, context') ↔
      ∃ block mid more, OperationBlock.build api config path method context = (.ok block, mid) ∧
        buildOperations api config path rest mid = (.ok more, context') ∧
        block :: more = blocks := by
  rw [buildOperations]
  rcases OperationBlock.build api config path method context with ⟨fault | block, mid⟩
  · simp
  · rcases hrest : buildOperations api config path rest mid with ⟨fault | more, last⟩
    · simp [hrest, Except.map]
    · simp [hrest, Except.map, and_comm]

/-- **A run over the operations of a path**: each method has its block, and the imports grow by
what the blocks ask for together. -/
theorem buildOperations_eq_ok {methods : List Method} {context : RunContext}
    {blocks : List OperationBlock} {imports : Imports} :
    (∃ context', buildOperations api config path methods context = (.ok blocks, context') ∧
        context'.imports = imports) ↔
      List.Forall₂ (fun method block => IsBlockOf api config path method block) methods blocks ∧
        context.imports.or (.join (blocks.map (importsOf api path))) = imports := by
  induction methods generalizing context blocks with
  | nil =>
    rw [List.forall₂_nil_left_iff]
    constructor
    · rintro ⟨context', h, rfl⟩
      obtain ⟨hblocks, rfl⟩ := Prod.mk.inj h
      obtain rfl := Except.ok.inj hblocks
      exact ⟨rfl, Imports.or_empty _⟩
    · rintro ⟨rfl, rfl⟩
      exact ⟨context, rfl, (Imports.or_empty _).symm⟩
  | cons method rest ih =>
    rw [List.forall₂_cons_left_iff]
    constructor
    · rintro ⟨context', h, himports⟩
      -- only the imports of the context in between matter, since each operation adopts its own lists
      obtain ⟨block, mid, more, hblock, hmore, rfl⟩ := buildOperations_cons_eq_ok.mp h
      obtain ⟨hisBlock, hmid⟩ := OperationBlock.build_eq_ok.mp ⟨mid, hblock, rfl⟩
      obtain ⟨hblocks, hor⟩ := ih.mp ⟨context', hmore, himports⟩
      refine ⟨⟨block, more, hisBlock, hblocks, rfl⟩, ?_⟩
      rw [← hor, ← hmid, Imports.or_assoc]
      rfl
    · rintro ⟨⟨block, more, hisBlock, hblocks, rfl⟩, hor⟩
      obtain ⟨mid, hblock, hmid⟩ :=
        OperationBlock.build_eq_ok.mpr ⟨hisBlock, Eq.refl (context.imports.or _)⟩
      have hor' : mid.imports.or (.join (more.map (importsOf api path))) = imports := by
        rw [← hor, hmid, Imports.or_assoc]
        rfl
      obtain ⟨context', hmore, himports⟩ := ih.mpr ⟨hblocks, hor'⟩
      exact ⟨context', buildOperations_cons_eq_ok.mpr ⟨block, mid, more, hblock, hmore, rfl⟩,
        himports⟩

/-- **Success of a path** with a block: it has active operations, the block holds theirs in order,
and its imports are what they ask for together. -/
theorem build_eq_some {block : PathBlock} :
    build api config path = .ok (some block) ↔
      ∃ item, api.pathItem path = .ok item ∧ item.active ≠ [] ∧
        List.Forall₂ (fun method o => IsBlockOf api config path method o)
          (item.active.map (·.1)) block.operations ∧
        block = ⟨path, api.scheme, api.host, block.operations,
          .join (block.operations.map (importsOf api path))⟩ := by
  rw [build, Built.bind_eq_ok]
  refine exists_congr fun item => and_congr_right fun _ => ?_
  -- the run fixes the block, and the test for emptiness only tells a block from none
  have hnonempty {operations : List OperationBlock}
      (h : List.Forall₂ (fun method o => IsBlockOf api config path method o)
        (item.active.map (·.1)) operations) : item.active ≠ [] ↔ operations ≠ [] := by
    rw [← List.length_pos_iff, ← List.length_pos_iff, ← h.length_eq, List.length_map]
  constructor
  · intro h
    rcases hrun : buildOperations api config path (item.active.map (·.1)) {} with ⟨built, context⟩
    rw [hrun] at h
    obtain ⟨operations, rfl, hsome⟩ := Built.bind_eq_ok.mp h
    obtain ⟨hblocks, hor⟩ := buildOperations_eq_ok.mp ⟨context, hrun, rfl⟩
    rw [Imports.empty_or] at hor
    obtain ⟨hne, hblock⟩ := Option.ite_none_left_eq_some.mp (Built.pure_eq_ok.mp hsome)
    obtain rfl := Option.some.inj hblock
    refine ⟨(hnonempty hblocks).mpr ?_, hblocks, by rw [hor]⟩
    simpa using hne
  · rintro ⟨hactive, hblocks, hblock⟩
    have hrun : ∃ context, buildOperations api config path (item.active.map (·.1)) {} =
        (.ok block.operations, context) ∧
          context.imports = .join (block.operations.map (importsOf api path)) :=
      buildOperations_eq_ok.mpr ⟨hblocks, Imports.empty_or _⟩
    obtain ⟨context, hrun, himports⟩ := hrun
    rw [hrun]
    refine Built.bind_eq_ok.mpr ⟨block.operations, rfl, Built.pure_eq_ok.mpr ?_⟩
    have hne : block.operations.isEmpty = false := by
      simpa using (hnonempty hblocks).mp hactive
    rw [hne, himports, if_neg Bool.false_ne_true, ← hblock]

/-- **Each case of a path** is built from a request of one of its operations. -/
theorem exists_request_of_mem_tests {block : PathBlock}
    (h : build api config path = .ok (some block)) {t : TestCase} (ht : t ∈ block.tests) :
    ∃ o ∈ block.operations, t ∈ o.tests ∧
      ∃ operation, api.operation path o.method = .ok operation ∧
        ∃ request ∈ OperationBlock.requestsOf api path o.method operation,
          TestCase.build api config (RunContext.inherit operation.security api.security) request =
            .ok t := by
  obtain ⟨item, -, -, hblocks, -⟩ := build_eq_some.mp h
  obtain ⟨o, ho, ht⟩ := List.mem_flatMap.mp ht
  obtain ⟨method, -, rfl, operation, hoperation, hcases⟩ := Pairing.exists_left_of_mem hblocks ho
  exact ⟨o, ho, ht, operation, hoperation, Pairing.exists_left_of_mem hcases ht⟩

end PathBlock

end ApiScaffold
