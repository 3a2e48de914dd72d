import ApiScaffold.Proofs.Path.Run

/-!
# Operations of a path on their own

One context goes through all operations of a path, and it is changed even by those that fail. Still
nothing depends on what an operation finds there: its block, or its fault, is the one that it has in a
fresh context, and of the context it leaves only the imports go back to those before it
(`OperationBlock.build_fst_eq`, `OperationBlock.build_snd`). So a path merges operations that are built
on their own: the first fault counts, and otherwise the blocks stand side by side with the union of
their imports.
-/

namespace ApiScaffold

namespace Imports

/-- What is asked for is not taken back. -/
theorem within_or (a b : Imports) : a.Within (a.or b) := by
  constructor <;> simp +contextual [or]

end Imports

/-! ### One operation -/

namespace OperationBlock

variable {api : Description} {config : RunConfig} {path : String} {method : Method}

/-- The cases of requests, or the first fault, depend only on the security of the context. -/
theorem buildTests_fst (requests : List CaseRequest) (context : RunContext) :
    (buildTests api config requests context).1 =
      requests.mapM (TestCase.build api config context.security) := by
  induction requests generalizing context with
  | nil => rfl
  | cons request rest ih =>
    rw [List.mapM_cons]
    cases ht : TestCase.build api config context.security request with
    | error fault =>
      rw [buildTests, RunContext.build_eq_of_error context ht]
      rfl
    | ok t =>
      rw [buildTests_cons ht, ih]
      rfl

/-- **What a run leaves in the context**: its imports are those before the run and those of the same run
without them, also where the run stops at a fault. -/
theorem buildTests_snd (requests : List CaseRequest) (context : RunContext) :
    (buildTests api config requests context).2 = { context with
      imports := context.imports.or
        (buildTests api config requests { context with imports := {} }).2.imports } := by
  induction requests generalizing context with
  | nil => simp [buildTests]
  | cons request rest ih =>
    cases ht : TestCase.build api config context.security request with
    | error fault =>
      rw [buildTests, RunContext.build_eq_of_error context ht, buildTests,
        RunContext.build_eq_of_error { context with imports := {} } ht]
      simp
    | ok t =>
      have hbare : { (context.after t) with imports := {} } = { context with imports := {} } := rfl
      have hfresh : TestCase.build api config
          ({ context with imports := {} } : RunContext).security request = .ok t := ht
      rw [buildTests_cons ht, buildTests_cons hfresh]
      dsimp only
      rw [ih (context.after t), ih (RunContext.after { context with imports := {} } t), hbare]
      simp only [RunContext.after, Imports.empty_or, Imports.or_assoc]
      rfl

/-- **The result of an operation does not depend on the context** that it is built in. -/
theorem build_fst_eq (context context' : RunContext) :
    (build api config path method context).1 = (build api config path method context').1 := by
  cases h : api.operation path method with
  | error fault => rw [build, build, h]
  | ok operation =>
    rw [build_of_operation h, build_of_operation h, buildTests_fst, buildTests_fst]
    rfl

/-- **The context after a declared operation**, whether it was built or not: it holds the types and the
security of the operation, and the imports grow by what it leaves in a fresh context. -/
theorem build_snd {operation : Operation} (h : api.operation path method = .ok operation)
    (context : RunContext) :
    (build api config path method context).2 = { (context.adopt api operation) with
      imports := context.imports.or (build api config path method {}).2.imports } := by
  rw [build_of_operation h, build_of_operation h, buildTests_snd]
  rfl

/-- An operation that is not declared is not adopted either. -/
theorem build_snd_of_error {fault : Fault} (h : api.operation path method = .error fault)
    (context : RunContext) : (build api config path method context).2 = context := by
  rw [build, h]

/-- The imports after an operation, declared or not. -/
theorem imports_build (context : RunContext) :
    (build api config path method context).2.imports =
      context.imports.or (build api config path method {}).2.imports := by
  cases h : api.operation path method with
  | error fault => rw [build_snd_of_error h, build_snd_of_error h, Imports.or_empty]
  | ok operation => rw [build_snd h]

end OperationBlock

/-! ### The whole path -/

namespace PathBlock

variable {api : Description} {config : RunConfig} {path : String}

/-- The blocks of methods, or the first fault, are those that they have on their own. -/
theorem buildOperations_fst (methods : List Method) (context : RunContext) :
    (buildOperations api config path methods context).1 =
      methods.mapM fun method => (OperationBlock.build api config path method {}).1 := by
  induction methods generalizing context with
  | nil => rfl
  | cons method rest ih =>
    rw [List.mapM_cons, OperationBlock.build_fst_eq {} context, buildOperations]
    rcases OperationBlock.build api config path method context with ⟨fault | block, mid⟩
    · rfl
    · dsimp only
      rw [ih mid]
      rfl

/-- The imports after all methods: those before, and those that each leaves in a fresh context. -/
theorem imports_buildOperations {methods : List Method} {context context' : RunContext}
    {blocks : List OperationBlock}
    (h : buildOperations api config path methods context = (.ok blocks, context')) :
    context'.imports = context.imports.or
      (.join (methods.map fun method => (OperationBlock.build api config path method {}).2.imports)) := by
  induction methods generalizing context blocks with
  | nil =>
    obtain ⟨-, rfl⟩ := Prod.mk.inj h
    exact (Imports.or_empty _).symm
  | cons method rest ih =>
    obtain ⟨block, mid, more, hblock, hmore, -⟩ := buildOperations_cons_eq_ok.mp h
    have hmid : mid.imports = context.imports.or
        (OperationBlock.build api config path method {}).2.imports := by
      rw [← OperationBlock.imports_build context, hblock]
    rw [ih hmore, hmid, Imports.or_assoc]
    rfl

/-- **A declared path** has the blocks that its active operations have on their own. -/
theorem build_of_pathItem {item : PathItem} (h : api.pathItem path = .ok item) :
    build api config path =
      (item.active.mapM fun entry => (OperationBlock.build api config path entry.1 {}).1).map
        fun operations => if operations.isEmpty then none else some
          ⟨path, api.scheme, api.host, operations, .join (item.active.map fun entry =>
            (OperationBlock.build api config path entry.1 {}).2.imports)⟩ := by
  have hfst : (buildOperations api config path (item.active.map (·.1)) {}).1 =
      item.active.mapM fun entry => (OperationBlock.build api config path entry.1 {}).1 := by
    rw [buildOperations_fst, List.mapM_map]
    rfl
  rw [build, h, Built.ok_bind, ← hfst]
  rcases hrun : buildOperations api config path (item.active.map (·.1)) {} with
    ⟨fault | operations, context⟩
  · rw [hrun]
    rfl
  · have himports := imports_buildOperations hrun
    rw [Imports.empty_or, List.map_map] at himports
    rw [hrun]
    dsimp only
    rw [himports]
    rfl

/-- The first active operation with a fault on its own decides on the fault of the path. -/
theorem build_eq_error_iff {item : PathItem} (h : api.pathItem path = .ok item) {fault : Fault} :
    build api config path = .error fault ↔
      Built.FirstFault (item.active.map fun entry other =>
        (OperationBlock.build api config path entry.1 {}).1 = .error other) fault := by
  rw [build_of_pathItem h, Built.map_eq_error, Built.mapM_eq_error]

/-- There is a block for each active operation. -/
theorem blocks_eq_nil_iff {item : PathItem} {operations : List OperationBlock}
    (h : List.Forall₂ (fun entry operation =>
      (OperationBlock.build api config path entry.1 {}).1 = .ok operation) item.active operations) :
    operations = [] ↔ item.active = [] := by
  rw [← List.length_eq_zero_iff, ← List.length_eq_zero_iff, h.length_eq]

theorem build_eq_none_iff {item : PathItem} (h : api.pathItem path = .ok item) :
    build api config path = .ok none ↔ item.active = [] := by
  rw [build_of_pathItem h, Built.map_eq_ok]
  constructor
  · rintro ⟨operations, hrun, hnone⟩
    refine (blocks_eq_nil_iff (Built.mapM_eq_ok.mp hrun)).mp ?_
    by_contra hne
    rw [if_neg (by simpa using hne)] at hnone
    cases hnone
  · intro hactive
    rw [hactive]
    exact ⟨[], rfl, rfl⟩

/-- The block of a path holds those of its active operations, in order, and the union of their imports. -/
theorem build_eq_some_iff {item : PathItem} (h : api.pathItem path = .ok item) {block : PathBlock} :
    build api config path = .ok (some block) ↔
      item.active ≠ [] ∧
      List.Forall₂ (fun entry operation =>
        (OperationBlock.build api config path entry.1 {}).1 = .ok operation)
        item.active block.operations ∧
      block = ⟨path, api.scheme, api.host, block.operations, .join (item.active.map fun entry =>
        (OperationBlock.build api config path entry.1 {}).2.imports)⟩ := by
  rw [build_of_pathItem h, Built.map_eq_ok]
  constructor
  · rintro ⟨operations, hrun, hsome⟩
    obtain ⟨hne, hblock⟩ := Option.ite_none_left_eq_some.mp hsome
    obtain rfl := Option.some.inj hblock
    have hblocks := Built.mapM_eq_ok.mp hrun
    exact ⟨mt (blocks_eq_nil_iff hblocks).mpr (by simpa using hne), hblocks, rfl⟩
  · rintro ⟨hactive, hblocks, hblock⟩
    have hne : ¬ block.operations.isEmpty = true := by
      simpa using mt (blocks_eq_nil_iff hblocks).mp hactive
    refine ⟨block.operations, Built.mapM_eq_ok.mpr hblocks, ?_⟩
    rw [if_neg hne, ← hblock]

/-- **A path merges operations that are built on their own.** In every context an operation has the same
result. If it is declared, the context afterwards holds its types and its security, and the imports from
before with those that the same operation leaves in a fresh context, whether it was built or not; if it is
not, the context is as it was. So a declared path has the fault of its first active operation that has one
in a fresh context. Without such a fault there is no block exactly if there is no active operation, and
else the block holds theirs from fresh contexts in order, with the union of the imports left there. -/
theorem build_merges_operations (api : Description) (config : RunConfig) (path : String) :
    (∀ (method : Method) (context : RunContext),
      (∀ context', (OperationBlock.build api config path method context).1 =
        (OperationBlock.build api config path method context').1) ∧
      (∀ operation, api.operation path method = .ok operation →
        (OperationBlock.build api config path method context).2 =
          { imports := context.imports.or
              (OperationBlock.build api config path method {}).2.imports
            consumes := RunContext.inherit operation.consumes api.consumes
            produces := RunContext.inherit operation.produces api.produces
            security := RunContext.inherit operation.security api.security }) ∧
      context.imports.Within (OperationBlock.build api config path method context).2.imports ∧
      ∀ fault, api.operation path method = .error fault →
        (OperationBlock.build api config path method context).2 = context) ∧
    ∀ item, api.pathItem path = .ok item →
      ((∃ fault, build api config path = .error fault) ↔ ∃ entry ∈ item.active, ∃ fault,
        (OperationBlock.build api config path entry.1 {}).1 = .error fault) ∧
      (∀ fault, build api config path = .error fault ↔
        Built.FirstFault (item.active.map fun entry other =>
          (OperationBlock.build api config path entry.1 {}).1 = .error other) fault) ∧
      (build api config path = .ok none ↔ item.active = []) ∧
      ∀ block, build api config path = .ok (some block) ↔
        item.active ≠ [] ∧
        List.Forall₂ (fun entry operation =>
          (OperationBlock.build api config path entry.1 {}).1 = .ok operation)
          item.active block.operations ∧
        block = ⟨path, api.scheme, api.host, block.operations, .join (item.active.map fun entry =>
          (OperationBlock.build api config path entry.1 {}).2.imports)⟩ := by
  constructor
  · intro method context
    refine ⟨OperationBlock.build_fst_eq context, fun operation h => ?_, ?_, fun fault h => ?_⟩
    · exact OperationBlock.build_snd h context
    · rw [OperationBlock.imports_build]
      exact Imports.within_or ..
    · exact OperationBlock.build_snd_of_error h context
  · intro item hitem
    -- that there is a fault at all is the first fault with the fault left open
    refine ⟨?_, fun fault => build_eq_error_iff hitem, build_eq_none_iff hitem,
      fun block => build_eq_some_iff hitem⟩
    simp only [build_eq_error_iff hitem, Built.exists_firstFault_iff, List.mem_map,
      exists_exists_and_eq_and]

end PathBlock

end ApiScaffold
