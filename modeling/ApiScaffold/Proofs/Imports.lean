import ApiScaffold.Build.Context
import ApiScaffold.Description.Lookup
import Mathlib.Data.List.Basic

/-!
# Imports as they accumulate

The imports of a file are collected case by case, and what one case asks for is never taken back.
So the imports of a run are the union (`Imports.join`) of what its cases ask for
(`Imports.ofCase`): the order does not matter, and a part of a run asks for no more than the whole.
-/

namespace ApiScaffold

namespace Imports

variable {xs ys : List Imports}

/-- What one or the other asks for. -/
def or (a b : Imports) : Imports :=
  ⟨a.validator || b.validator, a.env || b.env, a.loadTest || b.loadTest⟩

/-- Nothing is needed where nothing is asked for. -/
@[simp] theorem empty_or (a : Imports) : or {} a = a := rfl

@[simp] theorem or_empty (a : Imports) : a.or {} = a := by
  simp [or]

/-- How uses are grouped does not matter, so a file may gather them operation by operation. -/
theorem or_assoc (a b c : Imports) : (a.or b).or c = a.or (b.or c) := by
  simp [or, Bool.or_assoc]

theorem or_left_comm (a b c : Imports) : a.or (b.or c) = b.or (a.or c) := by
  simp [or, Bool.or_left_comm]

/-- **Union**: what any of the list asks for. -/
def join (xs : List Imports) : Imports := xs.foldr or {}

@[simp] theorem join_nil : join [] = {} := rfl

@[simp] theorem join_cons (x : Imports) (xs : List Imports) : join (x :: xs) = x.or (join xs) := rfl

/-- A file needs the validator if one of its parts does. -/
theorem validator_join : (join xs).validator = true ↔ ∃ x ∈ xs, x.validator = true := by
  induction xs with
  | nil => simp
  | cons x rest ih => simp [or, ih]

theorem env_join : (join xs).env = true ↔ ∃ x ∈ xs, x.env = true := by
  induction xs with
  | nil => simp
  | cons x rest ih => simp [or, ih]

theorem loadTest_join : (join xs).loadTest = true ↔ ∃ x ∈ xs, x.loadTest = true := by
  induction xs with
  | nil => simp
  | cons x rest ih => simp [or, ih]

/-- The order of what is asked for does not matter. -/
theorem join_eq_of_perm (h : xs.Perm ys) : join xs = join ys := by
  induction h with
  | nil => rfl
  | cons x _ ih => rw [join_cons, join_cons, ih]
  | swap x y rest => simp only [join_cons, or_left_comm]
  | trans _ _ ih₁ ih₂ => exact ih₁.trans ih₂

/-- **Implied imports**: everything that the first asks for, the second asks for as well. -/
structure Within (a b : Imports) : Prop where
  validator : a.validator = true → b.validator = true
  env : a.env = true → b.env = true
  loadTest : a.loadTest = true → b.loadTest = true

/-- A part asks for no more than the whole. -/
theorem join_within (h : xs ⊆ ys) : (join xs).Within (join ys) where
  validator hx := by
    obtain ⟨x, hmem, hx⟩ := validator_join.mp hx
    exact validator_join.mpr ⟨x, h hmem, hx⟩
  env hx := by
    obtain ⟨x, hmem, hx⟩ := env_join.mp hx
    exact env_join.mpr ⟨x, h hmem, hx⟩
  loadTest hx := by
    obtain ⟨x, hmem, hx⟩ := loadTest_join.mp hx
    exact loadTest_join.mpr ⟨x, h hmem, hx⟩

/-- **What one case asks for**: the validator for a response that it validates, the environment when
its operation is secured, and the load tester for its load test. -/
def ofCase (secured : Bool) (t : TestCase) : Imports :=
  ⟨t.validates, secured, t.loadTest.isSome⟩

end Imports

namespace RunContext

/-- **The context after a case**: only its imports grow, by what the case asks for. -/
def after (context : RunContext) (t : TestCase) : RunContext :=
  { context with imports := context.imports.or (.ofCase context.isSecured t) }

/-- Both notes that a case leaves are together what it asks for. -/
theorem noteImports_noteLoadTest (context : RunContext) (t : TestCase) :
    (context.noteLoadTest t).noteImports t.validates = context.after t := rfl

end RunContext

namespace Description

/-- Whether an operation has security requirements, its own or those of the document. -/
def isSecured (api : Description) (path : String) (method : Method) : Bool :=
  match api.operation path method with
  | .ok operation => !(RunContext.inherit operation.security api.security).isEmpty
  | .error _ => false

/-- **Secured operations** are those that are left with a requirement once the document's own have been
taken over. -/
theorem isSecured_iff {api : Description} {path : String} {method : Method} :
    api.isSecured path method = true ↔ ∃ operation, api.operation path method = .ok operation ∧
      RunContext.inherit operation.security api.security ≠ [] := by
  rw [isSecured]
  cases api.operation path method <;> simp

/-- The context that adopts an operation knows whether it is secured, whatever was adopted before. -/
theorem isSecured_of_operation {api : Description} {path : String} {method : Method}
    {operation : Operation} (h : api.operation path method = .ok operation)
    (context : RunContext) :
    api.isSecured path method = (context.adopt api operation).isSecured := by
  rw [isSecured, h]
  rfl

end Description

end ApiScaffold
