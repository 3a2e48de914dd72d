import ApiScaffold.Proofs.Path.Run
import Mathlib.Data.List.Count
import Mathlib.Data.List.ProdSigma

/-!
# What an operation covers

The cases of an operation cover each of its responses with each request type and each response type, in
this order. Where the operation lists no types of a kind, those of the document take their place, and
where that lists none either, JSON does (`OperationBlock.typesOf`); the two kinds are settled apart. So
the combinations are a product of three lists, and their number and multiplicities are those of the
product, whatever the context was before.
-/

namespace ApiScaffold

namespace OperationBlock

variable {api : Description} {config : RunConfig} {path : String} {method : Method}

/-- **Types to cover**: the first list that has any, of the operation's own and the document's, and JSON
alone if neither has. -/
def typesOf (own shared : List String) : List String :=
  ([own, shared].find? fun types => types ≠ []).getD [jsonType]

theorem typesOrJson_inherit (own shared : List String) :
    typesOrJson (RunContext.inherit own shared) = typesOf own shared := by
  cases own <;> cases shared <;> rfl

/-! ### Combinations -/

/-- The request for a response code, a request type and a response type. -/
def requestFor (path : String) (method : Method) : String × String × String → CaseRequest
  | (code, contentType, returnType) => ⟨path, method, code, contentType, returnType, none⟩

/-- **Combinations of an operation**: the product of its response codes, request types and response
types. -/
def combinations (api : Description) (operation : Operation) : List (String × String × String) :=
  operation.responses.names ×ˢ typesOf operation.consumes api.consumes ×ˢ
    typesOf operation.produces api.produces

theorem requests_eq_map (codes consumes produces : List String) :
    requests path method codes consumes produces =
      (codes ×ˢ consumes ×ˢ produces).map (requestFor path method) := by
  simp only [requests, SProd.sprod, List.product, List.map_flatMap, List.map_map]
  rfl

/-- Each request of an operation is that for one of its combinations. -/
theorem requestsOf_eq_map (operation : Operation) : requestsOf api path method operation =
    (combinations api operation).map (requestFor path method) := by
  rw [requestsOf, typesOrJson_inherit, typesOrJson_inherit, requests_eq_map, combinations]

/-- A pair stands in a product as often as its parts stand in the factors together. -/
theorem count_product {α β : Type} [BEq α] [LawfulBEq α] [BEq β] [LawfulBEq β] (xs : List α)
    (ys : List β) (x : α) (y : β) : (xs ×ˢ ys).count (x, y) = xs.count x * ys.count y := by
  have hrow (z : α) : (ys.map fun b => (z, b)).count (x, y) =
      if z == x then ys.count y else 0 := by
    by_cases hz : z = x
    · subst hz
      rw [List.count_map_of_injective ys _ (fun _ _ => congrArg Prod.snd)]
      simp
    · rw [List.count_eq_zero.mpr (by simp [hz])]
      simp [hz]
  induction xs with
  | nil => simp
  | cons z rest ih =>
    rw [List.product_cons, List.count_append, ih, hrow, List.count_cons, Nat.add_mul, Nat.add_comm]
    split <;> simp

/-! ### Cases -/

/-- What a case covers is what it was asked for. -/
theorem coverage_of_build {security : List SecurityRequirement} {request : CaseRequest}
    {t : TestCase} (h : TestCase.build api config security request = .ok t) :
    (t.responseCode, t.contentType, t.returnType) =
      (request.responseCode, request.contentType, request.returnType) := by
  obtain ⟨_, _, _, _, rfl⟩ := TestCase.assembled_of_build h
  rfl

/-- **An operation covers its combinations**, each of them once for each time that its types are listed. -/
theorem build_covers_product {context : RunContext} {block : OperationBlock}
    (h : (build api config path method context).1 = .ok block) :
    ∃ operation, api.operation path method = .ok operation ∧
      block.tests.map (fun t => (t.responseCode, t.contentType, t.returnType)) =
        combinations api operation ∧
      block.tests.length = operation.responses.length *
        (typesOf operation.consumes api.consumes).length *
          (typesOf operation.produces api.produces).length ∧
      (∀ code contentType returnType,
        (combinations api operation).count (code, contentType, returnType) =
          operation.responses.names.count code *
            (typesOf operation.consumes api.consumes).count contentType *
              (typesOf operation.produces api.produces).count returnType) ∧
      List.Forall₂ (fun combination t => ∀ other : RunContext,
        ((other.adopt api operation).build api config (requestFor path method combination)).1 =
          .ok t) (combinations api operation) block.tests := by
  obtain ⟨⟨-, operation, hoperation, hcases⟩, -⟩ := build_eq_ok.mp ⟨_, Prod.ext h rfl, rfl⟩
  rw [requestsOf_eq_map, List.forall₂_map_left_iff] at hcases
  have hcovered : block.tests.map (fun t => (t.responseCode, t.contentType, t.returnType)) =
      combinations api operation := by
    rw [eq_comm, ← List.forall₂_eq_eq_eq, List.forall₂_map_right_iff]
    exact hcases.imp fun _ _ ht => (coverage_of_build ht).symm
  refine ⟨operation, hoperation, hcovered, ?_, ?_, ?_⟩
  · rw [← List.length_map, hcovered, combinations, List.length_product, List.length_product,
      Entries.names, List.length_map, Nat.mul_assoc]
  · intro code contentType returnType
    rw [combinations, count_product, count_product, Nat.mul_assoc]
  · refine hcases.imp fun combination t ht other => ?_
    rw [RunContext.build_fst]
    exact ht

/-- A response type that the document lists twice counts twice, and JSON stands in for request types, which
neither the operation nor the document lists. -/
theorem build_covers_product_reports :
    let operation : Operation := { responses := [("200", {}), ("default", {})] }
    let item : PathItem := { operations := [(.get, operation)] }
    let api : Description := { produces := ["text/csv", "text/csv"], paths := [("/reports", item)] }
    ∃ block, (build api {} "/reports" .get {}).1 = .ok block ∧
      block.tests.map (fun t => (t.responseCode, t.contentType, t.returnType)) =
        [("200", jsonType, "text/csv"), ("200", jsonType, "text/csv"),
          ("default", jsonType, "text/csv"), ("default", jsonType, "text/csv")] ∧
      block.tests.length = 4 := by
  intro operation item api
  have hbuilt : ∃ block, (build api {} "/reports" .get {}).1 = .ok block := ⟨_, rfl⟩
  obtain ⟨block, h⟩ := hbuilt
  obtain ⟨o, ho, hcovered, hlength, -⟩ := build_covers_product h
  obtain rfl : operation = o := Except.ok.inj ho
  exact ⟨block, h, hcovered, hlength⟩

end OperationBlock

end ApiScaffold
