import ApiScaffold.Build.Context
import ApiScaffold.Proofs.Description.Declared
import ApiScaffold.Proofs.TestCase

/-!
# What an operation takes over

While the cases of an operation are built, the context holds its types and its security, and where the
operation lists nothing, what the document lists. Followed back to the document, a list that an operation
declares empty is as good as none: the document's own takes its place, and with the security requirements
come their credentials.
-/

namespace ApiScaffold

/-! ### A small document -/

/-- A document with a key for every operation but its health check, which declares that it needs none. -/
def Data.healthCheck : Data :=
  .ofJson (.obj
    [("security", .arr [.obj [("key", .arr [])]]),
      ("securityDefinitions", .obj [("key",
        .obj [("type", .str "apiKey"), ("in", .str "header"), ("name", .str "X-Key")])]),
      ("paths", .obj [("/health", .obj [("get",
        .obj [("security", .arr []), ("responses", .obj [("200", .obj [])])])])])])

/-! ### Adopted lists -/

namespace DeclaredLists

/-- **Own lists before shared ones**, each of them where it has something in it. -/
def orElse (own shared : DeclaredLists) : DeclaredLists where
  consumes := if own.consumes = [] then shared.consumes else own.consumes
  produces := if own.produces = [] then shared.produces else own.produces
  security := if own.security = [] then shared.security else own.security

end DeclaredLists

namespace RunContext

theorem inherit_eq_ite {α : Type} [DecidableEq α] (own shared : List α) :
    inherit own shared = if own = [] then shared else own := by
  cases own <;> simp [inherit]

/-- The lists that a context holds. -/
def lists (context : RunContext) : DeclaredLists :=
  ⟨context.consumes, context.produces, context.security⟩

theorem lists_adopt (context : RunContext) (api : Description) (operation : Operation) :
    (context.adopt api operation).lists = operation.lists.orElse api.lists := by
  simp only [lists, adopt, inherit_eq_ite]
  rfl

/-- **Declared lists are adopted unless they are empty.** Where a document decodes, each operation object
in it stands for an operation. In every context that has adopted the operation, the lists are those that
the object declares, except that one that is declared empty counts as not declared: then it is the
document's, whether that is declared or empty itself. The credentials of a case are placed by the
requirements adopted in this way. -/
theorem adopt_declared {document : Data} {api : Description}
    (h : Description.decode document = .ok api) {path : String} {m : Method} {object : Json}
    (hobject : Description.operationObject? document path m = some object) :
    ∃ operation own shared, api.operation path m = .ok operation ∧
      (Data.ofJson object).DeclaresLists Operation.fieldNames own ∧
      document.DeclaresLists Description.fieldNames shared ∧
      ∀ context : RunContext, (context.adopt api operation).lists = own.orElse shared ∧
        ∀ config request t,
          ((context.adopt api operation).build api config request).1 = .ok t →
            t.credentials.PlacedFrom api (Credentials.namesOf (own.orElse shared).security) := by
  obtain ⟨operation, hoperation, hdecode⟩ := Description.exists_operation_of_object h hobject
  refine ⟨operation, operation.lists, api.lists, hoperation,
    Operation.declaresLists_of_decode hdecode, Description.declaresLists_of_decode h,
    fun context => ⟨lists_adopt context api operation, ?_⟩⟩
  intro config request t ht
  rw [build_fst] at ht
  rw [← lists_adopt context]
  exact TestCase.placedFrom_of_build ht

/-- The health check takes over the key of the document. -/
theorem adopt_declared_healthCheck :
    ∃ api object operation, Description.decode .healthCheck = .ok api ∧
      Description.operationObject? .healthCheck "/health" .get = some object ∧
      api.operation "/health" .get = .ok operation ∧
      ∃ own shared, (Data.ofJson object).DeclaresLists Operation.fieldNames own ∧
        Data.healthCheck.DeclaresLists Description.fieldNames shared ∧
        (({} : RunContext).adopt api operation).lists = own.orElse shared := by
  have hdecode : ∃ api, Description.decode .healthCheck = .ok api := ⟨_, rfl⟩
  have hobject : ∃ object, Description.operationObject? .healthCheck "/health" .get = some object :=
    ⟨_, rfl⟩
  obtain ⟨api, h⟩ := hdecode
  obtain ⟨object, ho⟩ := hobject
  obtain ⟨operation, own, shared, hoperation, hown, hshared, hlists⟩ := adopt_declared h ho
  exact ⟨api, object, operation, h, ho, hoperation, own, shared, hown, hshared, (hlists {}).1⟩

/-- **A list that is declared empty does not win.** The health check declares that it needs no credentials,
and still its context holds the requirement of the document, and its case sends the key. -/
theorem exists_adopt_of_declared_empty :
    ∃ api object operation, Description.decode .healthCheck = .ok api ∧
      Description.operationObject? .healthCheck "/health" .get = some object ∧
      (Data.ofJson object).declared? Operation.fieldNames "security" = some (.seq .json []) ∧
      api.operation "/health" .get = .ok operation ∧
      (({} : RunContext).adopt api operation).security = [[("key", [])]] ∧
      ∃ t, ((({} : RunContext).adopt api operation).build api {}
          ⟨"/health", .get, "200", jsonType, jsonType, none⟩).1 = .ok t ∧
        t.credentials = { headerKey := some ⟨"KEY", "X-Key"⟩ } :=
  ⟨_, _, _, rfl, rfl, rfl, rfl, rfl, _, rfl, by decide +kernel⟩

end RunContext

end ApiScaffold
