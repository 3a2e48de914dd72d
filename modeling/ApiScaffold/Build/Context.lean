import ApiScaffold.Suite.Basic

/-!
# The context of a path or sequence

While the operations of a path or the steps of a sequence are built, a context goes from one to the
next. It holds what the current operation takes over from the document, and the imports that the cases
built so far need.
-/

namespace ApiScaffold

/-- **Context** of building. -/
structure RunContext where
  imports : Imports := {}
  /-- The request types of the current operation. -/
  consumes : List String := []
  /-- The response types of the current operation. -/
  produces : List String := []
  /-- The security requirements of the current operation. -/
  security : List SecurityRequirement := []
  deriving DecidableEq, Repr, Inhabited

namespace RunContext

/-- A list of the operation, or that of the document where the operation has none. -/
def inherit {α : Type} (own shared : List α) : List α := if own.isEmpty then shared else own

/-- **Adoption** of an operation: its types and security, each with the document's list in place of
an empty one. -/
def adopt (context : RunContext) (api : Description) (operation : Operation) : RunContext :=
  { context with
    consumes := inherit operation.consumes api.consumes
    produces := inherit operation.produces api.produces
    security := inherit operation.security api.security }

/-- Whether the current operation has a security requirement. -/
def isSecured (context : RunContext) : Bool := !context.security.isEmpty

/-- The context after a case: a load test needs its import. -/
def noteLoadTest (context : RunContext) (t : TestCase) : RunContext :=
  { context with
    imports := { context.imports with loadTest := context.imports.loadTest || t.loadTest.isSome } }

/-- The context after a case that may need the validator: secured cases need the environment. -/
def noteImports (context : RunContext) (validates : Bool) : RunContext :=
  { context with
    imports :=
      { context.imports with
        validator := context.imports.validator || validates
        env := context.imports.env || context.isSecured } }

end RunContext

end ApiScaffold
