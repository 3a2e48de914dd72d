import ApiScaffold.Build.TestCase

/-!
# Building an operation

An operation has one test case for each of its responses, each of its request types and each of its
response types, in that order. JSON stands in for a list of types that is empty.
-/

namespace ApiScaffold.OperationBlock

/-- The types to cover. -/
def typesOrJson (types : List String) : List String :=
  if types.isEmpty then [jsonType] else types

/-- **Requests of an operation**: the product of its responses, request types and response types. -/
def requests (path : String) (method : Method) (codes consumes produces : List String) :
    List CaseRequest :=
  codes.flatMap fun code =>
    consumes.flatMap fun contentType =>
      produces.map fun returnType => ⟨path, method, code, contentType, returnType, none⟩

/-- Builds cases one after the other, up to the first fault. -/
def buildTests (api : Description) (config : RunConfig) :
    List CaseRequest → RunContext → Built (List TestCase) × RunContext
  | [], context => (.ok [], context)
  | request :: rest, context =>
    match context.build api config request with
    | (.error fault, context) => (.error fault, context)
    | (.ok t, context) =>
      let (tests, context) := buildTests api config rest (context.noteImports t.validates)
      (tests.map (t :: ·), context)

/-- **Block of an operation**, and the context after it. -/
def build (api : Description) (config : RunConfig) (path : String) (method : Method)
    (context : RunContext) : Built OperationBlock × RunContext :=
  match api.operation path method with
  | .error fault => (.error fault, context)
  | .ok operation =>
    let context := context.adopt api operation
    let (tests, context) :=
      buildTests api config
        (requests path method operation.responses.names (typesOrJson context.consumes)
          (typesOrJson context.produces))
        context
    (tests.map fun tests => ⟨method, tests⟩, context)

end ApiScaffold.OperationBlock
