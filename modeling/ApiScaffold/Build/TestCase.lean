import ApiScaffold.Build.Context
import ApiScaffold.Build.Credentials
import ApiScaffold.Build.Parameters
import ApiScaffold.Text.Summary

/-!
# Building a test case

A test case is asked for by a `CaseRequest`: a response of an operation, with one type for the request
and one for the response. `TestCase.build` needs of the context only the security requirements, and
`RunContext.build` is the same with the context threaded through: a fault leaves the context as it
was.
-/

namespace ApiScaffold

/-- **What a test case is asked for.** -/
structure CaseRequest where
  path : String
  method : Method
  responseCode : String
  contentType : String
  returnType : String
  /-- The step that the case is, if it belongs to a sequence. -/
  step : Option SequenceStep := none
  deriving DecidableEq, Repr, Inhabited

namespace CaseRequest

/-- The fields drawn from earlier steps. -/
def deps (request : CaseRequest) : Dependencies := (request.step.map (·.deps)).getD []

end CaseRequest

namespace TestCase

/-- **URL of a path**: base path and path, after the origin where the dialect needs it. -/
def requestUrl (api : Description) (config : RunConfig) (path : String) : String :=
  (if config.needsOrigin then api.origin else "") ++ api.basePathPrefix ++ path

/-- **Names that a body parameter stands for**: the properties of its schema, or its own name where
there are none. -/
def bodyNames (api : Description) (p : Parameter) : Built (List String) :=
  match p.schema with
  | none => .ok [p.name]
  | some schema => do
    let names := Resolution.objectFields (← api.resolveSchema schema)
    return if names.isEmpty then [p.name] else names

/-- The values of a body. -/
def bodyValuesOf (api : Description) (pool : ValuePool) (deps : Dependencies)
    (ps : List Parameter) : Built (List ResolvedValue) := do
  let names ← ps.mapM (bodyNames api)
  return names.flatten.map fun name => Resolution.value name pool deps

/-- The name of a load test. -/
def loadTestName (path : String) (method : Method) : String :=
  String.ofList (path.toList.map fun c => if c = '/' then '_' else c) ++ "_" ++ method.key ++
    "_load_test"

/-- The load test that a configuration asks for. -/
def loadTestOf (config : RunConfig) (path : String) (method : Method) : Option LoadTest :=
  (config.loadTestFor path method).map fun entry =>
    ⟨loadTestName path method, entry.load.requestCount, entry.load.concurrentCount⟩

/-- The declared response that a request asks for. -/
def response (operation : Operation) (request : CaseRequest) : Built Response :=
  match operation.responses.get? request.responseCode with
  | some response => .ok response
  | none =>
    .error
      (.description (.undeclaredResponse request.responseCode request.method request.path))

/-- The test case with everything that a request sends, once its response, parameters, credentials and
body values are known. -/
def assemble (api : Description) (config : RunConfig) (request : CaseRequest)
    (response : Response) (parameters : ParameterBuckets) (credentials : Credentials)
    (bodyValues : List ResolvedValue) : TestCase :=
  let key := Resolution.requestKey api.basePathPrefix request.path
  let description := request.responseCode ++ " " ++ response.description
  { path := request.path
    method := request.method
    responseCode := request.responseCode
    description
    summary := Text.truncate (Text.collapse description) config.descriptionLimit
    contentType := request.contentType
    returnType := request.returnType
    schema := response.schema
    parameters
    credentials
    requestPath :=
      Resolution.path (requestUrl api config request.path) config.pathParams request.deps
    requestKey := key
    queryValues :=
      parameters.query.map fun p =>
        Resolution.value p.name ((config.queryValues key).getD []) request.deps
    bodyValues
    loadTest := loadTestOf config request.path request.method
    step := request.step.map fun step => ⟨step.step, step.deps⟩ }

/-- **Test case** of a request, under the security requirements of its operation. The checks come in
this order: path, operation, response, parameters, credentials, body schemas. -/
def build (api : Description) (config : RunConfig) (security : List SecurityRequirement)
    (request : CaseRequest) : Built TestCase := do
  let item ← api.pathItem request.path
  let operation ← api.operation request.path request.method
  let response ← response operation request
  let parameters ← ParameterBuckets.merge api item operation
  let credentials ← Credentials.ofRequirements api security
  let key := Resolution.requestKey api.basePathPrefix request.path
  let bodyValues ←
    bodyValuesOf api ((config.bodyValues key).getD []) request.deps parameters.body
  return assemble api config request response parameters credentials bodyValues

end TestCase

namespace RunContext

/-- **Test case in a context**, and the context after it. -/
def build (context : RunContext) (api : Description) (config : RunConfig)
    (request : CaseRequest) : Built TestCase × RunContext :=
  match TestCase.build api config context.security request with
  | .ok t => (.ok t, context.noteLoadTest t)
  | .error fault => (.error fault, context)

end RunContext

end ApiScaffold
