import ApiScaffold.Config.Basic
import ApiScaffold.Description.Basic
import ApiScaffold.Expression
import ApiScaffold.Json.Printer

/-!
# Test suites

What is rendered: a test case is one response of one operation with everything its request sends, an
operation block holds the cases of an operation, and a block is what one file is made of. A block also
says which imports its file needs.
-/

namespace ApiScaffold

/-- The content type of JSON. -/
def jsonType : String := "application/json"

/-- The response key of all codes that are not declared. -/
def defaultResponse : String := "default"

/-- **Parameters by location.** -/
structure ParameterBuckets where
  path : List Parameter := []
  query : List Parameter := []
  header : List Parameter := []
  formData : List Parameter := []
  body : List Parameter := []
  deriving BEq, Repr, Inhabited

/-- How the `Authorization` header starts. -/
inductive AuthScheme where
  | basic
  | bearer
  deriving DecidableEq, Repr, Inhabited

namespace AuthScheme

/-- The first word of the header. -/
def name : AuthScheme → String
  | .basic => "Basic"
  | .bearer => "Bearer"

end AuthScheme

/-- The credential of the `Authorization` header; an environment variable holds it. -/
structure HeaderSecurity where
  variableName : String
  scheme : AuthScheme
  deriving DecidableEq, Repr, Inhabited

/-- A key sent as a query parameter or header of its own. -/
structure KeyCredential where
  variableName : String
  key : String
  deriving DecidableEq, Repr, Inhabited

/-- **Credentials** of a request, at most one in each place. -/
structure Credentials where
  authorization : Option HeaderSecurity := none
  queryKey : Option KeyCredential := none
  headerKey : Option KeyCredential := none
  deriving DecidableEq, Repr, Inhabited

/-- The load test of a test case. -/
structure LoadTest where
  name : String
  requests : UInt32
  concurrent : UInt32
  deriving DecidableEq, Repr, Inhabited

/-- What a test case knows about the step that it is. -/
structure StepInfo where
  step : String
  deps : Dependencies
  deriving DecidableEq, Repr, Inhabited

/-- **A test case**: a response of an operation, with a type for the request and one for the
response. -/
structure TestCase where
  path : String
  method : Method
  responseCode : String
  /-- The code followed by the declared description of the response. -/
  description : String
  /-- The description on one line, within the limit. -/
  summary : String
  contentType : String
  returnType : String
  schema : Option Json
  parameters : ParameterBuckets
  credentials : Credentials
  requestPath : ResolvedPath
  requestKey : String
  queryValues : List ResolvedValue
  bodyValues : List ResolvedValue
  loadTest : Option LoadTest
  step : Option StepInfo
  deriving BEq, Repr, Inhabited

namespace TestCase

/-- Whether the case covers the codes that are not declared. -/
def isDefault (t : TestCase) : Bool := t.responseCode = defaultResponse

/-- Whether the response has a schema. -/
def hasSchema (t : TestCase) : Bool := t.schema.isSome

/-- The text of the schema. -/
def schemaText (t : TestCase) : Option String := t.schema.map Json.pretty

/-- **Validated cases**: a schema is checked only against JSON. -/
def validates (t : TestCase) : Bool := t.hasSchema && t.returnType = jsonType

end TestCase

/-- **Imports** that a file needs. -/
structure Imports where
  validator : Bool := false
  env : Bool := false
  loadTest : Bool := false
  deriving DecidableEq, Repr, Inhabited

/-- The cases of an operation. -/
structure OperationBlock where
  method : Method
  tests : List TestCase
  deriving BEq, Repr, Inhabited

/-- **The block of a path.** -/
structure PathBlock where
  path : String
  scheme : String
  host : String
  operations : List OperationBlock
  imports : Imports
  deriving BEq, Repr, Inhabited

namespace PathBlock

/-- All cases of a path. -/
def tests (block : PathBlock) : List TestCase := block.operations.flatMap (·.tests)

end PathBlock

/-- **The block of a sequence**, steps in order. -/
structure SequenceBlock where
  name : String
  scheme : String
  host : String
  steps : List TestCase
  imports : Imports
  deriving BEq, Repr, Inhabited

/-- **The block of an environment file**: the names of its variables. -/
structure EnvironmentBlock where
  variableNames : List String
  deriving DecidableEq, Repr, Inhabited

/-- **What one file is made of.** -/
inductive Block where
  | path (block : PathBlock)
  | sequence (block : SequenceBlock)
  | environment (block : EnvironmentBlock)
  deriving BEq, Repr, Inhabited

end ApiScaffold
