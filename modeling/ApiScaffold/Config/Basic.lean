import ApiScaffold.Method
import ApiScaffold.Resolution

/-!
# Run configurations

A run configuration says which dialect and assertion style the tests are written in, which paths and
sequences they cover, which values requests carry, how wide a description may be, and which
operations also get a load test. Everything has a default, so the empty configuration is one.
-/

namespace ApiScaffold

/-- **Dialect** of the generated tests: calls of `request` with a full URL, or fluent calls of
`supertest` with a path. -/
inductive TestModule where
  | request
  | supertest
  deriving DecidableEq, Repr, Inhabited

namespace TestModule

/-- The dialects. -/
def all : List TestModule := [.request, .supertest]

/-- The name of a dialect. -/
def name : TestModule → String
  | .request => "request"
  | .supertest => "supertest"

/-- The dialect of a name. -/
def ofName? (name : String) : Option TestModule := all.find? fun m => m.name = name

/-- Whether requests need scheme and host in their URL. -/
def needsOrigin : TestModule → Bool
  | .request => true
  | .supertest => false

end TestModule

/-- **Assertion style** of the generated tests. -/
inductive AssertionStyle where
  | should
  | expect
  | assert
  deriving DecidableEq, Repr, Inhabited

namespace AssertionStyle

/-- The assertion styles. -/
def all : List AssertionStyle := [.should, .expect, .assert]

/-- The name of an assertion style. -/
def name : AssertionStyle → String
  | .should => "should"
  | .expect => "expect"
  | .assert => "assert"

/-- The assertion style of a name. -/
def ofName? (name : String) : Option AssertionStyle := all.find? fun s => s.name = name

end AssertionStyle

/-- The load of a load test, as far as it is given. -/
structure LoadSettings where
  requests : Option UInt32 := none
  concurrent : Option UInt32 := none
  deriving DecidableEq, Repr, Inhabited

namespace LoadSettings

/-- Requests of a load test that does not say how many. -/
def defaultRequests : UInt32 := 1000

/-- Concurrent requests of a load test that does not say how many. -/
def defaultConcurrent : UInt32 := 100

/-- How many requests a load test makes. -/
def requestCount (load : LoadSettings) : UInt32 := load.requests.getD defaultRequests

/-- How many requests are under way at once. -/
def concurrentCount (load : LoadSettings) : UInt32 := load.concurrent.getD defaultConcurrent

end LoadSettings

/-- **An operation to load-test.** -/
structure LoadTestEntry where
  pathName : String
  operation : Method
  load : LoadSettings := {}
  deriving DecidableEq, Repr, Inhabited

/-- **A step of a sequence**: an operation under a label, with the fields that it draws from the
responses to earlier steps. -/
structure SequenceStep where
  step : String
  path : String
  operation : Method
  deps : Dependencies := []
  deriving DecidableEq, Repr, Inhabited

/-- **A run configuration.** `pathNames` selects paths, and selects all when it is empty; the query
and body values are kept by request key. -/
structure RunConfig where
  testModule : TestModule := .supertest
  assertionFormat : AssertionStyle := .should
  pathNames : List String := []
  pathParams : ValuePool := []
  queryVals : Entries ValuePool := []
  bodyVals : Entries ValuePool := []
  maxLen : Option UInt64 := none
  loadTest : List LoadTestEntry := []
  sequences : Entries (List SequenceStep) := []
  deriving BEq, Repr, Inhabited

namespace RunConfig

/-- The width of a description line in a configuration that gives none. -/
def defaultWidth : Nat := 80

/-- The part of the width that the text around a description takes. -/
def widthMargin : Nat := 50

/-- **Limit of a description**: the configured width, where zero counts as none, without the
margin. -/
def descriptionLimit (config : RunConfig) : Nat :=
  let width :=
    match config.maxLen with
    | some n => if n = 0 then defaultWidth else n.toNat
    | none => defaultWidth
  width - widthMargin

/-- Whether requests need scheme and host in their URL. -/
def needsOrigin (config : RunConfig) : Bool := config.testModule.needsOrigin

/-- The query values of a request key. -/
def queryValues (config : RunConfig) (key : String) : Option ValuePool := config.queryVals.get? key

/-- The body values of a request key. -/
def bodyValues (config : RunConfig) (key : String) : Option ValuePool := config.bodyVals.get? key

/-- The first load test of exactly this path and method. -/
def loadTestFor (config : RunConfig) (path : String) (method : Method) : Option LoadTestEntry :=
  config.loadTest.find? fun entry => entry.pathName = path && entry.operation = method

end RunConfig

end ApiScaffold
