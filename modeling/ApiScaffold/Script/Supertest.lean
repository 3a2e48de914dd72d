import ApiScaffold.Script.Assertion
import ApiScaffold.Script.Line

/-!
# Scripts for `supertest`

Each test chains calls on the API under test, which is set up once with the origin, and checks the
response at the end. `Script.Supertest.path` and `Script.Supertest.sequence` give the lines of whole
files.
-/

namespace ApiScaffold.Script.Supertest

/-- The call that sets a header. -/
def setCall (name code : String) : String := ".set(" ++ singleQuoted name ++ ", " ++ code ++ ")"

/-- The calls that set the headers which carry credentials, the declared headers and the accepted
type. -/
def headerCalls (t : TestCase) : List String :=
  (match t.credentials.authorization with
    | some s => [setCall "Authorization" (authorizationCode s)]
    | none => []) ++
    (match t.credentials.headerKey with
      | some k => [setCall k.key (variableCode k.variableName)]
      | none => []) ++
    (t.parameters.header.map fun p => setCall p.name Expression.missingCode) ++
    [setCall "Accept" (singleQuoted t.returnType)]

/-- The call that makes the request of a case. -/
def requestCall (t : TestCase) : String :=
  "api." ++ t.method.key ++ "(" ++ t.requestPath.code ++ ")"

/-- The request of a case with its query and headers. -/
def request (depth : Nat) (t : TestCase) : Lines :=
  schemaLines depth t ++ [indented depth (requestCall t)] ++
    group depth ".query(\x7b" (queryFields t) "\x7d)" ++
    (headerCalls t).map (indented depth)

/-- **Body of a test**: the form if there is one, and the body values otherwise. -/
def body (depth : Nat) (t : TestCase) : Lines :=
  if !t.parameters.formData.isEmpty then
    [indented depth ".type('form')"] ++ group depth ".send(\x7b" (formFields t) "\x7d)"
  else if !t.bodyValues.isEmpty then
    [indented depth (setCall "Content-Type" (singleQuoted t.contentType))] ++
      group depth ".send(\x7b" (valueFields t.bodyValues) "\x7d)"
  else []

/-- The call that expects a status. -/
def expectCall (t : TestCase) : String := ".expect(" ++ t.responseCode ++ ")"

/-- **A test.** -/
def test (style : AssertionStyle) (t : TestCase) : Lines :=
  [testLine 4 (caseTitle t)] ++ request 6 t ++ body 6 t ++
    linesIf (!t.isDefault) [indented 6 (expectCall t)] ++
    [indented 6 ".end(function(err, res) \x7b", indented 8 "if (err) return done(err);"] ++
    linesIf t.isDefault ["", indented 8 (t.statusAssertion style "res.statusCode")] ++
    ["", indented 8 (t.bodyAssertion style "res.body"), indented 8 "done();", indented 6 "\x7d);",
      indented 4 "\x7d);"] ++
    match t.loadTest with
    | some l => loadTestLines l [indented 10 (requestCall t ++ ".end(callback);")]
    | none => []

/-- **A step**, without the last line of its function. -/
def step (style : AssertionStyle) (t : TestCase) : Lines :=
  [indented 6 "function(cb) \x7b"] ++ request 8 t ++
    group 8 ".send(\x7b" (valueFields t.bodyValues) "\x7d)" ++
    [indented 8 (expectCall t), indented 8 ".end(function(err, res) \x7b"] ++
    stepErrorLines 10 "err" t ++
    ["", indented 10 (t.bodyAssertion style "res.body"), "", keepLine 10 t "res.body",
      indented 10 "cb(null);", indented 8 "\x7d);"]

/-- The line that sets the API up with its origin. -/
def apiLine (scheme host : String) : String :=
  "var api = supertest('" ++ scheme ++ "://" ++ host ++ "'); // supertest init;"

/-- The first lines of a path's file. -/
def pathHead (style : AssertionStyle) (block : PathBlock) : Lines :=
  [strict, importLine "chai" "chai"] ++ validatorLines block.imports ++
    [importLine "supertest" "supertest", apiLine block.scheme block.host] ++
    loadTesterLines block.imports ++ ["", style.setup] ++ environmentLines block.imports

/-- **File of a path.** -/
def path (style : AssertionStyle) (block : PathBlock) : Lines :=
  pathSuite block (pathHead style block) (test style)

/-- The first lines of a sequence's file. -/
def sequenceHead (style : AssertionStyle) (block : SequenceBlock) : Lines :=
  [strict, importLine "async" "async", importLine "chai" "chai"] ++
    validatorLines block.imports ++
    [importLine "supertest" "supertest", apiLine block.scheme block.host,
      "var deps = \x7b\x7d;", "", style.setup] ++
    environmentLines block.imports

/-- **File of a sequence.** -/
def sequence (style : AssertionStyle) (block : SequenceBlock) : Lines :=
  sequenceSuite block (sequenceHead style block) (step style)

end ApiScaffold.Script.Supertest
