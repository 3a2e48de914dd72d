import ApiScaffold.Script.Assertion
import ApiScaffold.Script.Line

/-!
# Scripts for `request`

Each test makes one call with an options object that holds the full URL, and checks the response in a
callback. `Script.Request.path` and `Script.Request.sequence` give the lines of whole files.
-/

namespace ApiScaffold.Script.Request

/-- The fields of the headers. -/
def headerFields (t : TestCase) : List String :=
  [field "Content-Type" (singleQuoted t.contentType)] ++
    (match t.credentials.authorization with
      | some s => ["Authorization: " ++ authorizationCode s ++ ","]
      | none => []) ++
    (match t.credentials.headerKey with
      | some k => [field k.key (variableCode k.variableName)]
      | none => []) ++
    t.parameters.header.map fun p => openField p.name

/-- **Options** of the call of a case; only paths send forms. -/
def options (depth : Nat) (withForm : Bool) (t : TestCase) : Lines :=
  [indented depth ("url: " ++ t.requestPath.code ++ ",")] ++
    group depth "qs: \x7b" (queryFields t) "\x7d," ++
    [indented depth ("method: " ++ singleQuoted t.method.verb ++ ",")] ++
    group depth "headers: \x7b" (headerFields t) "\x7d," ++
    linesIf withForm (group depth "form: \x7b" (formFields t) "\x7d,") ++
    group depth "json: \x7b" (valueFields t.bodyValues) "\x7d,"

/-- The call of a case, up to the start of its callback. -/
def call (depth : Nat) (withForm : Bool) (t : TestCase) : Lines :=
  schemaLines depth t ++ [indented depth "request(\x7b"] ++ options (depth + 2) withForm t ++
    [indented depth "\x7d,", indented depth "function(error, res, body) \x7b"]

/-- The call that a load test makes. -/
def loadTarget (t : TestCase) : Lines :=
  [indented 10 "request(\x7b", indented 12 ("url: " ++ t.requestPath.code ++ ","),
    indented 12 ("method: " ++ singleQuoted t.method.verb), indented 10 "\x7d, callback);"]

/-- **A test.** -/
def test (style : AssertionStyle) (t : TestCase) : Lines :=
  [testLine 4 (caseTitle t)] ++ call 6 true t ++
    [indented 8 "if (error) return done(error);", "",
      indented 8 (t.statusAssertion style "res.statusCode"), "",
      indented 8 (t.bodyAssertion style "body"), indented 8 "done();", indented 6 "\x7d);",
      indented 4 "\x7d);"] ++
    match t.loadTest with
    | some l => loadTestLines l (loadTarget t)
    | none => []

/-- **A step**, without the last line of its function. -/
def step (style : AssertionStyle) (t : TestCase) : Lines :=
  [indented 6 "function(cb) \x7b"] ++ call 8 false t ++ stepErrorLines 10 "error" t ++
    ["", indented 10 (t.statusAssertion style "res.statusCode"), "",
      indented 10 (t.bodyAssertion style "body"), "",
      keepLine 10 t "typeof body === 'string' ? JSON.parse(body) : body",
      indented 10 "cb(null);", indented 8 "\x7d);"]

/-- The first lines of a path's file. -/
def pathHead (style : AssertionStyle) (block : PathBlock) : Lines :=
  [strict, importLine "chai" "chai"] ++ validatorLines block.imports ++
    [importLine "request" "request"] ++ loadTesterLines block.imports ++ ["", style.setup] ++
    environmentLines block.imports

/-- **File of a path.** -/
def path (style : AssertionStyle) (block : PathBlock) : Lines :=
  pathSuite block (pathHead style block) (test style)

/-- The first lines of a sequence's file. -/
def sequenceHead (style : AssertionStyle) (block : SequenceBlock) : Lines :=
  [strict, importLine "async" "async", importLine "chai" "chai"] ++
    validatorLines block.imports ++
    [importLine "request" "request", "var deps = \x7b\x7d;", "", style.setup] ++
    environmentLines block.imports

/-- **File of a sequence.** -/
def sequence (style : AssertionStyle) (block : SequenceBlock) : Lines :=
  sequenceSuite block (sequenceHead style block) (step style)

end ApiScaffold.Script.Request
