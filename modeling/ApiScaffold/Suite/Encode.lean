import ApiScaffold.Description.Encode
import ApiScaffold.Suite.Basic

/-!
# JSON values of test suites

The JSON value of every part of a suite. Templates look their values up in it, so the keys are part of
what a template may say: a case is written flat, with every derived field in place.
-/

namespace ApiScaffold

/-- The JSON value of an expression. -/
def Expression.toJson : Expression → Json
  | .literal v => .obj [("kind", .str "literal"), ("value", v)]
  | .dependency step field =>
    .obj [("kind", .str "dependency"), ("step", .str step), ("field", .str field)]
  | .missing => .obj [("kind", .str "missing")]

/-- The JSON value of a named value. -/
def ResolvedValue.toJson (v : ResolvedValue) : Json :=
  .obj [("name", .str v.name), ("expression", v.expression.toJson), ("code", .str v.code)]

/-- The JSON value of a piece of a path. -/
def PathSegment.toJson : PathSegment → Json
  | .text t => .obj [("kind", .str "text"), ("text", .str t)]
  | .placeholder name e =>
    .obj [("kind", .str "placeholder"), ("name", .str name), ("expression", e.toJson)]

/-- The JSON value of a path. -/
def ResolvedPath.toJson (path : ResolvedPath) : Json :=
  .obj [("segments", .arr (path.segments.map PathSegment.toJson)), ("code", .str path.code)]

/-- The JSON value of parameters by location. -/
def ParameterBuckets.toJson (b : ParameterBuckets) : Json :=
  let bucket (ps : List Parameter) : Json := .arr (ps.map Parameter.toJson)
  .obj [("path", bucket b.path), ("query", bucket b.query), ("header", bucket b.header),
    ("form_data", bucket b.formData), ("body", bucket b.body)]

/-- The JSON value of the credential of the `Authorization` header. -/
def HeaderSecurity.toJson (s : HeaderSecurity) : Json :=
  .obj [("name", .str s.variableName), ("type", .str s.scheme.name)]

/-- The JSON value of a key. -/
def KeyCredential.toJson (c : KeyCredential) : Json :=
  .obj [("name", .str c.variableName), ("type", .str c.key)]

/-- The JSON value of a load test. -/
def LoadTest.toJson (l : LoadTest) : Json :=
  .obj [("name", .str l.name), ("requests", .int l.requests.toNat),
    ("concurrent", .int l.concurrent.toNat)]

/-- The JSON value of a step. -/
def StepInfo.toJson (s : StepInfo) : Json :=
  .obj [("step", .str s.step), ("deps", .obj (s.deps.mapValues Json.strings))]

/-- **JSON value** of a test case. -/
def TestCase.toJson (t : TestCase) : Json :=
  .obj [("path", .str t.path), ("method", .str t.method.key),
    ("response_code", .str t.responseCode), ("is_default", .bool t.isDefault),
    ("description", .str t.description), ("summary", .str t.summary),
    ("content_type", .str t.contentType), ("return_type", .str t.returnType),
    ("has_schema", .bool t.hasSchema), ("schema", .ofOption .str t.schemaText),
    ("parameters", t.parameters.toJson),
    ("header_security", .ofOption HeaderSecurity.toJson t.credentials.authorization),
    ("query_api_key", .ofOption KeyCredential.toJson t.credentials.queryKey),
    ("header_api_key", .ofOption KeyCredential.toJson t.credentials.headerKey),
    ("request_path", t.requestPath.toJson), ("request_key", .str t.requestKey),
    ("query_values", .arr (t.queryValues.map ResolvedValue.toJson)),
    ("body_values", .arr (t.bodyValues.map ResolvedValue.toJson)),
    ("load_test", .ofOption LoadTest.toJson t.loadTest),
    ("step", .ofOption StepInfo.toJson t.step)]

/-- The JSON value of needed imports. -/
def Imports.toJson (i : Imports) : Json :=
  .obj [("import_validator", .bool i.validator), ("import_env", .bool i.env),
    ("import_load_test", .bool i.loadTest)]

/-- The JSON value of an operation's cases. -/
def OperationBlock.toJson (b : OperationBlock) : Json :=
  .obj [("method", .str b.method.key), ("tests", .arr (b.tests.map TestCase.toJson))]

/-- **JSON value** of the block of a path. -/
def PathBlock.toJson (b : PathBlock) : Json :=
  .obj [("path", .str b.path), ("scheme", .str b.scheme), ("host", .str b.host),
    ("operations", .arr (b.operations.map OperationBlock.toJson)), ("flags", b.imports.toJson)]

/-- **JSON value** of the block of a sequence. -/
def SequenceBlock.toJson (b : SequenceBlock) : Json :=
  .obj [("name", .str b.name), ("scheme", .str b.scheme), ("host", .str b.host),
    ("steps", .arr (b.steps.map TestCase.toJson)), ("flags", b.imports.toJson)]

/-- The JSON value of an environment file. -/
def EnvironmentBlock.toJson (b : EnvironmentBlock) : Json :=
  .obj [("env_vars", Json.strings b.variableNames)]

namespace Block

/-- The kind of a block. -/
def kind : Block → String
  | .path _ => "path"
  | .sequence _ => "sequence"
  | .environment _ => "environment"

/-- **JSON value** of a block, without its kind. -/
def toJson : Block → Json
  | .path b => b.toJson
  | .sequence b => b.toJson
  | .environment b => b.toJson

end Block

end ApiScaffold
