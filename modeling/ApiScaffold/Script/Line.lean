import ApiScaffold.Suite.Basic
import ApiScaffold.Text.Join

/-!
# Lines of a script

A script is a list of lines; a line may hold line breaks of its own where a value brings them in. The
pieces here are shared by all scripts: fields of an object literal, groups of fields that are left out
when there is none, imports, and the embedded schema.
-/

namespace ApiScaffold.Script

/-- The lines of a script. -/
abbrev Lines := List String

/-- **Text of a script**: each line ends in a line feed. -/
def text (lines : Lines) : String := Text.join "\n" lines ++ "\n"

/-- Text after a number of spaces. -/
def indented (depth : Nat) (text : String) : String :=
  String.ofList (List.replicate depth ' ') ++ text

/-- Lines that are there only under a condition. -/
def linesIf (condition : Bool) (lines : Lines) : Lines := if condition then lines else []

/-- A text between single quotes, as it is. -/
def singleQuoted (s : String) : String := "'" ++ s ++ "'"

/-- The value of an environment variable. -/
def variableCode (name : String) : String := "process.env." ++ name

/-- A field under a quoted name. -/
def field (name code : String) : String := singleQuoted name ++ ": " ++ code ++ ","

/-- A field that somebody has to fill in. -/
def openField (name : String) : String := field name Expression.missingCode

/-- **Fields in a group**, one level deeper than its first and last line; no fields, no group. -/
def group (depth : Nat) (first : String) (fields : List String) (last : String) : Lines :=
  if fields.isEmpty then []
  else
    [indented depth first] ++ fields.map (indented (depth + 2)) ++ [indented depth last]

/-- The field of a key in the query. -/
def queryKeyFields (c : Credentials) : List String :=
  match c.queryKey with
  | some k => [k.key ++ ": " ++ variableCode k.variableName ++ ","]
  | none => []

/-- The fields of named values. -/
def valueFields (values : List ResolvedValue) : List String := values.map fun v => field v.name v.code

/-- **Fields of the query**: the key, and then the values. -/
def queryFields (t : TestCase) : List String := queryKeyFields t.credentials ++ valueFields t.queryValues

/-- The fields of a form. -/
def formFields (t : TestCase) : List String := t.parameters.formData.map fun p => openField p.name

/-- The code of the `Authorization` header. -/
def authorizationCode (s : HeaderSecurity) : String :=
  singleQuoted (s.scheme.name ++ " ") ++ " + " ++ variableCode s.variableName

/-- The import of a library under a name. -/
def importLine (name library : String) : String :=
  "var " ++ name ++ " = require(" ++ singleQuoted library ++ ");"

/-- The first lines of a script with its strictness. -/
def strict : String := "'use strict';"

/-- The import and the instance of the schema validator. -/
def validatorSetup : Lines :=
  [importLine "ZSchema" "z-schema", "var validator = new ZSchema(\x7b\x7d);"]

/-- The import of the load tester. -/
def loadTesterSetup : Lines := [importLine "arete" "arete"]

/-- The line that loads the environment file, after an empty one. -/
def environmentSetup : Lines := ["", "require('dotenv').load();"]

/-- The validator where it is needed. -/
def validatorLines (imports : Imports) : Lines := linesIf imports.validator validatorSetup

/-- The load tester where it is needed. -/
def loadTesterLines (imports : Imports) : Lines := linesIf imports.loadTest loadTesterSetup

/-- The environment where it is needed. -/
def environmentLines (imports : Imports) : Lines := linesIf imports.env environmentSetup

/-- **Embedded schema**: its text, with all lines but the first moved to the depth of the
declaration. -/
def schemaLines (depth : Nat) (t : TestCase) : Lines :=
  match t.schemaText with
  | none => []
  | some schema =>
    [indented depth "/*eslint-disable*/",
      indented depth ("var schema = " ++ Text.indentRest depth schema ++ ";"), "",
      indented depth "/*eslint-enable*/"]

/-- One character of a test title. -/
def escapeTitleChar (c : Char) : List Char :=
  if c = '\\' ∨ c = '"' ∨ c = '\'' then ['\\', c] else [c]

/-- A test title with a backslash before each backslash and quote. -/
def escapedTitle (s : String) : String := String.ofList (s.toList.flatMap escapeTitleChar)

/-- The first line of a test. -/
def testLine (depth : Nat) (title : String) : String :=
  indented depth ("it('" ++ title ++ "', function(done) \x7b")

/-- The title of a test case. -/
def caseTitle (t : TestCase) : String := "should respond with " ++ escapedTitle t.summary

/-- **A load test**, after an empty line; `target` holds the lines of the request. -/
def loadTestLines (l : LoadTest) (target : Lines) : Lines :=
  ["", testLine 4 ("should sustain " ++ toString l.requests.toNat ++ " requests"),
    indented 6 "arete.loadTest(\x7b",
    indented 8 ("name: " ++ singleQuoted l.name ++ ","),
    indented 8 ("requests: " ++ toString l.requests.toNat ++ ","),
    indented 8 ("concurrentRequests: " ++ toString l.concurrent.toNat ++ ","),
    indented 8 "targetFunction: function(callback) \x7b"] ++
  target ++
  [indented 8 "\x7d,", indented 8 "printResponses: false,", indented 8 "printReport: true,",
    indented 8 "callback: done", indented 6 "\x7d);", indented 4 "\x7d);"]

/-- The tests of an operation: `test` gives the lines of a case, and an empty line follows each. -/
def operationLines (test : TestCase → Lines) (o : OperationBlock) : Lines :=
  [indented 2 ("describe('" ++ o.method.key ++ "', function() \x7b")] ++
    o.tests.flatMap (fun t => test t ++ [""]) ++ [indented 2 "\x7d);", ""]

/-- **A suite of one path**: `before` holds the imports, and `test` gives the lines of a case. -/
def pathSuite (block : PathBlock) (before : Lines) (test : TestCase → Lines) : Lines :=
  before ++ ["", "describe('" ++ block.path ++ "', function() \x7b"] ++
    block.operations.flatMap (operationLines test) ++ ["\x7d);"]

/-- The functions of a series, with commas between them. -/
def seriesLines (function : TestCase → Lines) : List TestCase → Lines
  | [] => []
  | [t] => function t ++ [indented 6 "\x7d"]
  | t :: next :: rest => function t ++ [indented 6 "\x7d,"] ++ seriesLines function (next :: rest)

/-- **A suite of one sequence**: a series of functions, one for each step; `function` gives the lines
of a step's function without its last line. -/
def sequenceSuite (block : SequenceBlock) (before : Lines) (function : TestCase → Lines) : Lines :=
  before ++
    ["", "describe('" ++ block.name ++ " sequence test', function() \x7b",
      testLine 2 "should complete the sequence without err", indented 4 "async.series(["] ++
    seriesLines function block.steps ++
    [indented 4 "],", indented 4 "function(err) \x7b", indented 6 "done(err);",
      indented 4 "\x7d);", indented 2 "\x7d);", "\x7d);"]

/-- The lines that end a step with an error: `error` is the name of the error. -/
def stepErrorLines (depth : Nat) (error : String) (t : TestCase) : Lines :=
  [indented depth ("if (" ++ error ++ ") \x7b"),
    indented (depth + 2) ("return cb(new Error(" ++ error ++ ".message +"),
    indented (depth + 4)
      (singleQuoted (" | erroneous step - " ++ t.path ++ " " ++ t.method.verb) ++ "));"),
    indented depth "\x7d"]

/-- The line that keeps the response to a step for later ones. -/
def keepLine (depth : Nat) (t : TestCase) (code : String) : String :=
  indented depth ("deps." ++ ((t.step.map (·.step)).getD "") ++ " = " ++ code ++ ";")

end ApiScaffold.Script
