import ApiScaffold.Suite.Encode
import ApiScaffold.Text.Join

/-!
# Templates

Blocks are written with a set of templates, one for each kind of file and one with the macros that the
scripts share. What a template language is and how a template is filled is left to a `TemplateEngine`:
it takes the texts of all templates, and gives what each of them becomes for given values, unless one of
the texts is malformed. Everything that renders takes the engine as it comes, so nothing here depends on
what an engine can do; `TemplateEngine.KeepsBuiltIns` says what is asked of one.
-/

namespace ApiScaffold

/-- **A template of a set.** -/
inductive TemplateName where
  /-- The macros of the scripts. -/
  | macros
  | environment
  | path (m : TestModule)
  | sequence (m : TestModule)
  deriving DecidableEq, Repr, Inhabited

namespace TemplateName

/-- **All templates of a set**, in the order in which they are read. -/
def all : List TemplateName :=
  [macros, environment, path .request, sequence .request, path .supertest, sequence .supertest]

/-- The name of a template as a relative path, by which templates and their files are known. -/
def text : TemplateName → String
  | macros => "macros.tera"
  | environment => "env.tera"
  | path m => m.name ++ "/path.js.tera"
  | sequence m => m.name ++ "/sequence.js.tera"

/-- The template that a block is written with, in a dialect. -/
def ofBlock (m : TestModule) : Block → TemplateName
  | .path _ => path m
  | .sequence _ => sequence m
  | .environment _ => environment

end TemplateName

/-- **What a template is filled with**: a block, with the dialect and the style to write it in. -/
structure TemplateContext where
  testModule : TestModule
  style : AssertionStyle
  block : Block

/-- The values that a template can look up, in the order of their names. -/
def TemplateContext.toJson (context : TemplateContext) : Json :=
  .obj [("assertion", .str context.style.name), ("block", context.block.toJson),
    ("test_module", .str context.testModule.name)]

/-- **A filter**: what it makes of a value, with named arguments. -/
abbrev TemplateFilter := Json → Entries Json → Option Json

namespace TemplateFilter

/-- The spaces before indented lines, unless a filter is told otherwise. -/
def defaultWidth : Nat := 2

/-- A number of spaces, which is a natural number of 64 bits. -/
def width? : Json → Option Nat
  | .int n => if 0 ≤ n ∧ n < (twoTo 64 : Int) then some n.toNat else none
  | _ => none

/-- **Indented lines**: the lines of a text but the first, with spaces before them. -/
def indentLines : TemplateFilter := fun v arguments => do
  let text ← v.text?
  let width ←
    match arguments.get? "width" with
    | none => some defaultWidth
    | some w => width? w
  return .str (Text.indentRest width text)

/-- **The filters** that templates are given beside those of their language. -/
def registered : Entries TemplateFilter := [("indent_lines", indentLines)]

end TemplateFilter

/-- **A set of templates**, as what each of them becomes, if it can be filled.

A run writes no two blocks of one kind with the same path or name, so templates that ask for the time or
for chance are sets too, with another one for each run. -/
abbrev TemplateSet := TemplateName → TemplateContext → Option String

/-- **A template engine**: the set that it makes of the texts of all templates, unless one is malformed.
It writes values as they are, without escapes, and knows the given filters by their names. -/
class TemplateEngine where
  compile? : Entries TemplateFilter → (TemplateName → String) → Option TemplateSet

end ApiScaffold
