import ApiScaffold.Template.BuiltIn

/-!
# Rendering

A renderer writes blocks for one dialect and one assertion style, with a set of templates. The set comes
from a template engine, which is handed the built-in texts, some of them replaced (`Renderer.load`).
-/

namespace ApiScaffold

/-- **Why nothing is rendered**: a template is malformed, or cannot be filled. -/
inductive TemplateFault where
  | malformed
  | failed
  deriving DecidableEq, Repr

/-- **A renderer**: dialect, assertion style, and the templates. -/
structure Renderer where
  testModule : TestModule
  style : AssertionStyle
  templates : TemplateSet := TemplateSet.builtIn
  deriving Inhabited

namespace Renderer

/-- The built-in script of a path. -/
def pathScript (r : Renderer) (block : PathBlock) : Script.Lines :=
  r.testModule.pathScript r.style block

/-- The built-in script of a sequence. -/
def sequenceScript (r : Renderer) (block : SequenceBlock) : Script.Lines :=
  r.testModule.sequenceScript r.style block

/-- **Rendered block.** -/
def render (r : Renderer) (block : Block) : Except TemplateFault String :=
  match r.templates (.ofBlock r.testModule block) ⟨r.testModule, r.style, block⟩ with
  | some text => .ok text
  | none => .error .failed

/-- **Renderer with the templates of the given texts**, which all have to be well formed. -/
def load [TemplateEngine] (sources : TemplateName → String) (m : TestModule)
    (style : AssertionStyle) : Except TemplateFault Renderer :=
  match TemplateEngine.compile? TemplateFilter.registered sources with
  | some templates => .ok { testModule := m, style, templates }
  | none => .error .malformed

end Renderer

end ApiScaffold
