import ApiScaffold.FilePath
import ApiScaffold.Files
import ApiScaffold.Renderer

/-!
# Renderers from a directory

`Renderer.ofDirectory` reads the custom templates of a directory. A template that has no file there
keeps its built-in text; a directory of its name counts as no file.
-/

namespace ApiScaffold

/-- **Why a directory gives no renderer.** -/
inductive TemplateSetFault where
  /-- There is no such directory. -/
  | noDirectory
  /-- A template is no text. -/
  | unreadable
  /-- A template is malformed. -/
  | malformed
  deriving DecidableEq, Repr

namespace Renderer

variable {m : Type → Type} [Monad m] [Files m]

/-- Reads the given templates that have a file. -/
def readTemplates (directory : String) : List TemplateName → m (Option (Entries String))
  | [] => return some []
  | name :: rest => do
    let path := FilePath.join directory name.text
    if (← Files.kind? path) = some .file then
      match ← Files.read? path with
      | none => return none
      | some text => return (← readTemplates directory rest).map ((name.text, text) :: ·)
    else readTemplates directory rest

/-- The texts of a set in which the given texts take the places of built-in ones. -/
def replacing (texts : Entries String) (name : TemplateName) : String :=
  (texts.get? name.text).getD name.source

/-- **Renderer with the templates of a directory.** -/
def ofDirectory [TemplateEngine] (directory : String) (testModule : TestModule)
    (style : AssertionStyle) : m (Except TemplateSetFault Renderer) := do
  if (← Files.kind? directory) = some .directory then
    match ← readTemplates directory TemplateName.all with
    | none => return .error .unreadable
    | some texts =>
      match load (replacing texts) testModule style with
      | .ok renderer => return .ok renderer
      | .error _ => return .error .malformed
  else return .error .noDirectory

end Renderer

end ApiScaffold
