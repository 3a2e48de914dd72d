import ApiScaffold.LookupTemplate.Parser
import ApiScaffold.Template.BuiltIn

/-!
# The engine of the program

The engine that the program runs with. It knows the built-in templates by their text, and takes every
other text for a template of lookups, so that it refuses sets of templates that a full template language
would take. The program needs some engine to run; what a run does is never said about this one alone.
-/

namespace ApiScaffold.LookupTemplate

/-- The names of all templates, which may be imported. -/
def files : List String := TemplateName.all.map TemplateName.text

/-- Whether a template has its built-in text. -/
def isBuiltIn (sources : TemplateName → String) (name : TemplateName) : Bool :=
  sources name = name.source

/-- **What a template becomes**: a built-in one as long as it finds its macros, and any other one by its
lookups. -/
def filled? (filters : Entries TemplateFilter) (sources : TemplateName → String) : TemplateSet :=
  fun name context =>
    if isBuiltIn sources name then
      if name.imported.all (isBuiltIn sources) then TemplateSet.builtIn name context else none
    else (parse? files (sources name)).bind fun template => template.fill? filters context.toJson

instance : TemplateEngine where
  compile? filters sources :=
    if TemplateName.all.all fun name =>
        isBuiltIn sources name || (parse? files (sources name)).isSome then
      some (filled? filters sources)
    else none

end ApiScaffold.LookupTemplate
