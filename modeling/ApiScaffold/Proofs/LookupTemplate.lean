import ApiScaffold.LookupTemplate.Engine
import ApiScaffold.Proofs.Template

/-!
# The engine of the program keeps the built-in templates

The engine that the program runs with tells built-in templates by their text, whatever else it can read.
So it meets what is asked of every engine, and a set that replaces none of them is written with the
built-in scripts.
-/

namespace ApiScaffold.LookupTemplate

theorem isBuiltIn_iff {sources : TemplateName → String} {name : TemplateName} :
    isBuiltIn sources name = true ↔ sources name = name.source := by
  rw [isBuiltIn, decide_eq_true_eq]

/-- What stands in the set as it is, with its macros, is never read as a template of lookups. -/
theorem filled?_of_isBuiltIn {filters : Entries TemplateFilter} {sources : TemplateName → String}
    {name : TemplateName} (h : ∀ used ∈ name :: name.imported, sources used = used.source)
    (context : TemplateContext) :
    filled? filters sources name context = TemplateSet.builtIn name context := by
  obtain ⟨hname, himported⟩ := List.forall_mem_cons.mp h
  have hall : name.imported.all (isBuiltIn sources) = true :=
    List.all_eq_true.mpr fun used hused => isBuiltIn_iff.mpr (himported used hused)
  rw [filled?, if_pos (isBuiltIn_iff.mpr hname), if_pos hall]

/-- **The engine of the program** meets what is asked of an engine: it knows the built-in sources by
their text and fills them in as the scripts say. -/
theorem keepsBuiltIns : TemplateEngine.KeepsBuiltIns inferInstance where
  compiles := by
    refine ⟨filled? TemplateFilter.registered TemplateName.source, if_pos ?_⟩
    refine List.all_eq_true.mpr fun name _ => ?_
    rw [isBuiltIn_iff.mpr rfl, Bool.true_or]
  fills := by
    intro sources templates hcompile name context text _ hown htext
    have hfilled : filled? TemplateFilter.registered sources = templates :=
      (Option.ite_none_right_eq_some.mp hcompile).2 |> Option.some.inj
    rw [← hfilled, filled?_of_isBuiltIn hown, htext]

end ApiScaffold.LookupTemplate
