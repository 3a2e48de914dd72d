import ApiScaffold.Proofs.Generation.Results
import ApiScaffold.Proofs.Script.Suite
import ApiScaffold.Proofs.Sequence.Run

/-!
# What is asked of a template engine

What an engine makes of a custom template is its own affair. Of the built-in templates it is asked that
they are well formed, and that one whose text stands in the set as it is, together with the macros that
it imports, becomes what the built-in set says (`TemplateEngine.KeepsBuiltIns`). Then the built-in
scripts are what is written wherever nothing is replaced (`Renderer.render_of_load`), whatever else the
set has replaced.
-/

namespace ApiScaffold

/-! ### Blocks with labels -/

/-- **A block with labels**: the steps of a sequence have one. The built-in templates look it up, and an
engine that misses it need not give anything. -/
def Block.IsLabelled : Block → Prop
  | .sequence block => ∀ t ∈ block.steps, t.step.isSome = true
  | _ => True

/-- All steps that are built carry the label of the configured step that they come from. -/
theorem SequenceBlock.isLabelled_of_build {api : Description} {config : RunConfig} {name : String}
    {steps : List SequenceStep} {block : SequenceBlock}
    (h : SequenceBlock.build api config name steps = .ok block) : (Block.sequence block).IsLabelled := by
  intro t ht
  obtain ⟨step, -, operation, -, hcase⟩ := exists_step_of_mem_steps h ht
  rw [TestCase.step_of_build hcase]
  rfl

theorem Generation.isLabelled_of_mem_outputs {api : Description} {config : RunConfig} {o : Output}
    (h : o ∈ (Generation.generate api config).outputs) : o.block.IsLabelled := by
  obtain ⟨_, _, _, _, rfl⟩ | ⟨_, _, _, hbuild, rfl⟩ | ⟨_, rfl⟩ := mem_outputs.mp h
  · trivial
  · exact SequenceBlock.isLabelled_of_build hbuild
  · trivial

/-! ### Built-in templates under an engine -/

/-- **An engine that keeps the built-in templates.** This is all that is ever assumed about one, and only
where the text of a built-in script is at stake. -/
structure TemplateEngine.KeepsBuiltIns (engine : TemplateEngine) : Prop where
  /-- The built-in texts are well formed. -/
  compiles : ∃ templates,
    engine.compile? TemplateFilter.registered TemplateName.source = some templates
  /-- A template that has its built-in text, as do those it imports, becomes what that text says. -/
  fills : ∀ {sources templates}, engine.compile? TemplateFilter.registered sources = some templates →
    ∀ {name context text}, context.block.IsLabelled →
      (∀ used ∈ name :: name.imported, sources used = used.source) →
      TemplateSet.builtIn name context = some text → templates name context = some text

namespace Renderer

variable {m : TestModule} {style : AssertionStyle}

/-- The built-in set has a text for every block, under the name that the block is rendered with. -/
theorem exists_builtIn (m : TestModule) (style : AssertionStyle) (block : Block) :
    ∃ text, TemplateSet.builtIn (.ofBlock m block) ⟨m, style, block⟩ = some text := by
  cases block <;> exact ⟨_, rfl⟩

/-- **Blocks are written with the built-in script** as long as neither their template nor its macros are
replaced; what becomes of other templates of the set does not matter. -/
theorem render_of_load [engine : TemplateEngine] (hengine : engine.KeepsBuiltIns)
    {sources : TemplateName → String} {r : Renderer} (h : load sources m style = .ok r)
    {block : Block} (hblock : block.IsLabelled)
    (hown : ∀ used ∈ TemplateName.ofBlock m block :: (TemplateName.ofBlock m block).imported,
      sources used = used.source) :
    r.render block = (plain m style).render block := by
  obtain ⟨text, htext⟩ := exists_builtIn m style block
  rw [load] at h
  split at h
  case h_1 templates hcompile =>
    obtain rfl := Except.ok.inj h
    have hfilled : templates (.ofBlock m block) ⟨m, style, block⟩ = some text :=
      hengine.fills hcompile hblock hown htext
    simp only [render, plain, hfilled, htext]
  case h_2 => cases h

/-- The built-in texts alone always give a renderer. -/
theorem exists_load_source [engine : TemplateEngine] (hengine : engine.KeepsBuiltIns)
    (m : TestModule) (style : AssertionStyle) : ∃ r, load TemplateName.source m style = .ok r := by
  obtain ⟨templates, hcompile⟩ := hengine.compiles
  exact ⟨{ testModule := m, style, templates }, by rw [load, hcompile]⟩

end Renderer

end ApiScaffold
