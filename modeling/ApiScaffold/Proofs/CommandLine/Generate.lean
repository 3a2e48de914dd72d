import ApiScaffold.CommandLine.Generate
import ApiScaffold.Proofs.FileTree
import ApiScaffold.Proofs.Template

/-!
# What generating leaves in the files

Loading only reads, so what a run changes is its output directory and the files in it. Whether an output
can be written does not depend on those written before it, since these are no directories. So the files
after a run are those before it, with the output directory and with the outputs written one after the
other, up to the first that cannot be rendered or written (`GenerateCommand.files_of_run`).

This holds for every template engine: an output that the engine cannot fill is one that cannot be
rendered. An engine that keeps the built-in templates writes the built-in scripts, except where a file of
the template directory replaces them (`GenerateCommand.render_of_loads`).
-/

namespace ApiScaffold

variable {α β : Type} {tree after : FileTree}

/-! ### Reading -/

/-- **Reading**: an operation that leaves every tree as it is. -/
def FileTree.ReadsOnly (operation : StateM FileTree α) : Prop :=
  ∀ tree, (operation.run tree).2 = tree

open FileTree (ReadsOnly)

theorem FileTree.ReadsOnly.bind {operation : StateM FileTree α} {next : α → StateM FileTree β}
    (h : ReadsOnly operation) (hnext : ∀ a, ReadsOnly (next a)) : ReadsOnly (operation >>= next) := by
  intro tree
  rw [FileTree.run_bind, hnext, h]

theorem FileTree.readsOnly_pure (a : α) : ReadsOnly (pure a) := fun _ => rfl

theorem FileTree.readsOnly_kind? (path : String) : ReadsOnly (Files.kind? path) := fun _ => rfl

theorem FileTree.readsOnly_read? (path : String) : ReadsOnly (Files.read? path) := fun _ => rfl

theorem FileTree.readsOnly_load (parse? : String → Option α) (path : String) :
    ReadsOnly (Files.load parse? path) := fun _ => rfl

theorem Description.readsOnly_load (location : String) :
    ReadsOnly (Description.load location) := by
  rw [Description.load]
  split
  · exact fun _ => rfl
  · exact FileTree.readsOnly_load _ _

/-- **A file stands** at a path. -/
def FileTree.HasFile (tree : FileTree) (path : String) : Prop :=
  (tree.node? path).map FileNode.kind = some .file

namespace Renderer

open FileTree (readsOnly_kind? readsOnly_read? readsOnly_pure)

theorem readsOnly_readTemplates (directory : String) (names : List TemplateName) :
    ReadsOnly (readTemplates directory names) := by
  induction names with
  | nil => exact readsOnly_pure _
  | cons name rest ih =>
    rw [readTemplates]
    refine (readsOnly_kind? _).bind fun kind => ?_
    split
    · refine (readsOnly_read? _).bind fun text => ?_
      cases text with
      | none => exact readsOnly_pure _
      | some text => exact ih.bind fun _ => readsOnly_pure _
    · exact ih

theorem readsOnly_ofDirectory [TemplateEngine] (directory : String) (testModule : TestModule)
    (style : AssertionStyle) : ReadsOnly (ofDirectory directory testModule style) := by
  rw [ofDirectory]
  refine (readsOnly_kind? _).bind fun kind => ?_
  split
  · refine (readsOnly_readTemplates _ _).bind fun templates => ?_
    cases templates with
    | none => exact readsOnly_pure _
    | some templates =>
      dsimp only
      split <;> exact readsOnly_pure _
  · exact readsOnly_pure _

/-- What is read has a file, so a template without one is never replaced. -/
theorem hasFile_of_readTemplates {directory : String} {names : List TemplateName}
    {texts : Entries String}
    (h : ((readTemplates directory names : StateM FileTree _).run tree).1 = some texts)
    {key text : String} (hmem : (key, text) ∈ texts) :
    tree.HasFile (FilePath.join directory key) := by
  induction names generalizing texts with
  | nil =>
    obtain rfl := Option.some.inj h
    cases hmem
  | cons name rest ih =>
    rw [readTemplates, FileTree.run_bind, readsOnly_kind?] at h
    split at h
    case isTrue hfile =>
      rw [FileTree.run_bind, readsOnly_read?] at h
      split at h
      case h_1 => cases h
      case h_2 own _ =>
        rw [FileTree.run_bind, readsOnly_readTemplates] at h
        obtain ⟨more, hmore, rfl⟩ := Option.map_eq_some_iff.mp h
        obtain heq | hmem := List.mem_cons.mp hmem
        · obtain rfl := (Prod.mk.inj heq).1
          exact hfile
        · exact ih hmore hmem
    case isFalse => exact ih h hmem

theorem replacing_of_not_hasFile {directory : String} {names : List TemplateName}
    {texts : Entries String}
    (h : ((readTemplates directory names : StateM FileTree _).run tree).1 = some texts)
    {name : TemplateName} (hfile : ¬ tree.HasFile (FilePath.join directory name.text)) :
    replacing texts name = name.source := by
  rw [replacing]
  cases hget : texts.get? name.text with
  | none => rfl
  | some text => exact absurd (hasFile_of_readTemplates h (Entries.mem_of_get? hget)) hfile

/-- A directory that gives a renderer has its texts put in the places of the built-in ones. -/
theorem exists_load_of_ofDirectory [TemplateEngine] {directory : String} {m : TestModule}
    {style : AssertionStyle} {r : Renderer}
    (h : ((ofDirectory directory m style : StateM FileTree _).run tree).1 = .ok r) :
    ∃ texts, ((readTemplates directory TemplateName.all : StateM FileTree _).run tree).1 = some texts ∧
      load (replacing texts) m style = .ok r := by
  rw [ofDirectory, FileTree.run_bind, readsOnly_kind?] at h
  split at h
  case isTrue =>
    rw [FileTree.run_bind, readsOnly_readTemplates] at h
    split at h
    case h_1 => cases h
    case h_2 texts htexts =>
      split at h
      case h_1 loaded hload =>
        obtain rfl := Except.ok.inj h
        exact ⟨texts, htexts, hload⟩
      case h_2 => cases h
  case isFalse => cases h

end Renderer

/-! ### Commands in a tree -/

namespace Ran

/-- **A command in a tree**: its result, and the tree after it. -/
def within (action : Ran (StateM FileTree) α) (tree : FileTree) :
    Except CommandFault α × FileTree := action.run.run tree

variable {fault : CommandFault}

/-- What follows a success goes on in the tree that it leaves, and a fault ends the command. -/
theorem within_bind (action : Ran (StateM FileTree) α) (next : α → Ran (StateM FileTree) β) :
    (action >>= next).within tree =
      match action.within tree with
      | (.ok a, after) => (next a).within after
      | (.error fault, after) => (.error fault, after) := by
  have hbind : (action >>= next).within tree =
      (ExceptT.bindCont next (action.within tree).1).run (action.within tree).2 := rfl
  rw [hbind]
  rcases action.within tree with ⟨_ | _, _⟩ <;> rfl

theorem within_lift (operation : StateM FileTree α) :
    (liftM operation : Ran (StateM FileTree) α).within tree =
      (.ok (operation.run tree).1, (operation.run tree).2) := rfl

theorem within_check {operation : StateM FileTree Bool} :
    (check fault operation).within tree =
      (if (operation.run tree).1 then .ok () else .error fault, (operation.run tree).2) := by
  rw [check, within_bind, within_lift]
  dsimp only
  cases (operation.run tree).1 <;> rfl

/-- What is loaded comes from a tree that stays as it is. -/
theorem within_ofLoad {ε : Type} {load : StateM FileTree (Except ε α)} (h : ReadsOnly load) :
    (ofLoad fault load).within tree =
      (match (load.run tree).1 with | .ok a => .ok a | .error _ => .error fault, tree) := by
  rw [ofLoad, within_bind, within_lift]
  dsimp only
  rw [h]
  cases (load.run tree).1 <;> rfl

end Ran

namespace GenerateCommand

open Ran (within_bind within_ofLoad)

variable {command : GenerateCommand} {config options : RunConfig} {api : Description}
  {renderer : Renderer}

/-! ### Loading -/

theorem within_loadConfig_snd : ((command.loadConfig).within tree).2 = tree := by
  rw [loadConfig]
  split
  · rfl
  · rw [RunConfig.load, within_ofLoad (FileTree.readsOnly_load _ _)]

theorem within_loadRenderer_snd [TemplateEngine] :
    ((command.loadRenderer config).within tree).2 = tree := by
  rw [loadRenderer]
  split
  · rw [within_ofLoad (FileTree.readsOnly_pure _)]
  · rw [within_ofLoad (Renderer.readsOnly_ofDirectory _ _ _)]

/-- **Options in place**: a run configuration with each option that the command gives, and with all else
as another one has it. -/
structure Overrides (command : GenerateCommand) (config options : RunConfig) : Prop where
  testModule : options.testModule = command.testModule.getD config.testModule
  assertionFormat : options.assertionFormat = command.assertionFormat.getD config.assertionFormat
  pathNames : options.pathNames = if command.paths = [] then config.pathNames else command.paths
  maxLen : options.maxLen = command.maxLen.or config.maxLen
  rest : { options with
    testModule := config.testModule
    assertionFormat := config.assertionFormat
    pathNames := config.pathNames
    maxLen := config.maxLen } = config

theorem overrides_configure : command.Overrides config (command.configure config) where
  testModule := rfl
  assertionFormat := rfl
  pathNames := by simp only [configure, List.isEmpty_iff]
  maxLen := Option.orElse_eq_or
  rest := rfl

/-- The options are in place in no other run configuration. -/
theorem Overrides.eq_configure (h : command.Overrides config options) :
    options = command.configure config := by
  obtain ⟨hmodule, hstyle, hpaths, hlen, hrest⟩ := h
  cases options
  cases config
  dsimp only at hmodule hstyle hpaths hlen
  subst hmodule hstyle hpaths hlen
  simp only [RunConfig.mk.injEq] at hrest
  simp [configure, hrest]

/-- **What a command loads** from a tree: the run configuration, in which its options take their places, the
description, and the renderer of this configuration, which the template engine makes. -/
structure Loads [TemplateEngine] (command : GenerateCommand) (tree : FileTree) (options : RunConfig)
    (api : Description) (renderer : Renderer) : Prop where
  configuration : ∃ config, (command.loadConfig.within tree).1 = .ok config ∧
    command.Overrides config options
  description :
    ((Description.load command.schemaPath : StateM FileTree (Except LoadFault Description)).run
      tree).1 = .ok api
  templates : ((command.loadRenderer options).within tree).1 = .ok renderer

/-- What a run does after loading. -/
def write (command : GenerateCommand) (renderer : Renderer) (generation : Generation) :
    Ran (StateM FileTree) Unit := do
  makeOutputDir command.outputDir
  generation.outputs.forM (writeOutput renderer command.outputDir)
  if generation.isComplete then return ()
  else throw (.incomplete generation.failures.length generation.outputs.length)

/-- A run that loads everything goes on in the tree that it loaded from. -/
theorem within_run_of_loads [TemplateEngine] (h : command.Loads tree options api renderer) :
    (command.run : Ran (StateM FileTree) Unit).within tree =
      (command.write renderer (Generation.generate api options)).within tree := by
  obtain ⟨⟨config, hconfig, hoptions⟩, hdescription, htemplates⟩ := h
  obtain rfl := hoptions.eq_configure
  have hconfig : command.loadConfig.within tree = (.ok config, tree) :=
    Prod.ext hconfig within_loadConfig_snd
  have hrenderer : (command.loadRenderer (command.configure config)).within tree =
      (.ok renderer, tree) := Prod.ext htemplates within_loadRenderer_snd
  rw [run, within_bind, hconfig]
  dsimp only
  rw [within_bind, within_ofLoad (Description.readsOnly_load _), hdescription]
  dsimp only
  rw [within_bind, hrenderer]
  rfl

/-! ### Built-in templates -/

/-- **A template is replaced** if the template directory of the command has a file of its name. -/
def Replaces (command : GenerateCommand) (tree : FileTree) (name : TemplateName) : Prop :=
  ∃ directory, command.templateDir = some directory ∧
    tree.HasFile (FilePath.join directory name.text)

/-- The renderer of a run is loaded from texts that are built in wherever nothing is replaced. -/
theorem exists_load_of_loadRenderer [TemplateEngine]
    (h : ((command.loadRenderer options).within tree).1 = .ok renderer) :
    ∃ sources, Renderer.load sources options.testModule options.assertionFormat = .ok renderer ∧
      ∀ name, ¬ command.Replaces tree name → sources name = name.source := by
  rw [loadRenderer] at h
  split at h
  case h_1 =>
    refine ⟨TemplateName.source, ?_, fun _ _ => rfl⟩
    rw [within_ofLoad (FileTree.readsOnly_pure _)] at h
    dsimp only at h
    split at h
    case h_1 loaded hload =>
      obtain rfl := Except.ok.inj h
      exact hload
    case h_2 => cases h
  case h_2 directory hdirectory =>
    rw [within_ofLoad (Renderer.readsOnly_ofDirectory _ _ _)] at h
    dsimp only at h
    split at h
    case h_1 loaded hload =>
      obtain rfl := Except.ok.inj h
      obtain ⟨texts, htexts, hload⟩ := Renderer.exists_load_of_ofDirectory hload
      exact ⟨_, hload, fun name hname =>
        Renderer.replacing_of_not_hasFile htexts fun hfile => hname ⟨directory, hdirectory, hfile⟩⟩
    case h_2 => cases h

/-- Without a template directory, the templates are never what a run fails on. -/
theorem exists_loadRenderer [engine : TemplateEngine] (hengine : engine.KeepsBuiltIns)
    (h : command.templateDir = none) :
    ∃ renderer, ((command.loadRenderer options).within tree).1 = .ok renderer := by
  obtain ⟨renderer, hload⟩ :=
    Renderer.exists_load_source hengine options.testModule options.assertionFormat
  refine ⟨renderer, ?_⟩
  rw [loadRenderer, h]
  dsimp only
  rw [within_ofLoad (FileTree.readsOnly_pure _)]
  dsimp only [StateT.run, pure, StateT.pure]
  rw [hload]

/-- **What a run writes where nothing is replaced**: the built-in script of each output whose template and
macros have no file in the template directory, under every engine that keeps the built-in templates. -/
theorem render_of_loads [engine : TemplateEngine] (hengine : engine.KeepsBuiltIns)
    (h : command.Loads tree options api renderer) {o : Output}
    (ho : o ∈ (Generation.generate api options).outputs)
    (hown : ∀ used ∈ TemplateName.ofBlock options.testModule o.block ::
      (TemplateName.ofBlock options.testModule o.block).imported, ¬ command.Replaces tree used) :
    renderer.render o.block =
      (Renderer.plain options.testModule options.assertionFormat).render o.block := by
  obtain ⟨sources, hload, hsources⟩ := exists_load_of_loadRenderer h.templates
  exact Renderer.render_of_load hengine hload (Generation.isLabelled_of_mem_outputs ho)
    fun used hused => hsources used (hown used hused)

/-! ### The output directory -/

/-- **The output directory is there**, or it can be made: then the run goes on in the tree with it. -/
inductive ProvidesDirectory (path : String) (tree : FileTree) : FileTree → Prop
  | present (h : (tree.node? path).isSome = true) : ProvidesDirectory path tree tree
  | made {after : FileTree} (h : tree.node? path = none)
    (hmade : (Files.makeDirectories path : StateM FileTree Bool).run tree = (true, after)) :
    ProvidesDirectory path tree after

theorem within_makeOutputDir {path : String} (h : ProvidesDirectory path tree after) :
    (makeOutputDir path : Ran (StateM FileTree) Unit).within tree = (.ok (), after) := by
  have hthere : (Files.isThere path : StateM FileTree Bool).run tree =
      ((tree.node? path).isSome, tree) := by
    rw [← Option.isSome_map]
    rfl
  rw [makeOutputDir, within_bind, Ran.within_lift, hthere]
  cases h with
  | present h =>
    dsimp only
    rw [h, if_pos rfl]
    rfl
  | made h hmade =>
    dsimp only
    rw [h, Option.isSome_none, if_neg Bool.false_ne_true, Ran.within_check, hmade]
    rfl

/-- The output directory has a place, and nothing is new but directories that lead there. -/
theorem adds_of_providesDirectory {path : String} (h : ProvidesDirectory path tree after) :
    FileTree.Adds (FilePath.ancestors path ++ [path]) tree after ∧
      ∃ base, after.place? path = some base ∧
        (tree.node? path = none → after.at? base = some .directory) := by
  cases h with
  | present h =>
    obtain ⟨base, hbase⟩ := FileTree.exists_place?_of_node? h
    refine ⟨⟨.refl tree, fun _ hkey => absurd rfl hkey⟩, base, hbase, fun hnone => ?_⟩
    rw [hnone] at h
    cases h
  | made h hmade =>
    rw [Files.makeDirectories] at hmade
    split at hmade
    · obtain ⟨hadds, hplaces⟩ := FileTree.adds_of_makeEach hmade
      obtain ⟨base, hbase, hthere⟩ := hplaces path (by simp)
      exact ⟨hadds, base, hbase, fun _ => hthere⟩
    · cases hmade

/-! ### Outputs -/

/-- **An output lands** in a directory: it can be rendered, and its file can be written. -/
def Lands (renderer : Renderer) (directory : String) (tree : FileTree) (output : Output) : Prop :=
  ∃ text, renderer.render output.block = .ok text ∧
    (tree.write (FilePath.join directory output.fileName) text).1 = true

/-- **The place of an output** in the directory of a place. -/
def placeIn (base : FileTree.Place) (output : Output) : FileTree.Place :=
  base ++ [output.fileName.toList]

/-- The tree with an output at its place; one that cannot be rendered is nowhere. -/
def put (renderer : Renderer) (base : FileTree.Place) (tree : FileTree) (output : Output) : FileTree :=
  match renderer.render output.block with
  | .ok text => tree.writeAt (placeIn base output) text
  | .error _ => tree

variable {directory : String} {base : FileTree.Place} {output : Output}

theorem lands_iff_of_sameDirectories (h : FileTree.SameDirectories tree after) :
    Lands renderer directory after output ↔ Lands renderer directory tree output := by
  simp only [Lands, FileTree.write_fst_iff, h.takes_iff]

/-- **One output that lands** is at its place then, and the directories are as they were. -/
theorem within_writeOutput_of_lands (hbase : tree.place? directory = some base)
    (h : Lands renderer directory tree output) :
    (writeOutput renderer directory output : Ran (StateM FileTree) Unit).within tree =
        (.ok (), put renderer base tree output) ∧
      FileTree.SameDirectories tree (put renderer base tree output) := by
  obtain ⟨text, htext, hwrite⟩ := h
  obtain ⟨place, htakes⟩ := FileTree.write_fst_iff.mp hwrite
  obtain rfl := FileTree.place?_join hbase output.isName_fileName htakes.leads
  rw [writeOutput, put, htext]
  dsimp only
  rw [Ran.within_check, FileTree.run_write, FileTree.write_of_takes htakes]
  exact ⟨rfl, FileTree.sameDirectories_writeAt htakes.free⟩

/-- **One output that does not land** ends the run, and nothing changes. A write either happens as a
whole or leaves the tree alone. -/
theorem within_writeOutput_of_not_lands (h : ¬ Lands renderer directory tree output) :
    ∃ fault, (writeOutput renderer directory output : Ran (StateM FileTree) Unit).within tree =
      (.error fault, tree) := by
  rw [writeOutput]
  cases htext : renderer.render output.block with
  | error _ => exact ⟨_, rfl⟩
  | ok text =>
    have hwrite : tree.write (FilePath.join directory output.fileName) text = (false, tree) := by
      refine FileTree.write_of_not_takes fun htakes => h ⟨text, htext, ?_⟩
      exact FileTree.write_fst_iff.mpr htakes
    dsimp only
    rw [Ran.within_check, FileTree.run_write, hwrite]
    exact ⟨_, rfl⟩

variable {outputs : List Output} {result : Except CommandFault Unit}

/-- **Outputs that land** are written one after the other. Writing a file makes and removes no
directory, so whether an output lands may be asked of the tree before all of them. -/
theorem within_outputs_of_lands (hbase : tree.place? directory = some base)
    (h : ∀ o ∈ outputs, Lands renderer directory tree o) :
    (forM outputs (writeOutput renderer directory) : Ran (StateM FileTree) Unit).within tree =
        (.ok (), outputs.foldl (put renderer base) tree) ∧
      FileTree.SameDirectories tree (outputs.foldl (put renderer base) tree) := by
  induction outputs generalizing tree with
  | nil => exact ⟨rfl, .refl tree⟩
  | cons o rest ih =>
    obtain ⟨ho, hrest⟩ := List.forall_mem_cons.mp h
    obtain ⟨hwrite, hsame⟩ := within_writeOutput_of_lands hbase ho
    -- the directories are as they were, so the rest lands where it would have before
    obtain ⟨hmore, hsame'⟩ := ih ((hsame.place?_eq directory).trans hbase) fun other hother =>
      (lands_iff_of_sameDirectories hsame).mpr (hrest other hother)
    rw [List.forM_cons, within_bind, hwrite, List.foldl_cons]
    exact ⟨hmore, hsame.trans hsame'⟩

/-- **The first output that does not land** ends the run, and those before it stay. -/
theorem within_outputs_of_not_lands (hbase : tree.place? directory = some base)
    {before more : List Output} (h : ∀ o ∈ before, Lands renderer directory tree o)
    (houtput : ¬ Lands renderer directory tree output) :
    ∃ fault, (forM (before ++ output :: more) (writeOutput renderer directory) :
        Ran (StateM FileTree) Unit).within tree =
      (.error fault, before.foldl (put renderer base) tree) := by
  obtain ⟨hbefore, hsame⟩ := within_outputs_of_lands hbase h
  obtain ⟨fault, hfault⟩ := within_writeOutput_of_not_lands
    (mt (lands_iff_of_sameDirectories hsame).mp houtput)
  refine ⟨fault, ?_⟩
  rw [List.forM_append, within_bind, hbefore]
  dsimp only
  rw [List.forM_cons, within_bind, hfault]

/-- An output is nowhere but at its place. -/
theorem get?_put_of_ne {key : String} (h : FileTree.placeText (placeIn base output) ≠ key) :
    (put renderer base tree output).nodes.get? key = tree.nodes.get? key := by
  rw [put]
  split
  · exact FileTree.get?_writeAt_of_ne h
  · rfl

/-- **Whatever becomes of the outputs**, the directories stay, and so does all that is at no place of an
output. -/
theorem within_outputs_snd (hbase : tree.place? directory = some base)
    (h : (forM outputs (writeOutput renderer directory) : Ran (StateM FileTree) Unit).within tree =
      (result, after)) :
    FileTree.SameDirectories tree after ∧
      ∀ key, (∀ o ∈ outputs, FileTree.placeText (placeIn base o) ≠ key) →
        after.nodes.get? key = tree.nodes.get? key := by
  induction outputs generalizing tree with
  | nil =>
    obtain rfl := (Prod.mk.inj h).2
    exact ⟨.refl tree, fun _ _ => rfl⟩
  | cons o rest ih =>
    rw [List.forM_cons, within_bind] at h
    by_cases ho : Lands renderer directory tree o
    · obtain ⟨hwrite, hsame⟩ := within_writeOutput_of_lands hbase ho
      rw [hwrite] at h
      obtain ⟨hsame', hrest⟩ := ih ((hsame.place?_eq directory).trans hbase) h
      refine ⟨hsame.trans hsame', fun key hkey => ?_⟩
      obtain ⟨hkey, hkeys⟩ := List.forall_mem_cons.mp hkey
      rw [hrest key hkeys, get?_put_of_ne hkey]
    · obtain ⟨fault, hwrite⟩ := within_writeOutput_of_not_lands ho
      rw [hwrite] at h
      obtain rfl := (Prod.mk.inj h).2
      exact ⟨.refl tree, fun _ _ => rfl⟩

/-! ### After the outputs -/

section

variable {generation : Generation} {made : FileTree}

/-- With all outputs written, the failures decide on the result. -/
theorem within_write_of_ok (hdirectory : ProvidesDirectory command.outputDir tree made)
    (h : (forM generation.outputs (writeOutput renderer command.outputDir) :
      Ran (StateM FileTree) Unit).within made = (.ok (), after)) :
    (command.write renderer generation).within tree =
      (if generation.failures = [] then .ok ()
        else .error (.incomplete generation.failures.length generation.outputs.length), after) := by
  rw [write, within_bind, within_makeOutputDir hdirectory]
  dsimp only
  rw [List.forM_eq_forM, within_bind, h]
  dsimp only
  rw [Generation.isComplete]
  cases generation.failures <;> rfl

/-- Without one of the outputs, the run fails as it did there. -/
theorem within_write_of_error (hdirectory : ProvidesDirectory command.outputDir tree made)
    {fault : CommandFault}
    (h : (forM generation.outputs (writeOutput renderer command.outputDir) :
      Ran (StateM FileTree) Unit).within made = (.error fault, after)) :
    (command.write renderer generation).within tree = (.error fault, after) := by
  rw [write, within_bind, within_makeOutputDir hdirectory]
  dsimp only
  rw [List.forM_eq_forM, within_bind, h]

/-- **What is changed** by a run after loading: files of outputs, and directories on the way to them. -/
theorem changed_of_write (hdirectory : ProvidesDirectory command.outputDir tree made)
    (hbase : made.place? command.outputDir = some base) {last : FileTree}
    (h : ((command.write renderer generation).within tree).2 = last) :
    FileTree.Extends tree last ∧
      ∀ key, last.nodes.get? key ≠ tree.nodes.get? key →
        (∃ o ∈ generation.outputs, FileTree.placeText (placeIn base o) = key) ∨
        tree.nodes.get? key = none ∧ last.nodes.get? key = some .directory ∧
          ∃ path ∈ FilePath.ancestors command.outputDir ++ [command.outputDir],
            ∃ place, made.place? path = some place ∧ FileTree.placeText place = key := by
  obtain ⟨hadds, -⟩ := adds_of_providesDirectory hdirectory
  obtain ⟨hsame, hkept⟩ : FileTree.SameDirectories made last ∧
      ∀ key, (∀ o ∈ generation.outputs, FileTree.placeText (placeIn base o) ≠ key) →
        last.nodes.get? key = made.nodes.get? key := by
    rcases houtputs : (forM generation.outputs (writeOutput renderer command.outputDir) :
        Ran (StateM FileTree) Unit).within made with ⟨_ | _, after⟩
    · rw [within_write_of_error hdirectory houtputs] at h
      exact h ▸ within_outputs_snd hbase houtputs
    · rw [within_write_of_ok hdirectory houtputs] at h
      exact h ▸ within_outputs_snd hbase houtputs
  refine ⟨hadds.toExtends.trans hsame.1, fun key hkey => ?_⟩
  by_cases hfile : ∃ o ∈ generation.outputs, FileTree.placeText (placeIn base o) = key
  · exact .inl hfile
  -- what no output has touched is as it was when the directory had been made
  · have hlast : last.nodes.get? key = made.nodes.get? key :=
      hkept key fun o ho hplace => hfile ⟨o, ho, hplace⟩
    rw [hlast] at hkey ⊢
    exact .inr (hadds.added key hkey)

end

/-! ### The whole run -/

/-- **What a run leaves in the files**, when everything is loaded and the output directory is there or can
be made: `made` is the tree with that directory.

- If each output lands, the outputs are written into that tree in their order, and the exit status tells
  whether there are failures.
- Otherwise those before the first output that does not land are written, and the exit status is `1`.
- Either way nothing is changed but the files of outputs, right in the output directory, and what is
  made are directories on the way to it. -/
theorem files_of_run [TemplateEngine] {made : FileTree} (h : command.Loads tree options api renderer)
    (hdirectory : ProvidesDirectory command.outputDir tree made) :
    let generation := Generation.generate api options
    let ran := (command.run : Ran (StateM FileTree) Unit).within tree
    ∃ base, made.place? command.outputDir = some base ∧
      (tree.node? command.outputDir = none → made.at? base = some .directory) ∧
      ((∀ o ∈ generation.outputs, Lands renderer command.outputDir made o) →
        ran.2 = generation.outputs.foldl (put renderer base) made ∧
          exitStatus ran.1 = if generation.failures = [] then 0 else 1) ∧
      (∀ before o more, generation.outputs = before ++ o :: more →
        (∀ earlier ∈ before, Lands renderer command.outputDir made earlier) →
        ¬ Lands renderer command.outputDir made o →
        ran.2 = before.foldl (put renderer base) made ∧ exitStatus ran.1 = 1) ∧
      FileTree.Extends tree ran.2 ∧
      ∀ key, ran.2.nodes.get? key ≠ tree.nodes.get? key →
        (∃ o ∈ generation.outputs, FileTree.placeText (placeIn base o) = key) ∨
        tree.nodes.get? key = none ∧ ran.2.nodes.get? key = some .directory ∧
          ∃ path ∈ FilePath.ancestors command.outputDir ++ [command.outputDir],
            ∃ place, made.place? path = some place ∧ FileTree.placeText place = key := by
  intro generation ran
  obtain ⟨-, base, hbase, hmade⟩ := adds_of_providesDirectory hdirectory
  have hran : ran = (command.write renderer generation).within tree := within_run_of_loads h
  -- two ends: all outputs are written, or the first that does not land stops the run
  refine ⟨base, hbase, hmade, fun hlands => ?_, fun before o more houtputs hbefore ho => ?_,
    changed_of_write hdirectory hbase (congrArg Prod.snd hran.symm)⟩
  · obtain ⟨hwritten, -⟩ := within_outputs_of_lands hbase hlands
    rw [hran, within_write_of_ok hdirectory hwritten]
    refine ⟨rfl, ?_⟩
    by_cases hfailures : generation.failures = []
    · rw [if_pos hfailures, if_pos hfailures]
      rfl
    · rw [if_neg hfailures, if_neg hfailures]
      rfl
  · obtain ⟨fault, hwritten⟩ := within_outputs_of_not_lands hbase hbefore ho
    rw [← houtputs] at hwritten
    rw [hran, within_write_of_error hdirectory hwritten]
    exact ⟨rfl, rfl⟩

/-- **Basic access**: a description with one scheme and nothing else. -/
def basicAccess : Description := { securityDefinitions := [("key", .basic)] }

/-- The text of this description. -/
def basicAccessText : String :=
  "\x7b\"securityDefinitions\":\x7b\"key\":\x7b\"type\":\"basic\"\x7d\x7d\x7d"

/-- A machine that has the text in a file, and a directory with a template of the environment file. -/
def basicAccessTree : FileTree :=
  { nodes := [("api.json", .file basicAccessText), ("t", .directory),
      ("t/env.tera", .file "KEY=secret\n")] }

/-- The engine that leaves every text as it is, which is what becomes of a text without braces. -/
abbrev verbatim : TemplateEngine where
  compile? _ sources := some fun name _ => some (sources name)

theorem ofText?_basicAccessText : Description.ofText? basicAccessText = some basicAccess := by
  have htokens : Json.Token.scan? basicAccessText.toList = some
      [.openObject, .string (some "securityDefinitions"), .colon, .openObject, .string (some "key"),
        .colon, .openObject, .string (some "type"), .colon, .string (some "basic"), .closeObject,
        .closeObject, .closeObject] := by decide +kernel
  rw [Description.ofText?, Json.readData?, Json.Tree.read?, htokens]
  rfl

/-- The run for this description and this template makes the output directory and writes the one file
into it, with the text of the template. -/
theorem files_of_run_basicAccess :
    letI : TemplateEngine := verbatim
    let command : GenerateCommand := { schemaPath := "api.json", templateDir := some "t" }
    let renderer : Renderer := {
      testModule := .supertest
      style := .should
      templates := fun name _ => some (Renderer.replacing [("env.tera", "KEY=secret\n")] name) }
    let made := basicAccessTree.put ["test".toList] .directory
    let ran := (command.run : Ran (StateM FileTree) Unit).within basicAccessTree
    command.Loads basicAccessTree {} basicAccess renderer ∧
      ProvidesDirectory command.outputDir basicAccessTree made ∧
      ran.2 = made.put ["test".toList, ".env".toList] (.file "KEY=secret\n") ∧
      exitStatus ran.1 = 0 := by
  let _ : TemplateEngine := verbatim
  have hlocal : Description.isRemote "api.json" = false := by decide +kernel
  have htext : basicAccessTree.text? "api.json" = some basicAccessText := by rfl
  have hloads : ({ schemaPath := "api.json", templateDir := some "t" } : GenerateCommand).Loads
      basicAccessTree {} basicAccess
      { testModule := .supertest, style := .should,
        templates := fun name _ => some (Renderer.replacing [("env.tera", "KEY=secret\n")] name) } := by
    refine ⟨⟨{}, rfl, overrides_configure⟩, ?_, rfl⟩
    rw [Description.load, hlocal, if_neg Bool.false_ne_true]
    rw [FileTree.run_load, htext, Files.valueOf, ofText?_basicAccessText]
  have hmade : (Files.makeDirectories "test" : StateM FileTree Bool).run basicAccessTree =
      (true, basicAccessTree.put ["test".toList] .directory) := by rfl
  have hdirectory : ProvidesDirectory "test" basicAccessTree
      (basicAccessTree.put ["test".toList] .directory) := .made (by decide) hmade
  obtain ⟨base, hbase, -, hlanded, -⟩ := files_of_run hloads hdirectory
  obtain rfl : ["test".toList] = base := Option.some.inj hbase
  obtain ⟨hfiles, hstatus⟩ := hlanded fun o ho => by
    obtain rfl := List.mem_singleton.mp ho
    exact ⟨"KEY=secret\n", rfl, rfl⟩
  exact ⟨hloads, hdirectory, hfiles, hstatus⟩

end GenerateCommand

end ApiScaffold
