import ApiScaffold.Config.File
import ApiScaffold.Proofs.Config.Respelled
import ApiScaffold.Proofs.Config.RoundTrip
import ApiScaffold.Proofs.FileTree
import ApiScaffold.Proofs.Json.Printed

/-!
# Saved run configurations

A configuration that was saved as JSON is loaded again as it was, as long as its text is read as the value
that was printed.
-/

namespace ApiScaffold.RunConfig

variable {config : RunConfig} {path : String} {tree after : FileTree}

theorem ofText?_of_readData? {format : Format} {text : String} {d : Data}
    (hread : format.readData? outline text = some d) (hdecode : decode d = .ok config) :
    ofText? format text = some config := by
  rw [ofText?, hread, Option.map_some, hdecode]

/-- The text of a configuration gives it again, if it is read as the value that was printed. -/
theorem ofText?_text (h : config.DistinctKeys) (hpath : Format.ofPath path = .json)
    (hread : Json.readData? config.toJson.pretty = some (Data.ofJson config.toJson)) :
    ofText? (Format.ofPath path) (config.text path) = some config := by
  have htext : config.text path = config.toJson.pretty := by rw [text, hpath]
  rw [htext, hpath]
  exact ofText?_of_readData? hread (readsBack h)

/-- **A saved configuration is loaded again**, as JSON. What is assumed of reading is no more than that
the printed value comes back, and of the path that no device stands there. -/
theorem load_of_save (h : config.DistinctKeys) (hpath : Format.ofPath path = .json)
    (hread : Json.readData? config.toJson.pretty = some (Data.ofJson config.toJson))
    (hdevice : tree.node? path ≠ some .device)
    (hsave : (save config path : StateM FileTree Bool).run tree = (true, after)) :
    (load path : StateM FileTree (Except LoadFault RunConfig)).run after = (.ok config, after) := by
  have htext : after.text? path = some (config.text path) := FileTree.text?_of_write hsave hdevice
  rw [load, FileTree.run_load, htext, Files.valueOf, ofText?_text h hpath hread]

/-- Legible configurations need no assumption about reading. -/
theorem load_of_save_of_isLegible (h : config.DistinctKeys)
    (hlegible : config.toJson.IsLegible Json.nestingLimit) (hpath : Format.ofPath path = .json)
    (hdevice : tree.node? path ≠ some .device)
    (hsave : (save config path : StateM FileTree Bool).run tree = (true, after)) :
    (load path : StateM FileTree (Except LoadFault RunConfig)).run after = (.ok config, after) :=
  load_of_save h hpath (Json.readData?_pretty hlegible) hdevice hsave

/-- **Run configurations come back.** A configuration whose maps have distinct keys is decoded again from the
JSON value that is written for it, equal in every part and order. So it comes back from a JSON file that it was
saved in, if the text is read as the value that was printed. Two documents that differ only in whether a
dependency is one name or a list of one name decode to the same configuration, and the same is written
for it. -/
theorem comes_back (config : RunConfig) (h : config.DistinctKeys) :
    decode (Data.ofJson config.toJson) = .ok config ∧
      (∀ (path : String) (tree after : FileTree), Format.ofPath path = .json →
        Json.readData? config.toJson.pretty = some (Data.ofJson config.toJson) →
        tree.node? path ≠ some .device →
        (save config path : StateM FileTree Bool).run tree = (true, after) →
        (load path : StateM FileTree (Except LoadFault RunConfig)).run after = (.ok config, after)) ∧
      ∀ d d', singleNames d = singleNames d' →
        decode d = decode d' ∧ (decode d).map toJson = (decode d').map toJson := by
  refine ⟨readsBack h, fun _ _ _ hpath hread => load_of_save h hpath hread, fun d d' hsame => ?_⟩
  have hdecode : decode d = decode d' := by rw [← decode_singleNames, hsame, decode_singleNames]
  exact ⟨hdecode, by rw [hdecode]⟩

/-- A configuration with a sequence comes back from the working directory, and the dependency of the sequence
may be spelled in both ways. -/
theorem comes_back_petFlow :
    let config : RunConfig :=
      { testModule := .request, pathParams := [("limit", .arr [.int 10, .null])], maxLen := some 100,
        sequences := [("flow", [⟨"create", "/pets", .post, []⟩,
          ⟨"read", "/pets", .get, [("create", ["id"])]⟩])] }
    let saved := (save config "run.json" : StateM FileTree Bool).run {}
    let document (deps : Json) : Data := Data.ofJson (.obj [("sequences", .obj [("flow", .arr [.obj
      [("step", .str "read"), ("path", .str "/pets"), ("op", .str "GET"),
        ("deps", .obj [("create", deps)])]])])])
    config.DistinctKeys ∧ saved.1 = true ∧
      (load "run.json" : StateM FileTree (Except LoadFault RunConfig)).run saved.2 =
        (.ok config, saved.2) ∧
      decode (document (.str "id")) = decode (document (.arr [.str "id"])) := by
  intro config saved document
  have hkeys : config.DistinctKeys :=
    { pathParams := by
        refine .obj (by decide) (List.forall_mem_singleton.mpr (.arr ?_))
        exact List.forall_mem_cons.mpr ⟨.int 10, List.forall_mem_singleton.mpr .null⟩
      queryNames := List.nodup_nil
      queryVals := nofun
      bodyNames := List.nodup_nil
      bodyVals := nofun
      sequences := by decide
      deps := by decide }
  have hlegible : config.toJson.IsLegible Json.nestingLimit := by
    repeat' first
      | exact .null _
      | exact .str _ _
      | exact .int _ (by decide) (by decide)
      | refine .arr ?_
      | refine .obj ?_
      | refine List.forall_mem_cons.mpr ⟨?_, ?_⟩
      | exact List.forall_mem_nil _
  have hsaved : saved.1 = true := by rfl
  obtain ⟨-, hload, hspelled⟩ := comes_back config hkeys
  exact ⟨hkeys, hsaved,
    hload "run.json" {} saved.2 (by decide) (Json.readData?_pretty hlegible) (by decide +kernel)
      (Prod.ext hsaved rfl),
    (hspelled _ _ (by rfl)).1⟩

end ApiScaffold.RunConfig
