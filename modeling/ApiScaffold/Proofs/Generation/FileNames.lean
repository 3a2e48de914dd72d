import ApiScaffold.Proofs.FileName
import ApiScaffold.Proofs.Generation.Results
import ApiScaffold.Proofs.Path.Run
import ApiScaffold.Proofs.Sequence.Order
import Mathlib.Data.List.Nodup

/-!
# Outputs that share a file

Names of outputs are made for reading: a path loses its slashes, and every name loses what no
platform takes in a file name. So the files of a run are not always distinct. Here is exactly when two
outputs of a run share one (`Output.Clash`), and what to ask of the paths and sequences of a run so that
none do (`Generation.NamesApart`).
-/

namespace ApiScaffold

/-! ### Names in blocks -/

theorem PathBlock.path_of_build {api : Description} {config : RunConfig} {path : String}
    {block : PathBlock} (h : build api config path = .ok (some block)) : block.path = path := by
  obtain ⟨_, _, _, _, hblock⟩ := build_eq_some.mp h
  exact congrArg PathBlock.path hblock

theorem SequenceBlock.name_of_build {api : Description} {config : RunConfig} {name : String}
    {steps : List SequenceStep} {block : SequenceBlock}
    (h : build api config name steps = .ok block) : block.name = name := by
  obtain ⟨_, _, hblock⟩ := build_eq_ok.mp h
  exact congrArg SequenceBlock.name hblock

/-! ### Clashes -/

open FileName (kept)

namespace Output

/-- **A clash**: outputs of different blocks whose names keep the same characters, where the file of a
sequence also has the mark of sequences. -/
inductive Clash : Output → Output → Prop
  | paths {p q : PathBlock} (hne : p.path ≠ q.path)
      (h : kept (pathName p.path) = kept (pathName q.path)) :
      Clash ⟨pathName p.path, .path p⟩ ⟨pathName q.path, .path q⟩
  | sequences {s t : SequenceBlock} (hne : s ≠ t) (h : kept s.name = kept t.name) :
      Clash ⟨s.name, .sequence s⟩ ⟨t.name, .sequence t⟩
  | pathSequence {p : PathBlock} {s : SequenceBlock}
      (h : kept (pathName p.path) = kept s.name ++ sequenceMark) :
      Clash ⟨pathName p.path, .path p⟩ ⟨s.name, .sequence s⟩
  | sequencePath {s : SequenceBlock} {p : PathBlock}
      (h : kept (pathName p.path) = kept s.name ++ sequenceMark) :
      Clash ⟨s.name, .sequence s⟩ ⟨pathName p.path, .path p⟩

theorem Clash.stem?_eq {a b : Output} (h : Clash a b) : a.stem? = b.stem? := by
  cases h with
  | paths _ h => exact congrArg some h
  | sequences _ h => exact congrArg (fun cs => some (cs ++ sequenceMark)) h
  | pathSequence h => exact congrArg some h
  | sequencePath h => exact congrArg some h.symm

end Output

namespace Generation

open Output (pathName sequenceMark Clash)

variable {api : Description} {config : RunConfig}

theorem build_of_mem_outputs_path {name : String} {block : PathBlock}
    (h : ⟨name, .path block⟩ ∈ (generate api config).outputs) :
    block.path ∈ targets api config ∧
      PathBlock.build api config block.path = .ok (some block) := by
  rcases mem_outputs.mp h with ⟨p, hp, B, hB, heq⟩ | ⟨s, -, S, -, heq⟩ | ⟨-, heq⟩
  · cases heq
    rw [PathBlock.path_of_build hB]
    exact ⟨hp, hB⟩
  · cases heq
  · cases heq

theorem build_of_mem_outputs_sequence {name : String} {block : SequenceBlock}
    (h : ⟨name, .sequence block⟩ ∈ (generate api config).outputs) :
    ∃ steps, (block.name, steps) ∈ config.sequences ∧
      SequenceBlock.build api config block.name steps = .ok block := by
  rcases mem_outputs.mp h with ⟨p, -, B, -, heq⟩ | ⟨s, hs, S, hS, heq⟩ | ⟨-, heq⟩
  · cases heq
  · cases heq
    rw [SequenceBlock.name_of_build hS]
    exact ⟨s.2, hs, hS⟩
  · cases heq

/-- Outputs of one run with the same stem are the same output or clash. -/
theorem eq_or_clash_of_stem?_eq {a b : Output} (ha : a ∈ (generate api config).outputs)
    (hb : b ∈ (generate api config).outputs) (h : a.stem? = b.stem?) : a = b ∨ Clash a b := by
  rcases mem_outputs.mp ha with ⟨p, -, B, hB, rfl⟩ | ⟨s, -, S, hS, rfl⟩ | ⟨-, rfl⟩
  · obtain rfl := PathBlock.path_of_build hB
    rcases mem_outputs.mp hb with ⟨q, -, C, hC, rfl⟩ | ⟨t, -, T, hT, rfl⟩ | ⟨-, rfl⟩
    · obtain rfl := PathBlock.path_of_build hC
      -- a path that is selected twice has the same block both times
      by_cases hpaths : B.path = C.path
      · rw [← hpaths, hB] at hC
        obtain rfl := Option.some.inj (Except.ok.inj hC)
        exact .inl rfl
      · exact .inr (.paths hpaths (Option.some.inj h))
    · rw [← SequenceBlock.name_of_build hT] at h ⊢
      exact .inr (.pathSequence (Option.some.inj h))
    · cases h
  · rw [← SequenceBlock.name_of_build hS] at h ⊢
    rcases mem_outputs.mp hb with ⟨q, -, C, hC, rfl⟩ | ⟨t, -, T, hT, rfl⟩ | ⟨-, rfl⟩
    · obtain rfl := PathBlock.path_of_build hC
      exact .inr (.sequencePath (Option.some.inj h).symm)
    · rw [← SequenceBlock.name_of_build hT] at h ⊢
      by_cases hblocks : S = T
      · exact .inl (by rw [hblocks])
      · exact .inr (.sequences hblocks (List.append_cancel_right (Option.some.inj h)))
    · cases h
  · rcases mem_outputs.mp hb with ⟨q, -, C, hC, rfl⟩ | ⟨t, -, T, hT, rfl⟩ | ⟨-, rfl⟩
    · cases h
    · cases h
    · exact .inl rfl

/-- **Names apart**: no two paths and no two sequences of a run keep the same characters, and no path
keeps those of a sequence with the mark of sequences. -/
structure NamesApart (api : Description) (config : RunConfig) : Prop where
  paths : ∀ p ∈ targets api config, ∀ q ∈ targets api config,
    kept (pathName p) = kept (pathName q) → p = q
  sequences : (config.sequences.map fun s => kept s.1).Nodup
  mixed : ∀ p ∈ targets api config, ∀ s ∈ config.sequences,
    kept (pathName p) ≠ kept s.1 ++ sequenceMark

/-- Where names are apart, the outputs of a run do not clash. -/
theorem NamesApart.not_clash (hapart : NamesApart api config) {a b : Output}
    (ha : a ∈ (generate api config).outputs) (hb : b ∈ (generate api config).outputs) :
    ¬ Clash a b := by
  intro hclash
  cases hclash with
  | @paths p q hne h =>
    obtain ⟨hp, -⟩ := build_of_mem_outputs_path ha
    obtain ⟨hq, -⟩ := build_of_mem_outputs_path hb
    exact hne (hapart.paths _ hp _ hq h)
  | @sequences s t hne h =>
    obtain ⟨steps, hs, hS⟩ := build_of_mem_outputs_sequence ha
    obtain ⟨steps', ht, hT⟩ := build_of_mem_outputs_sequence hb
    -- entries of one name are one entry, so they have the same steps
    have hentry : (s.name, steps) = (t.name, steps') :=
      List.inj_on_of_nodup_map hapart.sequences hs ht h
    obtain ⟨hname, rfl⟩ := Prod.mk.inj hentry
    rw [hname, hT] at hS
    exact hne (Except.ok.inj hS).symm
  | @pathSequence p s h =>
    obtain ⟨hp, -⟩ := build_of_mem_outputs_path ha
    obtain ⟨steps, hs, -⟩ := build_of_mem_outputs_sequence hb
    exact hapart.mixed _ hp _ hs h
  | @sequencePath s p h =>
    obtain ⟨steps, hs, -⟩ := build_of_mem_outputs_sequence ha
    obtain ⟨hp, -⟩ := build_of_mem_outputs_path hb
    exact hapart.mixed _ hp _ hs h

/-- **Which outputs share a file.** Two outputs of a run have the same file exactly if they are the
same output or clash; so the environment file is never shared, and where the names of a run are apart
each block has a file of its own. -/
theorem fileName_eq_iff_clash (api : Description) (config : RunConfig) :
    (∀ a ∈ (generate api config).outputs, ∀ b ∈ (generate api config).outputs,
      (a.fileName = b.fileName ↔ a = b ∨ Clash a b)) ∧
    (NamesApart api config → ∀ a ∈ (generate api config).outputs,
      ∀ b ∈ (generate api config).outputs, a.fileName = b.fileName → a = b) := by
  have hiff : ∀ a ∈ (generate api config).outputs, ∀ b ∈ (generate api config).outputs,
      (a.fileName = b.fileName ↔ a = b ∨ Clash a b) := by
    intro a ha b hb
    rw [Output.fileName_eq_iff]
    constructor
    · exact eq_or_clash_of_stem?_eq ha hb
    · rintro (rfl | hclash)
      · rfl
      · exact hclash.stem?_eq
  refine ⟨hiff, fun hapart a ha b hb h => ?_⟩
  exact ((hiff a ha b hb).mp h).resolve_right (hapart.not_clash ha hb)

/-- The paths of pets and a sequence of pets have names apart, so no file is shared. -/
theorem fileName_eq_iff_clash_pets :
    let config : RunConfig := { sequences := [("pets", SequenceBlock.petSteps)] }
    NamesApart .pets config ∧ ∀ a ∈ (generate .pets config).outputs,
      ∀ b ∈ (generate .pets config).outputs, a.fileName = b.fileName → a = b := by
  intro config
  have hapart : NamesApart .pets config := by
    constructor
    · decide
    · decide
    · decide
  exact ⟨hapart, (fileName_eq_iff_clash .pets config).2 hapart⟩

/-- **Not every block has a file of its own**: a slash inside a path and a dash in its place give the
same name. -/
theorem exists_shared_file :
    let api : Description :=
      { paths := [("/a/b", { operations := [(.get, {})] }), ("/a-b", { operations := [(.get, {})] })] }
    ¬ ∀ a ∈ (generate api {}).outputs, ∀ b ∈ (generate api {}).outputs,
      a.fileName = b.fileName → a = b := by
  intro api h
  have houtputs : (generate api {}).outputs =
      [⟨"a-b", .path ⟨"/a/b", "http", "localhost:10010", [⟨.get, []⟩], {}⟩⟩,
        ⟨"a-b", .path ⟨"/a-b", "http", "localhost:10010", [⟨.get, []⟩], {}⟩⟩] := rfl
  rw [houtputs] at h
  have heq := h _ (List.mem_cons_self ..) _ (List.mem_cons_of_mem _ (List.mem_cons_self ..)) rfl
  simp at heq

end Generation

end ApiScaffold
