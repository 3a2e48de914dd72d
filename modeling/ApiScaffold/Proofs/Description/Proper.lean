import ApiScaffold.Description.Read
import ApiScaffold.Proofs.Description.Declared
import ApiScaffold.Proofs.Json.Proper
import ApiScaffold.Proofs.Yaml.Proper

/-!
# Schemas of a description that was read

What is read from a text has proper numbers, whether it is JSON or YAML, and decoding hands JSON values on as they
are. So each response of each operation has a proper schema (`Description.isProper_schema`).
-/

namespace ApiScaffold

/-- The schema of a response is proper if its data is. -/
theorem Response.isProper_schema {d : Data} {r : Response} (hd : d.AllLeaves Leaf.IsProper)
    (h : decode d = .ok r) {v : Json} (hv : r.schema = some v) : v.IsProper := by
  have hfield : Data.IsField ["description", "schema"] set "schema" (·.schema) (·.optional Data.json) := by
    refine ⟨by decide, fun {k d r r'} hk hset => ?_⟩
    simp only [List.mem_cons, List.not_mem_nil, or_false] at hk
    rcases hk with rfl | rfl
    all_goals
      obtain ⟨x, hx, hset⟩ := Built.bind_eq_ok.mp hset
      obtain rfl := Except.ok.inj hset
    · rfl
    · exact hx
  have hgives := hfield.record (by decide) h
  rw [hv] at hgives
  cases hdeclared : d.declared? ["description", "schema"] "schema" with
  | none =>
    rw [hdeclared] at hgives
    cases hgives
  | some x =>
    rw [hdeclared] at hgives
    exact Data.isProper_of_toJson? (hd.declared? hdeclared) (Data.toJson?_of_optional_json hgives)

/-- So are the schemas of an operation. -/
theorem Operation.isProper_schema {d : Data} {o : Operation} (hd : d.AllLeaves Leaf.IsProper)
    (h : decode d = .ok o) {code : String} {r : Response} (hr : o.responses.get? code = some r)
    {v : Json} (hv : r.schema = some v) : v.IsProper := by
  have hgives := gives_responses h
  cases hdeclared : d.declared? fieldNames "responses" with
  | none =>
    rw [hdeclared] at hgives
    rw [show o.responses = [] from hgives] at hr
    cases hr
  | some responses =>
    rw [hdeclared] at hgives
    obtain ⟨x, hlast, hdecode⟩ := Data.last?_of_mem_entries hgives (Entries.mem_of_get? hr)
    exact Response.isProper_schema ((hd.declared? hdeclared).last? hlast) hdecode hv

namespace Description

variable {document : Data} {api : Description} {path : String} {m : Method}

theorem isProper_operationObject? {object : Json} (hd : document.AllLeaves Leaf.IsProper)
    (h : operationObject? document path m = some object) : object.IsProper := by
  obtain ⟨paths, hpaths, h⟩ := Option.bind_eq_some_iff.mp h
  obtain ⟨item, hitem, h⟩ := Option.bind_eq_some_iff.mp h
  obtain ⟨x, hx, hjson⟩ := Option.bind_eq_some_iff.mp h
  exact Data.isProper_of_toJson? (((hd.declared? hpaths).last? hitem).last? hx) hjson

/-- A description comes from data that was read from its text. -/
theorem exists_decode_of_ofText? {text : String} (h : ofText? text = some api) :
    ∃ document : Data, document.AllLeaves Leaf.IsProper ∧ decode document = .ok api := by
  have hdata {data : Option Data} (hproper : ∀ d, data = some d → d.AllLeaves Leaf.IsProper)
      (h : ofData? data = some api) :
      ∃ document : Data, document.AllLeaves Leaf.IsProper ∧ decode document = .ok api := by
    cases data with
    | none => cases h
    | some document =>
      rw [ofData?] at h
      split at h
      next hdecode =>
        obtain rfl := Option.some.inj h
        exact ⟨document, hproper document rfl, Option.some.inj hdecode⟩
      next => cases h
  rw [ofText?] at h
  cases hjson : ofData? (Json.readData? text) with
  | some found =>
    rw [hjson] at h
    obtain rfl := Option.some.inj h
    exact hdata (fun _ => Json.allLeaves_readData?) hjson
  | none =>
    rw [hjson] at h
    exact hdata (fun _ => Yaml.allLeaves_readData?) h

/-- **Schemas of a description** that was read from a text are proper. A description that was put
together by other means may have a schema whose numbers do not come back. -/
theorem isProper_schema {text : String} (h : ofText? text = some api) {operation : Operation}
    (hoperation : api.operation path m = .ok operation) {code : String} {r : Response}
    (hr : operation.responses.get? code = some r) {v : Json} (hv : r.schema = some v) : v.IsProper := by
  obtain ⟨document, hproper, hdecode⟩ := exists_decode_of_ofText? h
  obtain ⟨object, hobject, ho⟩ := exists_object_of_operation hdecode hoperation
  exact Operation.isProper_schema
    (Data.allLeaves_ofJson (isProper_operationObject? hproper hobject)) ho hr hv

end Description

end ApiScaffold
