import ApiScaffold.Description.Decode
import ApiScaffold.Proofs.Data.Json
import ApiScaffold.Proofs.Data.Record
import ApiScaffold.Proofs.Description.Lookup

/-!
# What a document declares

A document is decoded as a whole, but each operation of the description comes from one object of it
(`Description.operationObject?`), the one written last for its path and its method. What that object and
the document declare as types and as security are the lists of the decoded operation and description
(`Data.DeclaresLists`). A list that is not declared is empty, so after decoding it cannot be told from one
that is declared empty.
-/

namespace ApiScaffold

/-! ### Types and requirements -/

/-- **The lists that an operation and a document may both declare.** -/
structure DeclaredLists where
  consumes : List String
  produces : List String
  security : List SecurityRequirement

/-- **Declared lists** of a record with some fields: each is what the data under its key decodes to, and
empty without the key. -/
structure Data.DeclaresLists (names : List String) (d : Data) (lists : DeclaredLists) : Prop where
  consumes : Gives (fun x => x.list text) [] (d.declared? names "consumes") lists.consumes
  produces : Gives (fun x => x.list text) [] (d.declared? names "produces") lists.produces
  security : Gives (fun x => x.list SecurityRequirement.decode) [] (d.declared? names "security")
    lists.security

namespace Operation

/-- The lists of an operation. -/
def lists (o : Operation) : DeclaredLists := ⟨o.consumes, o.produces, o.security⟩

/-- Setting a field of an operation sets a list or the responses under their own key and leaves the
others. -/
theorem lists_of_set {k : String} {d : Data} {o o' : Operation} (hk : k ∈ fieldNames)
    (h : set k d o = .ok o') :
    Data.Gives (fun x => x.list Data.text) o.consumes (if k = "consumes" then some d else none)
      o'.consumes ∧
    Data.Gives (fun x => x.list Data.text) o.produces (if k = "produces" then some d else none)
      o'.produces ∧
    Data.Gives (fun x => x.list SecurityRequirement.decode) o.security
      (if k = "security" then some d else none) o'.security ∧
    Data.Gives (fun x => x.entries Response.decode) o.responses
      (if k = "responses" then some d else none) o'.responses := by
  simp only [fieldNames, List.mem_cons, List.not_mem_nil, or_false] at hk
  rcases hk with rfl | rfl | rfl | rfl | rfl | rfl | rfl | rfl | rfl
  all_goals
    obtain ⟨x, hx, h⟩ := Built.bind_eq_ok.mp h
    obtain rfl := Except.ok.inj h
  -- at most one of the four is what was set
  all_goals
    first
    | exact ⟨rfl, rfl, rfl, rfl⟩
    | exact ⟨hx, rfl, rfl, rfl⟩
    | exact ⟨rfl, hx, rfl, rfl⟩
    | exact ⟨rfl, rfl, hx, rfl⟩
    | exact ⟨rfl, rfl, rfl, hx⟩

theorem nodup_fieldNames : fieldNames.Nodup := by decide

/-- The lists of a decoded operation are those that its object declares. -/
theorem declaresLists_of_decode {d : Data} {o : Operation} (h : decode d = .ok o) :
    d.DeclaresLists fieldNames o.lists := by
  constructor
  · exact Data.IsField.record ⟨by decide, fun hk hset => (lists_of_set hk hset).1⟩ nodup_fieldNames h
  · exact Data.IsField.record ⟨by decide, fun hk hset => (lists_of_set hk hset).2.1⟩ nodup_fieldNames h
  · exact Data.IsField.record ⟨by decide, fun hk hset => (lists_of_set hk hset).2.2.1⟩
      nodup_fieldNames h

/-- The responses of a decoded operation are those that its object declares. -/
theorem gives_responses {d : Data} {o : Operation} (h : decode d = .ok o) :
    Data.Gives (fun x => x.entries Response.decode) [] (d.declared? fieldNames "responses")
      o.responses :=
  Data.IsField.record ⟨by decide, fun hk hset => (lists_of_set hk hset).2.2.2⟩ nodup_fieldNames h

end Operation

namespace Description

/-- The lists of a description. -/
def lists (api : Description) : DeclaredLists := ⟨api.consumes, api.produces, api.security⟩

/-- Setting a field of a description sets a list or the paths under their own key and leaves the
others. -/
theorem lists_of_set {k : String} {d : Data} {api api' : Description} (hk : k ∈ fieldNames)
    (h : set k d api = .ok api') :
    Data.Gives (fun x => x.list Data.text) api.consumes (if k = "consumes" then some d else none)
      api'.consumes ∧
    Data.Gives (fun x => x.list Data.text) api.produces (if k = "produces" then some d else none)
      api'.produces ∧
    Data.Gives (fun x => x.list SecurityRequirement.decode) api.security
      (if k = "security" then some d else none) api'.security ∧
    Data.Gives (fun x => x.entries PathItem.decode) api.paths
      (if k = "paths" then some d else none) api'.paths := by
  simp only [fieldNames, List.mem_cons, List.not_mem_nil, or_false] at hk
  rcases hk with rfl | rfl | rfl | rfl | rfl | rfl | rfl | rfl | rfl | rfl | rfl | rfl
  all_goals
    obtain ⟨x, hx, h⟩ := Built.bind_eq_ok.mp h
    obtain rfl := Except.ok.inj h
  all_goals
    first
    | exact ⟨rfl, rfl, rfl, rfl⟩
    | exact ⟨hx, rfl, rfl, rfl⟩
    | exact ⟨rfl, hx, rfl, rfl⟩
    | exact ⟨rfl, rfl, hx, rfl⟩
    | exact ⟨rfl, rfl, rfl, hx⟩

theorem nodup_fieldNames : fieldNames.Nodup := by decide

/-- The lists of a decoded description are those that its document declares. -/
theorem declaresLists_of_decode {document : Data} {api : Description}
    (h : decode document = .ok api) : document.DeclaresLists fieldNames api.lists := by
  constructor
  · exact Data.IsField.record ⟨by decide, fun hk hset => (lists_of_set hk hset).1⟩
      nodup_fieldNames h
  · exact Data.IsField.record ⟨by decide, fun hk hset => (lists_of_set hk hset).2.1⟩
      nodup_fieldNames h
  · exact Data.IsField.record ⟨by decide, fun hk hset => (lists_of_set hk hset).2.2.1⟩
      nodup_fieldNames h

/-- The paths of a decoded description are those that its document declares. -/
theorem gives_paths {document : Data} {api : Description} (h : decode document = .ok api) :
    Data.Gives (fun x => x.entries PathItem.decode) [] (document.declared? fieldNames "paths")
      api.paths :=
  Data.IsField.record ⟨by decide, fun hk hset => (lists_of_set hk hset).2.2.2⟩ nodup_fieldNames h

end Description

/-! ### Operations of a path item -/

namespace PathItem

/-- A step of decoding writes the operation of its own key and leaves the others. -/
theorem operation?_of_set {item item' : PathItem} {key : String} {value : Json}
    (h : item.set key value = .ok item') (m : Method) :
    Data.Gives (fun v => (Operation.decode (Data.ofJson v)).map some) (item.operation? m)
      (if key = m.key then some value else none) (item'.operation? m) := by
  rw [set] at h
  by_cases hparameters : key = "parameters"
  · subst hparameters
    obtain ⟨entries, -, h⟩ := Built.bind_eq_ok.mp h
    obtain rfl := Except.ok.inj h
    have hne : "parameters" ≠ m.key := by cases m <;> decide
    rw [if_neg hne]
    rfl
  · rw [if_neg hparameters] at h
    cases hkey : Method.ofKey? key with
    | some other =>
      rw [hkey] at h
      obtain ⟨o, ho, h⟩ := Built.bind_eq_ok.mp h
      obtain rfl := Except.ok.inj h
      obtain rfl : other.key = key := by simpa using List.find?_some hkey
      rw [operation?_insert]
      by_cases hm : other = m
      · subst hm
        rw [if_pos rfl, if_pos rfl]
        exact Built.map_eq_ok.mpr ⟨o, ho, rfl⟩
      · rw [if_neg hm, if_neg fun hkeys => hm (Method.key_injective hkeys)]
        rfl
    | none =>
      rw [hkey] at h
      obtain rfl := Except.ok.inj h
      -- a key that is no method is skipped, and so it is not the key of `m`
      have hne : key ≠ m.key := by
        rintro rfl
        rw [Method.ofKey?_key] at hkey
        cases hkey
      rw [if_neg hne]
      rfl

/-- **Operations of a decoded item**: each comes from what is written last under its key. -/
theorem gives_operation {d : Data} {item : PathItem} (h : decode d = .ok item) (m : Method) :
    Data.Gives (fun x => x.json.bind fun v => (Operation.decode (Data.ofJson v)).map some) none
      (d.last? m.key) (item.operation? m) := by
  obtain ⟨fields, hfields, hitem⟩ := Built.bind_eq_ok.mp h
  have hlast := Data.gives_foldlM (fun item => item.operation? m)
    (fun hstep => operation?_of_set hstep m) hitem
  rw [Entries.get?_reverse (Data.nodup_entries hfields)] at hlast
  have hvalue := Data.gives_entries hfields m.key
  cases hdata : d.last? m.key with
  | some x =>
    rw [hdata] at hvalue
    obtain ⟨v, hv, hget⟩ := Built.map_eq_ok.mp hvalue
    rw [← hget] at hlast
    exact Built.bind_eq_ok.mpr ⟨v, hv, hlast⟩
  | none =>
    rw [hdata] at hvalue
    rw [show Entries.get? fields m.key = none from hvalue] at hlast
    exact hlast

end PathItem

/-! ### Operations of a document -/

namespace Description

/-- **The object of an operation** in a document. -/
def operationObject? (document : Data) (path : String) (m : Method) : Option Json :=
  (document.declared? fieldNames "paths").bind fun paths =>
    (paths.last? path).bind fun item => (item.last? m.key).bind Data.toJson?

/-- **An operation comes from its object**: if the document declares an object for the path and the
method, the description has an operation there, and it is what the object decodes to. -/
theorem exists_operation_of_object {document : Data} {api : Description}
    (h : decode document = .ok api) {path : String} {m : Method} {object : Json}
    (hobject : operationObject? document path m = some object) :
    ∃ operation, api.operation path m = .ok operation ∧
      Operation.decode (Data.ofJson object) = .ok operation := by
  obtain ⟨paths, hpaths, hobject⟩ := Option.bind_eq_some_iff.mp hobject
  obtain ⟨itemData, hitemData, hobject⟩ := Option.bind_eq_some_iff.mp hobject
  obtain ⟨x, hx, hjson⟩ := Option.bind_eq_some_iff.mp hobject
  have hdeclared := gives_paths h
  rw [hpaths] at hdeclared
  have hitem := Data.gives_entries hdeclared path
  rw [hitemData] at hitem
  obtain ⟨item, hdecode, hget⟩ := Built.map_eq_ok.mp hitem
  have hoperation := PathItem.gives_operation hdecode m
  rw [hx] at hoperation
  obtain ⟨v, hv, hfound⟩ := Built.bind_eq_ok.mp hoperation
  obtain ⟨operation, ho, hsome⟩ := Built.map_eq_ok.mp hfound
  obtain rfl : v = object := by
    rw [Data.json, hjson] at hv
    exact (Except.ok.inj hv).symm
  exact ⟨operation, operation_eq_ok.mpr ⟨item, hget.symm, hsome.symm⟩, ho⟩

/-- **An operation has its object**: the document declares one for each operation of the description. -/
theorem exists_object_of_operation {document : Data} {api : Description}
    (h : decode document = .ok api) {path : String} {m : Method} {operation : Operation}
    (hoperation : api.operation path m = .ok operation) :
    ∃ object, operationObject? document path m = some object ∧
      Operation.decode (Data.ofJson object) = .ok operation := by
  obtain ⟨item, hitem, hfound⟩ := operation_eq_ok.mp hoperation
  have hdeclared := gives_paths h
  rw [operationObject?]
  cases hpaths : document.declared? fieldNames "paths" with
  | none =>
    rw [hpaths] at hdeclared
    rw [show api.paths = [] from hdeclared] at hitem
    cases hitem
  | some paths =>
    rw [hpaths] at hdeclared
    -- the item of a path is decoded from what was written there last
    obtain ⟨itemData, hlast, hdecode⟩ :=
      Data.last?_of_mem_entries hdeclared (Entries.mem_of_get? hitem)
    have hgives := PathItem.gives_operation hdecode m
    rw [hfound] at hgives
    cases hx : itemData.last? m.key with
    | none =>
      rw [hx] at hgives
      cases hgives
    | some x =>
      rw [hx] at hgives
      obtain ⟨object, hobject, hvalue⟩ := Built.bind_eq_ok.mp hgives
      obtain ⟨o, ho, heq⟩ := Built.map_eq_ok.mp hvalue
      obtain rfl := Option.some.inj heq
      refine ⟨object, ?_, ho⟩
      rw [Option.bind_some, hlast, Option.bind_some, hx]
      exact Data.json_eq_ok.mp hobject

end Description

end ApiScaffold
