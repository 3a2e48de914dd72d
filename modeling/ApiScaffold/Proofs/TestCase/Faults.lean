import ApiScaffold.Proofs.Path.Recognized

/-!
# Why a case is refused

Building a case is a chain of checks spread over many places. Here the checks stand in one list
(`TestCase.checks`), each with what it finds wrong, without the order of events inside the builders. A
case is built exactly if no check finds anything, and else its fault is the first that one of them finds
(`TestCase.Refuses`). Either way the context is touched as little as possible: not at all by a fault, and
only by the note of a load test otherwise.
-/

namespace ApiScaffold

variable {api : Description}

/-! ### Declarations and what is wrong with them -/

/-- **Faults of a shared parameter**: it does not resolve, or the operation does not declare it anew and
it is a body or has a location without a meaning. -/
inductive ParameterEntry.SharedFault (api : Description) (operation : Operation)
    (entry : ParameterEntry) : Fault → Prop
  | unresolved {fault : Fault} (h : api.resolveParameter entry = .error fault) :
    SharedFault api operation entry fault
  | body {p : Parameter} (h : api.resolveParameter entry = .ok p)
    (hnew : ¬ operation.Redeclares api p.name) (hbody : p.location = .body) :
    SharedFault api operation entry (.configuration (.sharedBodyParameter p.name))
  | location {p : Parameter} {tag : String} (h : api.resolveParameter entry = .ok p)
    (hnew : ¬ operation.Redeclares api p.name) (hlocation : p.location = .unknown tag) :
    SharedFault api operation entry (.configuration (.unknownLocation p.name tag))

/-- **Fault of a location**: it has no meaning. -/
inductive Parameter.LocationFault (p : Parameter) : Fault → Prop
  | unknown {tag : String} (h : p.location = .unknown tag) :
    LocationFault p (.configuration (.unknownLocation p.name tag))

/-- **Fault of a body**: the references of its schema lead nowhere. -/
inductive Parameter.BodyFault (api : Description) (p : Parameter) : Fault → Prop
  | schema {schema : Json} {fault : Fault} (hbody : p.location = .body)
    (hschema : p.schema = some schema) (h : api.resolveSchema schema = .error fault) :
    BodyFault api p fault

/-- What is wrong with the parameter that an entry leads to. -/
def ParameterEntry.Leads (api : Description) (bad : Parameter → Fault → Prop)
    (entry : ParameterEntry) (fault : Fault) : Prop :=
  ∃ p, api.resolveParameter entry = .ok p ∧ bad p fault

/-- **Faults of a scheme**: it is not declared, or its type or placement has no meaning. -/
inductive SecurityScheme.NameFault (api : Description) (name : String) : Fault → Prop
  | undefined (h : api.securityDefinitions.get? name = none) :
    NameFault api name (.configuration (.undefinedScheme name))
  | placement {tag key : String}
    (h : api.securityDefinitions.get? name = some (.apiKey (.unknown tag) key)) :
    NameFault api name (.configuration (.unknownKeyPlacement name tag))
  | type {type : String} (h : api.securityDefinitions.get? name = some (.unknown type)) :
    NameFault api name (.configuration (.unknownSchemeType name type))

/-! ### Parameters -/

namespace ParameterBuckets

open ParameterEntry (SharedFault Leads)
open Parameter (LocationFault BodyFault)

variable {item : PathItem} {operation : Operation} {own : List Parameter} {b : ParameterBuckets}
  {fault : Fault}

/-- Checks of resolved parameters are checks of the entries that lead to them. -/
theorem map_leads_eq {entries : List ParameterEntry} {ps : List Parameter}
    (h : List.Forall₂ (fun entry p => api.resolveParameter entry = .ok p) entries ps)
    (bad : Parameter → Fault → Prop) : entries.map (Leads api bad) = ps.map bad := by
  induction h with
  | nil => rfl
  | cons hp _ ih =>
    rw [List.map_cons, List.map_cons, ih]
    congr 1
    funext other
    simp [Leads, hp]

theorem place_ofList_eq_error {ps : List Parameter} {p : Parameter} :
    (ofList ps).place p = .error fault ↔ p.LocationFault fault := by
  rw [place]
  constructor
  · intro h
    cases hlocation : p.location with
    | unknown tag =>
      rw [hlocation] at h
      obtain rfl := Except.error.inj h
      exact .unknown hlocation
    | _ => rw [hlocation] at h; cases h
  · rintro ⟨hlocation⟩
    rw [hlocation]

/-- An entry that does not resolve has this fault and no other. -/
theorem sharedFault_of_error {entry : ParameterEntry} {found : Fault}
    (h : api.resolveParameter entry = .error found) :
    SharedFault api operation entry fault ↔ found = fault := by
  constructor
  · rintro (h' | ⟨h', -, -⟩ | ⟨h', -, -⟩) <;> cases h.symm.trans h'
    rfl
  · rintro rfl
    exact .unresolved h

/-- An entry that resolves has a fault of its location, unless the operation declares the parameter
anew. -/
theorem sharedFault_of_ok {entry : ParameterEntry} {p : Parameter}
    (h : api.resolveParameter entry = .ok p) : SharedFault api operation entry fault ↔
      ¬ operation.Redeclares api p.name ∧
        (p.location = .body ∧ .configuration (.sharedBodyParameter p.name) = fault ∨
          ∃ tag, p.location = .unknown tag ∧
            .configuration (.unknownLocation p.name tag) = fault) := by
  constructor
  · rintro (h' | ⟨h', hnew, hbody⟩ | ⟨h', hnew, hlocation⟩) <;> cases h.symm.trans h'
    · exact ⟨hnew, .inl ⟨hbody, rfl⟩⟩
    · exact ⟨hnew, .inr ⟨_, hlocation, rfl⟩⟩
  · rintro ⟨hnew, ⟨hbody, rfl⟩ | ⟨tag, hlocation, rfl⟩⟩
    · exact .body h hnew hbody
    · exact .location h hnew hlocation

/-- **One shared entry**: its fault stops the placing, and without one the rest goes on from another list
of placed parameters. -/
theorem placeShared_cons
    (hown : List.Forall₂ (fun entry p => api.resolveParameter entry = .ok p) operation.parameters own)
    (entry : ParameterEntry) (rest : List ParameterEntry) (ps : List Parameter) :
    (∃ found, (∀ other, SharedFault api operation entry other ↔ found = other) ∧
      placeShared api own (entry :: rest) (ofList ps) = .error found) ∨
    (∀ other, ¬ SharedFault api operation entry other) ∧
      ∃ more, placeShared api own (entry :: rest) (ofList ps) =
        placeShared api own rest (ofList more) := by
  rw [placeShared]
  cases hp : api.resolveParameter entry with
  | error found => exact .inl ⟨found, fun _ => sharedFault_of_error hp, rfl⟩
  | ok p =>
    rw [Built.ok_bind]
    simp only [sharedFault_of_ok hp]
    by_cases hdeclared : operation.Redeclares api p.name
    -- what the operation declares anew is passed over, whatever its location
    · rw [if_pos ((redeclares_iff_of_resolved hown).mpr hdeclared)]
      exact .inr ⟨fun _ h => h.1 hdeclared, ps, rfl⟩
    rw [if_neg (mt (redeclares_iff_of_resolved hown).mp hdeclared)]
    by_cases hbody : p.location = .body
    · rw [if_pos hbody]
      exact .inl ⟨_, fun _ => by simp [hdeclared, hbody], rfl⟩
    rw [if_neg hbody]
    by_cases hlocation : p.location.IsKnown
    · rw [place_ofList.mpr ⟨hlocation, rfl⟩, Built.ok_bind]
      refine .inr ⟨?_, _, rfl⟩
      rintro _ ⟨-, ⟨h, -⟩ | ⟨tag, h, -⟩⟩
      · exact hbody h
      · exact hlocation tag h
    · obtain ⟨tag, htag⟩ := not_forall_not.mp hlocation
      rw [place_ofList_eq_error.mpr (.unknown htag), Built.error_bind]
      exact .inl ⟨_, fun _ => by simp [hdeclared, htag], rfl⟩

/-- Shared parameters fail at the first entry with a fault. -/
theorem placeShared_eq_error
    (hown : List.Forall₂ (fun entry p => api.resolveParameter entry = .ok p) operation.parameters own)
    {entries : List ParameterEntry} {ps : List Parameter} :
    placeShared api own entries (ofList ps) = .error fault ↔
      Built.FirstFault (entries.map (SharedFault api operation)) fault := by
  induction entries generalizing ps with
  | nil => simp [placeShared, Built.not_firstFault_nil]
  | cons entry rest ih =>
    rw [List.map_cons, Built.firstFault_cons]
    rcases placeShared_cons hown entry rest ps with ⟨found, hfound, h⟩ | ⟨hnone, more, h⟩
    · have hsome : ¬ ∀ other, ¬ SharedFault api operation entry other :=
        fun hnone => hnone found ((hfound found).mpr rfl)
      rw [h, Except.error.injEq, hfound]
      simp [hsome]
    · rw [h, ih]
      simp [hnone]

/-- **Checks of a merge**: the operation's entries resolve, the path's entries are in order, and then the
locations of the operation's parameters have a meaning. -/
def checks (api : Description) (item : PathItem) (operation : Operation) : List (Fault → Prop) :=
  operation.parameters.map (fun entry other => api.resolveParameter entry = .error other) ++
    item.parameters.map (SharedFault api operation) ++
    operation.parameters.map (Leads api LocationFault)

theorem merge_eq_error :
    merge api item operation = .error fault ↔ Built.FirstFault (checks api item operation) fault := by
  have hempty : ({} : ParameterBuckets) = ofList [] := rfl
  rw [checks, List.append_assoc, merge, hempty]
  refine Built.bind_eq_error_iff_firstFault Built.mapM_eq_error fun own hown => ?_
  have hown := Built.mapM_eq_ok.mp hown
  refine Built.bind_eq_error_iff_firstFault (placeShared_eq_error hown) fun b hb => ?_
  obtain ⟨shared, -, -, rfl⟩ := placeShared_ofList.mp hb
  rw [map_leads_eq hown]
  exact Built.foldlM_eq_error place_ofList_eq_error fun h => (place_ofList.mp h).2.symm

/-- The body of merged parameters is that of the operation. -/
theorem body_of_merge (h : merge api item operation = .ok b) :
    ∃ own, List.Forall₂ (fun entry p => api.resolveParameter entry = .ok p)
        operation.parameters own ∧ b.body = own.filter fun p => p.location = .body := by
  obtain ⟨own, shared, hown, -, hhanded, -, rfl⟩ := merge_eq_ok.mp h
  refine ⟨own, hown, ?_⟩
  have hnone : (inherited own shared).filter (fun p => p.location = .body) = [] := by
    simpa using fun p hp => (hhanded p hp).2
  change (inherited own shared ++ own).filter (fun p => p.location = .body) = _
  rw [List.filter_append, hnone, List.nil_append]

end ParameterBuckets

/-! ### Credentials -/

namespace Credentials

variable {fault : Fault}

theorem place_eq_error {c : Credentials} {name : String} :
    place api c name = .error fault ↔ SecurityScheme.NameFault api name fault := by
  rw [place]
  constructor
  · intro h
    rcases hscheme : api.securityDefinitions.get? name with _ | _ | ⟨_ | _ | tag, key⟩ | _ | type
    all_goals
      rw [hscheme] at h
      cases h
    · exact .undefined hscheme
    · exact .placement hscheme
    · exact .type hscheme
  · rintro (h | h | h) <;> rw [h]

/-- Placing fails at the first name with a fault. -/
theorem ofRequirements_eq_error {requirements : List SecurityRequirement} :
    ofRequirements api requirements = .error fault ↔
      Built.FirstFault ((namesOf requirements).map (SecurityScheme.NameFault api)) fault := by
  cases requirements with
  | nil => simp [ofRequirements, namesOf, Built.not_firstFault_nil]
  | cons requirement rest =>
    have hempty : ({} : Credentials) = ofNames api [] := rfl
    have hnext {names : List String} {name : String} {c : Credentials}
        (h : place api (ofNames api names) name = .ok c) : c = ofNames api (names ++ [name]) :=
      (place_ofNames.mp h).2.symm
    rw [ofRequirements, hempty]
    exact Built.foldlM_eq_error place_eq_error hnext

end Credentials

/-! ### The whole case -/

namespace TestCase

open ParameterEntry (Leads)
open Parameter (BodyFault)

variable {config : RunConfig} {item : PathItem} {operation : Operation} {fault : Fault}

theorem bodyNames_eq_error {p : Parameter} : bodyNames api p = .error fault ↔
    ∃ schema, p.schema = some schema ∧ api.resolveSchema schema = .error fault := by
  rw [bodyNames]
  cases p.schema with
  | none => simp
  | some schema =>
    rw [Built.bind_eq_error]
    simp [pure, Except.pure]

/-- A body fails at the first parameter whose schema does not resolve. -/
theorem bodyValuesOf_eq_error {pool : ValuePool} {deps : Dependencies} {b : ParameterBuckets}
    (h : ParameterBuckets.merge api item operation = .ok b) :
    bodyValuesOf api pool deps b.body = .error fault ↔
      Built.FirstFault (operation.parameters.map (Leads api (BodyFault api))) fault := by
  obtain ⟨own, hown, hbody⟩ := ParameterBuckets.body_of_merge h
  have hpass : bodyValuesOf api pool deps b.body = .error fault ↔
      b.body.mapM (bodyNames api) = .error fault := by
    rw [bodyValuesOf, Built.bind_eq_error]
    simp [pure, Except.pure]
  have hbad : (fun (p : Parameter) other => decide (p.location = .body) = true ∧
      bodyNames api p = .error other) = BodyFault api := by
    funext p other
    rw [bodyNames_eq_error, decide_eq_true_eq]
    refine propext ⟨?_, ?_⟩
    · rintro ⟨hlocation, schema, hschema, hfault⟩
      exact .schema hlocation hschema hfault
    · rintro ⟨hlocation, hschema, hfault⟩
      exact ⟨hlocation, _, hschema, hfault⟩
  rw [hpass, hbody, Built.mapM_eq_error, Built.firstFault_map_filter,
    ParameterBuckets.map_leads_eq hown, hbad]

/-- **Checks of a case** whose response is declared, in order: the parameters, the schemes of the first
requirement, the schemas of the bodies. -/
def checks (api : Description) (item : PathItem) (operation : Operation)
    (security : List SecurityRequirement) : List (Fault → Prop) :=
  ParameterBuckets.checks api item operation ++
    (Credentials.namesOf security).map (SecurityScheme.NameFault api) ++
    operation.parameters.map (Leads api (BodyFault api))

/-- **A refused request**: its path, operation or response is not declared, or a check finds something
wrong first. -/
inductive Refuses (api : Description) (security : List SecurityRequirement) (request : CaseRequest) :
    Fault → Prop
  | path (h : api.paths.get? request.path = none) :
    Refuses api security request (.description (.undeclaredPath request.path))
  | operation {item : PathItem} (hitem : api.paths.get? request.path = some item)
    (h : item.operation? request.method = none) :
    Refuses api security request
      (.description (.undeclaredOperation request.method request.path))
  | response {item : PathItem} {operation : Operation}
    (hitem : api.paths.get? request.path = some item)
    (hoperation : item.operation? request.method = some operation)
    (h : request.responseCode ∉ operation.responses.names) :
    Refuses api security request
      (.description (.undeclaredResponse request.responseCode request.method request.path))
  | check {item : PathItem} {operation : Operation} {fault : Fault}
    (hitem : api.paths.get? request.path = some item)
    (hoperation : item.operation? request.method = some operation)
    (hresponse : request.responseCode ∈ operation.responses.names)
    (h : Built.FirstFault (checks api item operation security) fault) :
    Refuses api security request fault

/-- **An accepted request**: its path, operation and response are declared, each parameter that counts is
recognised, the schemes of the first requirement are declared and recognised, and the bodies resolve. -/
structure Accepts (api : Description) (security : List SecurityRequirement) (request : CaseRequest)
    (item : PathItem) (operation : Operation) : Prop where
  isItem : api.paths.get? request.path = some item
  isOperation : item.operation? request.method = some operation
  response : request.responseCode ∈ operation.responses.names
  own : ∀ entry ∈ operation.parameters, ∃ p, api.resolveParameter entry = .ok p ∧
    p.location.IsKnown
  shared : ∀ entry ∈ item.parameters, ∃ p, api.resolveParameter entry = .ok p ∧
    (operation.Redeclares api p.name ∨ p.location.IsKnown ∧ p.location ≠ .body)
  schemes : ∀ name ∈ Credentials.namesOf security, Credentials.IsDeclared api name
  bodies : operation.BodiesResolve api

/-! #### Declarations -/

variable {security : List SecurityRequirement} {request : CaseRequest}

theorem exists_response_iff : (∃ answer, response operation request = .ok answer) ↔
    request.responseCode ∈ operation.responses.names := by
  simp only [response_eq_ok, Entries.exists_get?_eq_some_iff]

theorem build_of_undeclaredPath (h : api.paths.get? request.path = none) :
    build api config security request = .error (.description (.undeclaredPath request.path)) := by
  rw [build, Description.pathItem, h, Built.error_bind]

theorem build_of_undeclaredOperation (hitem : api.paths.get? request.path = some item)
    (h : item.operation? request.method = none) :
    build api config security request =
      .error (.description (.undeclaredOperation request.method request.path)) := by
  rw [build, Description.operation, Description.pathItem_eq_ok.mpr hitem]
  simp only [Built.ok_bind, h, Built.error_bind]

theorem build_of_undeclaredResponse (hitem : api.paths.get? request.path = some item)
    (hoperation : item.operation? request.method = some operation)
    (h : request.responseCode ∉ operation.responses.names) :
    build api config security request =
      .error (.description
        (.undeclaredResponse request.responseCode request.method request.path)) := by
  rw [build, Description.pathItem_eq_ok.mpr hitem,
    Description.operation_eq_ok.mpr ⟨item, hitem, hoperation⟩]
  simp only [Built.ok_bind]
  rw [response, Entries.get?_eq_none_iff.mpr h, Built.error_bind]

/-- With its response declared, a case fails at the first check that finds something. -/
theorem build_eq_error_of_declared (hitem : api.paths.get? request.path = some item)
    (hoperation : item.operation? request.method = some operation)
    (hresponse : request.responseCode ∈ operation.responses.names) :
    build api config security request = .error fault ↔
      Built.FirstFault (checks api item operation security) fault := by
  obtain ⟨answer, hanswer⟩ := exists_response_iff.mpr hresponse
  rw [build, Description.pathItem_eq_ok.mpr hitem,
    Description.operation_eq_ok.mpr ⟨item, hitem, hoperation⟩]
  simp only [Built.ok_bind]
  -- the three links that are left have one part of the checks each
  rw [hanswer, Built.ok_bind, checks, List.append_assoc]
  refine Built.bind_eq_error_iff_firstFault ParameterBuckets.merge_eq_error fun b hb => ?_
  refine Built.bind_eq_error_iff_firstFault Credentials.ofRequirements_eq_error fun _ _ => ?_
  rw [Built.bind_eq_error, bodyValuesOf_eq_error hb]
  simp [pure, Except.pure]

/-! #### Acceptance and refusal -/

/-- **Success of a case**: its request is accepted. -/
theorem exists_build_iff_accepts : (∃ t, build api config security request = .ok t) ↔
    ∃ item operation, Accepts api security request item operation := by
  constructor
  · rintro ⟨t, h⟩
    obtain ⟨item, operation, answer, -, -, -, hitem, hoperation, hanswer, -⟩ := build_eq_ok.mp h
    obtain ⟨hmerge, hschemes, hbodies⟩ := (exists_build_iff hitem hoperation hanswer).mp ⟨t, h⟩
    obtain ⟨hown, hshared⟩ := ParameterBuckets.exists_merge_iff.mp hmerge
    obtain ⟨i, hi, hoperation⟩ := Description.operation_eq_ok.mp hoperation
    have hitem := Description.pathItem_eq_ok.mp hitem
    obtain rfl := Option.some.inj (hi.symm.trans hitem)
    exact ⟨i, operation, hi, hoperation, exists_response_iff.mp ⟨answer, hanswer⟩, hown, hshared,
      hschemes, hbodies⟩
  · rintro ⟨item, operation, hitem, hoperation, hresponse, hown, hshared, hschemes, hbodies⟩
    obtain ⟨answer, hanswer⟩ := exists_response_iff.mpr hresponse
    exact (exists_build_iff (Description.pathItem_eq_ok.mpr hitem)
      (Description.operation_eq_ok.mpr ⟨item, hitem, hoperation⟩) hanswer).mpr
      ⟨ParameterBuckets.exists_merge_iff.mpr ⟨hown, hshared⟩, hschemes, hbodies⟩

/-- **Failure of a case**: its fault is what refuses the request. -/
theorem build_eq_error_iff_refuses :
    build api config security request = .error fault ↔ Refuses api security request fault := by
  constructor
  · intro h
    cases hitem : api.paths.get? request.path with
    | none =>
      obtain rfl := Except.error.inj ((build_of_undeclaredPath hitem).symm.trans h)
      exact .path hitem
    | some item =>
      cases hoperation : item.operation? request.method with
      | none =>
        obtain rfl :=
          Except.error.inj ((build_of_undeclaredOperation hitem hoperation).symm.trans h)
        exact .operation hitem hoperation
      | some operation =>
        by_cases hresponse : request.responseCode ∈ operation.responses.names
        · exact .check hitem hoperation hresponse
            ((build_eq_error_of_declared hitem hoperation hresponse).mp h)
        · obtain rfl := Except.error.inj
            ((build_of_undeclaredResponse hitem hoperation hresponse).symm.trans h)
          exact .response hitem hoperation hresponse
  · rintro (hitem | ⟨hitem, hoperation⟩ | ⟨hitem, hoperation, hresponse⟩ |
      ⟨hitem, hoperation, hresponse, h⟩)
    · exact build_of_undeclaredPath hitem
    · exact build_of_undeclaredOperation hitem hoperation
    · exact build_of_undeclaredResponse hitem hoperation hresponse
    · exact (build_eq_error_of_declared hitem hoperation hresponse).mpr h

end TestCase

/-! ### The context around it -/

namespace RunContext

/-- Only a load test of its own path and method leaves a note. -/
theorem noteLoadTest_of_build {config : RunConfig} {request : CaseRequest}
    {security : List SecurityRequirement} {t : TestCase}
    (h : TestCase.build api config security request = .ok t) (context : RunContext) :
    context.noteLoadTest t = { context with
      imports := { context.imports with
        loadTest := context.imports.loadTest || config.loadTest.any fun entry =>
          entry.pathName = request.path && entry.operation = request.method } } := by
  obtain ⟨_, _, _, _, rfl⟩ := TestCase.assembled_of_build h
  rw [noteLoadTest, TestCase.assemble, TestCase.loadTestOf, Option.isSome_map, RunConfig.loadTestFor,
    List.isSome_find?]

/-- **A case is built or refused as a whole.** It is built exactly if its request is accepted. Else its
fault is what refuses the request: of several things that are wrong, the one that comes first in the
order of the checks. A fault leaves the context as it was, and a case that is built leaves no more in it
than the note of a load test for its path and method. -/
theorem build_accepts_or_refuses (api : Description) (config : RunConfig) (context : RunContext)
    (request : CaseRequest) :
    ((∃ t, (context.build api config request).1 = .ok t) ↔
      ∃ item operation, TestCase.Accepts api context.security request item operation) ∧
    (∀ fault, (context.build api config request).1 = .error fault ↔
      TestCase.Refuses api context.security request fault) ∧
    (∀ fault, (context.build api config request).1 = .error fault →
      (context.build api config request).2 = context) ∧
    ∀ t, (context.build api config request).1 = .ok t →
      (context.build api config request).2 = { context with
        imports := { context.imports with
          loadTest := context.imports.loadTest || config.loadTest.any fun entry =>
            entry.pathName = request.path && entry.operation = request.method } } := by
  simp only [build_fst]
  refine ⟨TestCase.exists_build_iff_accepts, fun _ => TestCase.build_eq_error_iff_refuses, ?_, ?_⟩
  · intro fault h
    rw [build_eq_of_error context h]
  · intro t h
    rw [build_eq_of_ok context h, noteLoadTest_of_build h]

end RunContext

end ApiScaffold
