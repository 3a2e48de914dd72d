import ApiScaffold.Build.Credentials
import ApiScaffold.Proofs.Built

/-!
# Placed credentials

The schemes of a security requirement are placed one after the other, and a later one may replace an
earlier one. What comes out of it does not need the order of events: each place holds what the last
scheme that belongs there puts into it (`Credentials.ofNames`, `LastFills`). The placing succeeds
exactly if each scheme is declared with a recognised type and placement.
-/

namespace ApiScaffold

namespace SecurityScheme

/-- **Recognised schemes**: the type has a meaning, and so has the placement of a key. -/
def IsKnown : SecurityScheme → Prop
  | .basic => True
  | .oauth2 => True
  | .apiKey .query _ => True
  | .apiKey .header _ => True
  | .apiKey (.unknown _) _ => False
  | .unknown _ => False

/-- What a scheme with a variable puts into the `Authorization` header. -/
def authorization? (variableName : String) : SecurityScheme → Option HeaderSecurity
  | .basic => some ⟨variableName, .basic⟩
  | .oauth2 => some ⟨variableName, .bearer⟩
  | _ => none

/-- What a scheme with a variable puts into the query: its key in `lowerCamelCase`. -/
def queryKey? (variableName : String) : SecurityScheme → Option KeyCredential
  | .apiKey .query key => some ⟨variableName, Text.lowerCamel key⟩
  | _ => none

/-- What a scheme with a variable puts into a header of its own: its key as it is. -/
def headerKey? (variableName : String) : SecurityScheme → Option KeyCredential
  | .apiKey .header key => some ⟨variableName, key⟩
  | _ => none

/-- What is put into a header to authorize names the variable of its scheme. -/
theorem variableName_of_authorization? {v : String} {scheme : SecurityScheme} {c : HeaderSecurity}
    (h : scheme.authorization? v = some c) : c.variableName = v := by
  cases scheme <;> cases h <;> rfl

theorem variableName_of_queryKey? {v : String} {scheme : SecurityScheme} {c : KeyCredential}
    (h : scheme.queryKey? v = some c) : c.variableName = v := by
  rcases scheme with _ | ⟨_ | _ | _, _⟩ | _ | _ <;> cases h
  rfl

theorem variableName_of_headerKey? {v : String} {scheme : SecurityScheme} {c : KeyCredential}
    (h : scheme.headerKey? v = some c) : c.variableName = v := by
  rcases scheme with _ | ⟨_ | _ | _, _⟩ | _ | _ <;> cases h
  rfl

end SecurityScheme

/-- **The last to fill a place**: a place holds what the last of the names that have something for it
puts there, and it is empty exactly if none of them has. -/
def LastFills {α : Type} (f : String → Option α) (names : List String) : Option α → Prop
  | none => ∀ name ∈ names, f name = none
  | some filled => ∃ before name after, names = before ++ name :: after ∧ f name = some filled ∧
      ∀ later ∈ after, f later = none

/-- **The last one wins**: to look for what fills a place from the end is to let each name overwrite
those before it. -/
theorem lastFills_findSome?_reverse {α : Type} (f : String → Option α) (names : List String) :
    LastFills f names (names.reverse.findSome? f) := by
  cases h : names.reverse.findSome? f with
  | none => simpa [LastFills] using h
  | some filled =>
    obtain ⟨after, name, before, hnames, hname, hafter⟩ := List.findSome?_eq_some_iff.mp h
    refine ⟨before.reverse, name, after.reverse, ?_, hname, ?_⟩
    · rw [← List.reverse_reverse names, hnames]
      simp
    · simpa using hafter

/-- What fills a place was put there by one of the names. -/
theorem LastFills.exists_mem {α : Type} {f : String → Option α} {names : List String} {filled : α}
    (h : LastFills f names (some filled)) : ∃ name ∈ names, f name = some filled := by
  obtain ⟨before, name, after, rfl, hname, -⟩ := h
  exact ⟨name, by simp, hname⟩

namespace Credentials

variable {api : Description}

/-! ### One scheme after the other -/

/-- What the scheme of a name puts into a place, if the name is declared. Its variable is the name in
`SCREAMING_SNAKE_CASE`. -/
def ofScheme? {α : Type} (api : Description) (place : String → SecurityScheme → Option α)
    (name : String) : Option α :=
  (api.securityDefinitions.get? name).bind (place (Text.screamingSnake name))

/-- **Credentials of names**: in each place what the last name puts there. -/
def ofNames (api : Description) (names : List String) : Credentials where
  authorization := names.reverse.findSome? (ofScheme? api SecurityScheme.authorization?)
  queryKey := names.reverse.findSome? (ofScheme? api SecurityScheme.queryKey?)
  headerKey := names.reverse.findSome? (ofScheme? api SecurityScheme.headerKey?)

/-- **Declared schemes** that are recognised. -/
def IsDeclared (api : Description) (name : String) : Prop :=
  ∃ scheme, api.securityDefinitions.get? name = some scheme ∧ scheme.IsKnown

/-- **One more scheme** is placed exactly if it is declared and known, and it is placed after those
before it. No other check is made, so a place that is filled already is filled anew. -/
theorem place_ofNames {names : List String} {name : String} {c : Credentials} :
    place api (ofNames api names) name = .ok c ↔
      IsDeclared api name ∧ ofNames api (names ++ [name]) = c := by
  rw [place, IsDeclared, ofNames, ofNames, List.reverse_append, List.reverse_singleton,
    List.singleton_append]
  simp only [List.findSome?_cons, ofScheme?]
  rcases api.securityDefinitions.get? name with _ | _ | ⟨_ | _ | _, _⟩ | _ | _ <;>
    simp [SecurityScheme.IsKnown, SecurityScheme.authorization?, SecurityScheme.queryKey?,
      SecurityScheme.headerKey?]

/-! ### Requirements -/

/-- The schemes that count: those of the first requirement. -/
def namesOf : List SecurityRequirement → List String
  | [] => []
  | requirement :: _ => requirement.names

/-- **Success of placing**: each scheme of the first requirement is declared and recognised, and each
place holds what the last of them puts there. -/
theorem ofRequirements_eq_ok {requirements : List SecurityRequirement} {c : Credentials} :
    ofRequirements api requirements = .ok c ↔
      (∀ name ∈ namesOf requirements, IsDeclared api name) ∧
        ofNames api (namesOf requirements) = c := by
  cases requirements with
  | nil => simp [ofRequirements, namesOf, ofNames]
  | cons requirement rest =>
    have hempty : ({} : Credentials) = ofNames api [] := rfl
    rw [ofRequirements, hempty]
    exact Built.foldlM_eq_ok place_ofNames

/-- **Placed credentials**: each place holds what the last of the names that have something for it
puts there. -/
structure PlacedFrom (api : Description) (names : List String) (c : Credentials) : Prop where
  authorization : LastFills (ofScheme? api SecurityScheme.authorization?) names c.authorization
  queryKey : LastFills (ofScheme? api SecurityScheme.queryKey?) names c.queryKey
  headerKey : LastFills (ofScheme? api SecurityScheme.headerKey?) names c.headerKey

/-- Each of the three places has what the last name with a use for it put there. -/
theorem placedFrom_ofNames (names : List String) : PlacedFrom api names (ofNames api names) where
  authorization := lastFills_findSome?_reverse ..
  queryKey := lastFills_findSome?_reverse ..
  headerKey := lastFills_findSome?_reverse ..

/-! ### Variables -/

/-- The variables that hold credentials. -/
def variableNames (c : Credentials) : List String :=
  (c.authorization.map (·.variableName)).toList ++ (c.queryKey.map (·.variableName)).toList ++
    (c.headerKey.map (·.variableName)).toList

/-- Credentials with a variable are not the empty ones. -/
theorem ne_empty_of_mem {c : Credentials} {name : String} (h : name ∈ c.variableNames) :
    c ≠ {} := by
  rintro rfl
  cases h

/-- The variable of what fills a place is one of the environment. -/
theorem mem_environmentNames_of_lastFills {α : Type} {place : String → SecurityScheme → Option α}
    {variableOf : α → String}
    (hplace : ∀ {v scheme c}, place v scheme = some c → variableOf c = v) {names : List String}
    {slot : Option α} (h : LastFills (ofScheme? api place) names slot) {v : String}
    (hv : v ∈ (slot.map variableOf).toList) : v ∈ api.environmentNames := by
  cases slot with
  | none => cases hv
  | some c =>
    obtain rfl : v = variableOf c := by simpa using hv
    obtain ⟨name, -, hname⟩ := h.exists_mem
    obtain ⟨scheme, hscheme, hc⟩ := Option.bind_eq_some_iff.mp hname
    rw [hplace hc]
    exact List.mem_map_of_mem (Entries.exists_get?_eq_some_iff.mp ⟨scheme, hscheme⟩)

/-- **Credentials are in the environment**: the variable of each is listed there. Both take the name of
the scheme in upper case, so they cannot differ. -/
theorem PlacedFrom.mem_environmentNames {names : List String} {c : Credentials}
    (h : PlacedFrom api names c) {v : String} (hv : v ∈ c.variableNames) :
    v ∈ api.environmentNames := by
  rw [variableNames, List.mem_append, List.mem_append] at hv
  rcases hv with (hv | hv) | hv
  · exact mem_environmentNames_of_lastFills SecurityScheme.variableName_of_authorization?
      h.authorization hv
  · exact mem_environmentNames_of_lastFills SecurityScheme.variableName_of_queryKey? h.queryKey hv
  · exact mem_environmentNames_of_lastFills SecurityScheme.variableName_of_headerKey?
      h.headerKey hv

end Credentials

end ApiScaffold
