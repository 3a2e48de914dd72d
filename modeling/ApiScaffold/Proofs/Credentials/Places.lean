import ApiScaffold.Proofs.TestCase

/-!
# One place for each scheme

The schemes of a requirement are meant to be sent together, and a case has three places to put them. Which
of them a scheme needs is fixed by its type (`SecurityScheme.place?`). So each scheme gets a place of its
own (`Credentials.HaveOwnPlaces`) exactly if no two of them need the same one. Otherwise one of the two
replaces the other, and the case is built all the same.
-/

namespace ApiScaffold

/-- **The places for credentials.** -/
inductive CredentialPlace where
  | authorization
  | query
  | header
  deriving DecidableEq, Repr

/-- The place that a scheme needs, if it is recognised. -/
def SecurityScheme.place? : SecurityScheme → Option CredentialPlace
  | .basic => some .authorization
  | .oauth2 => some .authorization
  | .apiKey .query _ => some .query
  | .apiKey .header _ => some .header
  | .apiKey (.unknown _) _ => none
  | .unknown _ => none

/-- What was put in last is there, if nothing else was put in. -/
theorem LastFills.eq_of_alone {α : Type} {f : String → Option α} {names : List String}
    {slot : Option α} (h : LastFills f names slot) {name : String} {own : α} (hname : name ∈ names)
    (hown : f name = some own) (halone : ∀ other ∈ names, (∃ a, f other = some a) → other = name) :
    slot = some own := by
  cases slot with
  | none =>
    rw [h name hname] at hown
    cases hown
  | some filled =>
    obtain ⟨other, hother, hfilled⟩ := h.exists_mem
    obtain rfl := halone other hother ⟨filled, hfilled⟩
    rw [← hfilled, hown]

namespace Credentials

variable {api : Description} {c : Credentials} {names : List String} {name : String}
  {place : CredentialPlace}

/-- The place that the scheme of a name needs. -/
def placeOf? (api : Description) (name : String) : Option CredentialPlace :=
  (api.securityDefinitions.get? name).bind SecurityScheme.place?

/-- **Own credentials**: a place holds what the scheme of a name puts there, its variable and its key. -/
def Carries (api : Description) (c : Credentials) (name : String) : CredentialPlace → Prop
  | .authorization => ∃ own, ofScheme? api SecurityScheme.authorization? name = some own ∧
      c.authorization = some own
  | .query => ∃ own, ofScheme? api SecurityScheme.queryKey? name = some own ∧
      c.queryKey = some own
  | .header => ∃ own, ofScheme? api SecurityScheme.headerKey? name = some own ∧
      c.headerKey = some own

/-- **A place for each scheme**: no two of the names have the same place, and each is carried there. -/
def HaveOwnPlaces (api : Description) (names : List String) (c : Credentials) : Prop :=
  ∃ placeOf : String → CredentialPlace,
    (∀ a ∈ names, ∀ b ∈ names, placeOf a = placeOf b → a = b) ∧
      ∀ name ∈ names, c.Carries api name (placeOf name)

theorem exists_authorization_iff :
    (∃ own, ofScheme? api SecurityScheme.authorization? name = some own) ↔
      placeOf? api name = some .authorization := by
  rw [ofScheme?, placeOf?]
  rcases api.securityDefinitions.get? name with _ | _ | ⟨_ | _ | _, _⟩ | _ | _ <;>
    simp [SecurityScheme.authorization?, SecurityScheme.place?]

theorem exists_queryKey_iff :
    (∃ own, ofScheme? api SecurityScheme.queryKey? name = some own) ↔
      placeOf? api name = some .query := by
  rw [ofScheme?, placeOf?]
  rcases api.securityDefinitions.get? name with _ | _ | ⟨_ | _ | _, _⟩ | _ | _ <;>
    simp [SecurityScheme.queryKey?, SecurityScheme.place?]

theorem exists_headerKey_iff :
    (∃ own, ofScheme? api SecurityScheme.headerKey? name = some own) ↔
      placeOf? api name = some .header := by
  rw [ofScheme?, placeOf?]
  rcases api.securityDefinitions.get? name with _ | _ | ⟨_ | _ | _, _⟩ | _ | _ <;>
    simp [SecurityScheme.headerKey?, SecurityScheme.place?]

/-- A declared scheme needs a place. -/
theorem IsDeclared.exists_placeOf? (h : IsDeclared api name) :
    ∃ place, placeOf? api name = some place := by
  obtain ⟨scheme, hscheme, hknown⟩ := h
  rw [placeOf?, hscheme]
  rcases scheme with _ | ⟨_ | _ | _, _⟩ | _ | _
  all_goals first | exact ⟨_, rfl⟩ | exact hknown.elim

/-- A scheme is carried only in the place that it needs. -/
theorem Carries.placeOf?_eq (h : c.Carries api name place) : placeOf? api name = some place := by
  cases place with
  | authorization =>
    obtain ⟨own, hown, -⟩ := h
    exact exists_authorization_iff.mp ⟨own, hown⟩
  | query =>
    obtain ⟨own, hown, -⟩ := h
    exact exists_queryKey_iff.mp ⟨own, hown⟩
  | header =>
    obtain ⟨own, hown, -⟩ := h
    exact exists_headerKey_iff.mp ⟨own, hown⟩

/-- A scheme that shares its place with no other is carried there. -/
theorem PlacedFrom.carries (h : PlacedFrom api names c) (hname : name ∈ names)
    (hplace : placeOf? api name = some place)
    (halone : ∀ other ∈ names, placeOf? api other = some place → other = name) :
    c.Carries api name place := by
  cases place with
  | authorization =>
    obtain ⟨own, hown⟩ := exists_authorization_iff.mpr hplace
    exact ⟨own, hown, h.authorization.eq_of_alone hname hown
      fun other hother hfills => halone other hother (exists_authorization_iff.mp hfills)⟩
  | query =>
    obtain ⟨own, hown⟩ := exists_queryKey_iff.mpr hplace
    exact ⟨own, hown, h.queryKey.eq_of_alone hname hown
      fun other hother hfills => halone other hother (exists_queryKey_iff.mp hfills)⟩
  | header =>
    obtain ⟨own, hown⟩ := exists_headerKey_iff.mpr hplace
    exact ⟨own, hown, h.headerKey.eq_of_alone hname hown
      fun other hother hfills => halone other hother (exists_headerKey_iff.mp hfills)⟩

/-- Placed schemes have places of their own exactly if they need different ones. -/
theorem PlacedFrom.haveOwnPlaces_iff (h : PlacedFrom api names c)
    (hdeclared : ∀ name ∈ names, IsDeclared api name) :
    c.HaveOwnPlaces api names ↔
      ∀ a ∈ names, ∀ b ∈ names, placeOf? api a = placeOf? api b → a = b := by
  constructor
  · rintro ⟨placeOf, hdistinct, hcarries⟩ a ha b hb hab
    rw [(hcarries a ha).placeOf?_eq, (hcarries b hb).placeOf?_eq] at hab
    exact hdistinct a ha b hb (Option.some.inj hab)
  · intro hdistinct
    have hplace : ∀ name ∈ names,
        placeOf? api name = some ((placeOf? api name).getD .authorization) := by
      intro name hname
      obtain ⟨place, hplace⟩ := (hdeclared name hname).exists_placeOf?
      rw [hplace]
      rfl
    refine ⟨fun name => (placeOf? api name).getD .authorization, ?_, ?_⟩
    · intro a ha b hb hab
      refine hdistinct a ha b hb ?_
      rw [hplace a ha, hplace b hb]
      exact congrArg some hab
    · intro name hname
      refine h.carries hname (hplace name hname) fun other hother hshared => ?_
      exact hdistinct other hother name hname (hshared.trans (hplace name hname).symm)

end Credentials

/-! ### Small descriptions -/

namespace Description

/-- One path behind all the schemes together. -/
def guarded (schemes : Entries SecurityScheme) : Description where
  security := [schemes.mapValues fun _ => []]
  securityDefinitions := schemes
  paths :=
    [("/pets", { operations := [(.get, { responses := [("200", { description := "OK" })] })] })]

/-- A password with a key in the query and a key in a header. -/
def threePlaces : Description :=
  guarded [("login", .basic), ("app-id", .apiKey .query "app_id"),
    ("app-key", .apiKey .header "X-Key")]

/-- Two keys in the query. -/
def sharedPlace : Description :=
  guarded [("app-id", .apiKey .query "app_id"), ("app-key", .apiKey .query "app_key")]

end Description

/-! ### Built cases -/

namespace TestCase

/-- **Every scheme is placed exactly if no two share a place.** In a case that is built, each scheme of the
first requirement has its own credential, in a place that no other scheme has, if and only if no two
schemes of the requirement need the same place. -/
theorem haveOwnPlaces_iff_of_build {api : Description} {config : RunConfig}
    {security : List SecurityRequirement} {request : CaseRequest} {t : TestCase}
    (h : build api config security request = .ok t) :
    t.credentials.HaveOwnPlaces api (Credentials.namesOf security) ↔
      ∀ a ∈ Credentials.namesOf security, ∀ b ∈ Credentials.namesOf security,
        Credentials.placeOf? api a = Credentials.placeOf? api b → a = b :=
  (placedFrom_of_build h).haveOwnPlaces_iff (credentials_of_build h).1

/-- A password and two keys for different places are sent together. -/
theorem haveOwnPlaces_iff_of_build_threePlaces :
    ∃ t, build .threePlaces {} Description.threePlaces.security
        ⟨"/pets", .get, "200", jsonType, jsonType, none⟩ = .ok t ∧
      t.credentials.HaveOwnPlaces .threePlaces
        (Credentials.namesOf Description.threePlaces.security) := by
  have hbuild : ∃ t, build .threePlaces {} Description.threePlaces.security
      ⟨"/pets", .get, "200", jsonType, jsonType, none⟩ = .ok t := ⟨_, rfl⟩
  obtain ⟨t, h⟩ := hbuild
  exact ⟨t, h, (haveOwnPlaces_iff_of_build h).mpr (by decide)⟩

/-- **A scheme that is lost.** Two keys for the query have one place between them: the case is built with
the second, and nothing says that the first is missing. -/
theorem exists_build_not_haveOwnPlaces :
    ∃ t, build .sharedPlace {} Description.sharedPlace.security
        ⟨"/pets", .get, "200", jsonType, jsonType, none⟩ = .ok t ∧
      t.credentials = { queryKey := some ⟨"APP_KEY", "appKey"⟩ } ∧
      ¬ t.credentials.HaveOwnPlaces .sharedPlace
        (Credentials.namesOf Description.sharedPlace.security) := by
  refine ⟨_, rfl, by decide +kernel, ?_⟩
  rintro ⟨placeOf, hdistinct, hcarries⟩
  have hid := (hcarries "app-id" (by decide)).placeOf?_eq
  have hkey := (hcarries "app-key" (by decide)).placeOf?_eq
  have hshared : some (placeOf "app-id") = some (placeOf "app-key") := hid.symm.trans hkey
  exact absurd (hdistinct _ (by decide) _ (by decide) (Option.some.inj hshared)) (by decide)

end TestCase

end ApiScaffold
