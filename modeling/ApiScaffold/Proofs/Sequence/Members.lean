import ApiScaffold.Proofs.Literal.Value
import ApiScaffold.Proofs.Sequence.Sources

/-!
# Fields of earlier responses as JavaScript reads them

A dependency is written `deps.step.field`, and the function of a step assigns to `deps.step`, with the
label of the step and the name of the field as they are. JavaScript reads such a text member by member:
after a dot stands a name, which goes on as long as its characters may stand in one, and any other
property stands quoted in brackets. `NameRule.accessed?` reads in this way.

So what is written is an access to that field of that step exactly if label and field are names
(`NameRule.reads_code_iff`), and the assignment is one to that step exactly if its label is a name
(`NameRule.sets_assignment_iff`). Nothing checks labels or fields for that, and nothing quotes them; in
brackets all of them could be read (`NameRule.reads_brackets`).
-/

namespace ApiScaffold

/-- **Which characters stand in names.** In ASCII they are those of bare keys; which others do depends
on the version of Unicode and is left open. -/
structure NameRule where
  starts : Char → Bool
  continues : Char → Bool
  starts_ascii : ∀ c : Char, c.toNat < 128 → starts c = Literal.startsKey c
  continues_ascii : ∀ c : Char, c.toNat < 128 → continues c = Literal.continuesKey c

namespace NameRule

/-- Names of ASCII characters only. -/
def ascii : NameRule :=
  ⟨Literal.startsKey, Literal.continuesKey, fun _ _ => rfl, fun _ _ => rfl⟩

variable (rule : NameRule)

/-! ### Names -/

/-- **Names**: a character that starts one, and others that go on. -/
def IsName (name : String) : Prop :=
  ∃ c cs, name.toList = c :: cs ∧ rule.starts c = true ∧ ∀ d ∈ cs, rule.continues d = true

/-- Whether a text does not go on with a name. -/
def EndsName (cs : List Char) : Prop := ∀ c ∈ cs.head?, rule.continues c = false

/-- The longest name that a text starts with, and what follows it. -/
def name? : List Char → Option (String × List Char)
  | [] => none
  | c :: cs =>
    if rule.starts c then
      some (String.ofList (c :: cs.takeWhile rule.continues), cs.dropWhile rule.continues)
    else none

theorem endsName_dot (cs : List Char) : rule.EndsName ('.' :: cs) := by
  intro c hc
  cases hc
  exact rule.continues_ascii '.' (by decide)

theorem endsName_space (cs : List Char) : rule.EndsName (' ' :: cs) := by
  intro c hc
  cases hc
  exact rule.continues_ascii ' ' (by decide)

theorem endsName_nil : rule.EndsName [] := fun _ hc => by cases hc

theorem endsName_dropWhile (cs : List Char) : rule.EndsName (cs.dropWhile rule.continues) := by
  intro c hc
  have h := List.head?_dropWhile_not rule.continues cs
  rw [hc] at h
  simpa using h

/-- **Reading a name**: it is all that comes before something that does not go on with it. -/
theorem name?_eq_some_iff {cs rest : List Char} {name : String} :
    rule.name? cs = some (name, rest) ↔
      cs = name.toList ++ rest ∧ rule.IsName name ∧ rule.EndsName rest := by
  constructor
  · intro h
    cases cs with
    | nil => cases h
    | cons c cs =>
      rw [name?] at h
      split_ifs at h with hc
      cases h
      refine ⟨?_, ⟨c, _, String.toList_ofList, hc, List.all_eq_true.mp List.all_takeWhile⟩,
        rule.endsName_dropWhile cs⟩
      rw [String.toList_ofList, List.cons_append, List.takeWhile_append_dropWhile]
  · rintro ⟨rfl, ⟨c, cs, hname, hc, hcs⟩, hrest⟩
    rw [hname, List.cons_append, name?, if_pos hc,
      Literal.Value.takeWhile_append_of_apart hcs hrest,
      Literal.Value.dropWhile_append_of_apart hcs hrest, ← hname, String.ofList_toList]

theorem length_of_name? {cs rest : List Char} {name : String}
    (h : rule.name? cs = some (name, rest)) : rest.length ≤ cs.length := by
  obtain ⟨rfl, -, -⟩ := rule.name?_eq_some_iff.mp h
  simp only [List.length_append]
  omega

/-- A character that stands in no name of ASCII characters stands in no name. -/
theorem not_isName_of_mem {name : String} {c : Char} (hc : c ∈ name.toList) (hascii : c.toNat < 128)
    (hstarts : Literal.startsKey c = false) (hcontinues : Literal.continuesKey c = false) :
    ¬ rule.IsName name := by
  rintro ⟨first, rest, hname, hfirst, hrest⟩
  rw [hname] at hc
  rcases List.mem_cons.mp hc with rfl | hc
  · rw [rule.starts_ascii c hascii, hstarts] at hfirst
    cases hfirst
  · have h := hrest c hc
    rw [rule.continues_ascii c hascii, hcontinues] at h
    cases h

/-- In ASCII, names are the keys that object literals leave without quotes. -/
theorem isName_ascii_iff {name : String} :
    ascii.IsName name ↔ Literal.isBareKey name = true := by
  constructor
  · rintro ⟨c, cs, hname, hc, hcs⟩
    rw [Literal.isBareKey, hname]
    exact Bool.and_eq_true_iff.mpr ⟨hc, List.all_eq_true.mpr hcs⟩
  · exact Literal.exists_of_isBareKey

/-! ### Members -/

/-- **Member accesses**: the properties that are accessed one after another, each a name after a dot or
a quoted text in brackets, and what follows the last. -/
def members? : List Char → Option (List String × List Char)
  | '.' :: cs =>
    match _ : rule.name? cs with
    | some (name, rest) => (members? rest).map fun (names, after) => (name :: names, after)
    | none => none
  | '[' :: '\'' :: cs =>
    match _ : Literal.unquote? cs with
    | some (text, ']' :: rest) =>
      (members? rest).map fun (names, after) => (String.ofList text :: names, after)
    | _ => none
  | cs => some ([], cs)
termination_by cs => cs.length
decreasing_by
  · exact Nat.lt_succ_of_le (rule.length_of_name? ‹rule.name? cs = some (name, rest)›)
  · have hlt := Literal.length_of_unquote? ‹Literal.unquote? cs = some (text, ']' :: rest)›
    simp only [List.length_cons] at hlt ⊢
    omega

/-- **What a text accesses** of the object that the functions share, and what follows. -/
def accessed? (text : String) : Option (List String × List Char) :=
  match text.toList with
  | 'd' :: 'e' :: 'p' :: 's' :: cs => rule.members? cs
  | _ => none

theorem members?_nil : rule.members? [] = some ([], []) := by
  rw [members?] <;> simp

theorem members?_space (cs : List Char) : rule.members? (' ' :: cs) = some ([], ' ' :: cs) := by
  rw [members?] <;> simp

/-- The first access after a dot is to the name that stands there. -/
theorem members?_dot_eq_some_iff {cs after : List Char} {first : String} {names : List String} :
    rule.members? ('.' :: cs) = some (first :: names, after) ↔
      ∃ rest, rule.name? cs = some (first, rest) ∧ rule.members? rest = some (names, after) := by
  rw [members?]
  split
  · next name rest hname =>
    rw [hname, Option.map_eq_some_iff]
    constructor
    · rintro ⟨⟨more, left⟩, hmore, heq⟩
      cases heq
      exact ⟨rest, rfl, hmore⟩
    · rintro ⟨rest', heq, hmore⟩
      cases heq
      exact ⟨_, hmore, rfl⟩
  · next hname =>
    constructor
    · intro h
      cases h
    · rintro ⟨rest, heq, -⟩
      rw [hname] at heq
      cases heq

/-- **A property after a dot** is accessed exactly if it is a name. What follows it must not go on with
the name. -/
theorem members?_property_iff (name : String) {rest after : List Char} {names : List String}
    (hrest : rule.EndsName rest) (hafter : rule.members? rest = some (names, after)) :
    rule.members? ('.' :: (name.toList ++ rest)) = some (name :: names, after) ↔
      rule.IsName name := by
  rw [members?_dot_eq_some_iff]
  constructor
  · rintro ⟨left, hname, -⟩
    exact (rule.name?_eq_some_iff.mp hname).2.1
  · intro h
    exact ⟨rest, rule.name?_eq_some_iff.mpr ⟨rfl, h, hrest⟩, hafter⟩

/-- **A property in brackets** is accessed whatever its name is. -/
theorem members?_brackets (name : String) (rest : List Char) :
    rule.members? ('[' :: ((Literal.quote name).toList ++ ']' :: rest)) =
      (rule.members? rest).map fun (names, after) => (name :: names, after) := by
  have hname := Literal.unquote?_escaped name.toList (']' :: rest)
  rw [Literal.toList_quote, List.cons_append, List.append_assoc, List.singleton_append, members?]
  split
  · next text left htext =>
    rw [hname] at htext
    cases htext
    rw [String.ofList_toList]
  · next hnone => exact absurd hname (hnone _ _)

/-! ### Reading and assigning -/

/-- **A text reads** a field of the response to a step, and nothing else. -/
def Reads (text step field : String) : Prop := rule.accessed? text = some ([step, field], [])

/-- **A statement sets** the response to a step to a value, and nothing else. -/
def Sets (statement step value : String) : Prop :=
  rule.accessed? statement = some ([step], (" = " ++ value ++ ";").toList)

/-- **The code of a dependency reads its field exactly if label and field are names.** -/
theorem reads_code_iff (step field : String) :
    rule.Reads (Expression.dependency step field).code step field ↔
      rule.IsName step ∧ rule.IsName field := by
  have hcode : rule.accessed? (Expression.dependency step field).code =
      rule.members? ('.' :: (step.toList ++ '.' :: (field.toList ++ []))) := by
    simp [accessed?, Expression.code]
  have hfield := rule.members?_property_iff field rule.endsName_nil rule.members?_nil
  rw [Reads, hcode]
  constructor
  -- the first name ends at its dot, so what follows is the access to the field
  · intro h
    obtain ⟨rest, hname, hrest⟩ := rule.members?_dot_eq_some_iff.mp h
    obtain ⟨heq, hstep, -⟩ := rule.name?_eq_some_iff.mp hname
    obtain rfl := List.append_cancel_left heq
    exact ⟨hstep, hfield.mp hrest⟩
  · rintro ⟨hstep, hname⟩
    exact (rule.members?_property_iff step (rule.endsName_dot _) (hfield.mpr hname)).mpr hstep

/-- In brackets, any field of any step would be read. -/
theorem reads_brackets (step field : String) :
    rule.Reads ("deps[" ++ Literal.quote step ++ "][" ++ Literal.quote field ++ "]") step field := by
  have hcode : rule.accessed?
      ("deps[" ++ Literal.quote step ++ "][" ++ Literal.quote field ++ "]") =
        rule.members? ('[' :: ((Literal.quote step).toList ++
          ']' :: '[' :: ((Literal.quote field).toList ++ ']' :: []))) := by
    simp [accessed?]
  rw [Reads, hcode, members?_brackets, members?_brackets, members?_nil]
  rfl

end NameRule

/-! ### Assignments -/

namespace Script

/-- **The assignment** of the response to a step. -/
def assignment (m : TestModule) (step : String) : String :=
  "deps." ++ step ++ " = " ++ responseCode m ++ ";"

end Script

/-- **An assignment sets the response to its step exactly if the label is a name.** -/
theorem NameRule.sets_assignment_iff (rule : NameRule) (m : TestModule) (step : String) :
    rule.Sets (Script.assignment m step) step (Script.responseCode m) ↔ rule.IsName step := by
  have hcode : rule.accessed? (Script.assignment m step) =
      rule.members?
        ('.' :: (step.toList ++ ' ' :: ("= " ++ Script.responseCode m ++ ";").toList)) := by
    simp [NameRule.accessed?, Script.assignment]
  have hvalue : (" = " ++ Script.responseCode m ++ ";").toList =
      ' ' :: ("= " ++ Script.responseCode m ++ ";").toList := by
    simp
  rw [NameRule.Sets, hcode, hvalue]
  exact rule.members?_property_iff step (rule.endsName_space _) (rule.members?_space _)

/-- The function of a step holds the assignment of its response. -/
theorem Renderer.assignment_mem_stepLines (m : TestModule) (style : AssertionStyle) {t : TestCase}
    {label : String} {deps : Dependencies} (h : t.step = some ⟨label, deps⟩) :
    Script.indented 10 (Script.assignment m label) ∈ (Renderer.plain m style).stepLines t := by
  cases m with
  | request =>
    simp [Renderer.stepLines, Renderer.plain, Script.Request.step, Script.keepLine,
      Script.assignment, Script.responseCode, h]
  | supertest =>
    simp [Renderer.stepLines, Renderer.plain, Script.Supertest.step, Script.keepLine,
      Script.assignment, Script.responseCode, h]

/-! ### Whole sequences -/

namespace SequenceBlock

variable {api : Description} {config : RunConfig} {name : String}

/-- The function of each step assigns the response to the label of the step. -/
theorem exists_assignment_of_build {steps : List SequenceStep} {block : SequenceBlock}
    (h : build api config name steps = .ok block) {i : Nat} {step : SequenceStep}
    (hstep : steps[i]? = some step) :
    ∃ t, block.steps[i]? = some t ∧ ∀ m style,
      Script.indented 10 (Script.assignment m step.step) ∈ (Renderer.plain m style).stepLines t := by
  obtain ⟨-, hcases, -⟩ := build_eq_ok.mp h
  obtain ⟨t, ht, hcase⟩ := Pairing.exists_right_of_getElem? hcases hstep
  exact ⟨t, ht, fun m style => Renderer.assignment_mem_stepLines m style (step_of_stepCase hcase)⟩

/-- A block with its cases, from the expressions of the cases. -/
theorem exists_build_of_expressions {steps : List SequenceStep}
    {drawn : List (List (String × Expression))}
    (h : (build api config name steps).map (·.steps.map (·.expressions)) = .ok drawn) :
    ∃ block, build api config name steps = .ok block ∧
      ∀ expressions ∈ drawn, ∃ t ∈ block.steps, t.expressions = expressions := by
  cases hbuild : build api config name steps with
  | error e =>
    rw [hbuild] at h
    cases h
  | ok block =>
    rw [hbuild] at h
    cases h
    exact ⟨block, rfl, fun expressions => List.mem_map.mp⟩

/-- **Fields are read and set under names only.** Take any sequence that can be built. The function of
each step assigns the response to `deps` and the label, and this sets the property of that label
exactly if the label is a name. A dependency in a case is an access to `deps`, and it reads the field of
that name in the response to that step exactly if both the label and the field are names. -/
theorem sets_and_reads_iff (rule : NameRule) {steps : List SequenceStep} {block : SequenceBlock}
    (h : build api config name steps = .ok block) :
    (∀ (i : Nat) (step : SequenceStep), steps[i]? = some step →
      ∃ t, block.steps[i]? = some t ∧ ∀ m style,
        Script.indented 10 (Script.assignment m step.step) ∈
          (Renderer.plain m style).stepLines t ∧
        (rule.Sets (Script.assignment m step.step) step.step (Script.responseCode m) ↔
          rule.IsName step.step)) ∧
    ∀ t ∈ block.steps, ∀ target label field, (target, .dependency label field) ∈ t.expressions →
      label ∈ steps.map (·.step) ∧
      (rule.Reads (Expression.dependency label field).code label field ↔
        rule.IsName label ∧ rule.IsName field) := by
  constructor
  · intro i step hstep
    obtain ⟨t, ht, hassigned⟩ := exists_assignment_of_build h hstep
    exact ⟨t, ht, fun m style => ⟨hassigned m style, rule.sets_assignment_iff m step.step⟩⟩
  · intro t ht target label field he
    obtain ⟨hchained, hcases, -⟩ := build_eq_ok.mp h
    obtain ⟨i, hi⟩ := List.mem_iff_getElem?.mp ht
    obtain ⟨step, hstep, hcase⟩ := Pairing.exists_left_of_getElem? hcases hi
    obtain ⟨-, hsource⟩ := firstSource_of_stepCase hcase he
    obtain ⟨j, -, origin, horigin, rfl⟩ :=
      (chained_iff.mp hchained).2 i step hstep label hsource.mem_names
    exact ⟨List.mem_map_of_mem (List.mem_of_getElem? horigin), rule.reads_code_iff _ field⟩

/-- The identifier of the first pet is set and read as it should be. -/
theorem sets_and_reads_iff_petSteps :
    ∃ block s t, build .pets {} "pets" petSteps = .ok block ∧
      block.steps[0]? = some s ∧ t ∈ block.steps ∧
      (∀ m style,
        Script.indented 10 (Script.assignment m "create") ∈ (Renderer.plain m style).stepLines s ∧
        NameRule.ascii.Sets (Script.assignment m "create") "create" (Script.responseCode m)) ∧
      ("id", .dependency "create" "id") ∈ t.expressions ∧
      NameRule.ascii.Reads (Expression.dependency "create" "id").code "create" "id" := by
  have hdrawn : (build .pets {} "pets" petSteps).map (·.steps.map (·.expressions)) =
      .ok [[], [], [("id", .dependency "create" "id")]] := by with_unfolding_all rfl
  obtain ⟨block, h, hcases⟩ := exists_build_of_expressions hdrawn
  obtain ⟨t, ht, hexpressions⟩ := hcases _ (List.mem_of_getElem? (i := 2) rfl)
  have he : ("id", .dependency "create" "id") ∈ t.expressions := by
    rw [hexpressions]
    exact List.mem_singleton.mpr rfl
  have hcreate : NameRule.ascii.IsName "create" := NameRule.isName_ascii_iff.mpr (by decide)
  have hid : NameRule.ascii.IsName "id" := NameRule.isName_ascii_iff.mpr (by decide)
  obtain ⟨hsets, hreads⟩ := sets_and_reads_iff NameRule.ascii h
  obtain ⟨s, hs, hassigned⟩ := hsets 0 _ rfl
  refine ⟨block, s, t, h, hs, ht, fun m style => ?_, he, (hreads t ht _ _ _ he).2.mpr ⟨hcreate, hid⟩⟩
  obtain ⟨hmem, hiff⟩ := hassigned m style
  exact ⟨hmem, hiff.mpr hcreate⟩

/-- A pet is added and read back, and the label of the first step holds a dash. -/
def dashedSteps : List SequenceStep :=
  [⟨"create-pet", "/pets", .post, []⟩,
    ⟨"read", "/pets/{id}", .get, [("create-pet", ["id"])]⟩]

/-- **A dash ends a name.** The sequence can be built, and whatever the rule for names is, neither the
assignment sets the response to its first step nor does the dependency on it read a field of that. -/
theorem exists_build_not_reads :
    ∃ block s t, build .pets {} "pets" dashedSteps = .ok block ∧ s ∈ block.steps ∧ t ∈ block.steps ∧
      ("id", .dependency "create-pet" "id") ∈ t.expressions ∧
      (∀ m style, Script.indented 10 (Script.assignment m "create-pet") ∈
        (Renderer.plain m style).stepLines s) ∧
      ∀ rule : NameRule,
        ¬ rule.Reads (Expression.dependency "create-pet" "id").code "create-pet" "id" ∧
        ∀ m, ¬ rule.Sets (Script.assignment m "create-pet") "create-pet" (Script.responseCode m) := by
  have hdrawn : (build .pets {} "pets" dashedSteps).map (·.steps.map (·.expressions)) =
      .ok [[], [("id", .dependency "create-pet" "id")]] := by with_unfolding_all rfl
  obtain ⟨block, h, hcases⟩ := exists_build_of_expressions hdrawn
  obtain ⟨t, ht, hexpressions⟩ := hcases _ (List.mem_of_getElem? (i := 1) rfl)
  obtain ⟨s, hs, hassigned⟩ := exists_assignment_of_build h (i := 0) rfl
  have he : ("id", .dependency "create-pet" "id") ∈ t.expressions := by
    rw [hexpressions]
    exact List.mem_singleton.mpr rfl
  have hname (rule : NameRule) : ¬ rule.IsName "create-pet" :=
    rule.not_isName_of_mem (c := '-') (by decide) (by decide) (by decide) (by decide)
  refine ⟨block, s, t, h, List.mem_of_getElem? hs, ht, he, hassigned, fun rule => ⟨?_, fun m => ?_⟩⟩
  · exact fun hreads => hname rule ((rule.reads_code_iff _ _).mp hreads).1
  · exact fun hsets => hname rule ((rule.sets_assignment_iff m _).mp hsets)

end SequenceBlock

end ApiScaffold
