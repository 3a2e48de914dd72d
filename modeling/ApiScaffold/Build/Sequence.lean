import ApiScaffold.Build.TestCase

/-!
# Building a sequence

A sequence is a list of steps, each of which may draw fields from the responses to earlier steps.
Labels are distinct, and a step may depend only on a step before it. Every step covers the response
`200` with JSON on both sides, and one context goes through all steps.
-/

namespace ApiScaffold.SequenceBlock

/-- The response that every step expects. -/
def stepResponse : String := "200"

/-- The first source of a step that is not the label of an earlier one. -/
def unknownSource? (earlier : List String) (step : SequenceStep) : Option String :=
  step.deps.names.find? fun source => !earlier.contains source

/-- **What a step has to meet** before it is built: a new label, and sources among the earlier
ones. -/
def checkStep (sequence : String) (earlier : List String) (step : SequenceStep) : Built Unit :=
  if earlier.contains step.step then
    .error (.configuration (.repeatedStep sequence step.step))
  else
    match unknownSource? earlier step with
    | some source => .error (.configuration (.unknownSource sequence step.step source))
    | none => .ok ()

/-- The operation of a step; it has to declare the response that steps expect. -/
def stepOperation (api : Description) (step : SequenceStep) : Built Operation := do
  let operation ← api.operation step.path step.operation
  if operation.responses.hasKey stepResponse then .ok operation
  else .error (.missingResponse step.path step.operation)

/-- The case that a step asks for. -/
def caseRequest (step : SequenceStep) : CaseRequest :=
  ⟨step.path, step.operation, stepResponse, jsonType, jsonType, some step⟩

/-- Builds steps one after the other; `earlier` holds the labels of the steps before. -/
def buildSteps (api : Description) (config : RunConfig) (sequence : String) :
    List SequenceStep → List String → RunContext → Built (List TestCase × RunContext)
  | [], _, context => .ok ([], context)
  | step :: rest, earlier, context => do
    checkStep sequence earlier step
    let operation ← stepOperation api step
    let (t, context) := (context.adopt api operation).build api config (caseRequest step)
    let t ← t
    let (tests, context) ←
      buildSteps api config sequence rest (earlier ++ [step.step])
        (context.noteImports t.hasSchema)
    return (t :: tests, context)

/-- **Block of a sequence.** -/
def build (api : Description) (config : RunConfig) (name : String) (steps : List SequenceStep) :
    Built SequenceBlock := do
  let (tests, context) ← buildSteps api config name steps [] {}
  return ⟨name, api.scheme, api.host, tests, context.imports⟩

end ApiScaffold.SequenceBlock
