import ApiScaffold.Config.Basic

/-!
# Writing run configurations

`RunConfig.toJson` gives the JSON value of a run configuration: every field in order, except that an
absent width, absent parts of a load and an empty set of dependencies are left out.
-/

namespace ApiScaffold

/-- The JSON value of a load. -/
def LoadSettings.toJson (load : LoadSettings) : Json :=
  .obj
    (Json.fieldIfAny "requests" (fun n => .int n.toNat) load.requests ++
      Json.fieldIfAny "concurrent" (fun n => .int n.toNat) load.concurrent)

/-- The JSON value of an operation to load-test. -/
def LoadTestEntry.toJson (entry : LoadTestEntry) : Json :=
  .obj [("pathName", .str entry.pathName), ("operation", .str entry.operation.key),
    ("load", entry.load.toJson)]

/-- The JSON value of the fields drawn from earlier steps. -/
def Dependencies.toJson (deps : Dependencies) : Json := .obj (deps.mapValues Json.strings)

/-- The JSON value of a step. -/
def SequenceStep.toJson (step : SequenceStep) : Json :=
  .obj
    ([("step", .str step.step), ("path", .str step.path), ("op", .str step.operation.key)] ++
      if step.deps.isEmpty then [] else [("deps", step.deps.toJson)])

/-- **JSON value** of a run configuration. -/
def RunConfig.toJson (config : RunConfig) : Json :=
  .obj
    ([("testModule", .str config.testModule.name),
      ("assertionFormat", .str config.assertionFormat.name),
      ("pathName", Json.strings config.pathNames),
      ("pathParams", .obj config.pathParams),
      ("queryVals", .obj (config.queryVals.mapValues .obj)),
      ("bodyVals", .obj (config.bodyVals.mapValues .obj))] ++
      Json.fieldIfAny "maxLen" (fun n => .int n.toNat) config.maxLen ++
      [("loadTest", .arr (config.loadTest.map LoadTestEntry.toJson)),
        ("sequences",
          .obj (config.sequences.mapValues fun steps => .arr (steps.map SequenceStep.toJson)))])

end ApiScaffold
