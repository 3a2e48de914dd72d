import ApiScaffold.Config.Basic
import ApiScaffold.Data.Outline

/-!
# Reading run configurations

The decoders of a run configuration and its parts. Unknown fields are skipped; a method may be written
in any case; the fields drawn from a step are one name or a list of names.
-/

namespace ApiScaffold

namespace TestModule

/-- The dialect of its name. -/
def decode (d : Data) : Decoded TestModule := do
  match ofName? (← d.choice) with
  | some m => return m
  | none => Data.mismatch

end TestModule

namespace AssertionStyle

/-- The assertion style of its name. -/
def decode (d : Data) : Decoded AssertionStyle := do
  match ofName? (← d.choice) with
  | some s => return s
  | none => Data.mismatch

end AssertionStyle

namespace LoadSettings

/-- A count of requests. -/
def count (d : Data) : Decoded UInt32 := (d.natural UInt32.size).map UInt32.ofNat

/-- One field. -/
def set (name : String) (d : Data) (load : LoadSettings) : Decoded LoadSettings := do
  match name with
  | "requests" => return { load with requests := ← d.optional count }
  | _ => return { load with concurrent := ← d.optional count }

/-- The fields of a load in order. -/
def fieldNames : List String := ["requests", "concurrent"]

/-- What is read of a load. -/
def outline : Outline := .ofNames fieldNames fun _ => .all

/-- The load of a load test. -/
def decode (d : Data) : Decoded LoadSettings := d.record fieldNames [] [] {} set

end LoadSettings

namespace LoadTestEntry

/-- One field. -/
def set (name : String) (d : Data) (entry : LoadTestEntry) : Decoded LoadTestEntry := do
  match name with
  | "pathName" => return { entry with pathName := ← d.text }
  | "operation" => return { entry with operation := ← Method.decode d }
  | _ => return { entry with load := ← LoadSettings.decode d }

/-- The fields of an entry in order. -/
def fieldNames : List String := ["pathName", "operation", "load"]

/-- What is read of an entry. -/
def outline : Outline :=
  .ofNames fieldNames fun name => if name = "load" then LoadSettings.outline else .all

/-- **An operation to load-test**; path and method have to be there. -/
def decode (d : Data) : Decoded LoadTestEntry :=
  d.record fieldNames ["pathName", "operation"] ["pathName", "operation"] ⟨"", .get, {}⟩ set

end LoadTestEntry

namespace Dependencies

/-- The name of one field. -/
def fieldName (d : Data) : Decoded String :=
  match d with
  | .leaf (.text s) => .ok s
  | .scalar { leaf := .text s, .. } => .ok s
  | _ => .error .notFieldNames

/-- **Fields of a step**: one name or a list of names. -/
def fieldNames (d : Data) : Decoded (List String) :=
  match d with
  | .seq _ items => items.mapM fieldName
  | d => (fieldName d).map fun name => [name]

/-- Fields drawn from earlier steps. -/
def decode (d : Data) : Decoded Dependencies := d.entries fieldNames

end Dependencies

namespace SequenceStep

/-- One field. -/
def set (name : String) (d : Data) (step : SequenceStep) : Decoded SequenceStep := do
  match name with
  | "step" => return { step with step := ← d.text }
  | "path" => return { step with path := ← d.text }
  | "op" => return { step with operation := ← Method.decode d }
  | _ => return { step with deps := ← Dependencies.decode d }

/-- The fields of a step in order. -/
def fieldNames : List String := ["step", "path", "op", "deps"]

/-- What is read of a step. -/
def outline : Outline := .ofNames fieldNames fun _ => .all

/-- **A step**; label, path and method have to be there. -/
def decode (d : Data) : Decoded SequenceStep :=
  d.record fieldNames ["step", "path", "op"] ["step", "path", "op"] ⟨"", "", .get, []⟩ set

end SequenceStep

namespace RunConfig

/-- The fields of a run configuration in order. -/
def fieldNames : List String :=
  ["testModule", "assertionFormat", "pathName", "pathParams", "queryVals", "bodyVals", "maxLen",
    "loadTest", "sequences"]

/-- **What is read** of a run configuration. -/
def outline : Outline :=
  .ofNames fieldNames fun name =>
    match name with
    | "loadTest" => .list LoadTestEntry.outline
    | "sequences" => .entries (.list SequenceStep.outline)
    | _ => .all

/-- The width of a description line. -/
def width (d : Data) : Decoded UInt64 := (d.natural UInt64.size).map UInt64.ofNat

/-- Named values. -/
def values (d : Data) : Decoded ValuePool := d.entries Data.json

/-- One field. -/
def set (name : String) (d : Data) (config : RunConfig) : Decoded RunConfig := do
  match name with
  | "testModule" => return { config with testModule := ← TestModule.decode d }
  | "assertionFormat" => return { config with assertionFormat := ← AssertionStyle.decode d }
  | "pathName" => return { config with pathNames := ← d.list Data.text }
  | "pathParams" => return { config with pathParams := ← values d }
  | "queryVals" => return { config with queryVals := ← d.entries values }
  | "bodyVals" => return { config with bodyVals := ← d.entries values }
  | "maxLen" => return { config with maxLen := ← d.optional width }
  | "loadTest" => return { config with loadTest := ← d.list LoadTestEntry.decode }
  | _ => return { config with sequences := ← d.entries (·.list SequenceStep.decode) }

/-- **A run configuration.** -/
def decode (d : Data) : Decoded RunConfig := d.record fieldNames [] [] {} set

end RunConfig

end ApiScaffold
