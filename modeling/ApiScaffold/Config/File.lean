import ApiScaffold.Config.Encode
import ApiScaffold.Config.Read
import ApiScaffold.Files
import ApiScaffold.Json.Printer
import ApiScaffold.Yaml.Printer

/-!
# Files of run configurations

`RunConfig.load` reads the file of a run configuration, and `RunConfig.save` writes one. JSON is
written into files with its extension, and YAML into all others.
-/

namespace ApiScaffold.RunConfig

variable {m : Type → Type} [Files m]

/-- **Text of a run configuration** for a file. -/
def text (config : RunConfig) (path : String) : String :=
  match Format.ofPath path with
  | .json => config.toJson.pretty
  | _ => Yaml.document config.toJson

/-- **Loads a run configuration.** -/
def load [Monad m] (path : String) : m (Except LoadFault RunConfig) :=
  Files.load (ofText? (Format.ofPath path)) path

/-- **Saves a run configuration.** -/
def save (config : RunConfig) (path : String) : m Bool := Files.write path (config.text path)

end ApiScaffold.RunConfig
