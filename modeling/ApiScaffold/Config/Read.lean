import ApiScaffold.Config.Decode
import ApiScaffold.FilePath
import ApiScaffold.Json.Reader
import ApiScaffold.Toml.Reader
import ApiScaffold.Yaml.Reader

/-!
# Reading a run configuration from text

The format of a run configuration follows the extension of its file: JSON and TOML have theirs, and
everything else is YAML.
-/

namespace ApiScaffold

namespace Format

/-- **Format of a file.** -/
def ofPath (path : String) : Format :=
  match FilePath.extension? path with
  | some "json" => .json
  | some "toml" => .toml
  | _ => .yaml

/-- The data of a text in a format, as far as an outline looks at it. -/
def readData? (format : Format) (outline : Outline) (text : String) : Option Data :=
  match format with
  | .json => Json.readData? text
  | .yaml => Yaml.readData? outline text
  | .toml => Toml.readData? text

end Format

namespace RunConfig

/-- **Run configuration of a text** in a format. -/
def ofText? (format : Format) (text : String) : Option RunConfig :=
  match (format.readData? outline text).map decode with
  | some (.ok config) => some config
  | _ => none

/-- The run configuration of a JSON value. -/
def ofJson (v : Json) : Decoded RunConfig := decode (Data.ofJson v)

end RunConfig

end ApiScaffold
