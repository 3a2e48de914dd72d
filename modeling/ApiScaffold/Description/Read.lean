import ApiScaffold.Description.Decode
import ApiScaffold.Json.Reader
import ApiScaffold.Yaml.Reader

/-!
# Reading a description from text

A text is a description if it is one as JSON, or else as YAML. YAML takes any plain scalar for a text,
so a JSON text that is no description may still be one as YAML.
-/

namespace ApiScaffold.Description

/-- The description that data holds. -/
def ofData? (data : Option Data) : Option Description :=
  match data.map decode with
  | some (.ok api) => some api
  | _ => none

/-- **Description of a text.** -/
def ofText? (text : String) : Option Description :=
  (ofData? (Json.readData? text)).orElse fun _ => ofData? (Yaml.readData? outline text)

/-- The description of a JSON value. -/
def ofJson (v : Json) : Decoded Description := decode (Data.ofJson v)

end ApiScaffold.Description
