import ApiScaffold.Yaml.Resolve

/-!
# Reading YAML text

`Yaml.readData?` reads a text of at most one document as data, as far as an outline looks at it. A text
without a document is an empty scalar.
-/

namespace ApiScaffold.Yaml

/-- **Data of a YAML text.** -/
def readData? (outline : Outline) (text : String) : Option Data := do
  let events ← Event.ofTokens? (← Token.scan? text)
  if events.isEmpty then return scalarData none "" .plain
  else (← Node.Document.ofEvents? events).toData? outline

end ApiScaffold.Yaml
