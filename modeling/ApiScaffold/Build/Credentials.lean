import ApiScaffold.Description.Basic
import ApiScaffold.Fault
import ApiScaffold.Suite.Basic

/-!
# Placing credentials

Of the security requirements of an operation the first one counts. Each of its schemes fills the place
that its type says, and a later scheme of the same place replaces an earlier one.
-/

namespace ApiScaffold.Credentials

/-- The credentials with the scheme of a name put in its place. -/
def place (api : Description) (c : Credentials) (name : String) : Built Credentials :=
  let variableName := Text.screamingSnake name
  match api.securityDefinitions.get? name with
  | none => .error (.configuration (.undefinedScheme name))
  | some .basic => .ok { c with authorization := some ⟨variableName, .basic⟩ }
  | some .oauth2 => .ok { c with authorization := some ⟨variableName, .bearer⟩ }
  | some (.apiKey .query key) =>
    .ok { c with queryKey := some ⟨variableName, Text.lowerCamel key⟩ }
  | some (.apiKey .header key) => .ok { c with headerKey := some ⟨variableName, key⟩ }
  | some (.apiKey (.unknown tag) _) => .error (.configuration (.unknownKeyPlacement name tag))
  | some (.unknown type) => .error (.configuration (.unknownSchemeType name type))

/-- **Credentials** of a list of security requirements. -/
def ofRequirements (api : Description) : List SecurityRequirement → Built Credentials
  | [] => .ok {}
  | requirement :: _ => requirement.names.foldlM (place api) {}

end ApiScaffold.Credentials
