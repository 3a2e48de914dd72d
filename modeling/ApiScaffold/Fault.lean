import ApiScaffold.Method

/-!
# Faults

What keeps a path, a sequence or a single test from being built. A fault says its cause; its text is
`Fault.message`. There are three kinds: the description lacks something, the description or the run
configuration says something that is not understood, and a step of a sequence has no response to
expect.
-/

namespace ApiScaffold

/-- **What a description lacks.** -/
inductive DescriptionFault where
  | undeclaredPath (path : String)
  | undeclaredOperation (method : Method) (path : String)
  | undeclaredResponse (code : String) (method : Method) (path : String)
  | unexpectedSchemaReference (target : String)
  | unknownSchema (name : String)
  | schemaCycle
  | unexpectedParameterReference (target : String)
  | unknownParameter (name : String)
  deriving DecidableEq, Repr

namespace DescriptionFault

/-- The cause in words. -/
def text : DescriptionFault → String
  | undeclaredPath path => "Path '" ++ path ++ "' is not declared"
  | undeclaredOperation method path =>
    "Operation '" ++ method.key ++ "' is not declared on path '" ++ path ++ "'"
  | undeclaredResponse code method path =>
    "Response '" ++ code ++ "' is not declared on " ++ method.verb ++ " " ++ path
  | unexpectedSchemaReference target => "Unexpected schema ref '" ++ target ++ "'"
  | unknownSchema name => "Schema '" ++ name ++ "' not found"
  | schemaCycle => "Schema reference cycle detected"
  | unexpectedParameterReference target => "Unexpected parameter ref '" ++ target ++ "'"
  | unknownParameter name => "Parameter '" ++ name ++ "' not found"

end DescriptionFault

/-- **What is not understood.** -/
inductive ConfigurationFault where
  | sharedBodyParameter (name : String)
  | unknownLocation (parameter tag : String)
  | undefinedScheme (name : String)
  | unknownKeyPlacement (scheme tag : String)
  | unknownSchemeType (scheme type : String)
  | repeatedStep (sequence step : String)
  | unknownSource (sequence step source : String)
  deriving DecidableEq, Repr

namespace ConfigurationFault

/-- The cause in words. -/
def text : ConfigurationFault → String
  | sharedBodyParameter name =>
    "Body parameter '" ++ name ++ "' may only be declared on an operation"
  | unknownLocation parameter tag =>
    "Parameter '" ++ parameter ++ "' has unknown location '" ++ tag ++ "'"
  | undefinedScheme name => "Security scheme '" ++ name ++ "' is not defined"
  | unknownKeyPlacement scheme tag =>
    "Security scheme '" ++ scheme ++ "' places its key in unknown location '" ++ tag ++ "'"
  | unknownSchemeType scheme type =>
    "Security scheme '" ++ scheme ++ "' has unknown type '" ++ type ++ "'"
  | repeatedStep sequence step =>
    "Sequence '" ++ sequence ++ "' declares step '" ++ step ++ "' twice"
  | unknownSource sequence step source =>
    "Step '" ++ step ++ "' of sequence '" ++ sequence ++ "' depends on '" ++ source ++
      "', which is not an earlier step"

end ConfigurationFault

/-- **Why something could not be built.** -/
inductive Fault where
  | description (cause : DescriptionFault)
  | configuration (cause : ConfigurationFault)
  | missingResponse (path : String) (method : Method)
  deriving DecidableEq, Repr

namespace Fault

/-- **Text of a fault.** -/
def message : Fault → String
  | description cause => "OpenAPI error: " ++ cause.text
  | configuration cause => "Configuration error: " ++ cause.text
  | missingResponse path method =>
    "Missing response: " ++ method.verb ++ " " ++ path ++ " declares no 200 response"

end Fault

/-- The result of building. -/
abbrev Built (α : Type) := Except Fault α

end ApiScaffold
