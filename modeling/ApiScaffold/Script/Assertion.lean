import ApiScaffold.Suite.Basic

/-!
# Assertions

The statements of the three assertion styles: that two values are equal, that the status is the
expected one, and that a body follows its schema.
-/

namespace ApiScaffold

namespace AssertionStyle

/-- The statement that sets a style up. -/
def setup : AssertionStyle → String
  | .expect => "var expect = chai.expect;"
  | .assert => "var assert = chai.assert;"
  | .should => "chai.should();"

/-- The statement that two values are equal. -/
def equal (style : AssertionStyle) (actual expected : String) : String :=
  match style with
  | .expect => "expect(" ++ actual ++ ").to.equal(" ++ expected ++ ");"
  | .assert => "assert.equal(" ++ actual ++ ", " ++ expected ++ ");"
  | .should => actual ++ ".should.equal(" ++ expected ++ ");"

/-- The call that checks a value against the schema. -/
def validatorCall (subject : String) : String := "validator.validate(" ++ subject ++ ", schema)"

/-- The statement that a value follows the schema. -/
def followsSchema (style : AssertionStyle) (subject : String) : String :=
  match style with
  | .expect => "expect(" ++ validatorCall subject ++ ").to.be.true;"
  | .assert => "assert.isTrue(" ++ validatorCall subject ++ ");"
  | .should => validatorCall subject ++ ".should.be.true;"

end AssertionStyle

namespace TestCase

/-- The status that a case expects; nobody knows it for the codes that are not declared. -/
def statusCode (t : TestCase) : String :=
  if t.isDefault then "'DEFAULT RESPONSE CODE HERE'" else t.responseCode

/-- **Assertion on the status.** -/
def statusAssertion (t : TestCase) (style : AssertionStyle) (subject : String) : String :=
  style.equal subject t.statusCode

/-- **Assertion on the body**: it follows the schema, or there is none. -/
def bodyAssertion (t : TestCase) (style : AssertionStyle) (subject : String) : String :=
  if t.validates then style.followsSchema subject
  else style.equal subject "null" ++ " // non-json response or no schema"

end TestCase

end ApiScaffold
