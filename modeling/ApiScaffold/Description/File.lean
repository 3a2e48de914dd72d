import ApiScaffold.Description.Read
import ApiScaffold.Files

/-!
# Files of descriptions

`Description.load` reads a description from the place that a user names. A place on the web is
recognised by its scheme, and its text is fetched.
-/

namespace ApiScaffold.Description

variable {m : Type → Type} [Monad m] [Files m]

/-- Whether a place is on the web. -/
def isRemote (location : String) : Bool :=
  location.startsWith "http://" || location.startsWith "https://"

/-- **Loads a description.** -/
def load (location : String) : m (Except LoadFault Description) :=
  if isRemote location then return Files.valueOf ofText? .remote (← Files.fetch? location)
  else Files.load ofText? location

end ApiScaffold.Description
