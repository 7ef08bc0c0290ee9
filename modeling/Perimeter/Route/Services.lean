import Perimeter.Route.Basic

/-!
The services of the application, in the order in which their rules are matched: the interface with
its own paths first, the front end with everything that is left last.
-/

namespace Perimeter.Route

def api : Route :=
  ⟨.literal "Api", 5001, .http "/health", ["/console/api", "/api", "/v1", "/files"]⟩

def extension : Route :=
  ⟨.literal "Extension", 5002, .http "/health/check", ["/e"]⟩

def web : Route :=
  ⟨.literal "Web", 3000, .http "/", ["/"]⟩

/-- The routes of the application. -/
def services : List Route := [api, extension, web]

end Perimeter.Route
