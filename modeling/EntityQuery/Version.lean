/-!
The version of the library.
-/

namespace EntityQuery

/-- The version of the library. -/
def version : String := "0.4.0"

end EntityQuery
