/-!
# Version

The version of the service, as its log events and its command line show it.
-/

namespace Diagnosis

/-- The version of the service. -/
def version : String := "0.1.0"

end Diagnosis
