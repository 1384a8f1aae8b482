/-! The version of the program. -/

namespace Conductor

def version : String := "0.1.0"

end Conductor
