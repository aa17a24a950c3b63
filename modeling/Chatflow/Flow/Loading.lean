import Chatflow.Fault
import Chatflow.Flow.Validation

/-! Loading of flows: only flows without errors are let in. -/

namespace Chatflow.Flow

def load (f : Flow) : Except Fault Flow :=
  let v := f.validate
  if v.isValid then .ok f else .error (.flowInvalid f.id (v.errors.map Finding.message))

def ofDocument (v : Value) : Except Fault Flow := do load (← (Flow.ofValue v).toExcept)

end Chatflow.Flow
