/-!
What a job body asks to be given.
-/

namespace JobDispatch

/-- What a job body asks to be given when it runs. -/
structure Capabilities where
  wantsStore : Bool
  wantsParameters : Bool
  deriving DecidableEq, Repr

namespace Capabilities

/-- Neither the store nor the parameters. -/
def none : Capabilities := ⟨false, false⟩

/-- The store and the parameters. -/
def all : Capabilities := ⟨true, true⟩

/-- Only the store. -/
def store : Capabilities := ⟨true, false⟩

/-- Only the parameters. -/
def parameters : Capabilities := ⟨false, true⟩

/-- The capabilities as they are shown. -/
def text (c : Capabilities) : String :=
  let store := c.wantsStore
  let parameters := c.wantsParameters
  s!"JobCapabilities \x7b wants_store_handle: {store}, wants_parameters: {parameters} \x7d"

end Capabilities

end JobDispatch
