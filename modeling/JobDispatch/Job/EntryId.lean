/-!
Identifiers of entries.

An identifier is either drawn from a supply, which never gives the same one twice, or named by its
text.
-/

namespace JobDispatch

/-- The identifier of an entry and of its result. -/
inductive EntryId where
  | drawn (number : Nat)
  | named (text : String)
  deriving DecidableEq, Repr

end JobDispatch
