/-!
# Answers of the relation backend
-/

namespace Gatekeeper

inductive BackendFailure where
  /-- The backend was not reached, or could not answer at the time. -/
  | unavailable (detail : String)
  | rejected (status : Nat) (detail : String)
  | malformed (detail : String)
deriving DecidableEq, Repr

def BackendFailure.message : BackendFailure → String
  | unavailable detail => "authorization backend unavailable: " ++ detail
  | rejected status detail =>
      "authorization backend rejected the query with status " ++
        toString status ++ ": " ++ detail
  | malformed detail =>
      "authorization backend returned a malformed response: " ++ detail

abbrev CheckAnswer := Except BackendFailure Bool

end Gatekeeper
