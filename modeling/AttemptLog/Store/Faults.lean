import AttemptLog.Store
/-!
Stores of which some queries fail, whatever the store holds.
-/
namespace AttemptLog

/-- the failures of queries, by kind of query; a ping may also stay without an answer -/
structure Faults where
  create : Option Failure
  find : Option Failure
  load : Option Failure
  commit : Option Failure
  ping : Option Failure
  isSilent : Bool

namespace Faults

def none : Faults := ⟨.none, .none, .none, .none, .none, false⟩

def of (faults : Faults) : Query → Option Failure
  | .create _ _ => faults.create
  | .find _ => faults.find
  | .load _ => faults.load
  | .commit _ _ _ => faults.commit
  | .ping => faults.ping

/-- answers the queries like another handler, where they do not fail -/
def answer {σ : Type} (faults : Faults) (handler : Handler storeInterface σ) : Handler storeInterface σ
  | query, state =>
    match faults.of query with
    | some failure => (.error failure, state)
    | .none =>
      match query with
      | .ping => if faults.isSilent then (.ok .silent, state) else handler .ping state
      | query => handler query state

end Faults

end AttemptLog
