import AttemptLog.Backoff
import AttemptLog.Meter
import AttemptLog.Program
/-!
What a client asks of a database of documents.

A database holds tables of documents. Commands go to it alone or inside a transaction, whose first command also begins
it. A command may fail; the labels of its error tell whether trying again can help.
-/
namespace AttemptLog.Database

abbrev Document := Json.Value

/-- names of members with the texts they must have -/
abbrev Filter := List (String × String)

/-- an order by a member that is a number -/
structure Order where
  member : String
  isDescending : Bool
  deriving DecidableEq

/-- where a command stands with regard to a transaction -/
inductive Place where
  | outside
  /-- the first command of a transaction -/
  | first
  | inside
  deriving DecidableEq

inductive Command where
  /-- no two documents of the table may agree in all of these members -/
  | createIndex (table : String) (members : List String)
  | ping
  | find (table : String) (filter : Filter) (order : Option Order) (limit : Option Nat)
  | insert (table : String) (document : Document)
  /-- delete the first document that fits -/
  | delete (table : String) (filter : Filter)
  | commit
  | abort

namespace Command

/-- what a command answers: documents that were found, or how many were deleted -/
def Reply : Command → Type
  | .createIndex _ _ => Unit
  | .ping => Unit
  | .find _ _ _ _ => List Document
  | .insert _ _ => Unit
  | .delete _ _ => Nat
  | .commit => Unit
  | .abort => Unit

def name : Command → String
  | .createIndex _ _ => "createIndexes"
  | .ping => "ping"
  | .find _ _ _ _ => "find"
  | .insert _ _ => "insert"
  | .delete _ _ => "delete"
  | .commit => "commitTransaction"
  | .abort => "abortTransaction"

end Command

structure Fault where
  labels : List String
  deriving DecidableEq

inductive Request where
  | startSession
  | startTransaction
  | send (place : Place) (command : Command)
  | pause (span : Span)
  | draw
  | tally (count : Count)

def Request.Reply : Request → Type
  | .startSession => Except Fault Unit
  | .startTransaction => Except Fault Unit
  | .send _ command => Except Fault command.Reply
  | .pause _ => Unit
  | .draw => UInt64
  | .tally _ => Unit

abbrev interface : Interface := ⟨Request, Request.Reply⟩

end AttemptLog.Database
