import AttemptLog.Database.Store
/-!
A database of documents in memory.

The first command of a transaction copies the tables; the commands of the transaction work on the copy, and a commit
puts the copy in the place of the tables. Documents stand in the order of their insertion. A plan may say that certain
commands fail.
-/
namespace AttemptLog.Database

abbrev Tables := Keyed (List Document)

/-- some commands fail: of those with this name the ones from number `at` on, counted from one -/
structure Disturbance where
  command : String
  start : Nat
  times : Nat
  labels : List String
  /-- does the command do its work before it fails -/
  isApplied : Bool

structure Server where
  tables : Tables
  /-- the copy that a transaction works on -/
  copy : Option Tables
  plan : List Disturbance
  /-- the commands that were sent, the last one in front -/
  sent : List (Place × Command)

/-- a server and what was counted -/
structure Deployment where
  server : Server
  meter : Meter

/-- does a document have these members -/
def Filter.fits (filter : Filter) (document : Document) : Bool :=
  filter.all fun (name, text) => document.member? name == some (.string text)

/-- the number that a member is, as its digits and how many of them stand behind the point; zero if it is none -/
def orderKey (order : Order) (document : Document) : Int × Nat :=
  match document.member? order.member with
  | some (.number digits places) => (digits, places)
  | _ => (0, 0)

/-- does the first of two documents come before the second, or may it -/
def Order.le (order : Order) (a b : Document) : Bool :=
  let (x, m) := orderKey order a
  let (y, n) := orderKey order b
  let first := x * Nat.pow 10 n
  let second := y * Nat.pow 10 m
  if order.isDescending then decide (second ≤ first) else decide (first ≤ second)

def Tables.documents (tables : Tables) (table : String) : List Document := (tables.get? table).getD []

/-- the documents that fit, in order, and at most as many as allowed -/
def found (documents : List Document) (filter : Filter) (order : Option Order) (limit : Option Nat) : List Document :=
  let fitting := documents.filter filter.fits
  let sorted :=
    match order with
    | some order => fitting.mergeSort order.le
    | none => fitting
  match limit with
  | some limit => sorted.take limit
  | none => sorted

/-- do two documents both have this member, with one value -/
def agreeIn (member : String) (a b : Document) : Bool :=
  match a.member? member, b.member? member with
  | some x, some y => x == y
  | _, _ => false

/-- may two documents not stand in one table -/
def collide (a b : Document) : Bool :=
  agreeIn "_id" a b || (agreeIn "attempt_id" a b && agreeIn "sequence_number" a b)

def deleteFirst (filter : Filter) : List Document → List Document × Nat
  | [] => ([], 0)
  | document :: rest =>
    if filter.fits document then (rest, 1)
    else (document :: (deleteFirst filter rest).1, (deleteFirst filter rest).2)

def execute (tables : Tables) : (command : Command) → Except Fault command.Reply × Tables
  | .createIndex _ _ => (.ok (), tables)
  | .ping => (.ok (), tables)
  | .find table filter order limit => (.ok (found (tables.documents table) filter order limit), tables)
  | .insert table document =>
    if (tables.documents table).any (collide document) then (.error ⟨[]⟩, tables)
    else (.ok (), tables.insert table (tables.documents table ++ [document]))
  | .delete table filter =>
    let (rest, deleted) := deleteFirst filter (tables.documents table)
    (.ok deleted, if deleted = 0 then tables else tables.insert table rest)
  | .commit => (.ok (), tables)
  | .abort => (.ok (), tables)

namespace Server

def disturbance? (server : Server) (name : String) : Option Disturbance :=
  let number := (server.sent.filter fun entry => entry.2.name == name).length + 1
  server.plan.find? fun plan => plan.command == name && plan.start ≤ number && number < plan.start + plan.times

def perform (server : Server) (place : Place) (command : Command) : Except Fault command.Reply × Server :=
  match command with
  | .commit => (.ok (), { server with tables := server.copy.getD server.tables, copy := none })
  | .abort => (.ok (), { server with copy := none })
  | command =>
    match place with
    | .outside =>
      let (reply, tables) := execute server.tables command
      (reply, { server with tables := tables })
    | .first =>
      let (reply, tables) := execute server.tables command
      (reply, { server with copy := some tables })
    | .inside =>
      let (reply, tables) := execute (server.copy.getD server.tables) command
      (reply, { server with copy := some tables })

def receive (server : Server) (place : Place) (command : Command) : Except Fault command.Reply × Server :=
  let disturbance := server.disturbance? command.name
  let server := { server with sent := (place, command) :: server.sent }
  match disturbance with
  | none => server.perform place command
  | some disturbance =>
    (.error ⟨disturbance.labels⟩, if disturbance.isApplied then (server.perform place command).2 else server)

end Server

/-- answers a client's requests; what cannot be sent fails on the client's side, random numbers are zero and nobody
waits -/
def Deployment.answer : Handler interface Deployment
  | .startSession, deployment => (.ok (), deployment)
  | .startTransaction, deployment => (.ok (), deployment)
  | .send place command, deployment =>
    if command.isSendable then
      let (reply, server) := deployment.server.receive place command
      (reply, { deployment with server := server })
    else (.error ⟨[]⟩, deployment)
  | .pause _, deployment => ((), deployment)
  | .draw, deployment => ((0 : UInt64), deployment)
  | .tally count, deployment => ((), { deployment with meter := deployment.meter ++ [count] })

end AttemptLog.Database
