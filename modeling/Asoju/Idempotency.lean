/-
Idempotency keys.

A client that may repeat a request sends a key with it.  `begin` looks for the record of the
operation, the key and the actor: a succeeded record is answered with the result it refers to,
a record in process is a conflict, and a failed one is deleted, so that the operation can be
tried again; then a new record is created.  `complete` and `fail` write its outcome.
-/
import Asoju.Prisma

namespace Asoju

open Lib

/-- What a record is unique by. -/
structure RecordKey where
  operation : IdempotencyOperation
  idempotencyKey : String
  actorId : Id
deriving DecidableEq, Repr

def IdempotencyRecord.key (r : IdempotencyRecord) : RecordKey :=
  ⟨r.operation, r.idempotencyKey, r.actorId⟩

/-- The record under this key; there is at most one. -/
def Db.recordByKey (d : Db) (key : RecordKey) : Option (Id × IdempotencyRecord) :=
  d.idempotencyRecord.rows.find? fun p => p.2.key = key

namespace IdempotencyService

/-- What `begin` answers. -/
inductive BeginResult
  | shouldProceed
  | replay (resultReference : Option Id)
deriving DecidableEq, Repr

def alreadyProcessing : HttpError :=
  .conflict "This request is already being processed — please wait and retry."

/-- Creates a record in process; the unique constraint lets one of several calls win. -/
def createRecord (key : RecordKey) : Svc BeginResult := do
  try
    let _ ← Prisma.createUnique .idempotencyRecord (fun d => (d.recordByKey key).isSome) fun _ =>
      { operation := key.operation, idempotencyKey := key.idempotencyKey
        actorId := key.actorId, status := .processing }
    pure .shouldProceed
  catch err =>
    throw (if err = Prisma.uniqueViolation then alreadyProcessing else err)

/-- Deletes a failed record; that it is gone already does not matter. -/
def clearRecord (i : Id) : Svc Unit := do
  try Prisma.delete .idempotencyRecord i catch _ => pure ()

def begin (key : RecordKey) : Svc BeginResult := do
  let existing ← Prisma.query .idempotencyRecord (·.recordByKey key)
  match existing with
  | some (i, record) =>
    if record.status = .succeeded then return .replay record.resultReference
    if record.status = .processing then throw alreadyProcessing
    clearRecord i
    createRecord key
  | none => createRecord key

def complete (key : RecordKey) (resultReference : Id) : Svc Unit :=
  Prisma.updateMany .idempotencyRecord (fun _ r => r.key = key) fun r =>
    { r with status := .succeeded, resultReference := some resultReference }

def fail (key : RecordKey) : Svc Unit :=
  Prisma.updateMany .idempotencyRecord (fun _ r => r.key = key) fun r =>
    { r with status := .failed }

end IdempotencyService

end Asoju
