import RecordStore.Client.Program
import RecordStore.Record.Basic

/-!
# Record cursors

A record cursor hands out the results of a query as records, one after another and once each. It fetches a
batch when those before are used up. The cursor that the store keeps is released when the results have been
collected, when the record cursor is closed, or when it is dropped. Every operation gives the cursor as it is
afterwards.
-/

namespace RecordStore

/-- The results of a query as records. -/
structure RecordCursor (ρ : Type) where
  /-- The cursor of the store, if it had to keep one. -/
  id : Option String
  /-- Results that were fetched and not handed out. -/
  buffer : List Value
  hasMore : Bool
  count : Option Nat
  fullCount : Option Nat
  /-- Whether the cursor of the store was given back. -/
  released : Bool
  deriving Repr

inductive CloseOutcome where
  | closed
  | alreadyGone
  | nothingToClose
  deriving DecidableEq, Repr

namespace RecordCursor

variable {ρ : Type}

def ofBatch (b : Batch) : RecordCursor ρ :=
  ⟨b.id, b.items, b.hasMore, b.count, b.fullCount, false⟩

/-- How many results there are, if the query was told to count them. -/
def total (c : RecordCursor ρ) : Except ClientError Nat :=
  match c.count with
  | some n => .ok n
  | none => .error (.cursor .count)

def fullTotal (c : RecordCursor ρ) : Except ClientError Nat :=
  match c.fullCount with
  | some n => .ok n
  | none => .error (.cursor .fullCount)

def close (c : RecordCursor ρ) (ignoreMissing : Bool) :
    Program (Except ClientError CloseOutcome × RecordCursor ρ) :=
  match c.id with
  | none => .done (.ok .nothingToClose, { c with released := true })
  | some id =>
    (Program.request (.closeCursor id)).bind fun
      | .ok () => .done (.ok .closed, { c with released := true })
      | .error e =>
        match e.translate .cursor id with
        | .cursorNotFound message =>
          if ignoreMissing then .done (.ok .alreadyGone, { c with released := true })
          else .done (.error (.cursorNotFound message), c)
        | e => .done (.error e, c)

/-- Lets go of the cursor: the cursor of the store is released if that has not been done. -/
def drop (c : RecordCursor ρ) : Program Unit :=
  if c.released || c.id.isNone then .done ()
  else (c.close true).bind fun _ => .done ()

/-- Fetches the next batch. After a failure there is nothing more to fetch. -/
def fetch (c : RecordCursor ρ) : Program (Except ClientError Unit × RecordCursor ρ) :=
  match c.id with
  | none => .done (.ok (), { c with hasMore := false })
  | some id =>
    (Program.request (.nextBatch id)).bind fun
      | .ok batch => .done (.ok (), { c with buffer := c.buffer ++ batch.items, hasMore := batch.hasMore })
      | .error e => .done (.error (e.translate .cursor id), { c with hasMore := false })

variable [Record ρ]

/-- The next result with so many fetches at most: a record, or what went wrong in its place. -/
def nextWithin : Nat → RecordCursor ρ → Program (Option (Except ClientError ρ) × RecordCursor ρ)
  | tries, c =>
    match c.buffer with
    | item :: rest => .done (some (Record.ofValue item), { c with buffer := rest })
    | [] =>
      if c.hasMore then
        match tries with
        | 0 => .stalled
        | tries + 1 =>
          c.fetch.bind fun
            | (.error e, c) => .done (some (.error e), c)
            | (.ok (), c) => nextWithin tries c
      else .done (none, c)

def next (c : RecordCursor ρ) : Program (Option (Except ClientError ρ) × RecordCursor ρ) :=
  (Program.ofAction .patience).bind fun tries => nextWithin tries c

def skip : Nat → RecordCursor ρ → Program (RecordCursor ρ)
  | 0, c => .done c
  | n + 1, c =>
    c.next.bind fun
      | (none, c) => .done c
      | (some _, c) => skip n c

/-- Reads values in turn up to the first that is no record, and gives those after it back. -/
def readAll : List Value → Except ClientError (List ρ) × List Value
  | [] => (.ok [], [])
  | item :: rest =>
    match Record.ofValue item with
    | .error e => (.error e, rest)
    | .ok r =>
      match readAll rest with
      | (.ok records, rest) => (.ok (r :: records), rest)
      | (.error e, rest) => (.error e, rest)

/-- The results that are left, with so many fetches at most; the first failure ends it. -/
def collectWithin : Nat → RecordCursor ρ → Program (Except ClientError (List ρ) × RecordCursor ρ)
  | tries, c =>
    match readAll c.buffer with
    | (.error e, rest) => .done (.error e, { c with buffer := rest })
    | (.ok records, rest) =>
      let c := { c with buffer := rest }
      if c.hasMore then
        match tries with
        | 0 => .stalled
        | tries + 1 =>
          c.fetch.bind fun
            | (.error e, c) => .done (.error e, c)
            | (.ok (), c) =>
              (collectWithin tries c).bind fun (others, c) => .done (others.map (records ++ ·), c)
      else .done (.ok records, c)

def collect (c : RecordCursor ρ) : Program (Except ClientError (List ρ) × RecordCursor ρ) :=
  (Program.ofAction .patience).bind fun tries => collectWithin tries c

def finish (collected : Except ClientError (List ρ)) (c : RecordCursor ρ) :
    Program (Except ClientError (List ρ) × RecordCursor ρ) :=
  match collected with
  | .error e => .done (.error e, c)
  | .ok records =>
    (c.close true).bind fun
      | (.error e, c) => .done (.error e, c)
      | (.ok _, c) => .done (.ok records, c)

def toList (c : RecordCursor ρ) : Program (Except ClientError (List ρ) × RecordCursor ρ) :=
  c.collect.bind fun (collected, c) => finish collected c

def toListAndDrop (c : RecordCursor ρ) : Program (Except ClientError (List ρ)) :=
  c.toList.bind fun (collected, c) => c.drop.bind fun _ => .done collected

end RecordCursor
end RecordStore
