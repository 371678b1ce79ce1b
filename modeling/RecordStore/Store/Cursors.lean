import RecordStore.Query.Evaluation
import RecordStore.Store.Basic

/-!
# Cursors

Running a statement gives its first batch of results. If more are left, a cursor holds them as they were when
the statement ran, until the last batch is fetched or the cursor is closed.
-/

namespace RecordStore
namespace Store

/-- The name of a cursor by the number of cursors that were opened with it. -/
def cursorName (n : Nat) : String :=
  "cursor-" ++ toString n

def evaluate (s : Store) (q : BoundQuery) : Except Refusal Query.Evaluation := do
  let statement ← (Query.Statement.ofText q.text).mapError .query
  let name ← (statement.collection q.bindings).mapError .query
  match s.collections.get? name with
  | none => throw (.collectionMissing name)
  | some c => (statement.evaluate (c.contents.map .object) q.bindings).mapError .query

/-- Runs a statement and keeps the results that do not fit into the first batch. -/
def execute (s : Store) (q : BoundQuery) : Outcome Batch :=
  match s.evaluate q with
  | .error r => (.error r, s)
  | .ok results =>
    let size := max (q.options.batchSize.getD s.batchSize) 1
    let first := results.items.take size
    let rest := results.items.drop size
    let count := if q.options.count then some results.items.length else none
    let fullCount := if q.options.fullCount then some results.fullCount else none
    if rest.isEmpty then (.ok ⟨none, first, false, count, fullCount⟩, s)
    else
      let n := s.cursorCounter + 1
      let id := cursorName n
      (.ok ⟨some id, first, true, count, fullCount⟩,
        { s with cursorCounter := n, cursors := s.cursors.set id ⟨rest, size⟩ })

/-- Fetches the next batch of a cursor; the last one closes it. -/
def nextBatch (s : Store) (id : String) : Outcome Batch :=
  match s.cursors.get? id with
  | none => (.error (.cursorMissing id), s)
  | some cursor =>
    let items := cursor.items.take cursor.batchSize
    let rest := cursor.items.drop cursor.batchSize
    if rest.isEmpty then
      (.ok ⟨some id, items, false, none, none⟩, { s with cursors := s.cursors.erase id })
    else
      (.ok ⟨some id, items, true, none, none⟩,
        { s with cursors := s.cursors.set id { cursor with items := rest } })

def closeCursor (s : Store) (id : String) : Outcome Unit :=
  if s.cursors.has id then (.ok (), { s with cursors := s.cursors.erase id })
  else (.error (.cursorMissing id), s)

end Store
end RecordStore
