import RecordStore.Client.Graph
import RecordStore.Client.World
import RecordStore.Sample.Graphs
import RecordStore.Text.Uuid

/-!
# Settings

A setting is a database for a trial with all that it acts on: either plain, or with everything that can be
configured, which is a prefix of its own, random keys, and locks in the same store. Scenarios fill it with
records.
-/

namespace RecordStore
namespace Sample

structure Setting where
  db : Database
  world : World

/-- A source of random numbers of 128 bits: a start and an odd step, so that no number comes twice. -/
structure Entropy where
  start : Nat
  deriving DecidableEq, Repr

namespace Entropy

def step : Nat := 0x9E3779B97F4A7C15F39CC0605CEDC835

def number (e : Entropy) (n : Nat) : Nat := (e.start + n * step) % Nat.pow 2 128

end Entropy

namespace Setting

def plain : Setting := ⟨{}, World.empty Store.defaultBatchSize⟩

/-- The prefix of a database with everything, which comes from the first random number. -/
def namePrefix (e : Entropy) : String :=
  "test-" ++ Text.uuidStart 10 (e.number 0) ++ "-"

def lockCollection (e : Entropy) : String := namePrefix e ++ "locks"

def config (e : Entropy) : Config :=
  { names := { namePrefix := namePrefix e }
    keyGenerator := some fun n => Text.uuidText (e.number (n + 1))
    lockBackend := some (.overStore (lockCollection e) LockBackend.defaultPollDelay) }

def full (e : Entropy) : Setting :=
  ⟨{ config := config e },
    ((LockBackend.prepare (lockCollection e)).run (World.empty Store.defaultBatchSize)).2⟩

/-- Saves records in turn and gives those that were saved. -/
def saveAll {ρ : Type} (save : ρ → Program (Except ClientError Unit × ρ)) :
    List ρ → Program (Except ClientError (List ρ))
  | [] => .done (.ok [])
  | r :: rest =>
    (save r).bind fun
      | (.error e, _) => .done (.error e)
      | (.ok (), r) => (saveAll save rest).mapOk (r :: ·)

def identities (db : Database) (names : List String) : Program (Except ClientError (List Identity)) :=
  (db.collection Identity).bind fun collection =>
    collection.ensureCollection.andThen fun () =>
      saveAll (collection.save []) (names.map fun name => { name := name })

def people (db : Database) (names : List String) : Program (Except ClientError (List Person)) :=
  (db.collection Person).bind fun collection =>
    collection.ensureCollection.andThen fun () =>
      saveAll (collection.save []) (names.map fun name => { name := name })

def peopleGraph (db : Database) (names : List String) : Program (Except ClientError (List Person)) :=
  (db.graph relationGraph).bind fun graph =>
    graph.ensure.andThen fun () =>
      saveAll (graph.save []) (names.map fun name => { name := name })

end Setting

/-- How many random cases a property is tried on, and how many steps the search for a smaller case may take. -/
structure TrialBudget where
  cases : Nat := 256
  shrinkSteps : Nat := 1000
  deriving DecidableEq, Repr

namespace TrialBudget

def quick : TrialBudget := ⟨32, 100⟩

end TrialBudget

end Sample
end RecordStore
