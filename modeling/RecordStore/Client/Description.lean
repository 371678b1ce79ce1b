import RecordStore.Client.Graph
import RecordStore.Client.World
import RecordStore.Text.Duration

/-!
# Descriptions

How diagnostics show the handles of a client: the name of what it is, then its visible parts. Two points at the
end say that there are parts which are not shown.
-/

namespace RecordStore
namespace Text

def described (name : String) (parts : List (String × String)) (isWhole : Bool) : String :=
  let shown := parts.map fun (part, text) => part ++ ": " ++ text
  name ++ " \x7b " ++ ", ".intercalate (if isWhole then shown else shown ++ [".."]) ++ " \x7d"

def boolText (b : Bool) : String := if b then "true" else "false"

end Text

namespace Config

def describe (c : Config) : String :=
  Text.described "Config"
    [("prefix", Text.quoted c.names.namePrefix),
      ("key_generator", Text.boolText c.keyGenerator.isSome),
      ("lock_backend", Text.boolText c.lockBackend.isSome),
      ("lock_name_prefix", Text.quoted c.lockNamePrefix)] false

end Config

namespace World

def describeNames (w : World) (names : Names) : String :=
  Text.described "NameRegistry"
    [("prefix", Text.quoted names.namePrefix),
      ("collections", toString w.notedCollections),
      ("graphs", toString w.notedGraphs)] true

def describeDatabase (w : World) (db : Database) : String :=
  Text.described "Database"
    [("config", db.config.describe), ("names", w.describeNames db.config.names)] false

end World

namespace RecordCollection

variable {ρ : Type} [Record ρ]

def describe (c : RecordCollection ρ) : String :=
  Text.described "Collection"
    [("name", Text.quoted c.name), ("model", Text.quoted (Record.typeName ρ))] true

end RecordCollection

namespace RecordGraph

def describe (g : RecordGraph) : String :=
  Text.described "GraphHandle" [("name", Text.quoted g.name)] true

end RecordGraph

namespace RecordCursor

variable {ρ : Type} [Record ρ]

def describe (c : RecordCursor ρ) : String :=
  Text.described "Cursor"
    [("model", Text.quoted (Record.typeName ρ)),
      ("id", Text.quotedOption c.id),
      ("buffered", toString c.buffer.length),
      ("has_more", Text.boolText c.hasMore)] true

end RecordCursor

namespace NamedLock

def describe (l : NamedLock) : String :=
  Text.described "NamedLock" [("name", Text.quoted l.name)] true

end NamedLock

namespace LockGuard

def describe (g : LockGuard) : String :=
  Text.described "LockGuard"
    [("name", Text.quoted g.name), ("released", Text.boolText g.released)] true

end LockGuard

namespace LockBackend

def describe : LockBackend → String
  | inProcess => ""
  | overStore collection pollDelay =>
    Text.described "StoreLockBackend"
      [("collection", Text.quoted collection),
        ("poll_delay", Text.durationText (pollDelay * 1000))] false

end LockBackend

end RecordStore
