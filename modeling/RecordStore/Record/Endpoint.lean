import RecordStore.Names
import RecordStore.Text.Quoted
import RecordStore.Text.Split

/-!
# Endpoints

An edge names the vertices at its ends by identifier, by a record as it was, or by a vertex that it shares with
the program and whose key is read whenever it is needed.
-/

namespace RecordStore

structure Vertex where
  type : RecordType
  key : Option String
  deriving DecidableEq, Repr

inductive Endpoint where
  | id (text : String)
  | record (vertex : Vertex)
  | shared (cell : Nat)
  deriving DecidableEq, Repr

structure Ends where
  source : Endpoint
  target : Endpoint
  deriving DecidableEq, Repr

/-- What identifiers are made from: the names, and the shared vertices as they are now. -/
structure Directory where
  names : Names
  shared : Nat → Option Vertex := fun _ => none

namespace Vertex

def identifier (v : Vertex) (names : Names) : Option String :=
  v.key.map fun key => names.collection v.type ++ "/" ++ key

end Vertex

namespace Endpoint

/-- The vertex that an endpoint goes to, unless only an identifier is known. -/
def vertex? (e : Endpoint) (d : Directory) : Option Vertex :=
  match e with
  | id _ => none
  | record v => some v
  | shared cell => d.shared cell

def resolve (e : Endpoint) (d : Directory) : Option String :=
  match e with
  | id text => some text
  | record v => v.identifier d.names
  | shared cell => (d.shared cell).bind (·.identifier d.names)

/-- The key of the vertex; of an identifier, what stands after the first slash. -/
def key (e : Endpoint) (d : Directory) : Option String :=
  match e with
  | id text => (Text.splitFirst? '/' text.toList).map fun (_, key) => String.ofList key
  | record v => v.key
  | shared cell => (d.shared cell).bind (·.key)

def asked (e : Endpoint) (d : Directory) : List RecordType :=
  match e.vertex? d with
  | some ⟨type, some _⟩ => [type]
  | _ => []

def debug (e : Endpoint) (d : Directory) : String :=
  match e with
  | id text => "Id(" ++ Text.quoted text ++ ")"
  | record v => "Record \x7b key: " ++ Text.quotedOption v.key ++ " \x7d"
  | shared _ => "Shared(" ++ Text.quotedOption (e.key d) ++ ")"

end Endpoint

end RecordStore
