import RecordStore.Table
import RecordStore.Decimal.Binary64

/-!
# Values

The values of documents: null, booleans, numbers, strings, arrays and objects. A number is an exact integer
of 64 bits or a binary64 number, and the two are never the same value, although queries may find them equal.
`Value.same` is the equality that unique indexes use.
-/

namespace RecordStore

/-- A number as it is stored: an exact integer, or a finite binary64 number. -/
inductive Number where
  | int (n : Int)
  | float (x : Binary64)
  deriving DecidableEq, Repr

/-- A value of a document. The attributes of an object form a table. -/
inductive Value where
  | null
  | bool (b : Bool)
  | number (n : Number)
  | string (s : String)
  | array (items : List Value)
  | object (fields : List (String × Value))
  deriving Repr

abbrev Document := Table Value

abbrev Bindings := Table Value

namespace Number

/-- Same kind and same value; the two zeros among the floats are the same. -/
def same : Number → Number → Bool
  | .int a, .int b => a == b
  | .float a, .float b => a.key == b.key
  | _, _ => false

/-- The binary64 number that stands for a number in comparisons. -/
def toBinary64 : Number → Binary64
  | .int n => Binary64.ofInt n
  | .float x => x

end Number

namespace Value

instance : Inhabited Value := ⟨.null⟩

def isNull : Value → Bool
  | .null => true
  | _ => false

def asString? : Value → Option String
  | .string s => some s
  | _ => none

def asObject? : Value → Option Document
  | .object fields => some fields
  | _ => none

/-- The number that a value is, if it is exact and not negative. -/
def asNat? : Value → Option Nat
  | .number (.int (.ofNat n)) => some n
  | _ => none

def kind : Value → String
  | .null => "null"
  | .bool _ => "a boolean"
  | .number _ => "a number"
  | .string _ => "a string"
  | .array _ => "an array"
  | .object _ => "an object"

def ofInt (n : Int) : Value := .number (.int n)

def ofNat (n : Nat) : Value := .number (.int n)

mutual

/-- Structural equality: same shape, same texts, same numbers. -/
def same : Value → Value → Bool
  | .null, .null => true
  | .bool a, .bool b => a == b
  | .number a, .number b => a.same b
  | .string a, .string b => a == b
  | .array a, .array b => sameItems a b
  | .object a, .object b => sameFields a b
  | _, _ => false

def sameItems : List Value → List Value → Bool
  | [], [] => true
  | a :: as, b :: bs => same a b && sameItems as bs
  | _, _ => false

def sameFields : List (String × Value) → List (String × Value) → Bool
  | [], [] => true
  | (k, a) :: as, (l, b) :: bs => k == l && same a b && sameFields as bs
  | _, _ => false

end

end Value

namespace Document

def text? (document : Document) (field : String) : Option String :=
  (document.get? field).bind Value.asString?

def setText (document : Document) (field text : String) : Document :=
  document.set field (.string text)

@[simp] theorem text?_setText_self (document : Document) (field text : String) :
    (document.setText field text).text? field = some text := by
  simp [text?, setText, Value.asString?]

theorem get?_of_text? {document : Document} {field text : String} (read : document.text? field = some text) :
    document.get? field = some (.string text) := by
  unfold text? at read
  cases found : document.get? field with
  | none => simp [found] at read
  | some value => cases value <;> simp_all [Value.asString?]

theorem text?_setText_of_ne (document : Document) {field other : String} (text : String)
    (different : field ≠ other) : (document.setText field text).text? other = document.text? other := by
  simp [text?, setText, Table.get?_set_of_ne _ _ different]

end Document

end RecordStore
