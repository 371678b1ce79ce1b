import RecordStore.Pattern.Like
import RecordStore.Pattern.Meaning
import RecordStore.Text.Split
import RecordStore.Value.Order
import RecordStore.Value.Printer

/-!
# Filter operators

The operators that compare an attribute with an operand. Each has a symbol, which is how it is written in
statements, and a token, which names its operand among the bound parameters. A quantified operator asks its
question of the items of an array. Filters look an operator up by its symbol; statements read it word by word.
-/

namespace RecordStore
namespace Query

inductive Comparison where
  | eq
  | ne
  | lt
  | lte
  | gt
  | gte
  deriving DecidableEq, Repr

namespace Comparison

def all : List Comparison := [eq, ne, lt, lte, gt, gte]

def symbol : Comparison → String
  | eq => "=="
  | ne => "!="
  | lt => "<"
  | lte => "<="
  | gt => ">"
  | gte => ">="

def read? : String → Option Comparison
  | "==" => some eq
  | "!=" => some ne
  | "<" => some lt
  | "<=" => some lte
  | ">" => some gt
  | ">=" => some gte
  | _ => none

def token : Comparison → String
  | eq => "eq"
  | ne => "ne"
  | lt => "lt"
  | lte => "lte"
  | gt => "gt"
  | gte => "gte"

def accepts : Comparison → Ordering → Bool
  | eq, o => o == .eq
  | ne, o => o != .eq
  | lt, o => o == .lt
  | lte, o => o != .gt
  | gt, o => o == .gt
  | gte, o => o != .lt

def holds (c : Comparison) (left right : Value) : Bool :=
  c.accepts (left.compare right)

end Comparison

/-- How many items of an array have to pass. -/
inductive Quantifier where
  | any
  | all
  | none
  deriving DecidableEq, Repr

namespace Quantifier

def symbol : Quantifier → String
  | any => "ANY"
  | all => "ALL"
  | none => "NONE"

def read? : String → Option Quantifier
  | "ANY" => some any
  | "ALL" => some all
  | "NONE" => some none
  | _ => Option.none

def token : Quantifier → String
  | any => "any"
  | all => "all"
  | none => "none"

/-- Whether enough items pass. -/
def holds (q : Quantifier) (test : Value → Bool) (items : List Value) : Bool :=
  match q with
  | any => items.any test
  | all => items.all test
  | none => !items.any test

end Quantifier

inductive ItemTest where
  | compare (c : Comparison)
  | member
  deriving DecidableEq, Repr

inductive Operator where
  | compare (c : Comparison)
  | member
  | notMember
  | like
  | notLike
  | regex
  | notRegex
  | quantified (q : Quantifier) (test : ItemTest)
  deriving DecidableEq, Repr

/-- Whether an array has an item equal to a value; what is no array has none. -/
def isMember (value : Value) : Value → Bool
  | .array items => items.any fun item => item.compare value == .eq
  | _ => false

/-- Whether the text of a value matches a wildcard pattern; what is no string matches nothing. -/
def isLike (value : Value) : Value → Bool
  | .string pattern => Pattern.Like.holds pattern value.patternText
  | _ => false

/-- Whether a regular expression matches in the text of a value; what is no string matches nothing. -/
def isMatch (value : Value) : Value → Bool
  | .string pattern => Pattern.matchesIn pattern value.patternText
  | _ => false

namespace ItemTest

def symbol : ItemTest → String
  | compare c => c.symbol
  | member => "IN"

def read? : String → Option ItemTest
  | "IN" => some member
  | text => (Comparison.read? text).map compare

def token : ItemTest → String
  | compare c => c.token
  | member => "in"

def holds (t : ItemTest) (item operand : Value) : Bool :=
  match t with
  | compare c => c.holds item operand
  | member => isMember item operand

end ItemTest

namespace Operator

def symbol : Operator → String
  | compare c => c.symbol
  | member => "IN"
  | notMember => "NOT IN"
  | like => "LIKE"
  | notLike => "NOT LIKE"
  | regex => "=~"
  | notRegex => "!~"
  | quantified q test => q.symbol ++ " " ++ test.symbol

def readQuantified? (text : String) : Option Operator := do
  let (first, rest) ← Text.splitFirst? ' ' text.toList
  return quantified (← Quantifier.read? (String.ofList first)) (← ItemTest.read? (String.ofList rest))

/-- Reads an operator whose words stand one blank apart. -/
def read? (text : String) : Option Operator :=
  match Comparison.read? text with
  | some c => some (compare c)
  | none =>
    match text with
    | "IN" => some member
    | "NOT IN" => some notMember
    | "LIKE" => some like
    | "NOT LIKE" => some notLike
    | "=~" => some regex
    | "!~" => some notRegex
    | _ => readQuantified? text

/-- The word for an operator in names of parameters. -/
def token : Operator → String
  | compare c => c.token
  | member => "in"
  | notMember => "not_in"
  | like => "like"
  | notLike => "not_like"
  | regex => "reg_match"
  | notRegex => "not_reg_match"
  | quantified q test => q.token ++ "_" ++ test.token

def equal : Operator := compare .eq

def all : List Operator :=
  Comparison.all.map compare ++ [member, notMember, like, notLike, regex, notRegex] ++
    [Quantifier.all, .none, .any].map (quantified · .member) ++
    [Quantifier.any, .all, .none].flatMap fun q => Comparison.all.map fun c => quantified q (.compare c)

def ofSymbol? (symbol : String) : Option Operator :=
  all.find? fun op => op.symbol = symbol

/-- Whether an operator holds between a value and its operand. A quantified one holds of arrays only. -/
def holds (op : Operator) (value operand : Value) : Bool :=
  match op with
  | compare c => c.holds value operand
  | member => isMember value operand
  | notMember => !isMember value operand
  | like => isLike value operand
  | notLike => !isLike value operand
  | regex => isMatch value operand
  | notRegex => !isMatch value operand
  | quantified q test =>
    match value with
    | .array items => q.holds (fun item => test.holds item operand) items
    | _ => false

end Operator

end Query
end RecordStore
