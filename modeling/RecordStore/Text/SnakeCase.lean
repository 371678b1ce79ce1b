import RecordStore.Text.Case
import RecordStore.Text.Letter
import RecordStore.Text.Split

/-!
# Snake case

A name is cut into words at every character that is neither a letter nor a digit, and again where its case
shows a new word: between a lower case and an upper case letter, and before the last of several upper case
letters that a lower case letter follows. The words are written in lower case with underscores between them.
-/

namespace RecordStore
namespace Text

/-- The case of the word so far: open at its start, then that of its last cased character. -/
inductive Hump where
  | start
  | lower
  | upper
  deriving DecidableEq

/-- Cuts a run of letters and digits into words by case. The word so far is kept in reverse. -/
def humps : Hump → List Char → List Char → List (List Char)
  | _, _, [] => []
  | _, word, [c] => [(c :: word).reverse]
  | hump, word, c :: next :: rest =>
    let now := if isLower c then .lower else if isUpper c then .upper else hump
    if now = .lower ∧ isUpper next then (c :: word).reverse :: humps .start [] (next :: rest)
    else if hump = .upper ∧ isUpper c ∧ isLower next then word.reverse :: humps .start [c] (next :: rest)
    else humps now (c :: word) (next :: rest)

/-- A word in lower case; a sigma at its end takes the final form. -/
def lowerWord : List Char → List Char
  | [] => []
  | [c] => if c = 'Σ' then ['ς'] else lowerChar c
  | c :: rest => lowerChar c ++ lowerWord rest

def snakeWords (name : List Char) : List (List Char) :=
  (splitBy (fun c => !isAlphanumeric c) name).flatMap fun run => (humps .start [] run).map lowerWord

def snakeCase (name : String) : String :=
  "_".intercalate ((snakeWords name.toList).map String.ofList)

end Text
end RecordStore
