import RecordStore.Text.SnakeCase

/-!
# Plurals

The plural of an English noun: irregular and uncountable nouns by a list, the rest by their endings. A name in
snake case is put into the plural by its last word.
-/

namespace RecordStore
namespace Text

def irregularPlurals : List (String × String) := [
  ("person", "people"),
  ("man", "men"),
  ("woman", "women"),
  ("child", "children"),
  ("mouse", "mice"),
  ("foot", "feet"),
  ("tooth", "teeth")
]

def uncountable : List String :=
  ["data", "information", "equipment", "series", "species", "news"]

def endsWith (ending : String) (word : List Char) : Bool :=
  ending.toList.isSuffixOf word

def vowels : List Char := ['a', 'e', 'i', 'o', 'u']

/-- Whether a word ends in a `y` that no vowel comes before. -/
def endsInConsonantY (word : List Char) : Bool :=
  match word.reverse with
  | 'y' :: before :: _ => !vowels.contains before
  | ['y'] => true
  | _ => false

def plural (word : List Char) : List Char :=
  if word.isEmpty || uncountable.contains (String.ofList word) then word
  else
    match irregularPlurals.lookup (String.ofList word) with
    | some irregular => irregular.toList
    | none =>
      if endsInConsonantY word then word.dropLast ++ "ies".toList
      else if ["s", "x", "z", "ch", "sh"].any (endsWith · word) then word ++ "es".toList
      else word ++ ['s']

def pluralSnakeCase (name : String) : String :=
  let snake := (snakeCase name).toList
  match splitLast? '_' snake with
  | some (before, last) => String.ofList (before ++ '_' :: plural last)
  | none => String.ofList (plural snake)

end Text
end RecordStore
