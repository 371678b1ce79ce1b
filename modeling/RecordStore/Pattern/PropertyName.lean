import RecordStore.Pattern.CharClass
import RecordStore.Pattern.Tree
import RecordStore.Text.Age
import RecordStore.Text.Property.Break
import RecordStore.Text.Script

/-!
# Names of properties

The sets that `PropertyQuery` can name: binary properties, general categories and groups of them, scripts, and the
values of a few other properties. Names are compared without regard to case, spaces, hyphens, underscores and a
leading `is`.
-/

namespace RecordStore
namespace Pattern

open Text (CharSet)

/-- A name without what does not count in it. -/
def foldName (name : String) : String :=
  let cs := name.toList
  let (dropped, cs) :=
    match cs with
    | 'i' :: 's' :: rest | 'I' :: 's' :: rest | 'i' :: 'S' :: rest | 'I' :: 'S' :: rest => (true, rest)
    | _ => (false, cs)
  let kept := (cs.filter fun c => c ≠ ' ' && c ≠ '_' && c ≠ '-' && c.toNat < 128).map Char.toLower
  if dropped && kept = ['c'] then "isc" else String.ofList kept

def categoryGroups : List (List String × List Text.Category) := [
  (["l", "letter"], [.lu, .ll, .lt, .lm, .lo]),
  (["lc", "casedletter"], [.lu, .ll, .lt]),
  (["lu", "uppercaseletter"], [.lu]),
  (["ll", "lowercaseletter"], [.ll]),
  (["lt", "titlecaseletter"], [.lt]),
  (["lm", "modifierletter"], [.lm]),
  (["lo", "otherletter"], [.lo]),
  (["m", "mark", "combiningmark"], [.mn, .mc, .me]),
  (["mn", "nonspacingmark"], [.mn]),
  (["mc", "spacingmark"], [.mc]),
  (["me", "enclosingmark"], [.me]),
  (["n", "number"], [.nd, .nl, .no]),
  (["nd", "decimalnumber", "digit"], [.nd]),
  (["nl", "letternumber"], [.nl]),
  (["no", "othernumber"], [.no]),
  (["p", "punctuation", "punct"], [.pc, .pd, .ps, .pe, .pi, .pf, .po]),
  (["pc", "connectorpunctuation"], [.pc]),
  (["pd", "dashpunctuation"], [.pd]),
  (["ps", "openpunctuation"], [.ps]),
  (["pe", "closepunctuation"], [.pe]),
  (["pi", "initialpunctuation"], [.pi]),
  (["pf", "finalpunctuation"], [.pf]),
  (["po", "otherpunctuation"], [.po]),
  (["s", "symbol"], [.sm, .sc, .sk, .so]),
  (["sm", "mathsymbol"], [.sm]),
  (["sc", "currencysymbol"], [.sc]),
  (["sk", "modifiersymbol"], [.sk]),
  (["so", "othersymbol"], [.so]),
  (["z", "separator"], [.zs, .zl, .zp]),
  (["zs", "spaceseparator"], [.zs]),
  (["zl", "lineseparator"], [.zl]),
  (["zp", "paragraphseparator"], [.zp]),
  (["c", "other"], [.cc, .cf, .cs, .co, .cn]),
  (["cc", "control", "cntrl"], [.cc]),
  (["cf", "format"], [.cf]),
  (["co", "privateuse"], [.co]),
  (["cn", "unassigned"], [.cn])
]

namespace CharClass

def ofCategoryName? (name : String) : Option CharSet :=
  if name = "any" then some .all
  else if name = "ascii" then some ascii
  else if name = "assigned" then some (Text.Category.set [.cn]).compl
  else (categoryGroups.find? fun group => group.1.contains name).map fun group => Text.Category.set group.2

/-- The set of a folded name of its own: a property, a category or a script. The name of a property that is not
a set of characters names nothing, except three that are names of categories too. -/
def ofName? (name : String) : Option CharSet :=
  let isCategory := name = "cf" || name = "sc" || name = "lc"
  match if isCategory then none else Text.Property.named? name Text.Property.binary with
  | some property => some property.set
  | none =>
    if !isCategory && (Text.words Text.Property.otherNames.toList).contains name.toList then none
    else (ofCategoryName? name).orElse fun _ => (Text.Script.named? name).map Text.Script.set

def ofValue? (property value : String) : Option CharSet :=
  let among (values : List Text.Property) := (Text.Property.named? value values).map Text.Property.set
  match property with
  | "gc" | "generalcategory" => ofCategoryName? value
  | "sc" | "script" => (Text.Script.named? value).map Text.Script.set
  | "scx" | "scriptextensions" => (Text.Script.named? value).map Text.Script.extensionSet
  | "age" => (Text.Age.named? value).map Text.Age.set
  | "gcb" | "graphemeclusterbreak" => among Text.Property.graphemeClusterBreaks
  | "wb" | "wordbreak" => among Text.Property.wordBreaks
  | "sb" | "sentencebreak" => among Text.Property.sentenceBreaks
  | _ => none

def ofQuery? : PropertyQuery → Option CharSet
  | .name name => ofName? (foldName name)
  | .value property value => ofValue? (foldName property) (foldName value)

end CharClass

end Pattern
end RecordStore
