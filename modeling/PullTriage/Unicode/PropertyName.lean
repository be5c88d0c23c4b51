import PullTriage.Unicode.CharSet
import PullTriage.Unicode.Category
import PullTriage.Unicode.Script
import PullTriage.Unicode.ScriptExtensions
import PullTriage.Unicode.Property
import PullTriage.Unicode.Casing
import PullTriage.Unicode.Emoji
import PullTriage.Unicode.Identifier
import PullTriage.Unicode.Age
import PullTriage.Unicode.Segmentation

/-!
  PullTriage.Unicode.PropertyName: the sets of characters that property names stand for.

  Names are compared loosely: case, blanks, hyphens, underscores and a leading "is" do not count. A
  name alone is a yes-or-no property, a general category or a script, tried in this order; a name
  with a value is one of the properties that have values.
-/

namespace PullTriage.Unicode

/-! ## §1. Loose names -/

/-- Drop a leading "is", and say whether there was one. -/
def dropIs : List Char → Bool × List Char
  | a :: b :: rest => if (a = 'i' ∨ a = 'I') ∧ (b = 's' ∨ b = 'S') then (true, rest) else
    (false, a :: b :: rest)
  | cs => (false, cs)

/-- The form in which names are compared. The name "isc" is kept whole. -/
def looseName (name : String) : String :=
  let (hadIs, cs) := dropIs name.toList
  let kept := (cs.filter fun c => !(c = ' ' ∨ c = '_' ∨ c = '-') && c.toNat ≤ 0x7F).map Char.toLower
  String.ofList (if hadIs ∧ kept = ['c'] then ['i', 's', 'c'] else kept)

/-! ## §2. Categories -/

/-- The coarse categories: their names and the first letters or names of the parts. -/
def coarseCategories : List (List String × List String) := [
  (["l", "letter"], ["lu", "ll", "lt", "lm", "lo"]),
  (["lc", "casedletter"], ["lu", "ll", "lt"]),
  (["m", "mark", "combiningmark"], ["mn", "mc", "me"]),
  (["n", "number"], ["nd", "nl", "no"]),
  (["p", "punctuation", "punct"], ["pc", "pd", "ps", "pe", "pi", "pf", "po"]),
  (["s", "symbol"], ["sm", "sc", "sk", "so"]),
  (["z", "separator"], ["zs", "zl", "zp"])
]

/-- The union of the categories with the given short names. -/
def categoryUnion (names : List String) : CharSet :=
  .unions (names.filterMap fun n => (NamedSet.find? categories n).map .table)

/-- Every code point that has a category. Surrogates count as assigned. -/
def assigned : CharSet :=
  .union (.range 0xD800 0xDFFF) (.unions (categories.map fun s => .table (Table.ofText s.text)))

/-- The category that goes by a loose name. -/
def category? (name : String) : Option CharSet :=
  if name = "any" then some .full
  else if name = "ascii" then some .ascii
  else if name = "assigned" then some assigned
  else if name = "cn" ∨ name = "unassigned" then some (.inter .full (.compl assigned))
  else if name = "c" ∨ name = "other" then
    some (.union (categoryUnion ["cc", "cf", "co"]) (.inter .full (.compl assigned)))
  else match coarseCategories.find? fun c => c.1.contains name with
    | some (_, parts) => some (categoryUnion parts)
    | none => (NamedSet.find? categories name).map .table

/-! ## §3. Names and values -/

/-- The script that goes by a loose name. -/
def script? (name : String) : Option CharSet := (NamedSet.find? scripts name).map .table

/-- The characters used with a script. -/
def scriptExtension? (name : String) : Option CharSet :=
  ((NamedSet.find? scriptExtensions name).map .table).or (script? name)

/-- The yes-or-no property that goes by a loose name. -/
def binary? (name : String) : Option CharSet :=
  [properties, casings, emojis, identifiers].findSome? fun sets =>
    (NamedSet.find? sets name).map .table

/-- The characters assigned in a version or before. -/
def age? (name : String) : Option CharSet :=
  (ages.findIdx? fun s => s.names.contains name).map fun i =>
    .unions ((ages.take (i + 1)).map fun s => .table (Table.ofText s.text))

/-- The set that a name alone stands for. The short names of two categories are also those of
properties without a set, and stand for the categories. -/
def setOfName? (name : String) : Option CharSet :=
  let n := looseName name
  let property := if n = "cf" ∨ n = "sc" ∨ n = "lc" then none else binary? n
  (property.or (category? n)).or (script? n)

/-- The set that a property name with a value stands for. -/
def setOfValue? (property value : String) : Option CharSet :=
  let p := looseName property
  let v := looseName value
  if p = "gc" ∨ p = "generalcategory" then category? v
  else if p = "sc" ∨ p = "script" then script? v
  else if p = "scx" ∨ p = "scriptextensions" then scriptExtension? v
  else if p = "age" then age? v
  else if p = "gcb" ∨ p = "graphemeclusterbreak" then
    (NamedSet.find? graphemeClusterBreaks v).map .table
  else if p = "wb" ∨ p = "wordbreak" then (NamedSet.find? wordBreaks v).map .table
  else if p = "sb" ∨ p = "sentencebreak" then (NamedSet.find? sentenceBreaks v).map .table
  else none

end PullTriage.Unicode
