import Emend.Pattern.CharSet
import Emend.Unicode.Classes
import Emend.Unicode.Category
import Emend.Unicode.Script
import Emend.Unicode.ScriptExtension
import Emend.Unicode.Property
import Emend.Unicode.Segmentation
import Emend.Unicode.Age

/-!
# Character properties in patterns

A pattern names a set of characters by a property, as in `\p{Greek}` or `\p{script=Greek}`. Names
are compared loosely: `normalName` drops blanks, hyphens, underscores, case and a leading `is`.

- `Property.byName?` finds the set of a single name: a binary property, else a general category,
  else a script;
- `Property.byValue?` finds the set of a property with a value.
-/

namespace Emend.Property

open Unicode

/-- The plain characters of a name in lower case, without blanks, hyphens and underscores. -/
def squeeze (name : List Char) : List Char :=
  (name.filter fun c => isAscii c && c != ' ' && c != '_' && c != '-').map Char.toLower

/-- The normal form of a property name or value. A leading `is` in any case is dropped, except
that `isc` keeps it. -/
def normalName (name : List Char) : String :=
  match name with
  | a :: b :: rest =>
    if (a == 'i' || a == 'I') && (b == 's' || b == 'S') then
      let short := squeeze rest
      if short = ['c'] then "isc" else .ofList short
    else .ofList (squeeze name)
  | _ => .ofList (squeeze name)

/-- The entry of a table that carries a name. -/
def find? (table : List NamedRanges) (name : String) : Option NamedRanges :=
  table.find? fun entry => entry.names.contains name

/-- The set that an entry of a table writes down. -/
def setOf (entry : NamedRanges) : CharSet :=
  .table (.ofText entry.ranges)

/-- The set under a name in a table. -/
def lookup? (table : List NamedRanges) (name : String) : Option CharSet :=
  (find? table name).map setOf

/-- The groups of general categories: the names of each and the categories that it joins. -/
def categoryGroups : List (List String × List String) := [
  (["l", "letter"], ["lu", "ll", "lt", "lm", "lo"]),
  (["lc", "casedletter"], ["lu", "ll", "lt"]),
  (["m", "mark", "combiningmark"], ["mn", "mc", "me"]),
  (["n", "number"], ["nd", "nl", "no"]),
  (["p", "punctuation", "punct"], ["pc", "pd", "ps", "pe", "pi", "pf", "po"]),
  (["s", "symbol"], ["sm", "sc", "sk", "so"]),
  (["z", "separator"], ["zs", "zl", "zp"]),
  (["c", "other"], ["cc", "cf", "co", "cn"])]

/-- The set of a general category: all, assigned and plain characters, a group, or a single
category. -/
def category? (name : String) : Option CharSet :=
  if name = "any" then some .all
  else if name = "assigned" then (lookup? categories "cn").map .compl
  else if name = "ascii" then some (.range '\x00' '\x7f')
  else
    match categoryGroups.find? fun g => g.1.contains name with
    | some (_, members) => some (.unionAll (members.filterMap (lookup? categories)))
    | none => lookup? categories name

/-- The set of a single name. Three names of properties are also those of categories, and mean
the category. -/
def byName? (name : List Char) : Option CharSet :=
  let name := normalName name
  let asProperty := if name = "cf" || name = "sc" || name = "lc" then none
    else lookup? properties name
  asProperty <|> category? name <|> lookup? scripts name

/-- The characters of an age: those of its own version and of all earlier ones. -/
def age? (name : String) : Option CharSet :=
  match ages.span fun entry => !entry.names.contains name with
  | (_, []) => none
  | (older, entry :: _) => some (.unionAll ((older ++ [entry]).map setOf))

/-- The set of a property with a value. -/
def byValue? (property value : List Char) : Option CharSet :=
  let property := normalName property
  let value := normalName value
  if property = "gc" || property = "generalcategory" then category? value
  else if property = "sc" || property = "script" then lookup? scripts value
  else if property = "scx" || property = "scriptextensions" then lookup? scriptExtensions value
  else if property = "age" then age? value
  else if property = "gcb" || property = "graphemeclusterbreak" then lookup? graphemeBreaks value
  else if property = "wb" || property = "wordbreak" then lookup? wordBreaks value
  else if property = "sb" || property = "sentencebreak" then lookup? sentenceBreaks value
  else none

/-- The classes of plain characters that are written `[:name:]`. -/
def asciiClass? (name : List Char) : Option CharSet :=
  let digit := CharSet.range '0' '9'
  let upper := CharSet.range 'A' 'Z'
  let lower := CharSet.range 'a' 'z'
  match String.ofList name with
  | "alnum" => some (.unionAll [digit, upper, lower])
  | "alpha" => some (upper.union lower)
  | "ascii" => some (.range '\x00' '\x7f')
  | "blank" => some (.union (.one '\t') (.one ' '))
  | "cntrl" => some (.union (.range '\x00' '\x1f') (.one '\x7f'))
  | "digit" => some digit
  | "graph" => some (.range '!' '~')
  | "lower" => some lower
  | "print" => some (.range ' ' '~')
  | "punct" => some (.unionAll [.range '!' '/', .range ':' '@', .range '[' '\x60',
      .range '\x7b' '~'])
  | "space" => some (.union (.range '\t' '\r') (.one ' '))
  | "upper" => some upper
  | "word" => some (.unionAll [digit, upper, .one '_', lower])
  | "xdigit" => some (.unionAll [digit, .range 'A' 'F', .range 'a' 'f'])
  | _ => none

end Emend.Property
