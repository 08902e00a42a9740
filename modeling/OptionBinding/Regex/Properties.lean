import OptionBinding.Regex.Engine
import OptionBinding.Text.Categories
import OptionBinding.Text.Letters
import OptionBinding.Text.Scripts

/-!
# Properties of characters

General categories and scripts, and a few properties that characters have or have not. Their names
are looked up loosely.
-/

namespace OptionBinding.Regex

/-- A name as the tables have it: in lower case, without spaces, hyphens, underscores and characters
that are not in ASCII, and without the word `is` in front of others. -/
def looseName (name : String) : String :=
  let visible (cs : List Char) : List Char :=
    (cs.filter fun c => c.toNat < 128 && c != ' ' && c != '-' && c != '_').map Char.toLower
  match name.toList with
  | i :: s :: rest =>
    if i.toLower = 'i' ∧ s.toLower = 's' then
      if visible rest = ['c'] then "isc" else .ofList (visible rest)
    else .ofList (visible (i :: s :: rest))
  | cs => .ofList (visible cs)

namespace CharSet

/-- The union of sets. -/
def all (sets : List CharSet) : CharSet := sets.foldl union nothing

/-- Every second character of ranges, from the first of each on or from the second. -/
def everySecond (offset : Nat) (table : Text.RangeTable) : CharSet :=
  ofTable <| table.flatMap fun (low, high) =>
    (List.range' (low + offset) ((high - low + 1) / 2) 2).map fun n => (n, n)

/-- The characters of a category, by a row of a table of categories. -/
def ofCategory (row : List String × Text.RangeTable) : CharSet :=
  match row.1 with
  | "lu" :: _ => union (ofTable row.2) (everySecond 0 Text.alternatingRanges)
  | "ll" :: _ => union (ofTable row.2) (everySecond 1 Text.alternatingRanges)
  | _ => ofTable row.2

/-- The assigned characters. -/
def assigned : CharSet := all (Text.categoryGroups.flatMap fun group => group.2.map ofCategory)

/-- The characters of a general category, or of several that have a name together. -/
def category? (name : String) : Option CharSet :=
  match name with
  | "any" => some anything
  | "assigned" => some assigned
  | "ascii" => some (range '\x00' '\x7f')
  | "cn" | "unassigned" => some assigned.complement
  | _ =>
    match Text.categoryGroups.find? (·.1.contains name) with
    | some (["c", _], rows) => some (union assigned.complement (all (rows.map ofCategory)))
    | some (_, rows) => some (all (rows.map ofCategory))
    | none =>
      ((Text.categoryGroups.flatMap (·.2)).find? (·.1.contains name)).map ofCategory

/-- The characters of a script. -/
def script? (name : String) : Option CharSet :=
  (Text.scripts.find? (·.1.contains name)).map fun row => ofTable row.2

/-- The characters that have a property which others have not. -/
def binary? (name : String) : Option CharSet :=
  match name with
  | "alphabetic" | "alpha" => some (intersection assigned (ofTable Text.alphabeticRanges))
  | "lowercase" | "lower" => (category? "ll").map (union (ofTable Text.otherLowercaseRanges))
  | "uppercase" | "upper" => (category? "lu").map (union (ofTable Text.otherUppercaseRanges))
  | "whitespace" | "wspace" | "space" => some blank
  | _ => none

end CharSet

/-- The characters with each property. -/
@[reducible]
def knownProperties : Properties where
  set?
    | .named name =>
      let name := looseName name
      (CharSet.binary? name).or ((CharSet.category? name).or (CharSet.script? name))
    | .valued name value =>
      match looseName name with
      | "gc" | "generalcategory" => CharSet.category? (looseName value)
      | "sc" | "script" => CharSet.script? (looseName value)
      | _ => none

end OptionBinding.Regex
