import OptionBinding.FieldInfo
import OptionBinding.Text.Lines

/-!
# Usage texts

One entry per option: its flag, indented by how deep it is nested, and its description, which starts
in the same column for all entries. Options inside an option follow it directly, the indentation
doubling from level to level.
-/

namespace OptionBinding.Usage

/-- A flag and the lines of its description, at least one. -/
structure Entry where
  flag : String
  description : List String
  deriving DecidableEq, Repr

/-- What stands in front of every entry. -/
def margin : String := "  "

/-- What stands between a flag and its description. -/
def columnSeparator : String := "        :  "

/-- The indentation of the outermost options. -/
def firstIndent : Nat := 4

/-- A run of spaces. -/
def spaces (n : Nat) : String := String.ofList (List.replicate n ' ')

/-- The text with spaces behind it, up to a width in characters. -/
def padTo (width : Nat) (text : String) : String := text ++ spaces (width - text.length)

/-- The flag of a field, with what stands for its value if it takes one. -/
def flag (indent : Nat) (i : FieldInfo) : String :=
  let d := i.descriptor
  spaces indent ++ d.signature ++
    (if i.isGroup then "" else d.delimiter ++ "<" ++ d.placeholder.getD i.placeholder ++ ">")

/-- The lines of a field's description: its own text, and whether it is required, has a default, and
can be repeated. -/
def description (i : FieldInfo) : List String :=
  let d := i.descriptor
  let own := if d.description = "" then [] else [d.description]
  let required := if d.required then ["[required]"] else []
  let default := match d.defaultText with
    | some text => ["[default=" ++ text ++ "]"]
    | none => []
  let repeatable := if i.isRepeatable then ["[repeatable]"] else []
  Text.shownLines (" ".intercalate (own ++ required ++ default ++ repeatable))

mutual

/-- The entries of a field and of the fields inside it. -/
def fieldEntries (indent : Nat) : FieldInfo → List Entry
  | .mk d o n p nested =>
    let i := FieldInfo.mk d o n p nested
    ⟨flag indent i, description i⟩ :: nestedEntries (2 * indent) nested

/-- The entries of the fields inside a field. -/
def nestedEntries (indent : Nat) : Option (List FieldInfo) → List Entry
  | none => []
  | some infos => entries indent infos

/-- The entries of fields. -/
def entries (indent : Nat) : List FieldInfo → List Entry
  | [] => []
  | i :: rest => fieldEntries indent i ++ entries indent rest

end

/-- The entry of a root option. -/
def rootEntry (root : Descriptor) : Entry := ⟨root.signature, Text.shownLines root.description⟩

/-- The lines of an entry, for flags of at most the given width. -/
def Entry.lines (width : Nat) (e : Entry) : List String :=
  match e.description with
  | [] => []
  | first :: rest =>
    (margin ++ padTo width e.flag ++ columnSeparator ++ first) ::
      rest.map (spaces (margin.length + width + columnSeparator.length) ++ ·)

/-- The width of the widest flag. -/
def flagWidth (es : List Entry) : Nat := (es.map (·.flag.length)).foldl max 0

/-- The lines of a usage text. -/
def lines (root : Option Descriptor) (infos : List FieldInfo) : List String :=
  let es := (root.map rootEntry).toList ++ entries firstIndent infos
  es.flatMap (Entry.lines (flagWidth es))

/-- The usage text of a root option, if there is one, and the fields under it. -/
def render (root : Option Descriptor) (infos : List FieldInfo) : String :=
  "\n".intercalate (lines root infos)

end OptionBinding.Usage

namespace OptionBinding

/-- The usage text of a composite type. -/
def TypeTable.usage (table : TypeTable) (t : TypeId) : String :=
  Usage.render (table.root? t) (table.describe t)

end OptionBinding
