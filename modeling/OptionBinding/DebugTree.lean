import OptionBinding.Text.Quoted

/-!
# Debug forms

The structure of a value as a tree of named parts, written on one line or with every part on a line
of its own, four spaces deeper than the whole.
-/

namespace OptionBinding

/-- A value as debug output shows it. -/
inductive DebugTree
  | atom (text : String)
  | node (name : String) (fields : List (String × DebugTree))
  | tuple (name : String) (parts : List DebugTree)
  | list (elements : List DebugTree)

namespace DebugTree

/-- A text in quotes. -/
def text (s : String) : DebugTree := atom (Text.quoted s)

/-- A value that may be missing. -/
def option : Option DebugTree → DebugTree
  | none => atom "None"
  | some t => tuple "Some" [t]

/-- A truth value. -/
def bool (b : Bool) : DebugTree := atom (if b then "true" else "false")

mutual

/-- The tree on one line. -/
def inline : DebugTree → String
  | atom text => text
  | node name [] => name
  | node name (f :: fs) =>
    name ++ " \x7b " ++ ", ".intercalate (inlineFields (f :: fs)) ++ " \x7d"
  | tuple name parts => name ++ "(" ++ ", ".intercalate (inlineParts parts) ++ ")"
  | list elements => "[" ++ ", ".intercalate (inlineParts elements) ++ "]"

/-- Named parts, each on one line. -/
def inlineFields : List (String × DebugTree) → List String
  | [] => []
  | (name, t) :: rest => (name ++ ": " ++ t.inline) :: inlineFields rest

/-- Parts, each on one line. -/
def inlineParts : List DebugTree → List String
  | [] => []
  | t :: rest => t.inline :: inlineParts rest

end

/-- The lines of a part inside another: its name in front, a comma behind, and all of it deeper. -/
def indentPart (label : String) (lines : List String) : List String :=
  match lines with
  | [] => []
  | first :: rest =>
    let labelled := (label ++ first) :: rest
    (labelled.dropLast ++ [labelled.getLastD "" ++ ","]).map ("    " ++ ·)

mutual

/-- The lines of the tree, every part on lines of its own. -/
def lines : DebugTree → List String
  | atom text => [text]
  | node name [] => [name]
  | node name (f :: fs) => [name ++ " \x7b"] ++ fieldLines (f :: fs) ++ ["\x7d"]
  | tuple name parts => [name ++ "("] ++ partLines parts ++ [")"]
  | list [] => ["[]"]
  | list (t :: ts) => ["["] ++ partLines (t :: ts) ++ ["]"]

/-- The lines of named parts. -/
def fieldLines : List (String × DebugTree) → List String
  | [] => []
  | (name, t) :: rest => indentPart (name ++ ": ") t.lines ++ fieldLines rest

/-- The lines of parts. -/
def partLines : List DebugTree → List String
  | [] => []
  | t :: rest => indentPart "" t.lines ++ partLines rest

end

/-- The tree over several lines. -/
def indented (t : DebugTree) : String := "\n".intercalate t.lines

end DebugTree

end OptionBinding
