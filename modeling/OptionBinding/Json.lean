/-!
# Configurations as JSON

The part of JSON that configurations need; numbers are written as texts in them. The printer puts
every member and element on a line of its own, and members in ascending order of their names.
-/

namespace OptionBinding

/-- A JSON value. -/
inductive Json
  | null
  | bool (b : Bool)
  | string (s : String)
  | array (elements : List Json)
  | object (members : List (String × Json))

namespace Json

/-- A character of a JSON string. -/
def escapeChar (c : Char) : List Char :=
  if c = '"' then ['\\', '"']
  else if c = '\\' then ['\\', '\\']
  else if c = '\n' then ['\\', 'n']
  else if c = '\r' then ['\\', 'r']
  else if c = '\t' then ['\\', 't']
  else if c.toNat = 0x08 then ['\\', 'b']
  else if c.toNat = 0x0C then ['\\', 'f']
  else if c.toNat < 0x20 then
    ['\\', 'u', '0', '0', Nat.digitChar (c.toNat / 16), Nat.digitChar (c.toNat % 16)]
  else [c]

/-- A text as a JSON string. -/
def quoted (s : String) : String := String.ofList ('"' :: s.toList.flatMap escapeChar ++ ['"'])

/-- Puts a member into an ascending list of members; a later one of the same name replaces it. -/
def insertMember (name : String) (value : Json) : List (String × Json) → List (String × Json)
  | [] => [(name, value)]
  | (other, v) :: rest =>
    if name < other then (name, value) :: (other, v) :: rest
    else if name = other then (name, value) :: rest
    else (other, v) :: insertMember name value rest

/-- An object of members; of two of the same name the later counts. -/
def ofMembers (members : List (String × Json)) : Json :=
  .object (members.foldl (fun sorted m => insertMember m.1 m.2 sorted) [])

/-- Lines with a comma behind the last. -/
def withComma (lines : List String) : List String := lines.dropLast ++ [lines.getLastD "" ++ ","]

/-- Lines with a text in front of the first. -/
def withLabel (label : String) : List String → List String
  | [] => []
  | first :: rest => (label ++ first) :: rest

mutual

/-- The lines of a value. -/
def lines : Json → List String
  | null => ["null"]
  | bool b => [if b then "true" else "false"]
  | string s => [quoted s]
  | array [] => ["[]"]
  | array (x :: xs) => ["["] ++ elementLines (x :: xs) ++ ["]"]
  | object [] => ["\x7b\x7d"]
  | object (m :: ms) => ["\x7b"] ++ memberLines (m :: ms) ++ ["\x7d"]

/-- The lines of elements, two spaces deeper, with commas between them. -/
def elementLines : List Json → List String
  | [] => []
  | [x] => x.lines.map ("  " ++ ·)
  | x :: xs => (withComma x.lines).map ("  " ++ ·) ++ elementLines xs

/-- The lines of members, two spaces deeper, with commas between them. -/
def memberLines : List (String × Json) → List String
  | [] => []
  | [(name, x)] => (withLabel (quoted name ++ ": ") x.lines).map ("  " ++ ·)
  | (name, x) :: ms =>
    (withComma (withLabel (quoted name ++ ": ") x.lines)).map ("  " ++ ·) ++ memberLines ms

end

/-- The value over several lines. -/
def pretty (x : Json) : String := "\n".intercalate x.lines

end Json

end OptionBinding
