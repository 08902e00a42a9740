/-!
# Cutting a text into pieces

A text is cut at every occurrence of a character. Lines are the pieces between line feeds, without
the carriage return that may stand before one, and without the empty piece after the last line feed.
-/

namespace OptionBinding.Text

/-- Puts a character in front of the first piece. -/
def consToFirst (c : Char) : List (List Char) → List (List Char)
  | [] => [[c]]
  | piece :: pieces => (c :: piece) :: pieces

/-- The pieces of a text between the occurrences of `separator`; there is one more of them than
there are occurrences. -/
def pieces (separator : Char) : List Char → List (List Char)
  | [] => [[]]
  | c :: rest =>
    if c = separator then [] :: pieces separator rest else consToFirst c (pieces separator rest)

/-- The texts between the occurrences of `separator`. -/
def split (separator : Char) (text : String) : List String :=
  (pieces separator text.toList).map String.ofList

/-- A line without the carriage return at its end. -/
def withoutReturn (line : List Char) : List Char :=
  if line.getLast? = some '\r' then line.dropLast else line

/-- From the pieces between line feeds to lines: the last piece is kept as it is, and only if it
holds something. -/
def linesOfPieces : List (List Char) → List (List Char)
  | [] => []
  | [last] => if last.isEmpty then [] else [last]
  | piece :: rest => withoutReturn piece :: linesOfPieces rest

/-- The lines of a text; none for the empty text. -/
def lines (text : String) : List String :=
  (linesOfPieces (pieces '\n' text.toList)).map String.ofList

/-- The first line of a text, empty if there is none. -/
def firstLine (text : String) : String := (lines text).headD ""

/-- The lines of a text as a description shows them: at least one, if only an empty one. -/
def shownLines (text : String) : List String :=
  match lines text with
  | [] => [""]
  | line :: rest => line :: rest

end OptionBinding.Text
