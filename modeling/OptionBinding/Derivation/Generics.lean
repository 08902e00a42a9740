import OptionBinding.Derivation.TokenRow

/-!
# Generic parameters

The parameters of a declaration: lifetimes, types with bounds, and constants. Defaults belong to the
declaration alone; an implementation repeats the parameters without them, lifetimes first.
-/

namespace OptionBinding.Derivation

/-- A parameter: its name, the tokens that declare it without a default, and whether a comma stands
behind it. -/
structure GenericParameter where
  name : String
  declaration : List String
  comma : Bool
  deriving DecidableEq, Repr

/-- The brackets that are open after a token. An angle bracket that nothing closes ends with the
brackets around it. -/
def openAfter (opened : List String) (token : String) : List String :=
  if isOpening token || token == "<" then token :: opened
  else if token == ">" then (if opened.head? = some "<" then opened.drop 1 else opened)
  else if isClosing token then (opened.dropWhile (· == "<")).drop 1
  else opened

/-- Cuts tokens at the commas outside of all brackets, and says of each piece whether a comma ended
it. -/
def splitParameters (opened current : List String) : List String → List (List String × Bool)
  | [] => if current.isEmpty then [] else [(current.reverse, false)]
  | t :: rest =>
    if t = "," && opened.isEmpty then (current.reverse, true) :: splitParameters [] [] rest
    else splitParameters (openAfter opened t) (t :: current) rest

/-- The tokens before an equals sign outside of all brackets. -/
def withoutDefault (opened : List String) : List String → List String
  | [] => []
  | t :: rest =>
    if t = "=" && opened.isEmpty then [] else t :: withoutDefault (openAfter opened t) rest

/-- A bracketed group at the front of tokens, and what follows it. -/
def leadingGroup (opened : List String) : List String → List String × List String
  | [] => ([], [])
  | t :: rest =>
    if (openAfter opened t).isEmpty then ([t], rest)
    else
      let (group, after) := leadingGroup (openAfter opened t) rest
      (t :: group, after)

/-- The attributes at the front of tokens, at most `fuel` of them, and what follows them. -/
def leadingAttributes : (fuel : Nat) → List String → List String × List String
  | fuel + 1, "#" :: rest =>
    let (group, rest) := leadingGroup [] rest
    let (others, rest) := leadingAttributes fuel rest
    ("#" :: (group ++ others), rest)
  | _, ts => ([], ts)

/-! ## Lists in angle brackets -/

/-- A part of a list of parameters or arguments: its tokens, and whether a comma stands behind
it. -/
structure ListPart where
  isLifetime : Bool
  tokens : List String
  comma : Bool
  deriving DecidableEq, Repr

/-- The tokens of a list: lifetimes first, each part with the comma behind it, and one between the
two sorts if there is none. -/
def listTokens (parts : List ListPart) : List String :=
  let row (parts : List ListPart) :=
    parts.flatMap fun p => p.tokens ++ if p.comma then [","] else []
  let lifetimes := parts.filter (·.isLifetime)
  let others := parts.filter (!·.isLifetime)
  let between := if lifetimes.getLast?.any (!·.comma) && !others.isEmpty then [","] else []
  row lifetimes ++ between ++ row others

/-- The token is a lifetime, rather than a character between apostrophes. -/
def isLifetime (token : String) : Bool :=
  token.toList.head? == some '\'' && token.toList.getLast? != some '\''

/-- Tokens with the lifetimes of every list of arguments put first, but as they are inside braces.
Each step takes a token, so their number is fuel enough. -/
def lifetimesFirst : (fuel : Nat) → List String → List String
  | 0, tokens => tokens
  | _, [] => []
  | fuel + 1, t :: rest =>
    if t = "<" then
      let (group, after) := leadingGroup [] (t :: rest)
      let parts := (splitParameters [] [] (group.drop 1).dropLast).map fun (tokens, comma) =>
        ⟨tokens.length == 1 && tokens.all isLifetime, lifetimesFirst fuel tokens, comma⟩
      "<" :: (listTokens parts ++ ">" :: lifetimesFirst fuel after)
    else if t = "\x7b" then
      let (group, after) := leadingGroup [] (t :: rest)
      group ++ lifetimesFirst fuel after
    else t :: lifetimesFirst fuel rest

/-! ## Parameters -/

/-- The parameter that tokens declare. A colon without bounds behind it is left out. -/
def parameterOfTokens (tokens : List String) (comma : Bool) : GenericParameter :=
  let (attributes, rest) := leadingAttributes tokens.length tokens
  match lifetimesFirst tokens.length (withoutDefault [] rest) with
  | "const" :: name :: type => ⟨name, attributes ++ "const" :: name :: type, comma⟩
  | [name, ":"] => ⟨name, attributes ++ [name], comma⟩
  | name :: bounds => ⟨name, attributes ++ name :: bounds, comma⟩
  | [] => ⟨"", attributes, comma⟩

/-- The parameters in a text with its angle brackets. -/
def genericParameters (text : String) : List GenericParameter :=
  (splitParameters [] [] ((tokens .types text).drop 1).dropLast).map fun (ts, comma) =>
    parameterOfTokens ts comma

/-- The row of parameters in angle brackets. -/
def parameterRow (part : GenericParameter → List String) (ps : List GenericParameter) :
    List String :=
  if ps.isEmpty then []
  else "<" :: (listTokens (ps.map fun p => ⟨isLifetime p.name, part p, p.comma⟩) ++ [">"])

/-- The text of a row with a space behind it, unless there is none. -/
def spaced (row : List String) : String := if row.isEmpty then "" else RowStyle.wide.text row ++ " "

/-- The parameters as an implementation declares them. -/
def declaredParameters (ps : List GenericParameter) : String :=
  spaced (parameterRow (·.declaration) ps)

/-- The names of the parameters as arguments. -/
def parameterArguments (ps : List GenericParameter) : String :=
  spaced (parameterRow (fun p => [p.name]) ps)

end OptionBinding.Derivation
