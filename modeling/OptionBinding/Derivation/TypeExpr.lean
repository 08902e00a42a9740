import OptionBinding.Derivation.TokenRow

/-!
# Type expressions

Types as a struct declaration writes them, and their tokens. Groups have no brackets of their own.
-/

namespace OptionBinding.Derivation

/-- A type expression. The arguments of a generic type belong to the last segment of its path. A
path with something else in it, such as a leading separator, a lifetime or arguments of another
segment, is given with the row of its tokens. References have marks before what they refer to: a
lifetime, or the word `mut`. Types of all other sorts, such as functions or pointers, are rows of
tokens. -/
inductive TypeExpr
  | path (segments : List String)
  | generic (segments : List String) (arguments : List TypeExpr)
  | fullPath (row segments : List String) (arguments : List TypeExpr)
  | array (element : TypeExpr) (length : String)
  | slice (element : TypeExpr)
  | marked (marks : List String) (target : TypeExpr)
  | paren (inner : TypeExpr)
  | group (inner : TypeExpr)
  | tuple (elements : List TypeExpr)
  | other (row : List String)

namespace TypeExpr

/-- A reference without marks, or to something that is there all the time. -/
def reference (static : Bool) (target : TypeExpr) : TypeExpr :=
  marked (if static then ["'static"] else []) target

mutual

/-- The tokens of a type. -/
def tokens : TypeExpr → List String
  | path segments => segments.intersperse "::"
  | generic segments arguments => segments.intersperse "::" ++ "<" :: (listed arguments ++ [">"])
  | fullPath row _ _ => row
  | array element length =>
    "[" :: (element.tokens ++ ";" :: (Derivation.tokens (.values 0) length ++ ["]"]))
  | slice element => "[" :: (element.tokens ++ ["]"])
  | marked marks target => "&" :: (marks ++ target.tokens)
  | paren inner => "(" :: (inner.tokens ++ [")"])
  | group inner => inner.tokens
  | tuple elements => "(" :: (ended elements ++ [")"])
  | other row => row

/-- The tokens of types with commas between them. -/
def listed : List TypeExpr → List String
  | [] => []
  | [t] => t.tokens
  | t :: ts => t.tokens ++ "," :: listed ts

/-- The tokens of types with a comma behind each. -/
def ended : List TypeExpr → List String
  | [] => []
  | t :: ts => t.tokens ++ "," :: ended ts

end

/-- The text of a type. -/
def text (style : RowStyle) (t : TypeExpr) : String := style.text t.tokens

/-- The type is a slice. -/
def isSlice : TypeExpr → Bool
  | slice _ => true
  | _ => false

end TypeExpr

end OptionBinding.Derivation
