import OptionBinding.AnnotationLiteral
import OptionBinding.NamePattern
import OptionBinding.Number.Binary
import OptionBinding.ValueType

/-!
# Values

Scalars, and the contents of a field: unset, a scalar, a composite, which is the list of the
contents of its fields, or the elements of a collection in the order in which they are handed out.
-/

namespace OptionBinding

/-- A scalar value. -/
inductive Scalar
  | bool (b : Bool)
  | char (c : Char)
  | text (s : String)
  | className (n : ClassName)
  | regex (r : Regex)
  | namePattern (p : NamePattern)
  | annotationLiteral (a : AnnotationLiteral)
  | integer (n : Int)
  | float (format : FloatFormat) (x : BinaryFloat)
  | foreign (text : String)
  deriving DecidableEq, Repr

namespace Scalar

/-- The code points of a text. -/
def codePoints (s : String) : List Int := s.toList.map fun c => (c.toNat : Int)

/-- The key that scalars of one type are ordered by, compared from the left: `false` before `true`,
numbers by size, texts by code points. -/
def orderKey : Scalar → List Int
  | bool b => [if b then 1 else 0]
  | char c => [c.toNat]
  | text s => codePoints s
  | className n => codePoints n.text
  | regex r => codePoints r.source
  | namePattern p => codePoints p.source
  | annotationLiteral a => codePoints a.text
  | integer n => [n]
  | float _ .nan => []
  | float _ (.word bits) => [bits]
  | foreign s => codePoints s

end Scalar

/-- A value, or the contents of a field. -/
inductive Value
  | unset
  | scalar (s : Scalar)
  | composite (fields : List Value)
  | items (elements : List Value)
  deriving Repr

namespace Value

/-- Nothing is held: no value, or no element. -/
def isEmpty : Value → Bool
  | unset => true
  | items elements => elements.isEmpty
  | scalar _ => false
  | composite _ => false

/-- The elements of a collection. -/
def elements : Value → List Value
  | items elements => elements
  | _ => []

/-- The contents of the fields of a composite. -/
def fields : Value → List Value
  | composite fields => fields
  | _ => []

/-- A key made to end: none of these is the beginning of another. -/
def closed (key : List Int) : List Int := key.flatMap ([1, ·]) ++ [0]

mutual

/-- The key that an element is ordered by. Composites are compared field by field, from the left. -/
def orderKey : Value → List Int
  | unset => []
  | scalar s => s.orderKey
  | composite fields => rowKey fields
  | items elements => rowKey elements

/-- The keys of contents in a row. What is not set comes before everything that is. -/
def rowKey : List Value → List Int
  | [] => []
  | unset :: rest => 0 :: rowKey rest
  | v :: rest => 1 :: (closed v.orderKey ++ rowKey rest)

end

/-- The text that a field holds. -/
def text? : Value → Option String
  | scalar (.text s) => some s
  | _ => none

/-- The class name that a field holds. -/
def className? : Value → Option ClassName
  | scalar (.className n) => some n
  | _ => none

/-- The regular expression that a field holds. -/
def regex? : Value → Option Regex
  | scalar (.regex r) => some r
  | _ => none

/-- The name pattern that a value is. -/
def namePattern? : Value → Option NamePattern
  | scalar (.namePattern p) => some p
  | _ => none

/-- The contents of a field of a composite, by its place. -/
def fieldAt (fields : List Value) (i : Nat) : Value := fields[i]?.getD .unset

end Value

namespace Container

/-- Adds an element to an ascending list without repetitions. -/
def insertAscending (x : Value) : List Value → List Value
  | [] => [x]
  | y :: rest =>
    if x.orderKey < y.orderKey then x :: y :: rest
    else if x.orderKey = y.orderKey then y :: rest
    else y :: insertAscending x rest

/-- Adds an element to a descending list. -/
def insertDescending (x : Value) : List Value → List Value
  | [] => [x]
  | y :: rest =>
    if y.orderKey < x.orderKey then x :: y :: rest else y :: insertDescending x rest

/-- Adds an element. Sets keep one of each in ascending order, heaps hand out the greatest first,
and the other containers keep the order in which elements were added. -/
def add (c : Container) (elements : List Value) (x : Value) : List Value :=
  match c with
  | vector | linkedList | deque => elements ++ [x]
  | heap => insertDescending x elements
  | hashSet | treeSet => insertAscending x elements

/-- The container filled with elements one by one. -/
def ofElements (c : Container) (elements : List Value) : Value :=
  .items (elements.foldl c.add [])

end Container

end OptionBinding
