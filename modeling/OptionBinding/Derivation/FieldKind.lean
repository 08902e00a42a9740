import OptionBinding.Derivation.TypeExpr

/-!
# How a declared field is bound

The type of a declared field decides how its option is bound: a plain truth value is a flag, an
optional value is bound once, and a container as often as the option is given. Types that can be no
option are either passed on, to be reported when they are used, or refused at once.
-/

namespace OptionBinding.Derivation

/-- How a field is bound. Maps and unsupported containers are reported when they are used. -/
inductive FieldKind
  | flag
  | single
  | nested
  | collection
  | nestedCollection
  | map
  | unsupported (typeText : String)
  deriving DecidableEq, Repr

/-- Why a field is refused. -/
inductive FieldFault
  | noOptionType (typeText : String)
  | nestedFlag
  deriving DecidableEq, Repr

/-- The wording of a fault. -/
def FieldFault.message : FieldFault → String
  | noOptionType typeText =>
    "option field type \x60" ++ typeText ++ "\x60 must be bool, Option<T> or a collection; " ++
      "wrap single values in Option or mark custom containers with #[option(collection)]"
  | nestedFlag => "a bool flag cannot be nested"

/-- The containers that a repeatable option can fill. -/
def containerNames : List String :=
  ["Vec", "VecDeque", "LinkedList", "HashSet", "BTreeSet", "BinaryHeap"]

/-- The containers of pairs. -/
def mapNames : List String := ["HashMap", "BTreeMap", "IndexMap"]

/-- The kind of a repeatable field. -/
def repeatable (nested : Bool) : FieldKind := if nested then .nestedCollection else .collection

/-- The kind of a field whose type is a path with arguments. -/
def classifyPath (style : RowStyle) (t : TypeExpr) (segments : List String)
    (arguments : List TypeExpr) (nested : Bool) : Except FieldFault FieldKind :=
  match segments.getLast? with
  | none => .error (.noOptionType (t.text style))
  | some last =>
    if last = "bool" ∧ segments.length = 1 then
      if nested then .error .nestedFlag else .ok .flag
    else if last = "Option" then .ok (if nested then .nested else .single)
    else if last ∈ containerNames then .ok (repeatable nested)
    else if last ∈ mapNames then .ok .map
    else if last = "Box" && arguments.head?.any (·.isSlice) then .ok (.unsupported (t.text style))
    else .error (.noOptionType (t.text style))

/-- The kind of a field of a type. `style` is how the type is written where it is reported, `nested`
says that the field's values have options of their own, `forced` that its type is a container
whatever its name. -/
def classify (style : RowStyle) (nested forced : Bool) : TypeExpr → Except FieldFault FieldKind
  | .array element length => .ok (.unsupported ((TypeExpr.array element length).text style))
  | .slice element => .ok (.unsupported ((TypeExpr.slice element).text style))
  | .group inner => classify style nested forced inner
  | .paren inner => classify style nested forced inner
  | .marked marks target =>
    if target.isSlice then .ok (.unsupported ((TypeExpr.marked marks target).text style))
    else if forced then .ok (repeatable nested)
    else .error (.noOptionType ((TypeExpr.marked marks target).text style))
  | .tuple elements =>
    if forced then .ok (repeatable nested)
    else .error (.noOptionType ((TypeExpr.tuple elements).text style))
  | .other row =>
    if forced then .ok (repeatable nested)
    else .error (.noOptionType ((TypeExpr.other row).text style))
  | .path segments =>
    if forced then .ok (repeatable nested)
    else classifyPath style (.path segments) segments [] nested
  | .generic segments arguments =>
    if forced then .ok (repeatable nested)
    else classifyPath style (.generic segments arguments) segments arguments nested
  | .fullPath row segments arguments =>
    if forced then .ok (repeatable nested)
    else classifyPath style (.fullPath row segments arguments) segments arguments nested

end OptionBinding.Derivation
