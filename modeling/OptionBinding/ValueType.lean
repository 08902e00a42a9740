import OptionBinding.Number.Binary
import OptionBinding.Number.Integer

/-!
# Types of values

The types that options can have: scalars, which are written as one text; composites, which have
options of their own; and collections of either. Composite types are known by their number in a
table of types. Every type has a full name, which messages and logs show, and scalars have a
placeholder for usage texts.
-/

namespace OptionBinding

/-- Scalar types. `foreign` types are known by their full name alone. -/
inductive ScalarType
  | nothing
  | bool
  | char
  | text
  | className
  | regex
  | namePattern
  | annotationLiteral
  | integer (t : IntegerType)
  | float (f : FloatFormat)
  | foreign (fullName : String)
  deriving DecidableEq, Repr

namespace ScalarType

/-- The full name. -/
def fullName : ScalarType → String
  | nothing => "()"
  | bool => "bool"
  | char => "char"
  | text => "alloc::string::String"
  | className => "argbind_core::qualified::QualifiedName"
  | regex => "regex::regex::string::Regex"
  | namePattern => "argbind_cli::plugins::NamePattern"
  | annotationLiteral => "argbind_cli::plugins::annotate::AnnotationSpec"
  | integer t => t.name
  | float f => f.name
  | foreign fullName => fullName

/-- What stands for a value of the type in usage texts. -/
def placeholder : ScalarType → String
  | bool => "boolean"
  | char => "char"
  | className => "class"
  | regex => "regex"
  | integer t =>
    match t with
    | .i8 | .u8 => "byte"
    | .i16 | .u16 => "short"
    | .i32 | .u32 | .isize | .usize => "int"
    | .i64 | .u64 | .i128 | .u128 => "long"
  | float .single => "float"
  | float .double => "double"
  | _ => "value"

end ScalarType

/-- What a collection does with the values added to it. -/
inductive CollectionKind
  | sequence
  | set
  | queue
  deriving DecidableEq, Repr

/-- The containers that a repeatable option can fill. -/
inductive Container
  | vector
  | linkedList
  | deque
  | heap
  | hashSet
  | treeSet
  deriving DecidableEq, Repr

namespace Container

/-- The family that a container belongs to. -/
def kind : Container → CollectionKind
  | vector | linkedList => .sequence
  | hashSet | treeSet => .set
  | deque | heap => .queue

/-- The full name of the container of elements with the given full name. -/
def fullName (element : String) : Container → String
  | vector => "alloc::vec::Vec<" ++ element ++ ">"
  | linkedList => "alloc::collections::linked_list::LinkedList<" ++ element ++ ">"
  | deque => "alloc::collections::vec_deque::VecDeque<" ++ element ++ ">"
  | heap => "alloc::collections::binary_heap::BinaryHeap<" ++ element ++ ">"
  | hashSet => "std::collections::hash::set::HashSet<" ++ element ++ ">"
  | treeSet => "alloc::collections::btree::set::BTreeSet<" ++ element ++ ">"

end Container

/-- The number of a composite type in a table of types. -/
abbrev TypeId := Nat

/-- The type of a single value: a scalar, or a composite with options of its own. -/
inductive Element
  | scalar (type : ScalarType)
  | composite (type : TypeId)
  deriving DecidableEq, Repr

/-- The type of what a text can be converted to. -/
inductive ValueType
  | single (element : Element)
  | collection (container : Container) (element : Element)
  deriving DecidableEq, Repr

end OptionBinding
