import OptionBinding.Text.LetterCase

/-!
# Option names from identifiers

An identifier in snake case or in mixed case as an option name in kebab case: words in lower-case
letters, joined by hyphens. A word starts after an underscore and at an upper-case letter.
-/

namespace OptionBinding.Derivation

/-- An identifier without the mark of a raw one. -/
def withoutRawMark : List Char → List Char
  | 'r' :: '#' :: rest => rest
  | cs => cs

/-- Goes on with a name that is so far `done`, last character first. `front` says that no character
of the identifier has been read yet. -/
def kebabFrom (front : Bool) (done : List Char) : List Char → List Char
  | [] => done.reverse
  | c :: rest =>
    let hyphenated := if done.head? = some '-' then done else '-' :: done
    if c = '_' then kebabFrom false (if done.isEmpty then done else hyphenated) rest
    else if Text.isUppercase c then
      kebabFrom false ((Text.toLowercase c).reverse ++ (if front then done else hyphenated)) rest
    else kebabFrom false (c :: done) rest

/-- The identifier in kebab case. -/
def kebabCase (identifier : String) : String :=
  String.ofList (kebabFrom true [] (withoutRawMark identifier.toList))

end OptionBinding.Derivation
