import OptionBinding.AnnotationLiteral
import OptionBinding.Proofs.ClassNames

/-!
# How annotations are written

An annotation is an at sign and the text of a class name, alone or with a text in parentheses behind
it (`AnnotationLiteral.Spells`). The first opening parenthesis ends the name and the last character
closes the arguments, so what is between may have parentheses in it. White space around the
annotation, the name and the arguments is taken away, and arguments of which nothing is left are
none. Neither parentheses nor white space stand in a class name; so an annotation that has been read
and is written again is read as the same one (`AnnotationLiteral.parse_normal`).
-/

namespace OptionBinding

/-! ### Texts with nothing to trim -/

namespace Text

variable {c d : Char} {cs : List Char}

/-- A text that starts and ends with something else than white space is trimmed. -/
theorem trimChars_of_ends (first : isBlank c = false) (last : isBlank d = false) :
    trimChars (c :: (cs ++ [d])) = c :: (cs ++ [d]) := by
  have front : (c :: (cs ++ [d])).dropWhile isBlank = c :: (cs ++ [d]) :=
    List.dropWhile_cons_of_neg (by rw [first]; exact Bool.false_ne_true)
  have back : (c :: (cs ++ [d])).reverse.dropWhile isBlank = (c :: (cs ++ [d])).reverse := by
    rw [List.reverse_cons, List.reverse_append, List.reverse_singleton, List.singleton_append,
      List.cons_append]
    exact List.dropWhile_cons_of_neg (by rw [last]; exact Bool.false_ne_true)
  rw [trimChars, front, back, List.reverse_reverse]

end Text

namespace AnnotationLiteral

variable {a : AnnotationLiteral} {body c literal x : List Char} {text : String}

theorem keptArguments_eq (x : List Char) :
    keptArguments x = nonempty? (Text.trim (String.ofList x)) := by
  unfold keptArguments nonempty? Text.trim
  rw [String.toList_ofList]
  cases Text.trimChars x with
  | nil => rfl
  | cons c cs =>
    have some : String.ofList (c :: cs) ≠ "" := by
      intro empty
      have chars := congrArg String.toList empty
      rw [String.toList_ofList, String.toList_empty] at chars
      cases chars
    rw [if_neg some]

theorem nonempty?_eq_some {text arguments : String} (kept : nonempty? text = some arguments) :
    text = arguments ∧ arguments ≠ "" := by
  unfold nonempty? at kept
  split_ifs at kept with empty
  obtain rfl := Option.some.inj kept
  exact ⟨rfl, empty⟩

/-! ### Behind the at sign -/

theorem span_of_not_mem (free : '(' ∉ c) : c.span (· != '(') = (c, []) := by
  have all : ∀ d ∈ c, (d != '(') = true := fun d mem =>
    bne_iff_ne.mpr fun same => free (same ▸ mem)
  rw [List.span_eq_takeWhile_dropWhile, List.takeWhile_eq_self_iff.mpr all,
    List.dropWhile_eq_nil_iff.mpr all]

theorem span_of_opened (free : '(' ∉ c) (x : List Char) :
    (c ++ '(' :: x).span (· != '(') = (c, '(' :: x) := by
  have all : ∀ d ∈ c, (d != '(') = true := fun d mem =>
    bne_iff_ne.mpr fun same => free (same ▸ mem)
  rw [List.span_eq_takeWhile_dropWhile, List.takeWhile_append_of_pos all,
    List.dropWhile_append_of_pos all, List.takeWhile_cons_of_neg (by decide),
    List.dropWhile_cons_of_neg (by decide), List.append_nil]

theorem parseBody_of_bare (free : '(' ∉ c) : parseBody literal c =
    match ClassName.parse (String.ofList c) with
    | .error e => .error (.className e)
    | .ok name => .ok ⟨name, none⟩ := by
  cases read : ClassName.parse (String.ofList c) <;>
    simp only [parseBody, span_of_not_mem free, read]

theorem parseBody_of_closed (free : '(' ∉ c) (x : List Char) :
    parseBody literal (c ++ '(' :: (x ++ [')'])) =
      match ClassName.parse (String.ofList c) with
      | .error e => .error (.className e)
      | .ok name => .ok ⟨name, keptArguments x⟩ := by
  have closed : (x ++ [')']).getLast? = some ')' := List.getLast?_concat
  cases read : ClassName.parse (String.ofList c) <;>
    simp only [parseBody, span_of_opened free, closed, if_true, List.dropLast_concat, read]

theorem parseBody_of_unclosed (free : '(' ∉ c) (unclosed : x.getLast? ≠ some ')') :
    parseBody literal (c ++ '(' :: x) = .error (.unclosed (String.ofList literal)) := by
  rw [parseBody, span_of_opened free]
  simp only [if_neg unclosed]

/-- What stands behind the at sign has no parenthesis, or one that is closed at the end, or one that
is not. -/
theorem body_cases (body : List Char) : ∃ c, '(' ∉ c ∧
    (body = c ∨ (∃ x, body = c ++ '(' :: (x ++ [')'])) ∨
      ∃ x, body = c ++ '(' :: x ∧ x.getLast? ≠ some ')') := by
  have free : '(' ∉ body.takeWhile (· != '(') := fun mem => by
    simpa using List.mem_takeWhile_imp mem
  have whole := List.takeWhile_append_dropWhile (p := (· != '(')) (l := body)
  refine ⟨_, free, ?_⟩
  cases rest : body.dropWhile (· != '(') with
  | nil =>
    rw [rest, List.append_nil] at whole
    exact .inl whole.symm
  | cons d x =>
    have opened : d = '(' := by
      have stop := List.head?_dropWhile_not (p := (· != '(')) (l := body)
      rw [rest] at stop
      simpa using stop
    rw [rest, opened] at whole
    by_cases closed : x.getLast? = some ')'
    · obtain ⟨inner, rfl⟩ := List.getLast?_eq_some_iff.mp closed
      exact .inr (.inl ⟨inner, whole.symm⟩)
    · exact .inr (.inr ⟨x, whole.symm, closed⟩)

theorem parseBody_ok_iff : parseBody literal body = .ok a ↔
    ∃ c, '(' ∉ c ∧ ClassName.parse (String.ofList c) = .ok a.className ∧
      (body = c ∧ a.arguments = none ∨
        ∃ x, body = c ++ '(' :: (x ++ [')']) ∧ a.arguments = keptArguments x) := by
  have made {name : String} {arguments : Option String} :
      (match ClassName.parse name with
        | .error e => .error (Fault.className e)
        | .ok name => .ok ⟨name, arguments⟩ : Except Fault AnnotationLiteral) = .ok a ↔
      ClassName.parse name = .ok a.className ∧ a.arguments = arguments := by
    cases ClassName.parse name with
    | error e => exact iff_of_false nofun fun ⟨read, _⟩ => nomatch read
    | ok n =>
      obtain ⟨className, given⟩ := a
      rw [Except.ok.injEq, Except.ok.injEq, mk.injEq, eq_comm (a := given)]
  constructor
  · intro read
    obtain ⟨c, free, rfl | ⟨x, rfl⟩ | ⟨x, rfl, unclosed⟩⟩ := body_cases body
    · rw [parseBody_of_bare free, made] at read
      exact ⟨_, free, read.1, .inl ⟨rfl, read.2⟩⟩
    · rw [parseBody_of_closed free, made] at read
      exact ⟨_, free, read.1, .inr ⟨x, rfl, read.2⟩⟩
    · rw [parseBody_of_unclosed free unclosed] at read
      cases read
  · rintro ⟨c, free, name, ⟨rfl, arguments⟩ | ⟨x, rfl, arguments⟩⟩
    · rw [parseBody_of_bare free, made]
      exact ⟨name, arguments⟩
    · rw [parseBody_of_closed free, made]
      exact ⟨name, arguments⟩

/-! ### Reading and writing -/

/-- The ways to write an annotation, with nothing around it. -/
inductive Spells (a : AnnotationLiteral) : String → Prop
  | bare {c : String} (free : '(' ∉ c.toList) (name : ClassName.parse c = .ok a.className)
      (none : a.arguments = none) : Spells a ("@" ++ c)
  | closed {c x : String} (free : '(' ∉ c.toList) (name : ClassName.parse c = .ok a.className)
      (kept : a.arguments = nonempty? (Text.trim x)) : Spells a ("@" ++ c ++ "(" ++ x ++ ")")

theorem toList_bare (c : String) : ("@" ++ c).toList = '@' :: c.toList := by
  rw [String.toList_append]
  rfl

theorem toList_closed (c x : String) :
    ("@" ++ c ++ "(" ++ x ++ ")").toList = '@' :: (c.toList ++ '(' :: (x.toList ++ [')'])) := by
  simp [String.toList_append]

/-- **An annotation is read** from the ways to write it, white space around them aside. -/
theorem parse_ok_iff : parse text = .ok a ↔ Spells a (Text.trim text) := by
  have chars : (Text.trim text).toList = Text.trimChars text.toList := String.toList_ofList
  unfold parse
  constructor
  · intro read
    split at read
    · next body trimmed =>
      rw [← chars] at trimmed
      obtain ⟨c, free, name, ⟨rfl, arguments⟩ | ⟨x, rfl, arguments⟩⟩ := parseBody_ok_iff.mp read
      · have whole : Text.trim text = "@" ++ String.ofList body := by
          rw [← String.toList_inj, trimmed, toList_bare, String.toList_ofList]
        rw [whole]
        exact .bare (by rwa [String.toList_ofList]) name arguments
      · have whole : Text.trim text = "@" ++ String.ofList c ++ "(" ++ String.ofList x ++ ")" := by
          rw [← String.toList_inj, trimmed, toList_closed, String.toList_ofList,
            String.toList_ofList]
        rw [whole]
        exact .closed (by rwa [String.toList_ofList]) name (arguments.trans (keptArguments_eq x))
    · cases read
  · intro spells
    generalize whole : Text.trim text = literal at spells
    cases spells with
    | @bare c free name none =>
      rw [← chars, whole, toList_bare]
      refine parseBody_ok_iff.mpr ⟨c.toList, free, ?_, .inl ⟨rfl, none⟩⟩
      rwa [String.ofList_toList]
    | @closed c x free name kept =>
      rw [← chars, whole, toList_closed]
      refine parseBody_ok_iff.mpr ⟨c.toList, free, ?_, .inr ⟨x.toList, rfl, ?_⟩⟩
      · rwa [String.ofList_toList]
      · rw [kept, keptArguments_eq, String.ofList_toList]

theorem Spells.className (h : Spells a text) : ∃ c, ClassName.parse c = .ok a.className := by
  cases h with
  | bare _ name _ => exact ⟨_, name⟩
  | closed _ name _ => exact ⟨_, name⟩

/-- Arguments are trimmed, and something is left of them. -/
theorem Spells.arguments (h : Spells a text) {arguments : String}
    (some : a.arguments = some arguments) : arguments ≠ "" ∧ Text.trim arguments = arguments := by
  cases h with
  | bare _ _ none =>
    rw [none] at some
    cases some
  | closed _ _ kept =>
    obtain ⟨rfl, given⟩ := nonempty?_eq_some (kept.symm.trans some)
    exact ⟨given, Text.trim_trim _⟩

theorem text_of_none (none : a.arguments = none) : a.text = "@" ++ a.className.text := by
  rw [text, none]
  exact String.append_empty

theorem text_of_some {arguments : String} (some : a.arguments = some arguments) :
    a.text = "@" ++ a.className.text ++ "(" ++ arguments ++ ")" := by
  rw [text, some]
  simp only [String.append_assoc]

/-- The text of an annotation that has been read is one of the ways to write it, and has no white
space around it. -/
theorem Spells.written (h : Spells a text) : Spells a a.text ∧ Text.trim a.text = a.text := by
  obtain ⟨c, name⟩ := h.className
  obtain ⟨-, separator, segments, joins⟩ := ClassName.parse_ok_iff.mp name
  have again := ClassName.parse_text name
  have free : '(' ∉ a.className.text.toList := fun mem => joins.parenthesis_not_mem mem
  have sign : Text.isBlank '@' = false := by decide
  cases arguments : a.arguments with
  | none =>
    rw [text_of_none arguments]
    refine ⟨.bare free again arguments, Text.trim_of_visible fun d mem => ?_⟩
    rw [toList_bare] at mem
    rcases List.mem_cons.mp mem with rfl | mem
    · exact sign
    · exact joins.visible mem
  | some inner =>
    obtain ⟨given, trimmed⟩ := h.arguments arguments
    rw [text_of_some arguments]
    refine ⟨.closed free again ?_, ?_⟩
    · rw [arguments, trimmed, nonempty?, if_neg given]
    · have parts : '@' :: (a.className.text.toList ++ '(' :: (inner.toList ++ [')'])) =
          '@' :: (a.className.text.toList ++ '(' :: inner.toList ++ [')']) := by
        rw [List.append_assoc, List.cons_append]
      rw [← String.toList_inj, Text.trim, String.toList_ofList, toList_closed, parts,
        Text.trimChars_of_ends sign (by decide)]

/-- **Reading and writing annotations.** What is read is exactly an at sign and the text of a class
name without a parenthesis, alone or with some text in parentheses up to the end; its arguments are
that text, trimmed, unless nothing is left. The text of an annotation that has been read is read as
the same annotation, so it is a normal form. -/
theorem parse_normal (text : String) :
    ((∃ a, parse text = .ok a) ↔
        ∃ c, (∃ n, ClassName.parse c = .ok n) ∧ '(' ∉ c.toList ∧
          (Text.trim text = "@" ++ c ∨ ∃ x, Text.trim text = "@" ++ c ++ "(" ++ x ++ ")")) ∧
      (∀ a, parse text = .ok a ↔ Spells a (Text.trim text)) ∧
      ∀ a, parse text = .ok a → parse a.text = .ok a ∧
        ∀ arguments, a.arguments = some arguments →
          arguments ≠ "" ∧ Text.trim arguments = arguments := by
  refine ⟨?_, fun _ => parse_ok_iff, ?_⟩
  · constructor
    · rintro ⟨a, read⟩
      have spells := parse_ok_iff.mp read
      generalize Text.trim text = literal at spells
      cases spells with
      | @bare c free name none => exact ⟨c, ⟨_, name⟩, free, .inl rfl⟩
      | @closed c x free name kept => exact ⟨c, ⟨_, name⟩, free, .inr ⟨x, rfl⟩⟩
    · rintro ⟨c, ⟨n, name⟩, free, bare | ⟨x, closed⟩⟩
      · refine ⟨⟨n, none⟩, parse_ok_iff.mpr ?_⟩
        rw [bare]
        exact .bare free name rfl
      · refine ⟨⟨n, nonempty? (Text.trim x)⟩, parse_ok_iff.mpr ?_⟩
        rw [closed]
        exact .closed free name rfl
  · intro a read
    have spells := parse_ok_iff.mp read
    obtain ⟨again, trimmed⟩ := spells.written
    refine ⟨parse_ok_iff.mpr ?_, fun _ some => spells.arguments some⟩
    rwa [trimmed]

/-- Arguments with parentheses in them, and white space at all three places. -/
theorem parse_normal_nested :
    parse " @ a.B ( f(x) )\n" = .ok ⟨⟨"a.B"⟩, some "f(x)"⟩ ∧
      (⟨⟨"a.B"⟩, some "f(x)"⟩ : AnnotationLiteral).text = "@a.B(f(x))" ∧
      parse "@a.B(f(x))" = .ok ⟨⟨"a.B"⟩, some "f(x)"⟩ := by
  have read : parse " @ a.B ( f(x) )\n" = .ok ⟨⟨"a.B"⟩, some "f(x)"⟩ := by decide +kernel
  have written : (⟨⟨"a.B"⟩, some "f(x)"⟩ : AnnotationLiteral).text = "@a.B(f(x))" := by
    decide +kernel
  obtain ⟨-, -, normal⟩ := parse_normal " @ a.B ( f(x) )\n"
  exact ⟨read, written, written ▸ (normal _ read).1⟩

end AnnotationLiteral

end OptionBinding
