import Mathlib.Data.List.Chain
import Mathlib.Data.List.TakeWhile
import OptionBinding.Derivation.OptionName

/-!
# Option names in kebab case

An option name is in kebab case if it is made of words with single hyphens between them, the words
of lower-case letters and digits (`KebabCased`). The name of an option is read off an identifier
character by character. At any time the characters written are those of words and single hyphens,
and those of words are the letters and digits read, in lower case (`Progress`). Whether there is a
hyphen too many at the end or at the front can be told from the identifier. An underscore writes a
hyphen as soon as something has been written, also if nothing follows. An upper-case letter writes
one unless it is the first character, also if there are only underscores before it
(`CapitalBehindUnderscores`). In all other cases the name is in kebab case (`kebabCase_iff`).
-/

namespace OptionBinding.Derivation

variable {c : Char} {cs done read : List Char}

/-! ### Words and hyphens -/

/-- A character of a word. -/
def IsWordChar (c : Char) : Prop := c.isLower = true ∨ c.isDigit = true

/-- Words to be joined: there is one at least, and each holds lower-case letters and digits, one at
least. -/
structure AreWords (words : List (List Char)) : Prop where
  nonempty : words ≠ []
  chars : ∀ word ∈ words, word ≠ [] ∧ ∀ c ∈ word, IsWordChar c

/-- **A text is in kebab case**: words with single hyphens between them. -/
def KebabCased (cs : List Char) : Prop := ∃ words, AreWords words ∧ cs = ['-'].intercalate words

/-- A hyphen, if there is to be one. -/
def hyphenIf (p : Prop) [Decidable p] : List Char := if p then ['-'] else []

/-- The characters are those of words and single hyphens. -/
structure SingleHyphens (cs : List Char) : Prop where
  chars : ∀ c ∈ cs, IsWordChar c ∨ c = '-'
  single : cs.IsChain fun c d => ¬ (c = '-' ∧ d = '-')

theorem IsWordChar.ne_hyphen (h : IsWordChar c) : c ≠ '-' := by
  rintro rfl
  revert h
  unfold IsWordChar
  decide

theorem AreWords.single (h : IsWordChar c) : AreWords [[c]] := by
  refine ⟨List.cons_ne_nil _ _, fun word mem => ?_⟩
  obtain rfl := List.mem_singleton.mp mem
  exact ⟨List.cons_ne_nil _ _, fun d mem => List.mem_singleton.mp mem ▸ h⟩

theorem AreWords.cons {words : List (List Char)} (h : IsWordChar c) (more : AreWords words) :
    AreWords ([c] :: words) :=
  ⟨List.cons_ne_nil _ _, List.forall_mem_cons.mpr
    ⟨(AreWords.single h).chars _ List.mem_cons_self, more.chars⟩⟩

theorem AreWords.extend {word : List Char} {words : List (List Char)} (h : IsWordChar c)
    (more : AreWords (word :: words)) : AreWords ((c :: word) :: words) := by
  obtain ⟨first, others⟩ := List.forall_mem_cons.mp more.chars
  refine ⟨List.cons_ne_nil _ _, List.forall_mem_cons.mpr ⟨⟨List.cons_ne_nil _ _, ?_⟩, others⟩⟩
  exact List.forall_mem_cons.mpr ⟨h, first.2⟩

/-- A character in front belongs to the first word. -/
theorem intercalate_cons_head (separator word : List Char) (words : List (List Char)) :
    separator.intercalate ((c :: word) :: words) =
      c :: separator.intercalate (word :: words) := by
  cases words with
  | nil => rw [List.intercalate_singleton, List.intercalate_singleton]
  | cons next words => rw [List.intercalate_cons_cons, List.intercalate_cons_cons]; rfl

namespace SingleHyphens

theorem tail (h : SingleHyphens (c :: cs)) : SingleHyphens cs :=
  ⟨fun d mem => h.chars d (List.mem_cons_of_mem _ mem), h.single.of_cons⟩

theorem head (h : SingleHyphens (c :: cs)) (other : c ≠ '-') : IsWordChar c :=
  (h.chars c List.mem_cons_self).resolve_right other

theorem second_ne (h : SingleHyphens ('-' :: cs)) : cs.head? ≠ some '-' := fun again =>
  (List.isChain_cons.mp h.single).1 '-' again ⟨rfl, rfl⟩

/-- **Words and single hyphens that start with a word** are words joined by hyphens, up to a hyphen
at the end. -/
theorem exists_words : ∀ {cs : List Char}, SingleHyphens cs → cs ≠ [] → cs.head? ≠ some '-' →
    ∃ words, AreWords words ∧
      cs = ['-'].intercalate words ++ hyphenIf (cs.getLast? = some '-')
  | [], _, given, _ => absurd rfl given
  | [c], h, _, starts => by
    have other : c ≠ '-' := fun same => starts (congrArg some same)
    refine ⟨[[c]], .single (h.head other), ?_⟩
    simp [hyphenIf, other]
  | c :: d :: rest, h, _, starts => by
    have other : c ≠ '-' := fun same => starts (congrArg some same)
    have first : IsWordChar c := h.head other
    rw [List.getLast?_cons_cons]
    by_cases hyphen : d = '-'
    · subst hyphen
      cases rest with
      | nil => exact ⟨[[c]], .single first, by simp [hyphenIf]⟩
      | cons e rest =>
        obtain ⟨words, good, split⟩ :=
          exists_words h.tail.tail (List.cons_ne_nil _ _) h.tail.second_ne
        obtain ⟨word, words, rfl⟩ := List.exists_cons_of_ne_nil good.nonempty
        refine ⟨[c] :: word :: words, good.cons first, ?_⟩
        rw [List.getLast?_cons_cons, List.intercalate_cons_cons, List.append_assoc, ← split]
        rfl
    · obtain ⟨words, good, split⟩ := exists_words h.tail (List.cons_ne_nil _ _)
        (fun same => hyphen (Option.some.inj same))
      obtain ⟨word, words, rfl⟩ := List.exists_cons_of_ne_nil good.nonempty
      refine ⟨(c :: word) :: words, good.extend first, ?_⟩
      rw [intercalate_cons_head, List.cons_append, ← split]

/-- With a letter or a digit in them they are words joined by hyphens, up to a hyphen in front and
one behind. -/
theorem exists_words_between (h : SingleHyphens cs) (given : ∃ c ∈ cs, c ≠ '-') :
    ∃ words, AreWords words ∧ cs = hyphenIf (cs.head? = some '-') ++ ['-'].intercalate words ++
      hyphenIf (cs.getLast? = some '-') := by
  obtain ⟨c, mem, other⟩ := given
  by_cases starts : cs.head? = some '-'
  · obtain ⟨rest, rfl⟩ := List.head?_eq_some_iff.mp starts
    have behind : rest ≠ [] := List.ne_nil_of_mem ((List.mem_cons.mp mem).resolve_left other)
    obtain ⟨words, good, split⟩ := h.tail.exists_words behind h.second_ne
    refine ⟨words, good, ?_⟩
    rw [hyphenIf, if_pos starts, List.getLast?_cons_of_ne_nil behind, List.append_assoc, ← split]
    rfl
  · obtain ⟨words, good, split⟩ := h.exists_words (List.ne_nil_of_mem mem) starts
    refine ⟨words, good, ?_⟩
    rwa [hyphenIf, if_neg starts, List.nil_append]

theorem reverse (h : SingleHyphens cs) : SingleHyphens cs.reverse := by
  refine ⟨fun c mem => h.chars c (List.mem_reverse.mp mem), List.isChain_reverse.mpr ?_⟩
  exact h.single.imp fun c d apart both => apart both.symm

end SingleHyphens

namespace AreWords

variable {words : List (List Char)}

/-- A word stands in front. -/
theorem exists_head (h : AreWords words) :
    ∃ c rest, IsWordChar c ∧ ['-'].intercalate words = c :: rest := by
  obtain ⟨word, words, rfl⟩ := List.exists_cons_of_ne_nil h.nonempty
  obtain ⟨given, chars⟩ := h.chars word List.mem_cons_self
  obtain ⟨c, word, rfl⟩ := List.exists_cons_of_ne_nil given
  exact ⟨c, _, chars c List.mem_cons_self, intercalate_cons_head _ _ _⟩

theorem getLast_ne (h : AreWords words) : (['-'].intercalate words).getLast? ≠ some '-' := by
  obtain ⟨given, chars⟩ := h
  induction words with
  | nil => exact absurd rfl given
  | cons word words ih =>
    obtain ⟨first, others⟩ := List.forall_mem_cons.mp chars
    cases words with
    | nil =>
      rw [List.intercalate_singleton]
      exact fun last => (first.2 _ (List.mem_of_getLast? last)).ne_hyphen rfl
    | cons next words =>
      have more : AreWords (next :: words) := ⟨List.cons_ne_nil _ _, others⟩
      obtain ⟨c, rest, -, split⟩ := more.exists_head
      have later := ih more.nonempty others
      rw [split] at later
      rw [List.intercalate_cons_cons, split, List.getLast?_append_cons]
      exact later

end AreWords

theorem KebabCased.ends (h : KebabCased cs) : cs.head? ≠ some '-' ∧ cs.getLast? ≠ some '-' := by
  obtain ⟨words, good, rfl⟩ := h
  obtain ⟨c, rest, first, split⟩ := good.exists_head
  refine ⟨?_, good.getLast_ne⟩
  rw [split, List.head?_cons, Ne, Option.some.injEq]
  exact first.ne_hyphen

/-- **A text of words and single hyphens is in kebab case** unless a hyphen stands in front or
behind. -/
theorem kebabCased_iff (h : SingleHyphens cs) (given : cs ≠ []) :
    KebabCased cs ↔ cs.head? ≠ some '-' ∧ cs.getLast? ≠ some '-' := by
  refine ⟨KebabCased.ends, ?_⟩
  rintro ⟨starts, ends⟩
  obtain ⟨words, good, split⟩ := h.exists_words given starts
  refine ⟨words, good, ?_⟩
  rwa [hyphenIf, if_neg ends, List.append_nil] at split

/-! ### Letters -/

theorem toNat_lt_of_isAlphanum (alphanum : c.isAlphanum = true) : c.toNat < 128 := by
  have below {top : Char} (ascii : top.toNat < 128) (le : c.val ≤ top.val) : c.toNat < 128 :=
    lt_of_le_of_lt (UInt32.le_iff_toNat_le.mp le) ascii
  rcases Bool.or_eq_true_iff.mp alphanum with alpha | digit
  · rcases Bool.or_eq_true_iff.mp alpha with upper | lower
    · exact below (by decide) (of_decide_eq_true upper).2
    · exact below (by decide) (of_decide_eq_true (Bool.and_eq_true_iff.mp lower).2)
  · exact below (by decide) (of_decide_eq_true (Bool.and_eq_true_iff.mp digit).2)

/-- The letters and digits of ASCII have the case that they have there. -/
theorem ascii_case (alphanum : c.isAlphanum = true) : Text.isUppercase c = c.isUpper ∧
    (c.isUpper = true → Text.toLowercase c = [c.toLower]) ∧
      (c.isUpper = false → c.toLower = c) ∧ IsWordChar c.toLower ∧ c ≠ '_' := by
  -- There are few enough of them to go through.
  have all : ∀ n < 128, (Char.ofNat n).isAlphanum = true →
      Text.isUppercase (Char.ofNat n) = (Char.ofNat n).isUpper ∧
        ((Char.ofNat n).isUpper = true →
          Text.toLowercase (Char.ofNat n) = [(Char.ofNat n).toLower]) ∧
        ((Char.ofNat n).isUpper = false → (Char.ofNat n).toLower = Char.ofNat n) ∧
        ((Char.ofNat n).toLower.isLower = true ∨ (Char.ofNat n).toLower.isDigit = true) ∧
        Char.ofNat n ≠ '_' := by
    decide +kernel
  have here := all c.toNat (toNat_lt_of_isAlphanum alphanum)
  rw [Char.ofNat_toNat] at here
  exact here alphanum

/-! ### Underscores -/

/-- **An upper-case letter stands behind underscores** at the front. -/
def CapitalBehindUnderscores (cs : List Char) : Prop :=
  cs.head? = some '_' ∧ (cs.dropWhile (· == '_')).head?.any Char.isUpper = true

instance (cs : List Char) : Decidable (CapitalBehindUnderscores cs) :=
  inferInstanceAs (Decidable (_ ∧ _))

theorem dropWhile_underscores (all : ∀ d ∈ read, d = '_') (cs : List Char) :
    (read ++ cs).dropWhile (· == '_') = cs.dropWhile (· == '_') :=
  List.dropWhile_append_of_pos fun d mem => by simpa using all d mem

/-- Behind underscores only the next character counts. -/
theorem capitalBehind_of_all (all : ∀ d ∈ read, d = '_') (other : c ≠ '_') :
    CapitalBehindUnderscores (read ++ [c]) ↔ read ≠ [] ∧ c.isUpper = true := by
  have behind : (read ++ [c]).dropWhile (· == '_') = [c] := by
    rw [dropWhile_underscores all, List.dropWhile_cons_of_neg (by simpa using other)]
  rw [CapitalBehindUnderscores, behind]
  cases read with
  | nil => simp [other]
  | cons d read => simp [all d List.mem_cons_self]

/-- Behind another character nothing counts any more. -/
theorem capitalBehind_append (other : ∃ d ∈ read, d ≠ '_') (cs : List Char) :
    CapitalBehindUnderscores (read ++ cs) ↔ CapitalBehindUnderscores read := by
  obtain ⟨d, mem, ne⟩ := other
  have given : read ≠ [] := List.ne_nil_of_mem mem
  have left : read.dropWhile (· == '_') ≠ [] := fun none => by
    simpa [ne] using List.dropWhile_eq_nil_iff.mp none d mem
  obtain ⟨first, before, rfl⟩ := List.exists_cons_of_ne_nil given
  obtain ⟨next, rest, split⟩ := List.exists_cons_of_ne_nil left
  have more : (first :: before ++ cs).dropWhile (· == '_') = next :: (rest ++ cs) := by
    rw [List.dropWhile_append, split]
    rfl
  rw [CapitalBehindUnderscores, CapitalBehindUnderscores, more, split]
  rfl

theorem not_capitalBehind_of_all (all : ∀ d ∈ read, d = '_') :
    ¬ CapitalBehindUnderscores read := by
  have none : read.dropWhile (· == '_') = [] :=
    List.dropWhile_eq_nil_iff.mpr fun d mem => by simpa using all d mem
  rw [CapitalBehindUnderscores, none]
  simp

/-! ### The characters written so far -/

/-- What has been written, with a hyphen behind it. -/
def hyphenated (done : List Char) : List Char := if done.head? = some '-' then done else '-' :: done

/-- **What has been written**, last character first, when so much of an identifier has been read. -/
structure Progress (read done : List Char) : Prop where
  letters : done.reverse.filter (· ≠ '-') = (read.filter (· ≠ '_')).map Char.toLower
  hyphens : SingleHyphens done
  blank : done = [] ↔ ∀ c ∈ read, c = '_'
  starts : done.getLast? = some '-' ↔ CapitalBehindUnderscores read
  ends : done.head? = some '-' ↔ done ≠ [] ∧ read.getLast? = some '_'

theorem head?_hyphenated (done : List Char) : (hyphenated done).head? = some '-' := by
  unfold hyphenated
  split_ifs with behind
  · exact behind
  · rfl

theorem filter_hyphenated (done : List Char) :
    (hyphenated done).reverse.filter (· ≠ '-') = done.reverse.filter (· ≠ '-') := by
  unfold hyphenated
  split_ifs
  · rfl
  · simp

theorem getLast?_hyphenated (given : done ≠ []) : (hyphenated done).getLast? = done.getLast? := by
  obtain ⟨c, done, rfl⟩ := List.exists_cons_of_ne_nil given
  unfold hyphenated
  split_ifs
  · rfl
  · exact List.getLast?_cons_cons

theorem SingleHyphens.hyphenated (h : SingleHyphens done) :
    SingleHyphens (Derivation.hyphenated done) := by
  unfold Derivation.hyphenated
  split_ifs with behind
  · exact h
  · refine ⟨List.forall_mem_cons.mpr ⟨.inr rfl, h.chars⟩, List.isChain_cons.mpr ⟨?_, h.single⟩⟩
    rintro d first ⟨-, rfl⟩
    exact behind first

theorem SingleHyphens.letter (h : SingleHyphens done) (first : IsWordChar c) :
    SingleHyphens (c :: done) := by
  refine ⟨List.forall_mem_cons.mpr ⟨.inl first, h.chars⟩, List.isChain_cons.mpr ⟨?_, h.single⟩⟩
  rintro d - ⟨rfl, -⟩
  exact first.ne_hyphen rfl

namespace Progress

theorem start : Progress [] [] where
  letters := rfl
  hyphens := ⟨List.forall_mem_nil _, .nil⟩
  blank := by simp
  starts := iff_of_false nofun (not_capitalBehind_of_all (List.forall_mem_nil _))
  ends := by simp

theorem exists_other (h : Progress read done) (given : done ≠ []) : ∃ d ∈ read, d ≠ '_' := by
  by_contra none
  refine given (h.blank.mpr fun d mem => ?_)
  by_contra other
  exact none ⟨d, mem, other⟩

/-- An underscore writes a hyphen, unless nothing has been written. -/
theorem underscore (h : Progress read done) :
    Progress (read ++ ['_']) (if done.isEmpty then done else hyphenated done) := by
  have filtered : (read ++ ['_']).filter (· ≠ '_') = read.filter (· ≠ '_') := by simp
  split_ifs with none
  · obtain rfl := List.isEmpty_iff.mp none
    have all : ∀ d ∈ read ++ ['_'], d = '_' := List.forall_mem_append.mpr
      ⟨h.blank.mp rfl, List.forall_mem_singleton.mpr rfl⟩
    exact
      { letters := by rw [filtered, ← h.letters]
        hyphens := h.hyphens
        blank := iff_of_true rfl all
        starts := iff_of_false nofun (not_capitalBehind_of_all all)
        ends := by simp }
  · have given : done ≠ [] := fun same => none (List.isEmpty_iff.mpr same)
    have written : hyphenated done ≠ [] := fun same => by
      have first := head?_hyphenated done
      rw [same] at first
      cases first
    obtain ⟨d, mem, ne⟩ := h.exists_other given
    exact
      { letters := by rw [filtered, filter_hyphenated, h.letters]
        hyphens := h.hyphens.hyphenated
        blank := iff_of_false written fun all => ne (all d (List.mem_append_left _ mem))
        starts := by
          rw [getLast?_hyphenated given, h.starts, capitalBehind_append ⟨d, mem, ne⟩]
        ends := iff_of_true (head?_hyphenated done) ⟨written, List.getLast?_concat⟩ }

/-- A letter or a digit is written in lower case. An upper-case letter that is not the first
character has a hyphen before it. -/
theorem letter (h : Progress read done) (alphanum : c.isAlphanum = true) :
    Progress (read ++ [c])
      (c.toLower :: if c.isUpper = true ∧ read ≠ [] then hyphenated done else done) := by
  obtain ⟨-, -, -, first, other⟩ := ascii_case alphanum
  have filtered : (read ++ [c]).filter (· ≠ '_') = read.filter (· ≠ '_') ++ [c] := by
    simp [other]
  constructor
  · rw [filtered, List.map_append, ← h.letters, List.reverse_cons, List.filter_append]
    have kept : [c.toLower].filter (· ≠ '-') = [c].map Char.toLower := by
      simp [first.ne_hyphen]
    rw [kept]
    split_ifs
    · rw [filter_hyphenated]
    · rfl
  · split_ifs
    · exact h.hyphens.hyphenated.letter first
    · exact h.hyphens.letter first
  · refine iff_of_false (List.cons_ne_nil _ _) fun all => other (all c ?_)
    exact List.mem_append_right _ (List.mem_singleton_self c)
  · by_cases none : done = []
    · have behind := capitalBehind_of_all (h.blank.mp none) other
      subst none
      split_ifs with capital
      · exact iff_of_true rfl (behind.mpr capital.symm)
      · exact iff_of_false (by simpa using first.ne_hyphen) fun is => capital (behind.mp is).symm
    · have last : (if c.isUpper = true ∧ read ≠ [] then hyphenated done else done).getLast? =
          done.getLast? := by
        split_ifs
        · exact getLast?_hyphenated none
        · rfl
      obtain ⟨d, rest, rfl⟩ := List.exists_cons_of_ne_nil none
      rw [capitalBehind_append (h.exists_other none), ← h.starts, List.getLast?_cons, last,
        List.getLast?_cons, Option.getD_some]
  · refine iff_of_false ?_ fun ⟨_, last⟩ => other ?_
    · rw [List.head?_cons, Option.some.injEq]
      exact first.ne_hyphen
    · exact Option.some.inj (List.getLast?_concat.symm.trans last)

/-- **To the end of the identifier** each character takes its step. -/
theorem run (h : Progress read done) (ascii : ∀ c ∈ cs, c.isAlphanum = true ∨ c = '_') :
    Progress (read ++ cs) (kebabFrom read.isEmpty done cs).reverse := by
  induction cs generalizing read done with
  | nil => rwa [kebabFrom, List.reverse_reverse, List.append_nil]
  | cons c cs ih =>
    obtain ⟨here, later⟩ := List.forall_mem_cons.mp ascii
    have begun (c : Char) : (read ++ [c]).isEmpty = false := by simp
    have split : read ++ c :: cs = read ++ [c] ++ cs := by simp
    rw [split, kebabFrom]
    rcases here with alphanum | rfl
    · obtain ⟨upper, lower, same, -, other⟩ := ascii_case alphanum
      have step := ih (h.letter alphanum) later
      rw [begun] at step
      rw [if_neg other, upper]
      by_cases capital : c.isUpper = true
      · have before : (if read.isEmpty = true then done else hyphenated done) =
            if c.isUpper = true ∧ read ≠ [] then hyphenated done else done := by
          cases read <;> simp [capital]
        rw [← before] at step
        rw [if_pos capital, lower capital]
        exact step
      · rw [if_neg (fun both => capital both.1), same (by simpa using capital)] at step
        rw [if_neg capital]
        exact step
    · have step := ih h.underscore later
      rwa [begun] at step

end Progress

/-! ### The name of an option -/

/-- **An identifier in ASCII**, with or without the mark of a raw one, that has a letter or a digit
in it. -/
structure IsAsciiIdentifier (identifier : String) : Prop where
  chars : ∀ c ∈ withoutRawMark identifier.toList, c.isAlphanum = true ∨ c = '_'
  given : ∃ c ∈ withoutRawMark identifier.toList, c.isAlphanum = true

variable {identifier : String}

theorem isAsciiIdentifier_iff : IsAsciiIdentifier identifier ↔
    (withoutRawMark identifier.toList).all (fun c => c.isAlphanum || c == '_') = true ∧
      (withoutRawMark identifier.toList).any Char.isAlphanum = true := by
  simp only [List.all_eq_true, List.any_eq_true, Bool.or_eq_true, beq_iff_eq]
  exact ⟨fun ⟨chars, given⟩ => ⟨chars, given⟩, fun ⟨chars, given⟩ => ⟨chars, given⟩⟩

instance (identifier : String) : Decidable (IsAsciiIdentifier identifier) :=
  decidable_of_iff' _ isAsciiIdentifier_iff

theorem IsAsciiIdentifier.progress (h : IsAsciiIdentifier identifier) :
    Progress (withoutRawMark identifier.toList) (kebabCase identifier).toList.reverse := by
  rw [kebabCase, String.toList_ofList]
  exact Progress.start.run h.chars

/-- **The option name of an identifier.** Without its hyphens it is the letters and digits of the
identifier in lower case. It is made of words with single hyphens between them, and has one hyphen
more in front if an upper-case letter stands behind underscores at the front of the identifier, and
one more behind if the identifier ends in an underscore. So it is in kebab case if and only if
neither is the case. -/
theorem kebabCase_iff (h : IsAsciiIdentifier identifier) :
    ((kebabCase identifier).toList.filter (· ≠ '-') =
        ((withoutRawMark identifier.toList).filter (· ≠ '_')).map Char.toLower) ∧
      (∃ words, AreWords words ∧ (kebabCase identifier).toList =
        hyphenIf (CapitalBehindUnderscores (withoutRawMark identifier.toList)) ++
          ['-'].intercalate words ++
          hyphenIf ((withoutRawMark identifier.toList).getLast? = some '_')) ∧
      (KebabCased (kebabCase identifier).toList ↔
        ¬ CapitalBehindUnderscores (withoutRawMark identifier.toList) ∧
          (withoutRawMark identifier.toList).getLast? ≠ some '_') := by
  have progress := h.progress
  obtain ⟨letter, mem, alphanum⟩ := h.given
  have letters := progress.letters
  have hyphens := progress.hyphens.reverse
  have starts := progress.starts
  have ends := progress.ends
  rw [List.reverse_reverse] at letters hyphens
  rw [List.getLast?_reverse] at starts
  rw [List.head?_reverse] at ends
  have kept : letter.toLower ∈ (kebabCase identifier).toList.filter (· ≠ '-') := by
    rw [letters]
    refine List.mem_map_of_mem (List.mem_filter.mpr ⟨mem, ?_⟩)
    simpa using (ascii_case alphanum).2.2.2.2
  obtain ⟨among, other⟩ := List.mem_filter.mp kept
  have given : (kebabCase identifier).toList ≠ [] := List.ne_nil_of_mem among
  have ends : (kebabCase identifier).toList.getLast? = some '-' ↔
      (withoutRawMark identifier.toList).getLast? = some '_' := by
    rw [ends]
    exact and_iff_right (by simpa using given)
  refine ⟨letters, ?_, ?_⟩
  · obtain ⟨words, good, split⟩ :=
      hyphens.exists_words_between ⟨_, among, by simpa using other⟩
    refine ⟨words, good, split.trans ?_⟩
    simp only [starts, ends]
  · rw [kebabCased_iff hyphens given, Ne, Ne, starts, ends]

/-- Underscores in front and in a row, upper-case letters and a digit. -/
theorem kebabCase_iff_underscores :
    IsAsciiIdentifier "r#__xml__NameOf2" ∧ KebabCased (kebabCase "r#__xml__NameOf2").toList ∧
      kebabCase "r#__xml__NameOf2" = "xml-name-of2" := by
  have ascii : IsAsciiIdentifier "r#__xml__NameOf2" := by decide +kernel
  have plain : ¬ CapitalBehindUnderscores (withoutRawMark "r#__xml__NameOf2".toList) ∧
      (withoutRawMark "r#__xml__NameOf2".toList).getLast? ≠ some '_' := by
    decide +kernel
  exact ⟨ascii, (kebabCase_iff ascii).2.2.mpr plain, by decide +kernel⟩

/-- **Not every option name is in kebab case.** One has a hyphen in front, the other one behind. -/
theorem kebabCase_hyphens :
    (IsAsciiIdentifier "_Name" ∧ kebabCase "_Name" = "-name" ∧
      ¬ KebabCased (kebabCase "_Name").toList) ∧
    IsAsciiIdentifier "class_" ∧ kebabCase "class_" = "class-" ∧
      ¬ KebabCased (kebabCase "class_").toList := by
  have front : kebabCase "_Name" = "-name" := by decide +kernel
  have behind : kebabCase "class_" = "class-" := by decide +kernel
  refine ⟨⟨by decide +kernel, front, fun cased => ?_⟩, by decide +kernel, behind, fun cased => ?_⟩
  · exact absurd cased.ends.1 (by rw [front]; decide +kernel)
  · exact absurd cased.ends.2 (by rw [behind]; decide +kernel)

end OptionBinding.Derivation
