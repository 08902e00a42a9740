import OptionBinding.Bundled.Annotations
import OptionBinding.Bundled.DateTimeTypes
import OptionBinding.Proofs.AnchoredPatterns
import OptionBinding.Proofs.PatternSearch
import OptionBinding.Regex.Standard

/-!
# Whole names

A name pattern is meant to select the names that its pattern matches from end to end, and to be read
if and only if its pattern is (`SelectsWholeNames`). As its text is read between anchors, this needs
that the pattern stands alone (`StandsAlone`): no comment at its end swallows the parenthesis behind
it, the anchors leave it enough depth and a program that is not too large, and it closes no group
that it has not opened. This is so whatever properties of characters there are, and whatever bound
programs have (`Engine`).

Where both are read, the name pattern selects whole names in any case (`selects_iff_spans`). It is
the patterns that close the group around them which select parts of names: `a)|(b` is faulty by
itself, and between anchors it selects whatever starts with `a` or ends with `b`.
-/

namespace OptionBinding

namespace Regex

variable {e : Expr} {x : Char} {cs : List Char} {c d : Cursor}

/-- The pattern matches the name from end to end. -/
def Spans (r : Regex) (name : String) : Prop :=
  ∃ before, r.expr.Leads (.start name.toList) ⟨before, []⟩

theorem before_ne_none_of_mem_placesFrom (mem : c ∈ Program.placesFrom (some x) cs) :
    c.before ≠ none := by
  induction cs generalizing x with
  | nil =>
    obtain rfl := List.mem_singleton.mp mem
    exact Option.some_ne_none x
  | cons y cs ih =>
    rcases List.mem_cons.mp mem with rfl | mem
    · exact Option.some_ne_none x
    · exact ih mem

/-- Nothing is before the first place of a text only. -/
theorem eq_start_of_mem_placesFrom (mem : c ∈ Program.placesFrom none cs)
    (first : c.before = none) : c = .start cs := by
  cases cs with
  | nil => exact List.mem_singleton.mp mem
  | cons y cs =>
    rcases List.mem_cons.mp mem with rfl | mem
    · rfl
    · exact absurd first (before_ne_none_of_mem_placesFrom mem)

theorem start_mem_placesFrom : Cursor.start cs ∈ Program.placesFrom none cs := by
  cases cs with
  | nil => exact List.mem_singleton.mpr rfl
  | cons y cs => exact List.mem_cons_self

theorem leads_anchored : e.anchored.Leads c d ↔
    c.before = none ∧ e.Leads c d ∧ d.rest = [] := by
  have textStart (m : Cursor) : m.Meets .textStart ↔ m.before = none := by
    simp [Cursor.Meets, Assertion.holds]
  have textEnd (m : Cursor) : m.Meets .textEnd ↔ m.rest = [] := by
    simp [Cursor.Meets, Assertion.holds]
  rw [Expr.anchored, Expr.leads_concat]
  simp only [LeadsRow, Expr.Leads, textStart, textEnd]
  constructor
  · rintro ⟨_, ⟨first, rfl⟩, _, leads, _, ⟨last, rfl⟩, rfl⟩
    exact ⟨first, leads, last⟩
  · rintro ⟨first, leads, last⟩
    exact ⟨c, ⟨first, rfl⟩, d, leads, d, ⟨last, rfl⟩, rfl⟩

/-- **Between anchors, a pattern occurs in a name** if and only if it matches the name from end to
end. -/
theorem isMatch_anchored (r : Regex) (text name : String) (names : List (String × Nat)) :
    (⟨text, r.expr.anchored, names⟩ : Regex).isMatch name = true ↔ r.Spans name := by
  rw [isMatch_iff]
  simp only [leads_anchored]
  constructor
  · rintro ⟨c, mem, d, first, leads, last⟩
    obtain rfl := eq_start_of_mem_placesFrom mem first
    obtain ⟨before, rest⟩ := d
    obtain rfl : rest = [] := last
    exact ⟨before, leads⟩
  · rintro ⟨before, leads⟩
    exact ⟨_, start_mem_placesFrom, _, rfl, leads, rfl⟩

end Regex

namespace NamePattern

open Regex

section

variable [Engine] {source : String} {p : NamePattern} {r : Regex}

/-- **What a name pattern is meant to do:** it is read if and only if its pattern is, and selects
the names that its pattern matches from end to end. -/
structure SelectsWholeNames (source : String) : Prop where
  accepted : (∃ p, NamePattern.parse source = .ok p) ↔ ∃ r, Regex.parse source = .ok r
  selects : ∀ p r, NamePattern.parse source = .ok p → Regex.parse source = .ok r →
    ∀ name, p.selects name = true ↔ r.Spans name

/-- **What a pattern has to be like:** a parenthesis behind it is one too many, it is not nested too
deeply between anchors and its program is not too large there, and if it closes a group that it has
not opened or its program is too large, then it is faulty between anchors too. -/
structure StandsAlone (source : String) : Prop where
  closed : ∀ r, Regex.parse source = .ok r →
    Regex.parse (source ++ ")") = .error .unopenedGroup
  fits : ∀ r, Regex.parse source = .ok r →
    depth source + 2 ≤ depthLimit ∧ Engine.fits (anchoredText source) = true
  bounded : ∀ fault, Regex.parse source = .error fault →
    fault = .unopenedGroup ∨ fault = .tooLarge → ∀ p, NamePattern.parse source ≠ .ok p

/-- **Where both are read, whole names are selected.** -/
theorem selects_iff_spans (read : Regex.parse source = .ok r)
    (anchored : NamePattern.parse source = .ok p) (name : String) :
    p.selects name = true ↔ r.Spans name := by
  rw [parse_anchoredText read (parse_closed read anchored)] at anchored
  split_ifs at anchored
  cases anchored
  exact isMatch_anchored r _ name _

theorem StandsAlone.selectsWholeNames (h : StandsAlone source) : SelectsWholeNames source where
  accepted := by
    constructor
    · rintro ⟨p, anchored⟩
      cases read : Regex.parse source with
      | ok r => exact ⟨r, rfl⟩
      | error e =>
        by_cases beyond : e = .unopenedGroup ∨ e = .tooLarge
        · exact absurd anchored (h.bounded e read beyond p)
        · obtain ⟨opening, size⟩ := not_or.mp beyond
          exact absurd anchored (not_parse_of_fault read opening size)
    · rintro ⟨r, read⟩
      obtain ⟨deep, fits⟩ := h.fits r read
      have anchored := parse_anchoredText read (h.closed r read)
      rw [if_neg (Nat.not_lt.mpr deep), if_pos fits] at anchored
      exact ⟨_, anchored⟩
  selects _ _ anchored read := selects_iff_spans read anchored

theorem SelectsWholeNames.standsAlone (h : SelectsWholeNames source) : StandsAlone source where
  closed r read := by
    obtain ⟨p, anchored⟩ := h.accepted.mpr ⟨r, read⟩
    exact parse_closed read anchored
  fits r read := by
    obtain ⟨p, anchored⟩ := h.accepted.mpr ⟨r, read⟩
    rw [parse_anchoredText read (parse_closed read anchored)] at anchored
    split_ifs at anchored with deep fits
    exact ⟨Nat.not_lt.mp deep, fits⟩
  bounded fault own _ p anchored := by
    obtain ⟨r, read⟩ := h.accepted.mp ⟨p, anchored⟩
    cases own.symm.trans read

/-! ### Lists of patterns -/

/-- The name pattern is what its text is read as, and its text is a pattern by itself. -/
def IsOf (p : NamePattern) (r : Regex) : Prop :=
  NamePattern.parse p.source = .ok p ∧ Regex.parse p.source = .ok r

/-- Patterns that can be read by themselves select a name if one of them matches it from end to
end. -/
theorem any_selects_iff {patterns : List NamePattern} (sound : ∀ p ∈ patterns, ∃ r, p.IsOf r)
    (name : String) : patterns.any (·.selects name) = true ↔
      ∃ p ∈ patterns, ∃ r, p.IsOf r ∧ r.Spans name := by
  rw [List.any_eq_true]
  refine exists_congr fun p => and_congr_right fun mem => ?_
  constructor
  · intro selected
    obtain ⟨r, own⟩ := sound p mem
    exact ⟨r, own, (selects_iff_spans own.2 own.1 name).mp selected⟩
  · rintro ⟨r, own, spans⟩
    exact (selects_iff_spans own.2 own.1 name).mpr spans

/-- **Name patterns and whole names.** A name pattern does what it is meant to do if and only if its
pattern stands alone; it selects whole names wherever its pattern can be read by itself, and is
faulty with every pattern whose fault is another than to close a group that it has not opened or to
be too large. So entries and rules whose patterns can be read by themselves never select a name of
which only a part matches. -/
theorem wholeNames (source : String) :
    (SelectsWholeNames source ↔ StandsAlone source) ∧
    (∀ p r, NamePattern.parse source = .ok p → Regex.parse source = .ok r →
      ∀ name, p.selects name = true ↔ r.Spans name) ∧
    (∀ fault, Regex.parse source = .error fault → fault ≠ .unopenedGroup → fault ≠ .tooLarge →
      ∃ fault, NamePattern.parse source = .error fault) ∧
    (∀ entry target, Annotations.patterns entry ≠ [] →
      (∀ p ∈ Annotations.patterns entry, ∃ r, p.IsOf r) →
        (Annotations.appliesTo entry target = true ↔
          ∃ p ∈ Annotations.patterns entry, ∃ r, p.IsOf r ∧ r.Spans target)) ∧
    (∀ config field rule, DateTimeTypes.override? config field = some rule →
      (∀ p ∈ (FieldRule.ofFields rule.fields).patterns, ∃ r, p.IsOf r) →
        ∃ p ∈ (FieldRule.ofFields rule.fields).patterns, ∃ r, p.IsOf r ∧ r.Spans field) := by
  refine ⟨⟨(·.standsAlone), (·.selectsWholeNames)⟩,
    fun p r anchored read => selects_iff_spans read anchored, ?_, ?_, ?_⟩
  · intro fault read opening size
    cases anchored : NamePattern.parse source with
    | ok p => exact absurd anchored (not_parse_of_fault read opening size)
    | error e => exact ⟨e, rfl⟩
  · intro entry target given sound
    have some : (Annotations.patterns entry).isEmpty = false := by simpa using given
    rw [Annotations.appliesTo, anySelects, some, Bool.false_or]
    exact any_selects_iff sound target
  · intro config field rule found sound
    have selected := List.find?_some found
    exact (any_selects_iff sound field).mp selected

end

/-- Two names, of which one starts with the other. -/
def twoNames : Regex := ⟨"a|ab", .either (.literal ['a']) (.literal ['a', 'b']), []⟩

/-- The name pattern of the two names. -/
def twoNamesPattern : NamePattern :=
  ⟨"a|ab", "^(?:a|ab)$",
    .seq (.assertion .textStart) (.seq twoNames.expr (.assertion .textEnd)), []⟩

/-- An entry of annotations for the two names. -/
def twoNamesEntry : List Value := [.unset, .items [.scalar (.namePattern twoNamesPattern)]]

/-- A rule for the two names. -/
def twoNamesRule : Value :=
  .composite [.unset, .unset, .unset, .items [.scalar (.namePattern twoNamesPattern)]]

theorem wholeNames_twoNames :
    SelectsWholeNames "a|ab" ∧
    (twoNamesPattern.selects "abb" = true ↔ twoNames.Spans "abb") ∧
    (∃ fault, NamePattern.parse "(a" = .error fault) ∧
    (Annotations.appliesTo twoNamesEntry "ab" = true ↔
      ∃ p ∈ Annotations.patterns twoNamesEntry, ∃ r, p.IsOf r ∧ r.Spans "ab") ∧
    ∃ p ∈ (FieldRule.ofFields twoNamesRule.fields).patterns, ∃ r, p.IsOf r ∧ r.Spans "ab" := by
  have read : Regex.parse "a|ab" = .ok twoNames := by decide +kernel
  have anchored : NamePattern.parse "a|ab" = .ok twoNamesPattern := by decide +kernel
  have sound : ∀ p ∈ [twoNamesPattern], ∃ r, p.IsOf r :=
    List.forall_mem_singleton.mpr ⟨twoNames, anchored, read⟩
  have alone : StandsAlone "a|ab" :=
    { closed := fun _ _ => by decide +kernel
      fits := fun r own => by
        obtain rfl := Except.ok.inj (read.symm.trans own)
        decide +kernel
      bounded := fun _ fault => by cases fault.symm.trans read }
  have found : DateTimeTypes.override? [.unset, .unset, .items [twoNamesRule]] "ab" =
      some twoNamesRule :=
    List.find?_cons_of_pos (by decide +kernel)
  obtain ⟨iff, selects, -, applies, overrides⟩ := wholeNames "a|ab"
  obtain ⟨-, -, faulty, -⟩ := wholeNames "(a"
  exact ⟨iff.mpr alone, selects _ _ anchored read _,
    faulty .unclosedGroup (by decide +kernel) (by decide) (by decide),
    applies twoNamesEntry "ab" (List.cons_ne_nil _ _) sound,
    overrides _ "ab" twoNamesRule found sound⟩

/-- The name pattern of a pattern that closes the group between the anchors. -/
def halvesPattern : NamePattern :=
  ⟨"a)|(b", "^(?:a)|(b)$",
    .either (.seq (.assertion .textStart) (.literal ['a']))
      (.seq (.group 1 (.literal ['b'])) (.assertion .textEnd)), []⟩

/-- **Parts of names are selected** by what is no pattern by itself, and a pattern with a comment at
its end is no name pattern. -/
theorem wholeNames_halves :
    Regex.parse "a)|(b" = .error .unopenedGroup ∧
    NamePattern.parse "a)|(b" = .ok halvesPattern ∧
    Annotations.appliesTo [.unset, .items [.scalar (.namePattern halvesPattern)]] "axx" = true ∧
    ¬ SelectsWholeNames "a)|(b" ∧
    (∃ r, Regex.parse "(?x)a # letter" = .ok r) ∧
    NamePattern.parse "(?x)a # letter" = .error .unclosedGroup ∧
    ¬ SelectsWholeNames "(?x)a # letter" := by
  have fault : Regex.parse "a)|(b" = .error .unopenedGroup := by decide +kernel
  have anchored : NamePattern.parse "a)|(b" = .ok halvesPattern := by decide +kernel
  have read : Regex.parse "(?x)a # letter" = .ok ⟨"(?x)a # letter", .literal ['a'], []⟩ := by
    decide +kernel
  have anchoredFault : NamePattern.parse "(?x)a # letter" = .error .unclosedGroup := by
    decide +kernel
  refine ⟨fault, anchored, by decide +kernel, fun h => ?_, ⟨_, read⟩, anchoredFault, fun h => ?_⟩
  · obtain ⟨r, own⟩ := h.accepted.mp ⟨_, anchored⟩
    cases fault.symm.trans own
  · obtain ⟨p, own⟩ := h.accepted.mpr ⟨_, read⟩
    cases anchoredFault.symm.trans own

end NamePattern

end OptionBinding
