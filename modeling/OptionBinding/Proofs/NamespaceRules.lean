import Mathlib.Data.List.TakeWhile
import OptionBinding.Bundled.Namespaces
import OptionBinding.Proofs.Recognition

/-!
# Rules for namespaces

A mapping is a rule if its namespace and its package are given and not blank
(`NamespaceMapping.IsRule`); all others count for nothing. Two scans look at the rules of a
configuration. The review goes through them with the namespaces it has seen so far and stops at the
first one that it meets again (`repeatedNamespace?_eq_some_iff`). The look-up of a namespace stops
at the first rule for it, whatever rules follow. So it depends on the order of the rules, unless the
review has passed: then there is one rule for a namespace at most, and what the look-up finds can be
told from the rules as a set (`packageFor?_eq_some_iff`). The order of the mappings and those that
are no rules (`SameRules`) make no difference any more (`review_unambiguous`).
-/

namespace OptionBinding

namespace Text

theorem isBlankText_iff (text : String) : isBlankText text = true ↔ trim text = "" := by
  unfold isBlankText trim
  rw [List.all_eq_true, ← String.toList_inj, String.toList_ofList, String.toList_empty]
  constructor
  · intro blank
    have front : text.toList.dropWhile isBlank = [] := List.dropWhile_eq_nil_iff.mpr blank
    rw [trimChars, front]
    rfl
  · intro nothing c mem
    by_contra visible
    rw [Bool.not_eq_true] at visible
    have kept : c ∈ trimChars text.toList := mem_trimChars mem visible
    rw [nothing] at kept
    cases kept

end Text

namespace NamespaceMapping

variable {m : NamespaceMapping} {uri package : String}

/-- The mapping is a rule: a namespace and a package are given, and neither is blank. -/
def IsRule (m : NamespaceMapping) (uri package : String) : Prop :=
  m.uri = some uri ∧ m.package = some package ∧ Text.trim uri ≠ "" ∧ Text.trim package ≠ ""

/-- **The rule of a mapping** is found. -/
theorem rule?_eq_some_iff : m.rule? = some (uri, package) ↔ m.IsRule uri package := by
  unfold rule? IsRule
  rw [Ne, Ne, ← Text.isBlankText_iff, ← Text.isBlankText_iff]
  split
  · next given given' hasUri hasPackage =>
    rw [hasUri, hasPackage]
    split_ifs with blank
    · refine iff_of_false nofun ?_
      rintro ⟨sameUri, samePackage, visible, visible'⟩
      obtain rfl := Option.some.inj sameUri
      obtain rfl := Option.some.inj samePackage
      simp [visible, visible'] at blank
    · rw [Option.some.injEq, Prod.mk.injEq, Option.some.injEq, Option.some.injEq]
      constructor
      · rintro ⟨rfl, rfl⟩
        simpa using blank
      · rintro ⟨sameUri, samePackage, -⟩
        exact ⟨sameUri, samePackage⟩
  · next missing =>
    refine iff_of_false nofun ?_
    rintro ⟨hasUri, hasPackage, -⟩
    exact missing uri package hasUri hasPackage

end NamespaceMapping

namespace Namespaces

open NamespaceMapping (rule?_eq_some_iff)

variable {ms ms' : List NamespaceMapping} {rs : List (String × String)} {seen : List String}
  {uri package : String}

/-! ### Configurations without a second rule -/

/-- **No namespace has two rules.** -/
def Unambiguous (ms : List NamespaceMapping) : Prop :=
  ms.Pairwise fun m m' =>
    ∀ uri package package', m.IsRule uri package → ¬ m'.IsRule uri package'

/-- **The first second rule** is for this namespace: an earlier rule is for it too, and the mappings
before have no second rule among them. -/
def FirstRepeated (ms : List NamespaceMapping) (uri : String) : Prop :=
  ∃ front m back, ms = front ++ m :: back ∧ (∃ package, m.IsRule uri package) ∧
    (∃ earlier ∈ front, ∃ package, earlier.IsRule uri package) ∧ Unambiguous front

theorem mem_rules_iff : (uri, package) ∈ rules ms ↔ ∃ m ∈ ms, m.IsRule uri package := by
  simp only [rules, List.mem_filterMap, rule?_eq_some_iff]

theorem mem_uris_iff :
    uri ∈ (rules ms).map (·.1) ↔ ∃ m ∈ ms, ∃ package, m.IsRule uri package := by
  rw [List.mem_map]
  constructor
  · rintro ⟨⟨uri, package⟩, mem, rfl⟩
    obtain ⟨m, among, rule⟩ := mem_rules_iff.mp mem
    exact ⟨m, among, package, rule⟩
  · rintro ⟨m, among, package, rule⟩
    exact ⟨(uri, package), mem_rules_iff.mpr ⟨m, among, rule⟩, rfl⟩

theorem unambiguous_iff : Unambiguous ms ↔ ((rules ms).map (·.1)).Nodup := by
  rw [List.Nodup, List.pairwise_map, rules, List.pairwise_filterMap]
  refine List.Pairwise.iff fun m m' => ?_
  constructor
  · rintro apart ⟨uri, package⟩ rule ⟨uri', package'⟩ rule' (rfl : uri = uri')
    exact apart uri package package' (rule?_eq_some_iff.mp rule) (rule?_eq_some_iff.mp rule')
  · intro apart uri package package' rule rule'
    exact apart _ (rule?_eq_some_iff.mpr rule) _ (rule?_eq_some_iff.mpr rule') rfl

/-! ### The review -/

/-- Nothing is found among rules for different namespaces that have not been seen. -/
theorem repeatedNamespace?_eq_none_iff : repeatedNamespace? seen rs = none ↔
    (rs.map (·.1)).Nodup ∧ ∀ uri ∈ rs.map (·.1), uri ∉ seen := by
  induction rs generalizing seen with
  | nil => simp [repeatedNamespace?]
  | cons rule rs ih =>
    obtain ⟨uri, package⟩ := rule
    rw [repeatedNamespace?, List.map_cons, List.nodup_cons, List.forall_mem_cons]
    split_ifs with met
    · exact iff_of_false nofun fun ⟨_, fresh, _⟩ => fresh met
    · rw [ih]
      constructor
      · rintro ⟨distinct, unseen⟩
        have fresh : uri ∉ rs.map (·.1) := fun mem => unseen uri mem List.mem_cons_self
        exact ⟨⟨fresh, distinct⟩, met, fun other mem was =>
          unseen other mem (List.mem_cons_of_mem _ was)⟩
      · rintro ⟨⟨fresh, distinct⟩, -, unseen⟩
        refine ⟨distinct, fun other mem was => ?_⟩
        rcases List.mem_cons.mp was with rfl | was
        · exact fresh mem
        · exact unseen other mem was

/-- What is found has been seen, or is met for the second time; nothing before it is. -/
theorem repeatedNamespace?_eq_some_iff : repeatedNamespace? seen rs = some uri ↔
    ∃ front package back, rs = front ++ (uri, package) :: back ∧
      (uri ∈ seen ∨ uri ∈ front.map (·.1)) ∧ repeatedNamespace? seen front = none := by
  induction rs generalizing seen with
  | nil => simp [repeatedNamespace?]
  | cons rule rs ih =>
    obtain ⟨here, given⟩ := rule
    rw [repeatedNamespace?]
    split_ifs with met
    · constructor
      · intro found
        obtain rfl := Option.some.inj found
        exact ⟨[], given, rs, rfl, .inl met, rfl⟩
      · rintro ⟨front, package, back, split, -, none⟩
        cases front with
        | nil =>
          obtain ⟨same, -⟩ := List.cons.inj split
          rw [(Prod.mk.inj same).1]
        | cons first front =>
          obtain ⟨rfl, -⟩ := List.cons.inj split
          rw [repeatedNamespace?, if_pos met] at none
          cases none
    · rw [ih]
      constructor
      · rintro ⟨front, package, back, rfl, again, none⟩
        refine ⟨(here, given) :: front, package, back, rfl, ?_, ?_⟩
        · rw [List.map_cons, List.mem_cons]
          rw [List.mem_cons] at again
          tauto
        · rw [repeatedNamespace?, if_neg met]
          exact none
      · rintro ⟨front, package, back, split, again, none⟩
        cases front with
        | nil =>
          obtain ⟨same, -⟩ := List.cons.inj split
          obtain ⟨rfl, -⟩ := Prod.mk.inj same
          exact absurd again (by simpa using met)
        | cons first front =>
          obtain ⟨rfl, rfl⟩ := List.cons.inj split
          rw [repeatedNamespace?, if_neg met] at none
          refine ⟨front, package, back, rfl, ?_, none⟩
          rw [List.map_cons, List.mem_cons] at again
          rw [List.mem_cons]
          tauto

theorem repeatedNamespace?_rules_eq_none_iff :
    repeatedNamespace? [] (rules ms) = none ↔ Unambiguous ms := by
  rw [repeatedNamespace?_eq_none_iff, unambiguous_iff]
  exact and_iff_left fun _ _ => List.not_mem_nil

theorem repeatedNamespace?_rules_eq_some_iff :
    repeatedNamespace? [] (rules ms) = some uri ↔ FirstRepeated ms uri := by
  rw [repeatedNamespace?_eq_some_iff]
  constructor
  · rintro ⟨front, package, back, split, again, none⟩
    obtain ⟨before, after, rfl, rfl, later⟩ := List.filterMap_eq_append_iff.mp split
    obtain ⟨blanks, m, rest, rfl, noRules, rule, -⟩ := List.filterMap_eq_cons_iff.mp later
    have skipped : rules (before ++ blanks) = rules before := by
      rw [rules, List.filterMap_append, List.filterMap_eq_nil_iff.mpr noRules, List.append_nil]
      rfl
    refine ⟨before ++ blanks, m, rest, (List.append_assoc _ _ _).symm,
      ⟨package, rule?_eq_some_iff.mp rule⟩, ?_, ?_⟩
    · rw [← mem_uris_iff, skipped]
      exact again.resolve_left List.not_mem_nil
    · rw [← repeatedNamespace?_rules_eq_none_iff, skipped]
      exact none
  · rintro ⟨front, m, back, rfl, ⟨package, rule⟩, earlier, distinct⟩
    refine ⟨rules front, package, rules back, ?_, .inr (mem_uris_iff.mpr earlier),
      repeatedNamespace?_rules_eq_none_iff.mpr distinct⟩
    rw [rules, List.filterMap_append, List.filterMap_cons_some (rule?_eq_some_iff.mpr rule)]
    rfl

theorem repeatedMessage_inj {uri uri' : String} :
    repeatedMessage uri = repeatedMessage uri' ↔ uri = uri' := by
  refine ⟨fun same => ?_, congrArg _⟩
  unfold repeatedMessage at same
  exact String.append_right_inj _ |>.mp (String.append_left_inj _ |>.mp same)

/-! ### The package of a namespace -/

/-- Without a second rule the look-up finds the rule for a namespace, wherever it stands. -/
theorem packageFor?_eq_some_iff (distinct : Unambiguous ms) :
    packageFor? ms uri = some package ↔ ∃ m ∈ ms, m.IsRule uri package := by
  rw [← mem_rules_iff, packageFor?, List.lookup_eq_some_iff]
  constructor
  · rintro ⟨front, back, split, -⟩
    rw [split]
    exact List.mem_append_right _ List.mem_cons_self
  · intro mem
    obtain ⟨front, back, split⟩ := List.append_of_mem mem
    refine ⟨front, back, split, fun rule before => bne_iff_ne.mpr ?_⟩
    rw [unambiguous_iff, split, List.map_append, List.nodup_append] at distinct
    exact fun same =>
      distinct.2.2 rule.1 (List.mem_map_of_mem before) uri List.mem_cons_self same.symm

/-- **Two lists of mappings have the same rules**: the mappings are in another order, or there are
more or fewer of those that are no rules. -/
inductive SameRules : List NamespaceMapping → List NamespaceMapping → Prop
  | reordered {ms ms' : List NamespaceMapping} (same : ms.Perm ms') : SameRules ms ms'
  | added (front back : List NamespaceMapping) {m : NamespaceMapping}
      (none : ∀ uri package, ¬ m.IsRule uri package) :
      SameRules (front ++ back) (front ++ m :: back)
  | removed (front back : List NamespaceMapping) {m : NamespaceMapping}
      (none : ∀ uri package, ¬ m.IsRule uri package) :
      SameRules (front ++ m :: back) (front ++ back)
  | trans {ms ms' ms'' : List NamespaceMapping} (first : SameRules ms ms')
      (second : SameRules ms' ms'') : SameRules ms ms''

theorem rules_insert (front back : List NamespaceMapping) {m : NamespaceMapping}
    (none : ∀ uri package, ¬ m.IsRule uri package) :
    rules (front ++ m :: back) = rules (front ++ back) := by
  have left : m.rule? = Option.none := by
    cases rule : m.rule? with
    | none => rfl
    | some found => exact absurd (rule?_eq_some_iff.mp rule) (none _ _)
  rw [rules, rules, List.filterMap_append, List.filterMap_append, List.filterMap_cons_none left]

theorem SameRules.perm (h : SameRules ms ms') : (rules ms).Perm (rules ms') := by
  induction h with
  | reordered same => exact same.filterMap _
  | added front back none => rw [rules_insert front back none]
  | removed front back none => rw [rules_insert front back none]
  | trans _ _ ih ih' => exact ih.trans ih'

theorem SameRules.unambiguous (h : SameRules ms ms') (distinct : Unambiguous ms) :
    Unambiguous ms' := by
  rw [unambiguous_iff] at distinct ⊢
  exact (h.perm.map _).nodup_iff.mp distinct

theorem SameRules.found (h : SameRules ms ms') (distinct : Unambiguous ms) (uri : String) :
    packageFor? ms' uri = packageFor? ms uri := by
  refine Option.ext fun package => ?_
  rw [packageFor?_eq_some_iff (h.unambiguous distinct), packageFor?_eq_some_iff distinct,
    ← mem_rules_iff, ← mem_rules_iff]
  exact h.perm.mem_iff.symm

/-! ### What an accepted configuration says -/

/-- Any mappings are those of a configuration. -/
theorem exists_mappings (ms : List NamespaceMapping) : ∃ config, mappings config = ms := by
  have held : ∀ m : NamespaceMapping, ∃ fields, NamespaceMapping.ofFields fields = m := by
    intro m
    have content : ∀ text : Option String, ∃ v : Value, v.text? = text := by
      intro text
      cases text with
      | none => exact ⟨.unset, rfl⟩
      | some s => exact ⟨.scalar (.text s), rfl⟩
    obtain ⟨uri, hasUri⟩ := content m.uri
    obtain ⟨shorthand, hasShorthand⟩ := content m.shorthand
    obtain ⟨package, hasPackage⟩ := content m.package
    refine ⟨[uri, shorthand, package], ?_⟩
    cases m
    simp_all [NamespaceMapping.ofFields, Value.fieldAt]
  choose fields holds using held
  refine ⟨[.items (ms.map fun m => .composite (fields m))], ?_⟩
  simp [mappings, Value.fieldAt, Value.elements, Value.fields, Function.comp_def, holds]

/-- **The review of a configuration** passes if and only if no namespace has two rules, and names
the first namespace that a rule is for again. A configuration that passes is an unambiguous map: the
package of a namespace is the one that a rule gives it, and neither the order of the mappings nor
those that are no rules make a difference. All lists of mappings are those of a configuration. -/
theorem review_unambiguous (ms : List NamespaceMapping) :
    (∃ config, mappings config = ms) ∧
      ∀ config consumed, mappings config = ms →
        (review config consumed = none ↔ Unambiguous ms) ∧
        (∀ uri, review config consumed = some (repeatedMessage uri) ↔ FirstRepeated ms uri) ∧
        (∀ reason, review config consumed = some reason → ∃ uri, reason = repeatedMessage uri) ∧
        (review config consumed = none →
          (∀ uri package, packageFor? ms uri = some package ↔ ∃ m ∈ ms, m.IsRule uri package) ∧
          ∀ ms', SameRules ms ms' →
            (∀ config' consumed', mappings config' = ms' → review config' consumed' = none) ∧
            ∀ uri, packageFor? ms' uri = packageFor? ms uri) := by
  refine ⟨exists_mappings ms, ?_⟩
  rintro config consumed rfl
  have passes (config : List Value) (consumed : Nat) :
      review config consumed = none ↔ Unambiguous (mappings config) := by
    rw [review, Option.map_eq_none_iff, repeatedNamespace?_rules_eq_none_iff]
  refine ⟨passes config consumed, fun uri => ?_, fun reason rejected => ?_, fun passed => ?_⟩
  · rw [← repeatedNamespace?_rules_eq_some_iff, review, Option.map_eq_some_iff]
    constructor
    · rintro ⟨found, repeated, same⟩
      rwa [repeatedMessage_inj.mp same] at repeated
    · exact fun repeated => ⟨uri, repeated, rfl⟩
  · obtain ⟨uri, -, same⟩ := Option.map_eq_some_iff.mp rejected
    exact ⟨uri, same.symm⟩
  · have distinct := (passes config consumed).mp passed
    refine ⟨fun uri package => packageFor?_eq_some_iff distinct, fun ms' same => ⟨?_, ?_⟩⟩
    · rintro config' consumed' rfl
      exact (passes config' consumed').mpr (same.unambiguous distinct)
    · exact same.found distinct

/-- A mapping as a configuration holds it. -/
def mappingValue (uri package : String) : Value :=
  .composite [.scalar (.text uri), .unset, .scalar (.text package)]

/-- Two rules with a mapping between them whose package is blank. -/
def twoRules : List Value :=
  [.items [mappingValue "urn:a" "org.a", mappingValue "urn:b" " ", mappingValue "urn:b" "org.b"]]

/-- The two rules alone, in the other order. -/
def exchangedRules : List Value :=
  [.items [mappingValue "urn:b" "org.b", mappingValue "urn:a" "org.a"]]

theorem sameRules_exchanged : SameRules (mappings twoRules) (mappings exchangedRules) := by
  refine .trans (.removed [⟨some "urn:a", none, some "org.a"⟩]
    [⟨some "urn:b", none, some "org.b"⟩] fun uri package rule => ?_) (.reordered (.swap _ _ _))
  have blank : (⟨some "urn:b", none, some " "⟩ : NamespaceMapping).rule? = none := by
    decide +kernel
  have found : none = some (uri, package) := blank.symm.trans (rule?_eq_some_iff.mpr rule)
  cases found

/-- The blank mapping is no second rule for its namespace; one with a package would be. -/
theorem review_unambiguous_exchanged :
    review twoRules 9 = none ∧ SameRules (mappings twoRules) (mappings exchangedRules) ∧
      packageFor? (mappings exchangedRules) "urn:b" = some "org.b" ∧
      review [.items [mappingValue "urn:a" "org.a", mappingValue "urn:a" "org.b"]] 7 =
        some (repeatedMessage "urn:a") := by
  have passed : review twoRules 9 = none := by decide +kernel
  have found : packageFor? (mappings twoRules) "urn:b" = some "org.b" := by decide +kernel
  obtain ⟨-, -, -, map⟩ := (review_unambiguous (mappings twoRules)).2 twoRules 9 rfl
  obtain ⟨-, same⟩ := (map passed).2 _ sameRules_exchanged
  refine ⟨passed, sameRules_exchanged, (same "urn:b").trans found, ?_⟩
  obtain ⟨-, rejects, -⟩ := (review_unambiguous _).2
    [.items [mappingValue "urn:a" "org.a", mappingValue "urn:a" "org.b"]] 7 rfl
  have rule (package : String) (visible : Text.trim package ≠ "") :
      (⟨some "urn:a", none, some package⟩ : NamespaceMapping).IsRule "urn:a" package :=
    ⟨rfl, rfl, by decide +kernel, visible⟩
  refine (rejects "urn:a").mpr ⟨[⟨some "urn:a", none, some "org.a"⟩],
    ⟨some "urn:a", none, some "org.b"⟩, [], rfl, ⟨_, rule "org.b" (by decide +kernel)⟩,
    ⟨_, List.mem_singleton_self _, _, rule "org.a" (by decide +kernel)⟩, ?_⟩
  exact List.pairwise_singleton _ _

end Namespaces

end OptionBinding
