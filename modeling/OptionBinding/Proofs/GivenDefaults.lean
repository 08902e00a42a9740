import OptionBinding.Proofs.DefaultChains
import OptionBinding.Proofs.Recognition
import OptionBinding.Proofs.Segments
import OptionBinding.Regex.Standard

/-!
# Defaults that are given

An option that is left out and has a default may as well be given with its default text
(`bind_given_default`): the token that gives it is taken in front of all others, and nothing else
changes. Two facts carry this.

* Tokens that an option does not recognise are scanned alike whether the option is pending or not
  (`scan_erase`).
* A text in a token is read like a default (`DefaultToken.claim_iff`). It may have one more default
  below it, but chains of defaults longer than the number of fields give nothing
  (`defaultGives_iff_finish`).

So the scan puts into the field what completing would have put there, and completing goes on alike
(`complete_given_iff`).
-/

namespace OptionBinding

variable {b : Binder} {owner : String} {t : TypeId} {pending : List Pending} {p : Pending}
  {tokens : List String}

/-! ### Options that no token selects -/

theorem select_erase {token : String} (pending : List Pending)
    (foreign : p.field.descriptor.recognise token = none) :
    select token (pending.erase p) =
      (select token pending).map fun s => { s with others := s.others.erase p } := by
  induction pending with
  | nil => rfl
  | cons q rest ih =>
    by_cases same : q = p
    · subst same
      rw [List.erase_cons_head, select, foreign]
      simp [Function.comp_def]
    · rw [List.erase_cons_tail (by simpa using same), select, select]
      cases q.field.descriptor.recognise token with
      | some form => rfl
      | none =>
        simp only [ih, Option.map_map]
        refine Option.map_congr fun s _ => ?_
        simp [List.erase_cons_tail, same]

namespace Binder

/-- **An option that recognises none of the tokens takes no part in their scan.** -/
theorem scan_erase (foreign : ∀ token ∈ tokens, p.field.descriptor.recognise token = none) :
    b.scan owner (pending.erase p) tokens = b.scan owner pending tokens := by
  induction pending, tokens using b.scan_induction owner with
  | nil pending => rw [scan_nil, scan_nil]
  | unclaimed pending token rest unclaimed =>
    have erased := select_erase pending (foreign token List.mem_cons_self)
    rw [unclaimed, Option.map_none] at erased
    rw [scan_cons_none unclaimed, scan_cons_none erased]
  | failed pending token rest s e selected failed =>
    have erased := select_erase pending (foreign token List.mem_cons_self)
    rw [selected, Option.map_some] at erased
    rw [scan_cons_error selected failed, scan_cons_error erased failed]
    rfl
  | claimed pending token rest s c selected claimed ih =>
    have erased := select_erase pending (foreign token List.mem_cons_self)
    have later := ih fun next mem =>
      foreign next (List.mem_cons_of_mem _ (List.mem_of_mem_drop mem))
    rw [selected, Option.map_some] at erased
    rw [scan_cons_ok selected claimed, scan_cons_ok erased claimed, later]
    rfl

theorem finds_erase_iff {segments : List Segment}
    (foreign : ∀ token ∈ tokens, p.field.descriptor.recognise token = none) :
    b.Finds owner (pending.erase p) tokens segments ↔ b.Finds owner pending tokens segments := by
  rw [← scan_ok_iff, ← scan_ok_iff, scan_erase foreign]

theorem Reads.extra_eq {finish : Finish} {f : Field} {text : String} {v : Value} {n : Nat}
    (h : b.Reads finish f text [] (v, n)) : n = 0 := by
  cases h <;> rfl

variable {i : Nat} {f : Field} {text : String} {v w : Value}

/-! ### What completing makes of the field -/

section Completing

variable (default : f.descriptor.defaultText = some text)
include default

theorem valueOf_finishDefault_iff :
    (b.valueOf b.finishDefault owner f text).outcome = .ok v ↔
      b.DefaultGives b.table.fieldCount f v :=
  (defaultGives_iff owner default).symm

theorem eq_of_filledAs (gives : b.DefaultGives b.table.fieldCount f v)
    (before : w.isEmpty = true ∨ w = v) {v' : Value}
    (filled : FilledAs (b.valueOf b.finishDefault owner) f w v') : v' = v := by
  cases filled with
  | given given => exact before.resolve_left (by simp [given])
  | made empty default' made =>
    obtain rfl := Option.some.inj (default.symm.trans default')
    exact ((valueOf_finishDefault_iff default).mp made).unique gives
  | left empty undefaulted => simp [default] at undefaulted

theorem filledAs_of_gives (gives : b.DefaultGives b.table.fieldCount f v)
    (before : w.isEmpty = true ∨ w = v) :
    FilledAs (b.valueOf b.finishDefault owner) f w v := by
  have made : (b.valueOf b.finishDefault owner f text).outcome = .ok v :=
    (valueOf_finishDefault_iff default).mpr gives
  cases empty : w.isEmpty with
  | true => exact .made empty default made
  | false =>
    obtain rfl := before.resolve_left (by simp [empty])
    exact .given empty

variable (field : (b.table.fields t)[i]? = some f)
include field

/-- **Completing makes the same of an empty field and of what its default gives.** -/
theorem complete_given_iff {fields fields' : List Value} (held : fields[i]? = some w)
    (empty : w.isEmpty = true) (gives : b.DefaultGives b.table.fieldCount f v) :
    (b.complete t (fields.set i v)).run.outcome = .ok () ∧
        (b.complete t (fields.set i v)).fields = fields' ↔
      (b.complete t fields).run.outcome = .ok () ∧ (b.complete t fields).fields = fields' := by
  obtain ⟨bound, at'⟩ := List.getElem?_eq_some_iff.mp held
  rw [complete_ok_iff, complete_ok_iff]
  refine and_congr_right fun _ => ⟨fun fills => ?_, fun fills => ?_⟩
  · obtain ⟨v', after, filled⟩ := fills.filledAs field (List.getElem?_set_self bound)
    obtain rfl := eq_of_filledAs default gives (.inr rfl) filled
    have back := fills.set field after (filledAs_of_gives default gives (.inl empty))
    rwa [List.set_set, ← at', List.set_getElem_self] at back
  · obtain ⟨v', after, filled⟩ := fills.filledAs field held
    obtain rfl := eq_of_filledAs default gives (.inl empty) filled
    exact fills.set field after (filledAs_of_gives default gives (.inr rfl))

theorem gives_of_complete {fields : List Value} (held : fields[i]? = some w)
    (empty : w.isEmpty = true) (h : (b.complete t fields).run.outcome = .ok ()) :
    ∃ v, b.DefaultGives b.table.fieldCount f v := by
  obtain ⟨v, -, filled⟩ := (complete_ok_iff.mp ⟨h, rfl⟩).2.filledAs field held
  cases filled with
  | given given => simp [empty] at given
  | made _ default' made =>
    obtain rfl := Option.some.inj (default.symm.trans default')
    exact ⟨v, (valueOf_finishDefault_iff default).mp made⟩
  | left _ undefaulted => simp [default] at undefaulted

end Completing

/-! ### What the scan puts there -/

/-- **A token that gives a field its default text**: it selects this field alone, the other tokens
do not select it, and the field holds nothing at first. -/
structure DefaultToken (b : Binder) (t : TypeId) (i : Nat) (f : Field) (text token : String)
    (args : List String) : Prop where
  field : (b.table.fields t)[i]? = some f
  default : f.descriptor.defaultText = some text
  fresh : f.shape.fresh.isEmpty = true
  recognised : f.descriptor.recognise token = some (.delimited text)
  own : ∀ p ∈ b.table.pending t, p ≠ ⟨i, f⟩ → p.field.descriptor.recognise token = none
  foreign : ∀ other ∈ args, f.descriptor.recognise other = none

namespace DefaultToken

variable {token : String} {args : List String} {segments : List Segment}
  (h : b.DefaultToken t i f text token args)
include h

theorem selected : select token (b.table.pending t) =
    some ⟨⟨i, f⟩, .delimited text, (b.table.pending t).erase ⟨i, f⟩⟩ := by
  have mem : (⟨i, f⟩ : Pending) ∈ b.table.pending t := TypeTable.mem_pending.mpr h.field
  obtain ⟨earlier, later, split, first⟩ := List.eq_append_cons_of_mem mem
  refine select_eq_some_iff.mpr ⟨h.recognised, earlier, later, split, ?_, fun p before => ?_⟩
  · rw [split, List.erase_append_right _ first, List.erase_cons_head]
  · refine h.own p (by simp [split, before]) ?_
    rintro rfl
    exact first before

/-- **The token gives the field what its default gives**, and takes no other token. -/
theorem claim_iff {others : List Pending} {c : Claim} :
    (b.claim owner ⟨⟨i, f⟩, .delimited text, others⟩ args).outcome = .ok c ↔
      ∃ v, b.DefaultGives b.table.fieldCount f v ∧ c = ⟨some v, 0⟩ := by
  have run : f.descriptor.capturedRun args = [] := by
    cases args with
    | nil => rfl
    | cons next rest =>
      have none := Descriptor.captured?_of_recognise_none (h.foreign next List.mem_cons_self)
      simp [Descriptor.capturedRun, none]
  have known : f ∈ b.table.allFields := TypeTable.mem_allFields (List.mem_of_getElem? h.field)
  have gives := fun v => defaultGives_iff_finish (v := v) h.default known
  rw [claim_delimited_iff rfl, run]
  constructor
  · rintro ⟨v, n, read, rfl⟩
    exact ⟨v, (gives v).mpr ⟨n, read⟩, by rw [read.extra_eq]⟩
  · rintro ⟨v, given, rfl⟩
    obtain ⟨n, read⟩ := (gives v).mp given
    exact ⟨v, n, read, by rw [read.extra_eq]⟩

theorem findsFor_erase_iff :
    b.Finds (b.table.recordName t) ((b.table.pending t).erase ⟨i, f⟩) args segments ↔
      b.FindsFor t args segments :=
  finds_erase_iff (p := ⟨i, f⟩) h.foreign

theorem findsFor_iff :
    b.FindsFor t (token :: args) segments ↔
      ∃ v rest, segments = ⟨i, 1, some v⟩ :: rest ∧ b.DefaultGives b.table.fieldCount f v ∧
        b.FindsFor t args rest := by
  constructor
  · intro found
    cases found with
    | stop unclaimed => exact absurd h.selected (by simp [unclaimed token rfl])
    | take selected claimed others =>
      obtain rfl := Option.some.inj (h.selected.symm.trans selected)
      obtain ⟨v, gives, rfl⟩ := h.claim_iff.mp claimed
      exact ⟨v, _, rfl, gives, h.findsFor_erase_iff.mp others⟩
  · rintro ⟨v, rest, rfl, gives, found⟩
    have claimed : (b.claim (b.table.recordName t)
        ⟨⟨i, f⟩, .delimited text, (b.table.pending t).erase ⟨i, f⟩⟩ args).outcome =
          .ok ⟨some v, 0⟩ :=
      h.claim_iff.mpr ⟨v, gives, rfl⟩
    exact .take h.selected claimed (h.findsFor_erase_iff.mpr found)

theorem index_ne (found : b.FindsFor t args segments) : ∀ s ∈ segments, s.index ≠ i := by
  intro s mem same
  have among : s.index ∈ ((b.table.pending t).erase ⟨i, f⟩).map (·.index) :=
    (h.findsFor_erase_iff.mpr found).index_mem (List.mem_map_of_mem mem)
  have fresh : i ∉ ((b.table.pending t).erase ⟨i, f⟩).map (·.index) :=
    (nodup_of_select (b.table.pending_nodup t) h.selected).1
  rw [same] at among
  exact fresh among

/-- The other tokens leave the field empty. -/
theorem held (found : b.FindsFor t args segments) :
    (Segment.applyAll (b.table.fresh t) segments)[i]? = some f.shape.fresh := by
  have fresh : (b.table.fresh t)[i]? = some f.shape.fresh := by simp [TypeTable.fresh, h.field]
  rw [Segment.applyAll_getElem?_of_none, fresh]
  exact fun s mem same => absurd same (h.index_ne found s mem)

/-- The contents may be put into the field before those of the other fields or after. -/
theorem applyAll_cons (found : b.FindsFor t args segments) (v : Value) :
    Segment.applyAll (b.table.fresh t) (⟨i, 1, some v⟩ :: segments) =
      (Segment.applyAll (b.table.fresh t) segments).set i v :=
  Segment.applyAll_set (h.index_ne found)

/-- **With the token in front the same is made**, of one token more. -/
theorem binds_iff {r : List Value} {m : Nat} :
    b.Binds t (b.table.fresh t) (token :: args) (r, m) ↔
      ∃ n, m = n + 1 ∧ b.Binds t (b.table.fresh t) args (r, n) := by
  simp only [Binder.binds_iff]
  constructor
  · rintro ⟨accepted, segments, found, width, done⟩
    obtain ⟨v, rest, rfl, gives, found⟩ := h.findsFor_iff.mp found
    rw [h.applyAll_cons found, complete_given_iff h.default h.field (h.held found) h.fresh gives]
      at done
    exact ⟨Segment.totalWidth rest, by simpa [Nat.add_comm] using width.symm, accepted, rest, found,
      rfl, done⟩
  · rintro ⟨n, rfl, accepted, rest, found, rfl, done⟩
    obtain ⟨v, gives⟩ := gives_of_complete h.default h.field (h.held found) h.fresh done.1
    refine ⟨accepted, ⟨i, 1, some v⟩ :: rest, ?_, by simp [Nat.add_comm], ?_⟩
    · exact h.findsFor_iff.mpr ⟨v, rest, rfl, gives, found⟩
    · rw [h.applyAll_cons found, complete_given_iff h.default h.field (h.held found) h.fresh gives]
      exact done

end DefaultToken

/-- **An option that is left out and has a default may as well be given with its default text.** For
an option that holds a single value or a collection: if it recognises none of the tokens, and no
other option recognises the token that gives it its default text, then binding with that token in
front succeeds if and only if binding without it does, makes the same, and takes one token more. -/
theorem bind_given_default {args : List String} {c : Char} {more : List Char}
    (field : (b.table.fields t)[i]? = some f)
    (shape : (∃ e, f.shape = .single e) ∨ ∃ k e, f.shape = .collection k e)
    (default : f.descriptor.defaultText = some text) (oneLine : '\n' ∉ text.toList)
    (delimiter : f.descriptor.delimiter.toList = c :: more) (visible : Text.isBlank c = false)
    (foreign : ∀ token ∈ args, ¬ f.descriptor.Recognises token)
    (own : ∀ j g, (b.table.fields t)[j]? = some g → j ≠ i →
      ¬ g.descriptor.Recognises (f.descriptor.givenToken text)) :
    ((∃ n, (b.bind t args 0).outcome = .ok n) ↔
        ∃ n, (b.bind t (f.descriptor.givenToken text :: args) 0).outcome = .ok n) ∧
      ∀ n, (b.bind t args 0).outcome = .ok n →
        (b.bind t (f.descriptor.givenToken text :: args) 0).outcome = .ok (n + 1) ∧
          (b.bind t (f.descriptor.givenToken text :: args) 0).fields =
            (b.bind t args 0).fields := by
  have given : b.DefaultToken t i f text (f.descriptor.givenToken text) args :=
    { field, default
      fresh := by obtain ⟨e, shape⟩ | ⟨k, e, shape⟩ := shape <;> rw [shape] <;> rfl
      recognised := Descriptor.recognise_givenToken delimiter visible oneLine
      own := by
        intro p mem other
        have at' : (b.table.fields t)[p.index]? = some p.field := TypeTable.mem_pending.mp mem
        refine Descriptor.recognise_eq_none_iff.mpr (own p.index p.field at' fun same => other ?_)
        exact TypeTable.pending_eq mem (TypeTable.mem_pending.mpr field) same
      foreign := fun token mem => Descriptor.recognise_eq_none_iff.mpr (foreign token mem) }
  have without : ∀ n, (b.bind t args 0).outcome = .ok n →
      (b.bind t (f.descriptor.givenToken text :: args) 0).outcome = .ok (n + 1) ∧
        (b.bind t (f.descriptor.givenToken text :: args) 0).fields = (b.bind t args 0).fields := by
    intro n done
    refine (bind_ok_iff (f.descriptor.givenToken text :: args) 0 (r := (_, n + 1))).mpr ?_
    exact given.binds_iff.mpr ⟨n, rfl, (bind_ok_iff args 0 (r := (_, n))).mp ⟨done, rfl⟩⟩
  refine ⟨⟨fun ⟨n, done⟩ => ⟨n + 1, (without n done).1⟩, fun ⟨m, done⟩ => ?_⟩, without⟩
  have binds := (bind_ok_iff (f.descriptor.givenToken text :: args) 0 (r := (_, m))).mp ⟨done, rfl⟩
  obtain ⟨n, -, binds⟩ := given.binds_iff.mp binds
  exact ⟨n, ((bind_ok_iff args 0 (r := (_, n))).mpr binds).1⟩

/-- The parser of leaves: the text is the leaf's name. -/
def leafParser : TextParser where
  output := .single (.composite 1)
  run _ text := .ok (.composite [.scalar (.text text), .unset])

/-- The option for the leaves of a tree, which has the leaf `a` by default. -/
def leafField : Field :=
  { descriptor := { name := "leaf", defaultText := some "a" },
    shape := .collection .vector (.composite 1) }

/-- A binder for a named tree; its leaves are marked by default. -/
def treeBinder : Binder where
  table :=
    [{ fullName := "Tree", shortName := "Tree",
       fields :=
        [{ descriptor := { name := "name" }, shape := .single (.scalar .text) }, leafField] },
     { fullName := "Leaf", shortName := "Leaf",
       fields :=
        [{ descriptor := { name := "name", required := true }, shape := .single (.scalar .text) },
         { descriptor := { name := "mark", defaultText := some "m" },
           shape := .single (.scalar .text) }] }]
  registry := { byType := [ScalarType.text.parser, leafParser] }

/-- The tree `r` with the leaf `a`, which is marked. -/
def defaultTree : List Value :=
  [.scalar (.text "r"), .items [.composite [.scalar (.text "a"), .scalar (.text "m")]]]

theorem treeBinder_binds :
    treeBinder.Binds 0 (treeBinder.table.fresh 0) ["-name=r"] (defaultTree, 1) := by
  have found : treeBinder.FindsFor 0 ["-name=r"] [⟨0, 1, some (.scalar (.text "r"))⟩] := by
    refine .take (c := ⟨some (.scalar (.text "r")), 0⟩)
      (s := ⟨⟨0, (treeBinder.table.fields 0)[0]⟩, .delimited "r",
        (treeBinder.table.pending 0).drop 1⟩) (by decide +kernel) rfl (.stop (by simp))
  exact .intro (.inr rfl) found rfl

/-- The tree has its leaf, be it given or not. -/
theorem bind_given_default_tree :
    (treeBinder.bind 0 ["-name=r"] 0).outcome = .ok 1 ∧
      (treeBinder.bind 0 ["-leaf=a", "-name=r"] 0).outcome = .ok 2 ∧
      (treeBinder.bind 0 ["-leaf=a", "-name=r"] 0).fields = defaultTree := by
  obtain ⟨ended, fields⟩ := (bind_ok_iff ["-name=r"] 0).mpr treeBinder_binds
  have token : leafField.descriptor.givenToken "a" = "-leaf=a" := by decide +kernel
  have delimiter : leafField.descriptor.delimiter.toList = ['='] := by decide
  have foreign : ∀ token ∈ ["-name=r"], ¬ leafField.descriptor.Recognises token := by
    intro token mem
    obtain rfl := List.mem_singleton.mp mem
    exact Descriptor.recognise_eq_none_iff.mp (by decide +kernel)
  have own : ∀ j g, (treeBinder.table.fields 0)[j]? = some g → j ≠ 1 →
      ¬ g.descriptor.Recognises (leafField.descriptor.givenToken "a") := by
    intro j g field other
    match j with
    | 0 =>
      obtain rfl := Option.some.inj field
      exact Descriptor.recognise_eq_none_iff.mp (by decide +kernel)
    | 1 => exact absurd rfl other
    | j + 2 => cases field
  have given := (bind_given_default (f := leafField) rfl (.inr ⟨_, _, rfl⟩) rfl (by decide)
    delimiter (by decide) foreign own).2 1 ended
  rw [token] at given
  exact ⟨ended, given.1, given.2.trans fields⟩

end Binder

end OptionBinding
