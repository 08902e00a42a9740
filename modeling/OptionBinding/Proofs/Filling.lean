import OptionBinding.Proofs.Steps

/-!
# How composites are completed

A composite is completed field by field. Contents that are there stay; an empty field takes what its
default text gives, if it has one, and else stays empty unless it is required (`FilledAs`). The
first field for which this fails (`FailsAs`) ends the pass, and it and the later ones keep their
contents (`Fills`, `fillFields_iff`, `Fills.stops`). Filling again changes nothing (`Fills.again`).
A default text is read like a text given in a token, except that it stands alone (`valueOf_ok_iff`).
-/

namespace OptionBinding

/-- **What filling makes of the contents of a field**, unless it fails. -/
inductive FilledAs (value : Field → String → Run Value) (f : Field) : Value → Value → Prop
  | given {v : Value} (given : v.isEmpty = false) : FilledAs value f v v
  | made {v v' : Value} {text : String} (empty : v.isEmpty = true)
      (default : f.descriptor.defaultText = some text) (made : (value f text).outcome = .ok v') :
      FilledAs value f v v'
  | left {v : Value} (empty : v.isEmpty = true) (undefaulted : f.descriptor.defaultText = none)
      (optional : f.descriptor.required = false) : FilledAs value f v v

/-- **How filling fails at a field**: it is empty, and its default gives nothing, or it has none and
is required. -/
inductive FailsAs (owner : String) (value : Field → String → Run Value) (f : Field) (v : Value) :
    NoResult BindError → Prop
  | default {text : String} {e : NoResult BindError} (empty : v.isEmpty = true)
      (default : f.descriptor.defaultText = some text)
      (failed : (value f text).outcome = .error e) : FailsAs owner value f v e
  | missing (empty : v.isEmpty = true) (undefaulted : f.descriptor.defaultText = none)
      (required : f.descriptor.required = true) :
      FailsAs owner value f v (.failed (.requiredOptionMissing f.signature owner))

/-- **What filling makes of the contents of fields**, and how it ends. -/
inductive Fills (owner : String) (value : Field → String → Run Value) :
    List Field → List Value → List Value → Outcome BindError Unit → Prop
  | noField {vs : List Value} : Fills owner value [] vs vs (.ok ())
  | noContents {fs : List Field} : Fills owner value fs [] [] (.ok ())
  | next {f : Field} {fs : List Field} {v v' : Value} {vs vs' : List Value}
      {r : Outcome BindError Unit} (filled : FilledAs value f v v')
      (others : Fills owner value fs vs vs' r) :
      Fills owner value (f :: fs) (v :: vs) (v' :: vs') r
  | failed {f : Field} {fs : List Field} {v : Value} {vs : List Value} {text : String}
      {e : NoResult BindError} (empty : v.isEmpty = true)
      (default : f.descriptor.defaultText = some text)
      (failed : (value f text).outcome = .error e) :
      Fills owner value (f :: fs) (v :: vs) (v :: vs) (.error e)
  | missing {f : Field} {fs : List Field} {v : Value} {vs : List Value} (empty : v.isEmpty = true)
      (undefaulted : f.descriptor.defaultText = none) (required : f.descriptor.required = true) :
      Fills owner value (f :: fs) (v :: vs) (v :: vs)
        (.error (.failed (.requiredOptionMissing f.signature owner)))

theorem fillFields_iff {owner : String} {value : Field → String → Run Value} {fs : List Field}
    {vs vs' : List Value} {r : Outcome BindError Unit} :
    (fillFields owner value fs vs).fields = vs' ∧ (fillFields owner value fs vs).run.outcome = r ↔
      Fills owner value fs vs vs' r := by
  constructor
  · rintro ⟨rfl, rfl⟩
    induction fs generalizing vs with
    | nil => exact .noField
    | cons f fs ih =>
      cases vs with
      | nil => exact .noContents
      | cons v vs =>
        rw [fillFields]
        cases empty : v.isEmpty with
        | false => exact .next (.given empty) ih
        | true =>
          simp only [Bool.not_true, Bool.false_eq_true, if_false]
          cases default : f.descriptor.defaultText with
          | none =>
            cases required : f.descriptor.required with
            | true => exact .missing empty default required
            | false => exact .next (.left empty default required) ih
          | some text =>
            simp only [Run.outcome_tell_bind]
            cases made : (value f text).outcome with
            | error e => exact .failed empty default made
            | ok v' => exact .next (.made empty default made) ih
  · intro h
    induction h with
    | noField => exact ⟨rfl, rfl⟩
    | @noContents fs => cases fs <;> exact ⟨rfl, rfl⟩
    | next filled others ih =>
      obtain ⟨rfl, rfl⟩ := ih
      rw [fillFields]
      cases filled with
      | given given => simp [given]
      | made empty default made =>
        simp [-Run.outcome_bind, Run.outcome_tell_bind, empty, default, made]
      | left empty undefaulted optional => simp [empty, undefaulted, optional]
    | failed empty default failed =>
      rw [fillFields]
      simp [-Run.outcome_bind, Run.outcome_tell_bind, empty, default, failed]
    | missing empty undefaulted required =>
      rw [fillFields]
      simp [empty, undefaulted, required]

namespace Fills

variable {owner : String} {value : Field → String → Run Value} {fs : List Field}
  {vs vs' : List Value} {r : Outcome BindError Unit}

theorem unique {vs₁ vs₂ : List Value} {r₁ r₂ : Outcome BindError Unit}
    (h₁ : Fills owner value fs vs vs₁ r₁) (h₂ : Fills owner value fs vs vs₂ r₂) :
    vs₁ = vs₂ ∧ r₁ = r₂ := by
  obtain ⟨rfl, rfl⟩ := fillFields_iff.mpr h₁
  exact fillFields_iff.mpr h₂

theorem length_eq (h : Fills owner value fs vs vs' r) : vs'.length = vs.length := by
  induction h with
  | next filled others ih => simp [ih]
  | _ => rfl

/-- What a field holds afterwards it held before, or it was empty and its default gave it. -/
theorem getElem? (h : Fills owner value fs vs vs' r) {i : Nat} {v' : Value}
    (at' : vs'[i]? = some v') :
    vs[i]? = some v' ∨
      ∃ f v, fs[i]? = some f ∧ vs[i]? = some v ∧ FilledAs value f v v' := by
  induction h generalizing i with
  | next filled others ih =>
    cases i with
    | zero =>
      obtain rfl : _ = v' := by simpa using at'
      exact .inr ⟨_, _, rfl, rfl, filled⟩
    | succ i => exact ih at'
  | _ => exact .inl at'

/-- What is held stays, even if the pass fails. -/
theorem keeps (h : Fills owner value fs vs vs' r) {i : Nat} {v : Value} (held : vs[i]? = some v)
    (given : v.isEmpty = false) : vs'[i]? = some v := by
  have bound : i < vs'.length := by
    rw [h.length_eq]
    exact (List.getElem?_eq_some_iff.mp held).1
  have after : vs'[i]? = some vs'[i] := List.getElem?_eq_getElem bound
  rcases h.getElem? after with before | ⟨f, w, -, before, filled⟩
  · rw [after, ← before, held]
  · obtain rfl := Option.some.inj (held.symm.trans before)
    cases filled with
    | given => exact after
    | made empty => simp [given] at empty
    | left => exact after

/-- After a pass that succeeds every field is filled. -/
theorem filledAs (h : Fills owner value fs vs vs' (.ok ())) {i : Nat} {f : Field} {v : Value}
    (field : fs[i]? = some f) (before : vs[i]? = some v) :
    ∃ v', vs'[i]? = some v' ∧ FilledAs value f v v' := by
  generalize ended : (Except.ok () : Outcome BindError Unit) = r at h
  induction h generalizing i with
  | next filled others ih =>
    cases i with
    | zero =>
      obtain rfl : _ = f := by simpa using field
      obtain rfl : _ = v := by simpa using before
      exact ⟨_, rfl, filled⟩
    | succ i => exact ih field before ended
  | noField => simp at field
  | noContents => simp at before
  | failed => simp at ended
  | missing => simp at ended

/-- Contents from which filling makes the same of a field may stand in its place. -/
theorem set (h : Fills owner value fs vs vs' (.ok ())) {i : Nat} {f : Field} {w v' : Value}
    (field : fs[i]? = some f) (after : vs'[i]? = some v') (filled : FilledAs value f w v') :
    Fills owner value fs (vs.set i w) vs' (.ok ()) := by
  generalize ended : (Except.ok () : Outcome BindError Unit) = r at h
  induction h generalizing i with
  | next filled' others ih =>
    subst ended
    cases i with
    | zero =>
      obtain rfl : _ = f := by simpa using field
      obtain rfl : _ = v' := by simpa using after
      exact .next filled others
    | succ i => exact .next filled' (ih field after rfl)
  | noField => simp at field
  | noContents => simp at after
  | failed => simp at ended
  | missing => simp at ended

/-- **Where a pass fails**: at a field with no contents to be had. The fields before it are filled,
it and the later ones are as before. -/
theorem stops {e : NoResult BindError} (h : Fills owner value fs vs vs' (.error e)) :
    ∃ k f v, fs[k]? = some f ∧ vs[k]? = some v ∧ FailsAs owner value f v e ∧
      (∀ (i : Nat) (g : Field) (w : Value), i < k → fs[i]? = some g → vs[i]? = some w →
        ∃ w', vs'[i]? = some w' ∧ FilledAs value g w w') ∧
      ∀ i, k ≤ i → vs'[i]? = vs[i]? := by
  generalize ended : (Except.error e : Outcome BindError Unit) = r at h
  induction h with
  | noField => simp at ended
  | noContents => simp at ended
  | next filled others ih =>
    obtain ⟨k, f, v, field, before, fails, earlier, later⟩ := ih ended
    refine ⟨k + 1, f, v, field, before, fails, fun i g w lower field before => ?_, fun i le => ?_⟩
    · cases i with
      | zero =>
        obtain rfl := Option.some.inj field
        obtain rfl := Option.some.inj before
        exact ⟨_, rfl, filled⟩
      | succ i => exact earlier i g w (Nat.lt_of_succ_lt_succ lower) field before
    · cases i with
      | zero => exact absurd le (Nat.not_succ_le_zero k)
      | succ i => exact later i (Nat.le_of_succ_le_succ le)
  | failed empty default failed =>
    obtain rfl := Except.error.inj ended
    exact ⟨0, _, _, rfl, rfl, .default empty default failed, by simp, fun _ _ => rfl⟩
  | missing empty undefaulted required =>
    obtain rfl := Except.error.inj ended
    exact ⟨0, _, _, rfl, rfl, .missing empty undefaulted required, by simp, fun _ _ => rfl⟩

/-- A pass fails at a default that gives nothing, or at a field that is missing. -/
theorem error {e : NoResult BindError} (h : Fills owner value fs vs vs' (.error e)) :
    ∃ f ∈ fs, (∃ text, f.descriptor.defaultText = some text ∧ (value f text).outcome = .error e) ∨
      f.descriptor.required = true ∧ f.descriptor.defaultText = none ∧
        e = .failed (.requiredOptionMissing f.signature owner) := by
  obtain ⟨k, f, v, field, -, fails, -⟩ := h.stops
  refine ⟨f, List.mem_of_getElem? field, ?_⟩
  cases fails with
  | default empty default failed => exact .inl ⟨_, default, failed⟩
  | missing empty undefaulted required => exact .inr ⟨required, undefaulted, rfl⟩

/-- Contents that leave nothing to fill stay as they are. -/
theorem refl (h : ∀ (i : Nat) (f : Field) (v : Value), fs[i]? = some f → vs[i]? = some v →
    FilledAs value f v v) :
    Fills owner value fs vs vs (.ok ()) := by
  induction fs generalizing vs with
  | nil => exact .noField
  | cons f fs ih =>
    cases vs with
    | nil => exact .noContents
    | cons v vs =>
      exact .next (h 0 f v rfl rfl) (ih fun i f v field at' => h (i + 1) f v field at')

end Fills

/-! ### Filling again -/

namespace FilledAs

variable {owner : String} {value : Field → String → Run Value} {f : Field} {v v' : Value}

/-- What a field has been filled with, filling makes of it again. -/
theorem again (h : FilledAs value f v v') : FilledAs value f v' v' := by
  cases h with
  | given given => exact .given given
  | made empty default made =>
    cases still : v'.isEmpty with
    | false => exact .given still
    | true => exact .made still default made
  | left empty undefaulted optional => exact .left empty undefaulted optional

/-- Filling does not fail at a field that it fills. -/
theorem not_fails {e : NoResult BindError} (h : FilledAs value f v v') :
    ¬ FailsAs owner value f v e := by
  intro fails
  cases h with
  | given given => cases fails <;> simp_all
  | made empty default made => cases fails <;> simp_all
  | left empty undefaulted optional => cases fails <;> simp_all

end FilledAs

/-- **Filling is idempotent.** -/
theorem Fills.again {owner : String} {value : Field → String → Run Value} {fs : List Field}
    {vs vs' : List Value} (h : Fills owner value fs vs vs' (.ok ())) :
    Fills owner value fs vs' vs' (.ok ()) := by
  refine .refl fun i f v field after => ?_
  obtain ⟨bound, -⟩ := List.getElem?_eq_some_iff.mp after
  have before := List.getElem?_eq_getElem (h.length_eq ▸ bound)
  obtain ⟨v', same, filled⟩ := h.filledAs field before
  obtain rfl := Option.some.inj (after.symm.trans same)
  exact filled.again

theorem Pass.whole_ok_iff {p : Pass Unit} {fields : List Value} :
    p.whole.outcome = .ok fields ↔ p.run.outcome = .ok () ∧ p.fields = fields := by
  unfold whole
  cases p.run.outcome <;> simp [Except.map]

namespace Binder

variable {b : Binder} {owner : String} {f : Field} {t : TypeId} {fields : List Value}

/-- The contents of a field from its default text. -/
def valueOf (b : Binder) (finish : Finish) (owner : String) (f : Field)
    (text : String) : Run Value := do
  return (← b.readContents finish owner f text []).1

theorem valueOf_ok_iff {finish : Finish} {text : String} {v : Value} :
    (b.valueOf finish owner f text).outcome = .ok v ↔
      ∃ n, b.Reads finish f text [] (v, n) := by
  constructor
  · intro h
    obtain ⟨⟨v, n⟩, read, h⟩ := Run.bind_ok_iff.mp h
    obtain rfl := Run.pure_ok_iff.mp h
    exact ⟨n, readContents_ok_iff.mp read⟩
  · rintro ⟨n, read⟩
    exact Run.bind_ok_iff.mpr ⟨_, readContents_ok_iff.mpr read, rfl⟩

theorem completeWith_of_not (finish : Finish)
    (rejected : ¬ b.Accepts t) (fields : List Value) :
    (b.completeWith finish t fields).fields = fields ∧
      (b.completeWith finish t fields).run.outcome ≠ .ok () := by
  unfold completeWith
  cases h : (b.schema t).outcome with
  | error e => simp [h]
  | ok u => exact absurd (schema_ok_iff.mp h) rejected

theorem completeWith_fills (finish : Finish) (accepted : b.Accepts t)
    (fields : List Value) :
    Fills (b.table.recordName t) (b.valueOf finish (b.table.recordName t)) (b.table.fields t) fields
      (b.completeWith finish t fields).fields (b.completeWith finish t fields).run.outcome := by
  refine fillFields_iff.mp ?_
  unfold completeWith
  simp only [schema_ok_iff.mpr accepted]
  exact ⟨rfl, rfl⟩

theorem completeWith_ok_iff {finish : Finish} {fields' : List Value} :
    (b.completeWith finish t fields).run.outcome = .ok () ∧
        (b.completeWith finish t fields).fields = fields' ↔
      b.Accepts t ∧ Fills (b.table.recordName t) (b.valueOf finish (b.table.recordName t))
        (b.table.fields t) fields fields' (.ok ()) := by
  by_cases accepted : b.Accepts t
  · have fills := completeWith_fills finish accepted fields
    constructor
    · rintro ⟨ended, rfl⟩
      exact ⟨accepted, ended ▸ fills⟩
    · rintro ⟨-, other⟩
      exact (fills.unique other).symm
  · have fails := (completeWith_of_not finish accepted fields).2
    simp [accepted, fails]

/-- How the composites that come from defaults are completed, in so many levels. -/
def finishWithin (b : Binder) : (depth : Nat) → Finish
  | 0 => fun _ _ => .endless
  | depth + 1 => fun t fields => (b.completeWithin depth t fields).whole

theorem completeWithin_eq (depth : Nat) :
    b.completeWithin depth t fields = b.completeWith (b.finishWithin depth) t fields := by
  cases depth <;> rfl

/-- How the composites that come from defaults are completed. -/
abbrev finishDefault (b : Binder) : Finish := b.finishWithin b.table.fieldCount

/-- Completing fills the fields in order. -/
theorem complete_fills (accepted : b.Accepts t) (fields : List Value) :
    Fills (b.table.recordName t) (b.valueOf b.finishDefault (b.table.recordName t))
      (b.table.fields t) fields (b.complete t fields).fields
      (b.complete t fields).run.outcome := by
  rw [complete, completeWithin_eq]
  exact completeWith_fills b.finishDefault accepted fields

theorem complete_ok_iff {fields' : List Value} :
    (b.complete t fields).run.outcome = .ok () ∧ (b.complete t fields).fields = fields' ↔
      b.Accepts t ∧ Fills (b.table.recordName t) (b.valueOf b.finishDefault (b.table.recordName t))
        (b.table.fields t) fields fields' (.ok ()) := by
  rw [complete, completeWithin_eq]
  exact completeWith_ok_iff

theorem finish_ok_iff {fields' : List Value} :
    (b.finish t fields).outcome = .ok fields' ↔
      (b.complete t fields).run.outcome = .ok () ∧ (b.complete t fields).fields = fields' :=
  Pass.whole_ok_iff

end Binder

end OptionBinding
