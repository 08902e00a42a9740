import OptionBinding.Proofs.GivenValues
import OptionBinding.Proofs.RememberedChecks
import OptionBinding.Regex.Standard

/-!
# Which types pass their check

The fields of a type pass the check if and only if they are well declared (`WellDeclared`), which is
a property of all of them in no order. Otherwise the error tells of the first field that offends
against what was declared before it, and of its offences the first (`FirstOffence`).

The check comes first in every call. One for a type that does not pass ends there, with this error
and nothing changed. And since the types nested in it are checked when they are come to, too, an
error that rejects an option is always about a type that does not pass
(`Binder.call_rejectsOption`).
-/

namespace OptionBinding

/-- **Fields that can be options**: with names, delimiters and different signatures, where no flag
is required or has a default, and no field is of a shape that can be none. -/
structure WellDeclared (fs : List Field) : Prop where
  named : ∀ f ∈ fs, f.descriptor.name ≠ ""
  delimited : ∀ f ∈ fs, f.descriptor.delimiter ≠ ""
  distinct : (fs.map (·.signature)).Nodup
  unsettled : ∀ f ∈ fs, f.shape = .flag →
    f.descriptor.required = false ∧ f.descriptor.defaultText = none
  valid : ∀ f ∈ fs, ∀ reason, f.shape ≠ .invalid reason
  supported : ∀ f ∈ fs, ∀ typeName, f.shape ≠ .unsupported typeName

/-- What is wrong with the shape of a field, or with its being a flag. -/
inductive Field.Misshapen (owner : String) (f : Field) : BindError → Prop
  | settled (flag : f.shape = .flag)
      (needs : f.descriptor.required = true ∨ f.descriptor.defaultText ≠ none) :
      Misshapen owner f (.invalidDescriptor f.signature owner .settledFlag)
  | invalid {reason : String} (shape : f.shape = .invalid reason) :
      Misshapen owner f (.invalidDescriptor f.signature owner (.rejected reason))
  | unsupported {typeName : String} (shape : f.shape = .unsupported typeName) :
      Misshapen owner f (.unsupportedCollection f.signature owner typeName)

/-- **The offence of a field** that is declared after others: of the tests in this order the first
that it fails. -/
inductive Field.Offends (owner : String) (before : List Field) (f : Field) : BindError → Prop
  | unnamed (name : f.descriptor.name = "") :
      Offends owner before f (.invalidDescriptor f.signature owner .emptyName)
  | undelimited (name : f.descriptor.name ≠ "") (delimiter : f.descriptor.delimiter = "") :
      Offends owner before f (.invalidDescriptor f.signature owner .emptyDelimiter)
  | repeated (name : f.descriptor.name ≠ "") (delimiter : f.descriptor.delimiter ≠ "")
      {g : Field} (earlier : g ∈ before) (same : g.signature = f.signature) :
      Offends owner before f (.invalidDescriptor f.signature owner .repeated)
  | misshapen (name : f.descriptor.name ≠ "") (delimiter : f.descriptor.delimiter ≠ "")
      (new : ∀ g ∈ before, g.signature ≠ f.signature) {e : BindError}
      (fault : f.Misshapen owner e) : Offends owner before f e

/-- **The first offence** in the order of declaration: the fields before it are well declared. -/
def FirstOffence (owner : String) (fs : List Field) (e : BindError) : Prop :=
  ∃ before f after, fs = before ++ f :: after ∧ WellDeclared before ∧ f.Offends owner before e

/-- The error rejects an option of the type with the given name. -/
inductive BindError.RejectsOption (owner : String) : BindError → Prop
  | descriptor (option : String) (fault : DescriptorFault) :
      RejectsOption owner (.invalidDescriptor option owner fault)
  | collection (option typeName : String) :
      RejectsOption owner (.unsupportedCollection option owner typeName)

variable {owner : String} {f : Field} {fs before : List Field} {seen : List String} {e : BindError}

/-! ### One field -/

namespace Field

theorem shapeFault?_eq_some_iff : f.shapeFault? owner = some e ↔ f.Misshapen owner e := by
  constructor
  · intro h
    unfold shapeFault? at h
    split at h
    · next shape =>
      split at h
      · next needs =>
        obtain rfl := Option.some.inj h
        exact .settled shape (by simpa [Option.isSome_iff_ne_none] using needs)
      · cases h
    · next reason shape =>
      obtain rfl := Option.some.inj h
      exact .invalid shape
    · next typeName shape =>
      obtain rfl := Option.some.inj h
      exact .unsupported shape
    · cases h
    · cases h
  · intro h
    cases h with
    | settled flag needs =>
      have needs' : (f.descriptor.required || f.descriptor.defaultText.isSome) = true := by
        simpa [Option.isSome_iff_ne_none] using needs
      simp only [shapeFault?, flag, needs', if_true]
    | invalid shape => simp only [shapeFault?, shape]
    | unsupported shape => simp only [shapeFault?, shape]

theorem shapeFault?_eq_none_iff : f.shapeFault? owner = none ↔
    (f.shape = .flag → f.descriptor.required = false ∧ f.descriptor.defaultText = none) ∧
      (∀ reason, f.shape ≠ .invalid reason) ∧ ∀ typeName, f.shape ≠ .unsupported typeName := by
  unfold shapeFault?
  cases shape : f.shape <;> simp [not_or]

theorem fault?_eq_some_iff (earlier : ∀ s, s ∈ seen ↔ ∃ g ∈ before, g.signature = s) :
    f.fault? owner seen = some e ↔ f.Offends owner before e := by
  unfold fault?
  constructor
  · intro h
    split at h
    · next name =>
      obtain rfl := Option.some.inj h
      exact .unnamed name
    next name =>
    split at h
    · next delimiter =>
      obtain rfl := Option.some.inj h
      exact .undelimited name delimiter
    next delimiter =>
    split at h
    · next repeated =>
      obtain rfl := Option.some.inj h
      obtain ⟨g, mem, same⟩ := (earlier _).mp repeated
      exact .repeated name delimiter mem same
    · next new =>
      refine .misshapen name delimiter (fun g mem same => new ?_) (shapeFault?_eq_some_iff.mp h)
      exact (earlier _).mpr ⟨g, mem, same⟩
  · intro h
    cases h with
    | unnamed name => rw [if_pos name]
    | undelimited name delimiter => rw [if_neg name, if_pos delimiter]
    | repeated name delimiter mem same =>
      rw [if_neg name, if_neg delimiter, if_pos ((earlier _).mpr ⟨_, mem, same⟩)]
    | misshapen name delimiter new fault =>
      have fresh : f.signature ∉ seen := fun mem => by
        obtain ⟨g, among, same⟩ := (earlier _).mp mem
        exact new g among same
      rw [if_neg name, if_neg delimiter, if_neg fresh, shapeFault?_eq_some_iff.mpr fault]

end Field

/-! ### All fields -/

theorem schemaFault?_eq_none_iff : schemaFault? owner seen fs = none ↔
    WellDeclared fs ∧ ∀ f ∈ fs, f.signature ∉ seen := by
  constructor
  · intro sound
    have each : ∀ f ∈ fs, f.descriptor.name ≠ "" ∧ f.descriptor.delimiter ≠ "" ∧
        f.shapeFault? owner = none := fun f mem => by
      obtain ⟨earlier, passed⟩ := fault?_of_schemaFault? sound mem
      obtain ⟨named, delimited, -, shape⟩ := Field.fault?_eq_none_iff.mp passed
      exact ⟨named, delimited, shape⟩
    obtain ⟨distinct, new⟩ := nodup_of_schemaFault? sound
    have shapes := fun f mem => Field.shapeFault?_eq_none_iff.mp (each f mem).2.2
    exact ⟨⟨fun f mem => (each f mem).1, fun f mem => (each f mem).2.1, distinct,
      fun f mem => (shapes f mem).1, fun f mem => (shapes f mem).2.1,
      fun f mem => (shapes f mem).2.2⟩, new⟩
  · rintro ⟨declared, new⟩
    induction fs generalizing seen with
    | nil => rfl
    | cons f fs ih =>
      have mem : f ∈ f :: fs := List.mem_cons_self
      have shape : f.shapeFault? owner = none := Field.shapeFault?_eq_none_iff.mpr
        ⟨declared.unsettled f mem, declared.valid f mem, declared.supported f mem⟩
      have passed : f.fault? owner seen = none := Field.fault?_eq_none_iff.mpr
        ⟨declared.named f mem, declared.delimited f mem, new f mem, shape⟩
      obtain ⟨fresh, distinct⟩ := List.nodup_cons.mp declared.distinct
      have rest : WellDeclared fs :=
        ⟨fun g mem => declared.named g (.tail f mem),
          fun g mem => declared.delimited g (.tail f mem), distinct,
          fun g mem => declared.unsettled g (.tail f mem),
          fun g mem => declared.valid g (.tail f mem),
          fun g mem => declared.supported g (.tail f mem)⟩
      rw [schemaFault?, passed]
      refine ih rest fun g mem => ?_
      rw [List.mem_cons, not_or]
      exact ⟨fun same => fresh (List.mem_map.mpr ⟨g, mem, same⟩), new g (.tail f mem)⟩

/-- The fault that is reported is that of the first field with one. -/
theorem schemaFault?_eq_some_iff : schemaFault? owner seen fs = some e ↔
    ∃ before f after, fs = before ++ f :: after ∧ schemaFault? owner seen before = none ∧
      f.fault? owner ((before.map (·.signature)).reverse ++ seen) = some e := by
  induction fs generalizing seen with
  | nil => simp [schemaFault?]
  | cons g fs ih =>
    rw [schemaFault?]
    constructor
    · intro h
      split at h
      · next e' faulty =>
        obtain rfl := Option.some.inj h
        exact ⟨[], g, fs, rfl, rfl, faulty⟩
      · next passed =>
        obtain ⟨before, f, after, rfl, sound, faulty⟩ := ih.mp h
        exact ⟨g :: before, f, after, rfl, by rw [schemaFault?, passed]; exact sound,
          by simpa using faulty⟩
    · rintro ⟨before, f, after, split, sound, faulty⟩
      cases before with
      | nil =>
        obtain ⟨rfl, rfl⟩ := List.cons.inj split
        rw [show g.fault? owner seen = some e from faulty]
      | cons h before =>
        obtain ⟨rfl, rfl⟩ := List.cons.inj split
        rw [schemaFault?] at sound
        cases passed : g.fault? owner seen with
        | some e' => simp [passed] at sound
        | none =>
          rw [passed] at sound
          exact ih.mpr ⟨before, f, after, rfl, sound, by simpa using faulty⟩

namespace TypeTable

variable {table : TypeTable} {t : TypeId}

/-- **Which types pass.** -/
theorem fault?_eq_none_iff : table.fault? t = none ↔ WellDeclared (table.fields t) := by
  rw [fault?, schemaFault?_eq_none_iff]
  simp

/-- **What is reported of the others.** -/
theorem fault?_eq_some_iff : table.fault? t = some e ↔
    FirstOffence (table.recordName t) (table.fields t) e := by
  rw [fault?, schemaFault?_eq_some_iff]
  refine exists_congr fun before => exists_congr fun f => exists_congr fun after =>
    and_congr_right fun _ => and_congr ?_ (Field.fault?_eq_some_iff ?_)
  · rw [schemaFault?_eq_none_iff]
    simp
  · simp [eq_comm]

end TypeTable

namespace Binder

variable {b : Binder} {t : TypeId} {fields : List Value} {args tokens rest : List String}
  {index : Nat} {root : Descriptor} {token : String} {stop : NoResult BindError}

/-! ### Calls -/

theorem schema_of_fault (new : t ∉ b.checked) (fault : b.table.fault? t = some e) :
    (b.schema t).outcome = .error (.failed e) := by
  unfold schema
  rw [if_neg new, fault]
  rfl

/-- **Nothing is bound** to a type that is rejected. -/
theorem bindAndComplete_of_rejected (fields : List Value) (tokens : List String)
    (rejected : (b.schema t).outcome = .error stop) :
    (b.bindAndComplete t fields tokens).run.outcome = .error stop ∧
      (b.bindAndComplete t fields tokens).fields = fields := by
  have failed : (b.bindFields t fields tokens).run.outcome = .error stop :=
    bindFields_error_iff.mpr (.inl rejected)
  rw [bindAndComplete_of_error failed]
  refine ⟨failed, bindFields_fields_of_not (fun accepted => ?_) fields⟩
  simp [schema_ok_iff.mpr accepted] at rejected

theorem withRoot_of_error {p : Pass Nat} {signature : String}
    (failed : p.run.outcome = .error stop) :
    withRoot signature p = p := by
  unfold withRoot
  rw [failed]

theorem parseArgument_of_rejected (rejected : (b.schema t).outcome = .error stop)
    (rooted : b.table.root? t = some root) (split : args.drop index = token :: rest)
    (opened : Text.trim token = root.signature) :
    (b.parseArgument t fields args index).outcome = .error stop ∧
      (b.parseArgument t fields args index).fields = fields := by
  have stops := bindAndComplete_of_rejected fields rest rejected
  rw [parseArgument_of_opened fields rooted split opened, withRoot_of_error stops.1]
  exact stops

theorem bindAndComplete_failsOnly (t : TypeId) (fields : List Value) (tokens : List String) :
    (b.bindAndComplete t fields tokens).run.FailsOnly (b.Explained t tokens) := by
  intro e failed
  rcases bindAndComplete_error_iff.mp failed with failed | ⟨n, -, failed⟩
  · exact bindFields_failsOnly (b.explainedBelow _) t _ (Nat.le_refl _) e failed
  · exact complete_failsOnly t _ e failed

end Binder

/-- The type that a call is for. -/
def Call.type : Call → TypeId
  | bind t _ _ => t
  | bindInto t _ _ _ => t
  | parseArgument t _ _ _ => t

namespace Binder

variable {b : Binder} {t : TypeId} {c : Call}

/-- **Every error of a call has its cause** with a field of its type or of a type nested in it. -/
theorem call_explained {stop : NoResult BindError} (h : (b.call c).outcome = .error stop) :
    ∃ tokens, b.Explained c.type tokens stop := by
  cases c with
  | bind t args start => exact ⟨_, bindAndComplete_failsOnly t _ _ stop h⟩
  | bindInto t fields args start => exact ⟨_, bindAndComplete_failsOnly t fields _ stop h⟩
  | parseArgument t fields args index =>
    have ended : (b.pass (.parseArgument t fields args index)).run.outcome = .error stop := by
      rw [call_eq_settle] at h
      exact h
    unfold pass at ended
    dsimp only at ended
    split at ended
    · next root token rest rooted split =>
      split at ended
      · refine ⟨rest, bindAndComplete_failsOnly t fields rest stop ?_⟩
        cases outcome : (b.bindAndComplete t fields rest).run.outcome with
        | error e' => rwa [withRoot_of_error outcome, outcome] at ended
        | ok n => simp [withRoot, outcome] at ended
      · simp at ended
    · simp at ended

/-- **An error that rejects an option** is about a type that does not pass its check, the type of
the call or one that is nested in it. -/
theorem call_rejectsOption (h : (b.call c).outcome = .error (.failed e))
    (rejects : e.RejectsOption owner) :
    ∃ u, Relation.ReflTransGen b.table.Nests c.type u ∧ b.table.recordName u = owner ∧
      ¬ WellDeclared (b.table.fields u) := by
  obtain ⟨tokens, u, f, reaches, -, cause⟩ := call_explained h
  refine ⟨u, reaches, ?_⟩
  cases cause with
  | rejected names fails =>
    rw [Ne, TypeTable.fault?_eq_none_iff] at fails
    cases names <;> cases rejects <;> exact ⟨rfl, fails⟩
  | _ => cases rejects

/-- What a binder remembers after calls has passed its check, so no type is let through
unchecked. -/
theorem after_passed (table : TypeTable) (registry : Registry) (calls : List Call) :
    let b := (⟨table, registry, []⟩ : Binder).after calls
    b.table = table ∧ ∀ u ∈ b.checked, b.table.fault? u = none := by
  intro b
  obtain ⟨types, remembered, -, passed⟩ := (⟨table, registry, []⟩ : Binder).after_later calls
  have same : b.table = table := congrArg Binder.table remembered
  obtain rfl : b.checked = types := congrArg Binder.checked remembered
  refine ⟨same, fun u mem => ?_⟩
  rw [same]
  exact (passed u mem).resolve_left List.not_mem_nil

section

variable (passed : ∀ u ∈ b.checked, b.table.fault? u = none)

include passed

theorem schema_ok_iff_wellDeclared :
    (b.schema t).outcome = .ok () ↔ WellDeclared (b.table.fields t) := by
  rw [schema_ok_iff, ← TypeTable.fault?_eq_none_iff, Accepts]
  exact or_iff_right_of_imp (passed t)

theorem schema_error_iff_firstOffence : (b.schema t).outcome = .error (.failed e) ↔
    FirstOffence (b.table.recordName t) (b.table.fields t) e := by
  rw [← TypeTable.fault?_eq_some_iff]
  cases fault : b.table.fault? t with
  | none =>
    have accepted := (schema_ok_iff_wellDeclared passed).mpr (TypeTable.fault?_eq_none_iff.mp fault)
    simp [accepted]
  | some e' =>
    have new : t ∉ b.checked := fun mem => by simp [passed t mem] at fault
    simp [schema_of_fault new fault]

end

/-- **What the check of a type decides**, for a binder that any calls were made with. Exactly the
types whose fields are well declared pass; of the others the first offence is reported. A call for a
type that does not pass, if its root option is there or none is needed, ends with this error, and
changes nothing. If a call ends with an error that rejects an option then this is an option of a
type that does not pass; it is never one of a type that does, if no other one has its name. -/
theorem schema_decides (table : TypeTable) (registry : Registry) (calls : List Call) (t : TypeId) :
    let b := (⟨table, registry, []⟩ : Binder).after calls
    let owner := table.recordName t
    let fs := table.fields t
    ((b.schema t).outcome = .ok () ↔ WellDeclared fs) ∧
      (∀ e, (b.schema t).outcome = .error (.failed e) ↔ FirstOffence owner fs e) ∧
      (∀ e, FirstOffence owner fs e →
        (∀ args start, (b.bind t args start).outcome = .error (.failed e) ∧
          (b.bind t args start).fields = table.fresh t) ∧
        (∀ fields args start, (b.bindInto t fields args start).outcome = .error (.failed e) ∧
          (b.bindInto t fields args start).fields = fields) ∧
        ∀ fields args index root token rest, table.root? t = some root →
          args.drop index = token :: rest → Text.trim token = root.signature →
            (b.parseArgument t fields args index).outcome = .error (.failed e) ∧
              (b.parseArgument t fields args index).fields = fields) ∧
      (∀ c e name, (b.call c).outcome = .error (.failed e) → e.RejectsOption name →
        ∃ u, Relation.ReflTransGen table.Nests c.type u ∧ table.recordName u = name ∧
          ¬ WellDeclared (table.fields u)) ∧
      (WellDeclared fs → (∀ u, table.recordName u = owner → u = t) →
        ∀ c e, (b.call c).outcome = .error (.failed e) → ¬ e.RejectsOption owner) := by
  intro b owner fs
  obtain ⟨same, passed⟩ : b.table = table ∧ ∀ u ∈ b.checked, b.table.fault? u = none :=
    after_passed table registry calls
  have rejected : ∀ e, (b.schema t).outcome = .error (.failed e) ↔ FirstOffence owner fs e := by
    intro e
    rw [schema_error_iff_firstOffence passed, same]
  have about : ∀ c e name, (b.call c).outcome = .error (.failed e) → e.RejectsOption name →
      ∃ u, Relation.ReflTransGen table.Nests c.type u ∧ table.recordName u = name ∧
        ¬ WellDeclared (table.fields u) := fun c e name failed rejects => by
    simpa only [same] using call_rejectsOption failed rejects
  refine ⟨?_, rejected, fun e offence => ?_, about, ?_⟩
  · rw [schema_ok_iff_wellDeclared passed, same]
  · have stops := (rejected e).mpr offence
    refine ⟨fun args start => ?_,
      fun fields args start => bindAndComplete_of_rejected _ _ stops, ?_⟩
    · rw [← same]
      exact bindAndComplete_of_rejected _ _ stops
    · intro fields args index root token rest rooted split opened
      exact parseArgument_of_rejected stops (by rw [same, rooted]) split opened
  · intro declared named c e failed rejects
    obtain ⟨u, -, bears, flawed⟩ := about c e owner failed rejects
    obtain rfl : u = t := named u bears
    exact flawed declared

/-- A type whose second field has no name, no delimiter, and the signature of the first. -/
def flawedTable : TypeTable :=
  [{ fullName := "Flawed", shortName := "Flawed",
     fields :=
      [{ descriptor := { name := "a" }, shape := .single (.scalar .text) },
       { descriptor := { name := "", lead := "-a", delimiter := "" }, shape := .flag }] }]

/-- The missing name is reported, although the first field is given rightly. -/
theorem schema_decides_flawed :
    FirstOffence "Flawed" (flawedTable.fields 0) (.invalidDescriptor "-a" "Flawed" .emptyName) ∧
      ((⟨flawedTable, .builtin, []⟩ : Binder).bind 0 ["-a=x"] 0).outcome =
        .error (.failed (.invalidDescriptor "-a" "Flawed" .emptyName)) := by
  have offence : FirstOffence "Flawed" (flawedTable.fields 0)
      (.invalidDescriptor "-a" "Flawed" .emptyName) :=
    TypeTable.fault?_eq_some_iff.mp (by decide +kernel)
  exact ⟨offence, (((schema_decides flawedTable .builtin [] 0).2.2.1 _ offence).1 ["-a=x"] 0).1⟩

end Binder

end OptionBinding
