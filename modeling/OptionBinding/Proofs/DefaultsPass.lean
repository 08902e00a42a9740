import OptionBinding.Proofs.GivenDefaults
import OptionBinding.Proofs.Typing

/-!
# The defaults pass, field by field

Completing a composite goes through its fields in order. What it makes of a field depends on this
field alone (`Binder.DefaultedAs`): contents that are there stay, an empty field takes what its
default makes (`Binder.DefaultMakes`), and one that has no default stays empty if it is not
required. The pass fails at the first field for which there is nothing to take (`Binder.StopsAt`),
and leaves that field and the later ones alone. So it says exactly what the fields hold afterwards,
and a second pass changes nothing (`Binder.complete_exact`).
-/

namespace OptionBinding

namespace Binder

variable {b : Binder} {t : TypeId} {f : Field} {v v' : Value} {owner text : String}
  {e : NoResult BindError}

/-- **A single value that a text is converted to**: what its parser makes of it, with its own
defaults applied if it is a composite. -/
inductive Converts (b : Binder) (d : Descriptor) (text : String) : Element → Value → Prop
  | scalar {type : ScalarType} {v : Value}
      (parsed : b.registry.parse b.table d (.single (.scalar type)) text = .ok v) :
      Converts b d text (.scalar type) v
  | composite {u : TypeId} {us : List Value}
      (parsed : b.registry.parse b.table d (.single (.composite u)) text = .ok (.composite us))
      (completed : (b.complete u us).run.outcome = .ok ()) :
      Converts b d text (.composite u) (.composite (b.complete u us).fields)

/-- **What the default text of a field makes**: a single value, a whole collection, if there is a
parser for it, or else a collection with one element. A default that is needed again to complete
what it makes, makes nothing. -/
inductive DefaultMakes (b : Binder) (f : Field) (text : String) : Value → Prop
  | flag {v : Value} (shape : f.shape = .flag)
      (converts : b.Converts f.descriptor text (.scalar .bool) v) : DefaultMakes b f text v
  | single {e : Element} {v : Value} (shape : f.shape = .single e)
      (converts : b.Converts f.descriptor text e v) : DefaultMakes b f text v
  | whole {c : Container} {e : Element} {v : Value} (shape : f.shape = .collection c e)
      (resolves : b.registry.canParse f.descriptor (.collection c e) = true)
      (parsed : b.registry.parse b.table f.descriptor (.collection c e) text = .ok v) :
      DefaultMakes b f text v
  | element {c : Container} {e : Element} {v : Value} (shape : f.shape = .collection c e)
      (unresolved : b.registry.canParse f.descriptor (.collection c e) = false)
      (converts : b.Converts f.descriptor text e v) : DefaultMakes b f text (.items [v])

/-- **What the pass makes of the contents of a field**, unless it fails at the field. -/
inductive DefaultedAs (b : Binder) (f : Field) : Value → Value → Prop
  | given {v : Value} (given : v.isEmpty = false) : DefaultedAs b f v v
  | made {v v' : Value} {text : String} (empty : v.isEmpty = true)
      (default : f.descriptor.defaultText = some text) (makes : b.DefaultMakes f text v') :
      DefaultedAs b f v v'
  | left {v : Value} (empty : v.isEmpty = true) (undefaulted : f.descriptor.defaultText = none)
      (optional : f.descriptor.required = false) : DefaultedAs b f v v

/-- **How the pass fails at a field**: it is empty, and required without a default, or its default
makes nothing. -/
inductive FallsShort (b : Binder) (owner : String) (f : Field) (v : Value) :
    NoResult BindError → Prop
  | missing (empty : v.isEmpty = true) (undefaulted : f.descriptor.defaultText = none)
      (required : f.descriptor.required = true) :
      FallsShort b owner f v (.failed (.requiredOptionMissing f.signature owner))
  | unmade {text : String} {e : NoResult BindError} (empty : v.isEmpty = true)
      (default : f.descriptor.defaultText = some text) (unmade : ∀ v', ¬ b.DefaultMakes f text v')
      (failed : (b.valueOf b.finishDefault owner f text).outcome = .error e) :
      FallsShort b owner f v e

/-- **The first field at which the pass fails**, among fields with the given contents. -/
structure StopsAt (b : Binder) (t : TypeId) (fields : List Value) (k : Nat)
    (e : NoResult BindError) : Prop where
  here : ∃ f v, (b.table.fields t)[k]? = some f ∧ fields[k]? = some v ∧
    b.FallsShort (b.table.recordName t) f v e
  first : ∀ i < k, ∀ f v e', (b.table.fields t)[i]? = some f → fields[i]? = some v →
    ¬ b.FallsShort (b.table.recordName t) f v e'

/-- **What the pass makes of the fields before a place.** -/
def DefaultedBefore (b : Binder) (t : TypeId) (k : Nat) (fields fields' : List Value) : Prop :=
  ∀ i < k, ∀ f v, (b.table.fields t)[i]? = some f → fields[i]? = some v →
    ∃ v', fields'[i]? = some v' ∧ b.DefaultedAs f v v'

/-! ### Default texts -/

/-- A container with one element. -/
theorem ofElements_single (c : Container) (x : Value) : c.ofElements [x] = .items [x] := by
  cases c <;> rfl

section Typed

variable (typed : b.registry.Typed b.table)
include typed

theorem readElement_ok_iff {d : Descriptor} {element : Element} :
    (b.readElement b.finish d element text).outcome = .ok v ↔ b.Converts d text element v := by
  constructor
  · intro h
    obtain ⟨v₀, parsed, h⟩ := Run.bind_ok_iff.mp h
    have parsed : b.registry.parse b.table d (.single element) text = .ok v₀ :=
      parse_ok_iff.mp parsed
    cases element with
    | scalar type =>
      obtain ⟨s, rfl⟩ : v₀.Fits b.table (.scalar type) := typed.parse parsed
      obtain rfl := Run.pure_ok_iff.mp h
      exact .scalar parsed
    | composite u =>
      obtain ⟨us, rfl, -⟩ : v₀.Fits b.table (.composite u) := typed.parse parsed
      obtain ⟨us', finished, h⟩ := Run.bind_ok_iff.mp h
      obtain rfl := Run.pure_ok_iff.mp h
      obtain ⟨completed, rfl⟩ := finish_ok_iff.mp finished
      exact .composite parsed completed
  · intro h
    cases h with
    | scalar parsed => exact Run.bind_ok_iff.mpr ⟨v, parse_ok_iff.mpr parsed, rfl⟩
    | composite parsed completed =>
      refine Run.bind_ok_iff.mpr ⟨_, parse_ok_iff.mpr parsed, Run.bind_ok_iff.mpr ⟨_, ?_, rfl⟩⟩
      exact finish_ok_iff.mpr ⟨completed, rfl⟩

/-- **What is read from a text alone** is what a default of this text makes. -/
theorem reads_alone_iff :
    (∃ n, b.Reads b.finish f text [] (v, n)) ↔ b.DefaultMakes f text v := by
  constructor
  · rintro ⟨n, read⟩
    cases read with
    | flag shape parsed => exact .flag shape (.scalar parsed)
    | single shape read => exact .single shape ((readElement_ok_iff typed).mp read)
    | whole shape resolves parsed => exact .whole shape resolves parsed
    | @elements c _ vs shape unresolved read =>
      obtain ⟨x, first, h⟩ := Run.bind_ok_iff.mp read
      obtain ⟨others, none, h⟩ := Run.bind_ok_iff.mp h
      obtain rfl := Run.pure_ok_iff.mp none
      obtain rfl := Run.pure_ok_iff.mp h
      rw [ofElements_single]
      exact .element shape unresolved ((readElement_ok_iff typed).mp first)
  · intro makes
    cases makes with
    | flag shape converts =>
      cases converts with
      | scalar parsed => exact ⟨0, .flag shape parsed⟩
    | single shape converts => exact ⟨0, .single shape ((readElement_ok_iff typed).mpr converts)⟩
    | whole shape resolves parsed => exact ⟨0, .whole shape resolves parsed⟩
    | @element c _ x shape unresolved converts =>
      have first := (readElement_ok_iff typed).mpr converts
      rw [← ofElements_single c]
      refine ⟨0, .elements shape unresolved (Run.bind_ok_iff.mpr ⟨x, first, ?_⟩)⟩
      exact Run.bind_ok_iff.mpr ⟨[], rfl, rfl⟩

variable (known : f ∈ b.table.fields t)
include known

/-- A default makes what completing takes from it. -/
theorem valueOf_ok_iff_makes (default : f.descriptor.defaultText = some text) :
    (b.valueOf b.finishDefault owner f text).outcome = .ok v ↔ b.DefaultMakes f text v := by
  rw [valueOf_finishDefault_iff default,
    defaultGives_iff_finish default (TypeTable.mem_allFields known), reads_alone_iff typed]

theorem filledAs_iff :
    FilledAs (b.valueOf b.finishDefault owner) f v v' ↔ b.DefaultedAs f v v' := by
  constructor
  · intro filled
    cases filled with
    | given given => exact .given given
    | made empty default made =>
      exact .made empty default ((valueOf_ok_iff_makes typed known default).mp made)
    | left empty undefaulted optional => exact .left empty undefaulted optional
  · intro filled
    cases filled with
    | given given => exact .given given
    | made empty default makes =>
      exact .made empty default ((valueOf_ok_iff_makes typed known default).mpr makes)
    | left empty undefaulted optional => exact .left empty undefaulted optional

theorem failsAs_iff :
    FailsAs owner (b.valueOf b.finishDefault owner) f v e ↔ b.FallsShort owner f v e := by
  constructor
  · intro fails
    cases fails with
    | default empty default failed =>
      refine .unmade empty default (fun v' makes => ?_) failed
      rw [(valueOf_ok_iff_makes typed known default).mpr makes] at failed
      cases failed
    | missing empty undefaulted required => exact .missing empty undefaulted required
  · intro short
    cases short with
    | missing empty undefaulted required => exact .missing empty undefaulted required
    | unmade empty default unmade failed => exact .default empty default failed

end Typed

/-! ### Where the pass fails -/

theorem FallsShort.unique {e' : NoResult BindError} (h : b.FallsShort owner f v e)
    (h' : b.FallsShort owner f v e') : e = e' := by
  cases h with
  | missing empty undefaulted required =>
    cases h' with
    | missing => rfl
    | unmade empty default => simp [undefaulted] at default
  | unmade empty default unmade failed =>
    cases h' with
    | missing empty undefaulted => simp [default] at undefaulted
    | unmade empty default' unmade failed' =>
      obtain rfl := Option.some.inj (default.symm.trans default')
      exact Except.error.inj (failed.symm.trans failed')

theorem StopsAt.unique {fields : List Value} {k k' : Nat} {e' : NoResult BindError}
    (h : b.StopsAt t fields k e) (h' : b.StopsAt t fields k' e') : k = k' ∧ e = e' := by
  obtain ⟨f, v, field, at', short⟩ := h.here
  obtain ⟨f', v', field', at'', short'⟩ := h'.here
  rcases Nat.lt_trichotomy k k' with lower | rfl | higher
  · exact absurd short (h'.first k lower f v e field at')
  · obtain rfl := Option.some.inj (field.symm.trans field')
    obtain rfl := Option.some.inj (at'.symm.trans at'')
    exact ⟨rfl, short.unique short'⟩
  · exact absurd short' (h.first k' higher f' v' e' field' at'')

section Typed

variable (typed : b.registry.Typed b.table) (accepted : b.Accepts t) {fields : List Value}
include typed accepted

/-- **A pass that succeeds.** -/
theorem complete_ok (ended : (b.complete t fields).run.outcome = .ok ()) :
    b.DefaultedBefore t (b.table.fields t).length fields (b.complete t fields).fields := by
  have fills := complete_fills accepted fields
  rw [ended] at fills
  intro i _ f v field before
  obtain ⟨v', after, filled⟩ := fills.filledAs field before
  exact ⟨v', after, (filledAs_iff typed (List.mem_of_getElem? field)).mp filled⟩

/-- **A pass that fails.** -/
theorem complete_error (ended : (b.complete t fields).run.outcome = .error e) :
    ∃ k, b.StopsAt t fields k e ∧ b.DefaultedBefore t k fields (b.complete t fields).fields ∧
      ∀ i, k ≤ i → (b.complete t fields).fields[i]? = fields[i]? := by
  have fills := complete_fills accepted fields
  rw [ended] at fills
  obtain ⟨k, f, v, field, before, fails, earlier, later⟩ := fills.stops
  refine ⟨k, ⟨⟨f, v, field, before, ?_⟩, ?_⟩, ?_, later⟩
  · exact (failsAs_iff typed (List.mem_of_getElem? field)).mp fails
  · intro i lower g w e' field before short
    obtain ⟨w', -, filled⟩ := earlier i g w lower field before
    exact filled.not_fails ((failsAs_iff typed (List.mem_of_getElem? field)).mpr short)
  · intro i lower g w field before
    obtain ⟨w', after, filled⟩ := earlier i g w lower field before
    exact ⟨w', after, (filledAs_iff typed (List.mem_of_getElem? field)).mp filled⟩

/-- **The pass fails if and only if there is a field for which there is nothing to take.** -/
theorem complete_error_iff :
    (b.complete t fields).run.outcome = .error e ↔ ∃ k, b.StopsAt t fields k e := by
  constructor
  · intro ended
    obtain ⟨k, stops, -⟩ := complete_error typed accepted ended
    exact ⟨k, stops⟩
  · rintro ⟨k, stops⟩
    cases ended : (b.complete t fields).run.outcome with
    | error e' =>
      obtain ⟨k', stops', -⟩ := complete_error typed accepted ended
      rw [(stops.unique stops').2]
    | ok u =>
      obtain ⟨f, v, field, before, short⟩ := stops.here
      have fills := complete_fills accepted fields
      rw [ended] at fills
      obtain ⟨v', -, filled⟩ := fills.filledAs field before
      exact absurd ((failsAs_iff typed (List.mem_of_getElem? field)).mpr short) filled.not_fails

/-- **The defaults pass is exact and idempotent.** If it succeeds, every field holds what it held,
or, if it was empty and has a default, what its default makes; no other field that was empty is
required; and a second pass succeeds and changes nothing. It fails if and only if there is a field
that is empty and required without a default, or whose default makes nothing. Then it ends at the
first one: the fields before it are as if it had succeeded, it and the later ones are as they were.
-/
theorem complete_exact (fields : List Value) :
    ((b.complete t fields).run.outcome = .ok () →
        b.DefaultedBefore t (b.table.fields t).length fields (b.complete t fields).fields ∧
        (b.complete t (b.complete t fields).fields).run.outcome = .ok () ∧
        (b.complete t (b.complete t fields).fields).fields = (b.complete t fields).fields) ∧
      (∀ e, (b.complete t fields).run.outcome = .error e ↔ ∃ k, b.StopsAt t fields k e) ∧
      ∀ k e, b.StopsAt t fields k e →
        b.DefaultedBefore t k fields (b.complete t fields).fields ∧
        ∀ i, k ≤ i → (b.complete t fields).fields[i]? = fields[i]? := by
  refine ⟨fun ended => ⟨complete_ok typed accepted ended, ?_⟩,
    fun e => complete_error_iff typed accepted, fun k e stops => ?_⟩
  · exact complete_ok_iff.mpr ⟨accepted, (complete_ok_iff.mp ⟨ended, rfl⟩).2.again⟩
  · have ended := (complete_error_iff typed accepted).mpr ⟨k, stops⟩
    obtain ⟨k', stops', frame⟩ := complete_error typed accepted ended
    obtain ⟨rfl, -⟩ := stops.unique stops'
    exact frame

end Typed

theorem treeBinder_typed : treeBinder.registry.Typed treeBinder.table := by
  intro p mem
  have cases : p = ScalarType.text.parser ∨ p = leafParser := by
    simpa [Registry.parsers, treeBinder] using mem
  rcases cases with rfl | rfl
  · exact Registry.typed_scalarParser _
  · rintro option text v ⟨rfl⟩
    exact ⟨_, rfl, rfl⟩

/-- A named tree without leaves gets its marked leaf, and does not change any more. A leaf without a
name is not completed: its name stays unset, and so does its mark. -/
theorem complete_exact_tree :
    treeBinder.registry.Typed treeBinder.table ∧ treeBinder.Accepts 0 ∧ treeBinder.Accepts 1 ∧
      (treeBinder.complete 0 [.scalar (.text "r"), .items []]).fields = defaultTree ∧
      (treeBinder.complete 0 defaultTree).run.outcome = .ok () ∧
      (treeBinder.complete 0 defaultTree).fields = defaultTree ∧
      (∃ k, treeBinder.StopsAt 1 [.unset, .unset] k
        (.failed (.requiredOptionMissing "-name" "Leaf"))) := by
  have accepted : treeBinder.Accepts 0 := .inr rfl
  have accepted' : treeBinder.Accepts 1 := .inr rfl
  have tree := complete_exact treeBinder_typed accepted [.scalar (.text "r"), .items []]
  have leaf := complete_exact treeBinder_typed accepted' [.unset, .unset]
  have made : (treeBinder.complete 0 [.scalar (.text "r"), .items []]).fields = defaultTree := rfl
  obtain ⟨-, again, same⟩ := tree.1 rfl
  rw [made] at again same
  exact ⟨treeBinder_typed, accepted, accepted', made, again, same, (leaf.2.1 _).mp rfl⟩

end Binder

end OptionBinding
