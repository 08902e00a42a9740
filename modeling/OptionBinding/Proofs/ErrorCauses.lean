import OptionBinding.Proofs.FailedScans
import OptionBinding.Proofs.Filling
import OptionBinding.Proofs.PlainTypes
import OptionBinding.Regex.Standard

/-!
# What errors are about

Every error of binding names a field of the type that is bound or of a type nested in it, and there
is a cause for it with this field (`Binder.Cause`, `bind_error_cause`); binding that never ends has
its cause with a field too, by its default. The proof follows the steps
of binding: a step that fails with an error of the field at hand has its cause at hand too, and the
errors of a nested type are passed on as they are (`Explained.nested`). Tokens that a step does not
see may be added to those that it sees (`Explained.mono`).
-/

namespace OptionBinding

namespace Run

variable {α β : Type} {P Q : NoResult BindError → Prop}

/-- Everything that may keep the run from a result has a property. -/
def FailsOnly (x : Run α) (P : NoResult BindError → Prop) : Prop :=
  ∀ e, x.outcome = .error e → P e

namespace FailsOnly

theorem pure (a : α) : (Pure.pure a : Run α).FailsOnly P := fun e h => by simp at h

theorem tell (e : Event) : (Run.tell e).FailsOnly P := fun e h => by simp at h

theorem fail {e : BindError} (h : P (.failed e)) : (Run.fail e : Run α).FailsOnly P := by
  rintro e' ⟨⟩
  exact h

theorem endless (h : P .endless) : (Run.endless : Run α).FailsOnly P := by
  rintro e' ⟨⟩
  exact h

theorem imp {x : Run α} (h : x.FailsOnly P) (weaker : ∀ e, P e → Q e) : x.FailsOnly Q :=
  fun e failed => weaker e (h e failed)

theorem bind {x : Run α} {f : α → Run β} (first : x.FailsOnly P)
    (next : ∀ a, x.outcome = .ok a → (f a).FailsOnly P) : (x >>= f).FailsOnly P := by
  intro e failed
  rw [outcome_bind] at failed
  cases done : x.outcome with
  | error e' =>
    obtain rfl : e' = e := by simpa [done, Bind.bind, Except.bind] using failed
    exact first e' done
  | ok a => exact next a done e (by simpa [done, Bind.bind, Except.bind] using failed)

end FailsOnly

end Run

theorem Pass.whole_failsOnly {p : Pass Unit} {P : NoResult BindError → Prop}
    (h : p.run.FailsOnly P) : p.whole.FailsOnly P := by
  intro e failed
  unfold whole at failed
  cases ended : p.run.outcome with
  | error e' =>
    rw [ended] at failed
    obtain rfl : e' = e := Except.error.inj failed
    exact h e' ended
  | ok u => simp [ended, Except.map] at failed

/-- The parser for the texts of a field. For a collection a parser of the whole collection comes
first. -/
def Registry.parserFor? (r : Registry) (f : Field) : Option TextParser :=
  match f.shape with
  | .collection c e =>
    (r.resolve? f.descriptor (.collection c e)).or (r.resolve? f.descriptor (.single e))
  | shape => r.resolve? f.descriptor (.single shape.element)

/-- The text is the default of the option, or one of the tokens gives it. -/
def Descriptor.HasText (d : Descriptor) (tokens : List String) (text : String) : Prop :=
  d.defaultText = some text ∨ ∃ token ∈ tokens, d.captured? token = some text

/-- The errors that reject a field as an option. -/
inductive Field.Rejection (owner : String) (f : Field) : BindError → Prop
  | descriptor (fault : DescriptorFault) :
      Rejection owner f (.invalidDescriptor f.signature owner fault)
  | collection (typeName : String) :
      Rejection owner f (.unsupportedCollection f.signature owner typeName)

/-- **The cause of an error** with a field of a type: what holds of the field, the tokens and the
parsers. Only a default is the cause of what never ends. -/
inductive Binder.Cause (b : Binder) (tokens : List String) (u : TypeId) (f : Field) :
    NoResult BindError → Prop
  | missingValue {token : String} (mem : token ∈ tokens) (bare : Text.trim token = f.signature) :
      Cause b tokens u f (.failed (.missingValue f.signature (b.table.recordName u)))
  | unresolvedParser
      (single : b.registry.canParse f.descriptor (.single f.shape.element) = false)
      (whole : ∀ c e, f.shape = .collection c e →
        b.registry.canParse f.descriptor (.collection c e) = false) :
      Cause b tokens u f
        (.failed (.unresolvedParser f.signature (b.table.elementName f.shape.element)))
  | rejected {e : BindError} (names : f.Rejection (b.table.recordName u) e)
      (fails : b.table.fault? u ≠ none) : Cause b tokens u f (.failed e)
  | requiredOptionMissing (required : f.descriptor.required = true)
      (undefaulted : f.descriptor.defaultText = none) :
      Cause b tokens u f (.failed (.requiredOptionMissing f.signature (b.table.recordName u)))
  | conversion {text : String} {p : TextParser} {fault : ConversionFault}
      (resolved : b.registry.parserFor? f = some p)
      (unread : p.run f.descriptor.name text = .error fault)
      (written : f.descriptor.HasText tokens text) :
      Cause b tokens u f (.failed (.conversion f.signature text fault))
  | endless {text : String} (default : f.descriptor.defaultText = some text) :
      Cause b tokens u f .endless

/-- What keeps binding from a result has its cause with a field of the type or of a type nested in
it. -/
def Binder.Explained (b : Binder) (t : TypeId) (tokens : List String) (r : NoResult BindError) :
    Prop :=
  ∃ u f, Relation.ReflTransGen b.table.Nests t u ∧ f ∈ b.table.fields u ∧ b.Cause tokens u f r

variable {b : Binder} {t u : TypeId} {f : Field} {tokens tokens' rest : List String}
  {text : String} {e : BindError} {r : NoResult BindError}

theorem Registry.parserFor?_eq_none_iff {r : Registry} :
    r.parserFor? f = none ↔ r.canParse f.descriptor (.single f.shape.element) = false ∧
      ∀ c e, f.shape = .collection c e → r.canParse f.descriptor (.collection c e) = false := by
  unfold parserFor? canParse
  cases shape : f.shape <;> simp [FieldShape.element, and_comm]

theorem Registry.parserFor?_of_whole {r : Registry} {c : Container} {element : Element}
    (shape : f.shape = .collection c element)
    (whole : r.canParse f.descriptor (.collection c element) = true) :
    (r.parserFor? f).isSome ∧
      r.resolve? f.descriptor (.collection c element) = r.parserFor? f := by
  obtain ⟨p, found⟩ := Option.isSome_iff_exists.mp whole
  simp [parserFor?, shape, found]

theorem Registry.parserFor?_of_elements {r : Registry} {c : Container} {element : Element}
    (shape : f.shape = .collection c element)
    (single : r.canParse f.descriptor (.collection c element) = false) :
    r.resolve? f.descriptor (.single element) = r.parserFor? f := by
  have none : r.resolve? f.descriptor (.collection c element) = none := by
    simpa [canParse] using single
  simp [parserFor?, shape, none]

theorem Descriptor.HasText.mono {d : Descriptor} (h : d.HasText tokens text)
    (subset : tokens ⊆ tokens') : d.HasText tokens' text :=
  h.imp_right fun ⟨token, mem, captured⟩ => ⟨token, subset mem, captured⟩

theorem Descriptor.hasText_of_mem_capturedRun {d : Descriptor} (mem : text ∈ d.capturedRun tokens) :
    d.HasText tokens text := by
  induction tokens with
  | nil => simp [capturedRun] at mem
  | cons token tokens ih =>
    rw [capturedRun] at mem
    split at mem
    · next value captured =>
      rcases List.mem_cons.mp mem with rfl | mem
      · exact .inr ⟨token, List.mem_cons_self, captured⟩
      · exact (ih mem).mono (List.subset_cons_self _ _)
    · simp at mem

namespace Binder

namespace Cause

theorem option_eq (h : b.Cause tokens u f (.failed e)) : e.option = f.signature := by
  cases h with
  | rejected names => cases names <;> rfl
  | _ => rfl

theorem mono (h : b.Cause tokens u f r) (subset : tokens ⊆ tokens') : b.Cause tokens' u f r := by
  cases h with
  | missingValue mem bare => exact .missingValue (subset mem) bare
  | unresolvedParser single whole => exact .unresolvedParser single whole
  | rejected names fails => exact .rejected names fails
  | requiredOptionMissing required undefaulted => exact .requiredOptionMissing required undefaulted
  | conversion resolved unread written => exact .conversion resolved unread (written.mono subset)
  | endless default => exact .endless default

theorem explained (h : b.Cause tokens t f r) (mem : f ∈ b.table.fields t) :
    b.Explained t tokens r :=
  ⟨t, f, .refl, mem, h⟩

end Cause

namespace Explained

theorem mono (h : b.Explained t tokens r) (subset : tokens ⊆ tokens') :
    b.Explained t tokens' r := by
  obtain ⟨u, f, reaches, mem, cause⟩ := h
  exact ⟨u, f, reaches, mem, cause.mono subset⟩

theorem nested (h : b.Explained u tokens r) (nests : b.table.Nests t u) :
    b.Explained t tokens r := by
  obtain ⟨w, f, reaches, mem, cause⟩ := h
  exact ⟨w, f, .head nests reaches, mem, cause⟩

end Explained

end Binder

/-! ### Checks -/

namespace Field

variable {owner : String} {earlier : List String}

theorem rejection_of_shapeFault? (h : f.shapeFault? owner = some e) : f.Rejection owner e := by
  unfold shapeFault? at h
  split at h
  · split at h
    · obtain rfl := Option.some.inj h
      exact .descriptor _
    · cases h
  · obtain rfl := Option.some.inj h
    exact .descriptor _
  · obtain rfl := Option.some.inj h
    exact .collection _
  · cases h
  · cases h

theorem fault?_eq_some (h : f.fault? owner earlier = some e) :
    (∃ fault, e = .invalidDescriptor f.signature owner fault) ∨ f.shapeFault? owner = some e := by
  unfold fault? at h
  split at h
  · exact .inl ⟨_, (Option.some.inj h).symm⟩
  · split at h
    · exact .inl ⟨_, (Option.some.inj h).symm⟩
    · split at h
      · exact .inl ⟨_, (Option.some.inj h).symm⟩
      · exact .inr h

end Field

theorem schemaFault?_ne_none {owner : String} {earlier : List String} {fs : List Field}
    (mem : f ∈ fs) (faulty : f.shapeFault? owner ≠ none) :
    schemaFault? owner earlier fs ≠ none := by
  intro sound
  obtain ⟨before, passed⟩ := fault?_of_schemaFault? sound mem
  exact faulty (Field.fault?_eq_none_iff.mp passed).2.2.2

theorem rejection_of_schemaFault? {owner : String} {earlier : List String} {fs : List Field}
    (h : schemaFault? owner earlier fs = some e) : ∃ f ∈ fs, f.Rejection owner e := by
  induction fs generalizing earlier with
  | nil => simp [schemaFault?] at h
  | cons f fs ih =>
    rw [schemaFault?] at h
    split at h
    · next e' found =>
      obtain rfl := Option.some.inj h
      refine ⟨f, List.mem_cons_self, ?_⟩
      rcases Field.fault?_eq_some found with ⟨fault, rfl⟩ | found
      · exact .descriptor fault
      · exact Field.rejection_of_shapeFault? found
    · obtain ⟨g, mem, rejection⟩ := ih h
      exact ⟨g, List.mem_cons_of_mem _ mem, rejection⟩

namespace Binder

theorem schema_failsOnly : (b.schema t).FailsOnly (b.Explained t tokens) := by
  intro e failed
  unfold schema at failed
  split at failed
  · simp at failed
  · split at failed
    · next e' fault =>
      obtain rfl : .failed e' = e := Except.error.inj failed
      obtain ⟨f, mem, names⟩ := rejection_of_schemaFault? fault
      exact Cause.explained (.rejected names (by simp [fault])) mem
    · simp at failed

/-! ### Texts -/

theorem cause_of_shapeFault? (mem : f ∈ b.table.fields t)
    (faulty : f.shapeFault? (b.table.recordName t) = some e) : b.Cause tokens t f (.failed e) :=
  .rejected (Field.rejection_of_shapeFault? faulty)
    (schemaFault?_ne_none mem (by simp [faulty]))

theorem parse_failsOnly {type : ValueType}
    (resolved : b.registry.resolve? f.descriptor type = b.registry.parserFor? f)
    (named : b.registry.parserFor? f = none →
      b.table.typeName type = b.table.elementName f.shape.element)
    (written : f.descriptor.HasText tokens text) :
    (b.parse f.descriptor type text).FailsOnly (b.Cause tokens t f) := by
  unfold parse Registry.parse
  rw [resolved]
  split
  · next unresolved =>
    obtain ⟨single, whole⟩ := Registry.parserFor?_eq_none_iff.mp unresolved
    exact .fail (named unresolved ▸ .unresolvedParser single whole)
  · next p found =>
    split
    · exact .pure _
    · next fault unread => exact .fail (.conversion found unread written)

section Texts

variable {finish : Finish} {element : Element} (mem : f ∈ b.table.fields t)
  (shape : f.shape.element = element)
  (finished : ∀ u fields, b.table.Nests t u →
    (finish u fields).FailsOnly (b.Explained t tokens))
include mem shape finished

theorem readElement_failsOnly
    (resolved : b.registry.resolve? f.descriptor (.single element) = b.registry.parserFor? f)
    (written : f.descriptor.HasText tokens text) :
    (b.readElement finish f.descriptor element text).FailsOnly (b.Explained t tokens) := by
  have parsed : (b.parse f.descriptor (.single element) text).FailsOnly (b.Explained t tokens) :=
    (parse_failsOnly resolved (fun _ => by rw [shape]; rfl) written).imp
      fun e cause => cause.explained mem
  refine parsed.bind fun v _ => ?_
  cases element with
  | scalar type => exact .pure _
  | composite u =>
    cases v with
    | composite fields => exact (finished u fields ⟨f, mem, shape⟩).bind fun _ _ => .pure _
    | _ => exact .pure _

theorem readElements_failsOnly
    (resolved : b.registry.resolve? f.descriptor (.single element) = b.registry.parserFor? f)
    {texts : List String} (written : ∀ text ∈ texts, f.descriptor.HasText tokens text) :
    (b.readElements finish f.descriptor element texts).FailsOnly (b.Explained t tokens) := by
  induction texts with
  | nil => exact .pure _
  | cons text texts ih =>
    refine (readElement_failsOnly mem shape finished resolved
      (written text List.mem_cons_self)).bind fun v _ => ?_
    exact (ih fun text mem => written text (List.mem_cons_of_mem _ mem)).bind fun vs _ => .pure _

omit shape in
theorem readContents_failsOnly {more : List String}
    (written : ∀ text' ∈ text :: more, f.descriptor.HasText tokens text') :
    (b.readContents finish (b.table.recordName t) f text more).FailsOnly
      (b.Explained t tokens) := by
  have first : f.descriptor.HasText tokens text := written text List.mem_cons_self
  unfold readContents
  -- Whatever the shape, the parser that is asked for the texts is the field's own.
  split
  · next shape =>
    have resolved : b.registry.resolve? f.descriptor (.single (.scalar .bool)) =
        b.registry.parserFor? f := by rw [Registry.parserFor?, shape]; rfl
    have parsed := parse_failsOnly (t := t) resolved (fun _ => by rw [shape]; rfl) first
    exact (parsed.imp fun e cause => cause.explained mem).bind fun _ _ => .pure _
  · next element shape =>
    have resolved : b.registry.resolve? f.descriptor (.single element) =
        b.registry.parserFor? f := by rw [Registry.parserFor?, shape]; rfl
    exact (readElement_failsOnly mem (by rw [shape]; rfl) finished resolved first).bind
      fun _ _ => .pure _
  · next c element shape =>
    split
    · next whole =>
      obtain ⟨some, resolved⟩ := Registry.parserFor?_of_whole shape whole
      have parsed := parse_failsOnly (t := t) resolved
        (fun unresolved => by simp [unresolved] at some) first
      exact (parsed.imp fun e cause => cause.explained mem).bind fun _ _ => .pure _
    · next single =>
      have resolved := Registry.parserFor?_of_elements shape (Bool.eq_false_iff.mpr single)
      exact (readElements_failsOnly mem (by rw [shape]; rfl) finished resolved written).bind
        fun _ _ => .pure _
  · next reason shape =>
    exact .fail ((cause_of_shapeFault? mem (by rw [Field.shapeFault?, shape])).explained mem)
  · next typeName shape =>
    exact .fail ((cause_of_shapeFault? mem (by rw [Field.shapeFault?, shape])).explained mem)

end Texts

/-! ### Completing -/

theorem completeWith_failsOnly {finish : Finish}
    (finished : ∀ f ∈ b.table.fields t, ∀ text, f.descriptor.defaultText = some text →
      ∀ u fields, b.table.Nests t u → (finish u fields).FailsOnly (b.Explained t tokens))
    (fields : List Value) :
    (b.completeWith finish t fields).run.FailsOnly (b.Explained t tokens) := by
  intro e failed
  by_cases accepted : b.Accepts t
  · have fills := completeWith_fills finish accepted fields
    rw [failed] at fills
    obtain ⟨f, mem, ⟨text, default, failed⟩ | ⟨required, undefaulted, rfl⟩⟩ := fills.error
    · have read := readContents_failsOnly mem (finished f mem text default)
        (fun text' among => .inl (List.mem_singleton.mp among ▸ default))
      exact read.bind (fun _ _ => .pure _) e failed
    · exact Cause.explained (.requiredOptionMissing required undefaulted) mem
  · unfold completeWith at failed
    cases checked : (b.schema t).outcome with
    | error e' =>
      simp only [checked] at failed
      obtain rfl : e' = e := Except.error.inj failed
      exact schema_failsOnly e' checked
    | ok u => exact absurd (schema_ok_iff.mp checked) accepted

theorem completeWithin_failsOnly (depth : Nat) (t : TypeId) (fields : List Value) :
    (b.completeWithin depth t fields).run.FailsOnly (b.Explained t tokens) := by
  induction depth generalizing t fields with
  | zero =>
    refine completeWith_failsOnly (fun f mem text default u fields _ => ?_) fields
    exact .endless (Cause.explained (.endless default) mem)
  | succ depth ih =>
    refine completeWith_failsOnly (fun f mem text default u fields nests => ?_) fields
    exact (Pass.whole_failsOnly (ih u fields)).imp fun e explained => explained.nested nests

theorem complete_failsOnly (t : TypeId) (fields : List Value) :
    (b.complete t fields).run.FailsOnly (b.Explained t tokens) :=
  completeWithin_failsOnly _ t fields

theorem finish_failsOnly (t : TypeId) (fields : List Value) :
    (b.finish t fields).FailsOnly (b.Explained t tokens) :=
  Pass.whole_failsOnly (complete_failsOnly t fields)

/-! ### Tokens -/

theorem bindText_failsOnly {token : String} (mem : f ∈ b.table.fields t)
    (captured : f.descriptor.captured? token = some text) :
    (b.bindText (b.table.recordName t) f text rest).FailsOnly (b.Explained t (token :: rest)) := by
  refine (readContents_failsOnly mem (fun u fields nests => ?_) fun text' among => ?_).bind
    fun _ _ => .pure _
  · exact (finish_failsOnly u fields).imp fun e explained => explained.nested nests
  · rcases List.mem_cons.mp among with rfl | among
    · exact .inr ⟨token, List.mem_cons_self, captured⟩
    · exact (Descriptor.hasText_of_mem_capturedRun among).mono (List.subset_cons_self _ _)

/-- The errors of bare flags have their causes, on lists of less than `n` tokens after them. -/
def ExplainedBelow (b : Binder) (n : Nat) : Prop :=
  ∀ (t : TypeId) (f : Field) (token : String) (rest : List String), rest.length < n →
    f ∈ b.table.fields t → Text.trim token = f.signature →
      (b.bindFlag (b.table.recordName t) f rest).FailsOnly (b.Explained t (token :: rest))

section Below

variable {n : Nat} (below : b.ExplainedBelow n)
include below

theorem bindFields_failsOnly (t : TypeId) (fields : List Value) (short : tokens.length ≤ n) :
    (b.bindFields t fields tokens).run.FailsOnly (b.Explained t tokens) := by
  intro e failed
  rcases bindFields_error_iff.mp failed with rejected | ⟨-, ended⟩
  · exact schema_failsOnly e rejected
  obtain ⟨s, rest, broken⟩ := breaks_iff.mp ⟨ended, rfl⟩
  obtain ⟨token, after, recognised⟩ := broken.drop_eq
  have mem : s.chosen.field ∈ b.table.fields t := TypeTable.field_mem broken.chosen_mem
  have shorter : rest.length < n := by
    have len := congrArg List.length after
    simp only [List.length_drop, List.length_cons] at len
    omega
  have subset : token :: rest ⊆ tokens := by
    rw [← after]
    exact List.drop_subset _ _
  have claimed := broken.failed
  refine Explained.mono ?_ subset
  unfold claim at claimed
  cases form : s.form with
  | exact =>
    rw [form] at claimed recognised
    exact below t _ token rest shorter mem (Descriptor.recognise_exact_iff.mp recognised) e claimed
  | delimited text =>
    rw [form] at claimed recognised
    exact bindText_failsOnly mem (Descriptor.recognise_delimited_iff.mp recognised).2 e claimed

theorem construct_failsOnly (t : TypeId) (short : tokens.length ≤ n) :
    (b.construct t tokens).FailsOnly (b.Explained t tokens) := by
  rw [construct]
  refine (bindFields_failsOnly below t _ short).bind fun k _ => ?_
  split
  · exact .pure _
  · exact (finish_failsOnly t _).bind fun _ _ => .pure _

theorem composites_failsOnly (t : TypeId) (signature : String) (short : tokens.length ≤ n) :
    (b.composites t signature tokens).FailsOnly (b.Explained t tokens) := by
  induction len : tokens.length using Nat.strongRecOn generalizing tokens with
  | ind m ih =>
  rw [composites]
  refine (construct_failsOnly below t short).bind fun built _ => ?_
  obtain ⟨fields, k⟩ := built
  dsimp only
  split
  · exact .pure _
  · split
    · exact .pure _
    · next next more after =>
      split
      · have shorter := congrArg List.length after
        simp only [List.length_drop, List.length_cons] at shorter
        have subset : more ⊆ tokens := fun token mem =>
          List.mem_of_mem_drop (after ▸ List.mem_cons_of_mem _ mem)
        -- What fails after the restatement has its cause there.
        have later := ih more.length (by omega) (by omega) rfl
        exact (later.imp fun e explained => explained.mono subset).bind fun _ _ => .pure _
      · exact .pure _

theorem bindFlag_failsOnly {token : String} (mem : f ∈ b.table.fields t)
    (bare : Text.trim token = f.signature) (short : rest.length ≤ n) :
    (b.bindFlag (b.table.recordName t) f rest).FailsOnly (b.Explained t (token :: rest)) := by
  have missing : (b.Explained t (token :: rest))
      (.failed (.missingValue f.signature (b.table.recordName t))) :=
    Cause.explained (.missingValue List.mem_cons_self bare) mem
  have nested : ∀ {u : TypeId} (e : NoResult BindError), f.shape.element = .composite u →
      b.Explained u rest e → b.Explained t (token :: rest) e := fun e shape explained =>
    (explained.nested ⟨f, mem, shape⟩).mono (List.subset_cons_self _ _)
  rw [bindFlag]
  split
  · exact .pure _
  · split
    · exact .pure _
    · exact .fail missing
  · next u shape =>
    have built := (construct_failsOnly below u short).imp
      fun e => nested e (by rw [shape]; rfl)
    refine built.bind fun made _ => ?_
    obtain ⟨fields, k⟩ := made
    dsimp only
    split
    · split
      · exact .fail missing
      · exact .pure _
    · exact .pure _
  · exact .fail missing
  · next c u shape =>
    have built := (composites_failsOnly below u f.signature short).imp
      fun e => nested e (by rw [shape]; rfl)
    refine built.bind fun made _ => ?_
    obtain ⟨elements, k⟩ := made
    dsimp only
    split
    · exact .fail missing
    · exact (Run.FailsOnly.tell _).bind fun _ _ => .pure _
  · next reason shape =>
    exact .fail ((cause_of_shapeFault? mem (by rw [Field.shapeFault?, shape])).explained mem)
  · next typeName shape =>
    exact .fail ((cause_of_shapeFault? mem (by rw [Field.shapeFault?, shape])).explained mem)

end Below

theorem explainedBelow (b : Binder) (n : Nat) : b.ExplainedBelow n := by
  -- Of a scan's claims only bare flags go down to nested types, and with fewer tokens.
  induction n with
  | zero => exact fun _ _ _ _ short => absurd short (Nat.not_lt_zero _)
  | succ n ih =>
    exact fun t f token rest short mem bare =>
      bindFlag_failsOnly ih mem bare (Nat.le_of_lt_succ short)

theorem bindAndComplete_error_iff {fields : List Value} :
    (b.bindAndComplete t fields tokens).run.outcome = .error r ↔
      (b.bindFields t fields tokens).run.outcome = .error r ∨
        ∃ n, (b.bindFields t fields tokens).run.outcome = .ok n ∧
          (b.complete t (b.bindFields t fields tokens).fields).run.outcome = .error r := by
  unfold bindAndComplete
  dsimp only
  cases bound : (b.bindFields t fields tokens).run.outcome with
  | error e' => simp [bound]
  | ok n =>
    cases completed : (b.complete t (b.bindFields t fields tokens).fields).run.outcome with
    | error e' => simp [Except.map]
    | ok u => simp [Except.map]

/-- **Every error of binding points at its cause**, a field of the type or of a type nested in it,
and so does binding that never ends. -/
theorem bind_error_cause {args : List String} {start : Nat}
    (h : (b.bind t args start).outcome = .error r) :
    ∃ u f, Relation.ReflTransGen b.table.Nests t u ∧ f ∈ b.table.fields u ∧
      (∀ e, r = .failed e → e.option = f.signature) ∧ b.Cause (args.drop start) u f r := by
  have explained : b.Explained t (args.drop start) r := by
    rcases bindAndComplete_error_iff.mp h with failed | ⟨n, -, failed⟩
    · exact bindFields_failsOnly (b.explainedBelow _) t _ (Nat.le_refl _) r failed
    · exact complete_failsOnly t _ r failed
  obtain ⟨u, f, reaches, mem, cause⟩ := explained
  refine ⟨u, f, reaches, mem, ?_, cause⟩
  rintro e rfl
  exact cause.option_eq

/-- A binder for a box with a letter. -/
def boxBinder : Binder where
  table :=
    [{ fullName := "Box", shortName := "Box",
       fields := [{ descriptor := { name := "letter" }, shape := .single (.composite 1) }] },
     { fullName := "Letter", shortName := "Letter",
       fields := [{ descriptor := { name := "c" }, shape := .single (.scalar .char) }] }]
  registry := .builtin

theorem boxBinder_construct : (boxBinder.construct 1 ["-c="]).outcome =
    .error (.failed (.conversion "-c" "" .noCharacter)) := by
  have letter : select "-c=" (boxBinder.table.pending 1) =
      some ⟨⟨0, (boxBinder.table.fields 1)[0]⟩, .delimited "", []⟩ := by decide +kernel
  have unread : (boxBinder.bindText "Letter" (boxBinder.table.fields 1)[0] "" []).outcome =
      .error (.failed (.conversion "-c" "" .noCharacter)) := rfl
  have ended : (boxBinder.scanFor 1 ["-c="]).outcome =
      .error (.failed (.conversion "-c" "" .noCharacter)) :=
    (breaks_iff.mpr ⟨_, _, .here letter unread⟩).1
  rw [construct, Run.outcome_bind, bindFields_error_iff.mpr (.inr ⟨.inr rfl, ended⟩)]
  rfl

/-- The letter in the box is none, and the error names the option of the letter. -/
theorem bind_error_cause_letter :
    (boxBinder.bind 0 ["-letter", "-c="] 0).outcome =
        .error (.failed (.conversion "-c" "" .noCharacter)) ∧
      ∃ u f, Relation.ReflTransGen boxBinder.table.Nests 0 u ∧ f ∈ boxBinder.table.fields u ∧
        "-c" = f.signature ∧
        boxBinder.Cause ["-letter", "-c="] u f (.failed (.conversion "-c" "" .noCharacter)) := by
  have box : select "-letter" (boxBinder.table.pending 0) =
      some ⟨⟨0, (boxBinder.table.fields 0)[0]⟩, .exact, []⟩ := by decide +kernel
  have flag : (boxBinder.bindFlag "Box" (boxBinder.table.fields 0)[0] ["-c="]).outcome =
      .error (.failed (.conversion "-c" "" .noCharacter)) := by
    have shape : (boxBinder.table.fields 0)[0].shape = .single (.composite 1) := rfl
    rw [bindFlag]
    simp only [shape]
    rw [Run.outcome_bind, boxBinder_construct]
    rfl
  have ended : (boxBinder.scanFor 0 ["-letter", "-c="]).outcome =
      .error (.failed (.conversion "-c" "" .noCharacter)) :=
    (breaks_iff.mpr ⟨_, _, .here box flag⟩).1
  have bound : (boxBinder.bind 0 ["-letter", "-c="] 0).outcome =
      .error (.failed (.conversion "-c" "" .noCharacter)) :=
    bindAndComplete_error_iff.mpr (.inl (bindFields_error_iff.mpr (.inr ⟨.inr rfl, ended⟩)))
  obtain ⟨u, f, reaches, mem, names, cause⟩ := bind_error_cause bound
  exact ⟨bound, u, f, reaches, mem, names _ rfl, cause⟩

end Binder

end OptionBinding
