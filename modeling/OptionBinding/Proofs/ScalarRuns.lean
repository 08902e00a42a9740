import OptionBinding.Proofs.ContainerOrder
import OptionBinding.Proofs.FailedScans
import OptionBinding.Regex.Standard

/-!
# Collections of scalars and their tokens

A repeatable option for scalars takes the longest run of tokens that give it values, from the token
that selects it on (`Descriptor.ValueRun`, `Descriptor.valueRun_iff`). The texts are read one after
another (`Binder.ReadAs`), up to the first that is no scalar (`Binder.FirstUnread`). So the option
takes the whole run and its field holds the values, as its container does, or binding fails with the
error of the first text that is none, and the field is as it was (`bindFields_scalarRun`).

That a scan comes to a token is stated without regard to what the option that the token selects does
then (`Binder.Meets`).
-/

namespace OptionBinding

/-! ### Runs of values -/

namespace Descriptor

variable {d : Descriptor} {tokens texts : List String} {i : Nat}

/-- **The longest run of tokens, from a place on, that give the option values**: these are the
texts. -/
structure ValueRun (d : Descriptor) (tokens : List String) (i : Nat) (texts : List String) :
    Prop where
  captured : ∀ (k : Nat) (text : String), texts[k]? = some text →
    ∃ token, tokens[i + k]? = some token ∧ d.captured? token = some text
  longest : ∀ token, tokens[i + texts.length]? = some token → d.captured? token = none

theorem ValueRun.length_le {texts' : List String} (h : d.ValueRun tokens i texts)
    (h' : d.ValueRun tokens i texts') : texts.length ≤ texts'.length := by
  by_contra shorter
  obtain ⟨token, at', captured⟩ := h.captured texts'.length _
    (List.getElem?_eq_getElem (Nat.lt_of_not_le shorter))
  simp [h'.longest token at'] at captured

theorem ValueRun.unique {texts' : List String} (h : d.ValueRun tokens i texts)
    (h' : d.ValueRun tokens i texts') : texts = texts' := by
  have same : texts.length = texts'.length := Nat.le_antisymm (h.length_le h') (h'.length_le h)
  refine List.ext_getElem same fun k bound bound' => ?_
  obtain ⟨token, at', captured⟩ := h.captured k _ (List.getElem?_eq_getElem bound)
  obtain ⟨token', at'', captured'⟩ := h'.captured k _ (List.getElem?_eq_getElem bound')
  obtain rfl := Option.some.inj (at'.symm.trans at'')
  exact Option.some.inj (captured.symm.trans captured')

theorem valueRun_capturedRun (tokens : List String) :
    d.ValueRun tokens 0 (d.capturedRun tokens) := by
  induction tokens with
  | nil => exact ⟨by simp [capturedRun], by simp⟩
  | cons token rest ih =>
    cases captured : d.captured? token with
    | none =>
      rw [capturedRun_of_head (by simpa using captured)]
      exact ⟨by simp, by simpa using captured⟩
    | some value =>
      have goes : d.capturedRun (token :: rest) = value :: d.capturedRun rest := by
        simp [capturedRun, captured]
      rw [goes]
      refine ⟨fun k text at' => ?_, fun next at' => ih.longest next (by simpa using at')⟩
      cases k with
      | zero =>
        obtain rfl : value = text := by simpa using at'
        exact ⟨token, rfl, captured⟩
      | succ k => simpa [Nat.succ_add] using ih.captured k text at'

/-- **What an option takes the values of** is the longest run of tokens that give it values. -/
theorem valueRun_iff : d.ValueRun tokens i texts ↔ d.capturedRun (tokens.drop i) = texts := by
  have longest : d.ValueRun tokens i (d.capturedRun (tokens.drop i)) := by
    obtain ⟨captured, longest⟩ := valueRun_capturedRun (d := d) (tokens.drop i)
    simp only [Nat.zero_add, List.getElem?_drop] at captured longest
    exact ⟨captured, longest⟩
  exact ⟨longest.unique, fun same => same ▸ longest⟩

/-- The run begins with the value of its first token. -/
theorem ValueRun.eq_cons {token text : String} (h : d.ValueRun tokens i texts)
    (at' : tokens[i]? = some token) (captured : d.captured? token = some text) :
    texts = text :: d.capturedRun (tokens.drop (i + 1)) := by
  obtain ⟨bound, rfl⟩ := List.getElem?_eq_some_iff.mp at'
  rw [← valueRun_iff.mp h, List.drop_eq_getElem_cons bound]
  simp [capturedRun, captured]

end Descriptor

namespace Binder

variable {b : Binder} {owner : String} {t : TypeId} {f : Field} {pending : List Pending}
  {tokens texts : List String} {s : Selection}

/-! ### Coming to a token -/

/-- **A scan comes to a token** and selects an option for it, after it has taken the tokens before:
`i` is the place of the token and `s` the selection. -/
inductive Meets (b : Binder) (owner : String) :
    List Pending → List String → Nat → Selection → Prop
  | here {pending : List Pending} {token : String} {rest : List String} {s : Selection}
      (selected : select token pending = some s) : Meets b owner pending (token :: rest) 0 s
  | later {pending : List Pending} {token : String} {rest : List String} {s s' : Selection}
      {c : Claim} {i : Nat} (selected : select token pending = some s)
      (claimed : (b.claim owner s rest).outcome = .ok c)
      (met : Meets b owner s.others (rest.drop c.extra) i s') :
      Meets b owner pending (token :: rest) (c.extra + i + 1) s'

namespace Meets

variable {i : Nat} {e : NoResult BindError} (h : b.Meets owner pending tokens i s)
include h

theorem recognised :
    ∃ token, tokens[i]? = some token ∧ s.chosen.field.descriptor.recognise token = some s.form := by
  induction h with
  | here selected => exact ⟨_, rfl, (select_eq_some_iff.mp selected).1⟩
  | later selected claimed met ih => simpa [List.getElem?_drop] using ih

theorem takes {c : Claim} (claimed : (b.claim owner s (tokens.drop (i + 1))).outcome = .ok c) :
    b.Takes owner pending tokens s (tokens.drop (i + 1)) c := by
  induction h with
  | here selected => exact .here selected claimed
  | later selected before met ih =>
    rw [List.drop_succ_cons, Nat.add_assoc, ← List.drop_drop] at claimed ⊢
    exact .later selected before (ih claimed)

/-- If the option takes nothing, the scan fails there. -/
theorem breaks (failed : (b.claim owner s (tokens.drop (i + 1))).outcome = .error e) :
    ∃ segments, b.Breaks owner pending tokens segments s (tokens.drop (i + 1)) e := by
  induction h with
  | here selected => exact ⟨[], .here selected failed⟩
  | later selected before met ih =>
    rw [List.drop_succ_cons, Nat.add_assoc, ← List.drop_drop] at failed ⊢
    obtain ⟨segments, broken⟩ := ih failed
    exact ⟨_, .later selected before broken⟩

end Meets

/-! ### Reading scalars -/

/-- **The texts are read as values**, one by one. -/
def ReadAs (b : Binder) (d : Descriptor) (type : ScalarType) (texts : List String)
    (values : List Value) : Prop :=
  List.Forall₂ (fun text v => b.registry.parse b.table d (.single (.scalar type)) text = .ok v)
    texts values

/-- **The first of the texts that is no scalar**, and the error of reading it. -/
structure FirstUnread (b : Binder) (d : Descriptor) (type : ScalarType) (texts : List String)
    (text : String) (e : BindError) : Prop where
  first : ∃ earlier later, texts = earlier ++ text :: later ∧ ∀ other ∈ earlier,
    ∃ v, b.registry.parse b.table d (.single (.scalar type)) other = .ok v
  failed : b.registry.parse b.table d (.single (.scalar type)) text = .error e

section Reading

variable {finish : Finish} {d : Descriptor} {type : ScalarType} {e : BindError}

/-- **The first text that is no scalar ends the reading.** -/
theorem FirstUnread.readElements {text : String} (h : b.FirstUnread d type texts text e) :
    (b.readElements finish d (.scalar type) texts).outcome = .error (.failed e) := by
  obtain ⟨⟨earlier, later, rfl, scalars⟩, failed⟩ := h
  induction earlier with
  | nil =>
    have unread := Outcome.ended_failed_iff.mpr failed
    rw [List.nil_append, Binder.readElements, Run.outcome_bind, readElement_scalar, Binder.parse,
      Run.outcome_ofExcept, unread]
    rfl
  | cons first earlier ih =>
    obtain ⟨v, read⟩ := scalars first List.mem_cons_self
    have rest := ih fun other mem => scalars other (List.mem_cons_of_mem _ mem)
    rw [List.cons_append, Binder.readElements, Run.outcome_bind, readElement_scalar,
      parse_ok_iff.mpr read]
    simp only [Run.outcome_bind, rest]
    rfl

/-- The texts are all read as values, or one of them is the first that is no scalar. -/
theorem readAs_or_firstUnread (d : Descriptor) (type : ScalarType) (texts : List String) :
    (∃ values, b.ReadAs d type texts values) ∨ ∃ text e, b.FirstUnread d type texts text e := by
  induction texts with
  | nil => exact .inl ⟨[], .nil⟩
  | cons first texts ih =>
    cases read : b.registry.parse b.table d (.single (.scalar type)) first with
    | error e => exact .inr ⟨first, e, ⟨[], texts, rfl, by simp⟩, read⟩
    | ok v =>
      rcases ih with ⟨values, others⟩ | ⟨text, e, ⟨earlier, later, rfl, scalars⟩, failed⟩
      · exact .inl ⟨v :: values, .cons read others⟩
      · refine .inr ⟨text, e, ⟨first :: earlier, later, rfl, ?_⟩, failed⟩
        exact List.forall_mem_cons.mpr ⟨⟨v, read⟩, scalars⟩

/-- Where a parser resolves, an error of reading is one of conversion. -/
theorem conversion_of_parse {valueType : ValueType} {text : String}
    (resolves : b.registry.canParse d valueType = true)
    (failed : b.registry.parse b.table d valueType text = .error e) :
    ∃ fault, e = .conversion d.signature text fault := by
  unfold Registry.parse at failed
  unfold Registry.canParse at resolves
  split at failed
  · next unresolved => simp [unresolved] at resolves
  · split at failed
    · cases failed
    · next fault _ => exact ⟨fault, (Except.error.inj failed).symm⟩

theorem claim_scalars {c : Container} {text : String} {rest : List String}
    (form : s.form = .delimited text) (shape : s.chosen.field.shape = .collection c (.scalar type))
    (unresolved :
      b.registry.canParse s.chosen.field.descriptor (.collection c (.scalar type)) = false) :
    (b.claim owner s rest).outcome =
      (b.readElements b.finish s.chosen.field.descriptor (.scalar type)
        (text :: s.chosen.field.descriptor.capturedRun rest)).outcome.map fun values =>
          ⟨some (c.ofElements values), (s.chosen.field.descriptor.capturedRun rest).length⟩ := by
  rw [claim, form]
  simp only [bindText, readContents, shape, unresolved, Bool.false_eq_true, if_false,
    Run.outcome_bind]
  cases (b.readElements b.finish s.chosen.field.descriptor (.scalar type)
    (text :: s.chosen.field.descriptor.capturedRun rest)).outcome <;> rfl

/-- No two values of a type that can be compared have the same key. -/
theorem toldApart_of_readAs (keeps : b.registry.KeepsScalars) (comparable : type.comparable = true)
    {values : List Value} (read : b.ReadAs d type texts values) : Value.ToldApart values := by
  have scalars : ∀ v ∈ values, ∃ x : Scalar, v = .scalar x ∧ x.Is type := by
    induction read with
    | nil => simp
    | cons first others ih => exact List.forall_mem_cons.mpr ⟨keeps.parse first, ih⟩
  intro v mem v' mem' same
  obtain ⟨x, rfl, is⟩ := scalars v mem
  obtain ⟨x', rfl, is'⟩ := scalars v' mem'
  exact congrArg Value.scalar (Scalar.eq_of_orderKey comparable is is' same)

end Reading

/-! ### What the option takes -/

/-- Binding fails where the scan does, and leaves the field of the option that fails as it was. -/
theorem bindFields_of_breaks {e : NoResult BindError} (accepted : b.Accepts t)
    {segments : List Segment} {rest : List String}
    (broken : b.Breaks (b.table.recordName t) (b.table.pending t) tokens segments s rest e)
    (fields : List Value) :
    (b.bindFields t fields tokens).run.outcome = .error e ∧
      (b.bindFields t fields tokens).fields[s.chosen.index]? = fields[s.chosen.index]? := by
  obtain ⟨ended, same⟩ := breaks_iff.mpr ⟨s, rest, broken⟩
  refine ⟨bindFields_error_iff.mpr (.inr ⟨accepted, ended⟩), ?_⟩
  rw [bindFields_fields accepted, same]
  refine Segment.applyAll_getElem?_of_none fun segment mem at' => ?_
  exact absurd (List.mem_map.mpr ⟨segment, mem, at'⟩)
    (broken.index_not_mem (b.table.pending_nodup t))

/-- **A repeatable option for scalars takes exactly the longest run of its tokens.** It is selected
with a value by the token at `i`, and there is a parser for its elements and none for the whole
collection. If all texts of the run are values, it takes as many tokens as there are texts, and its
field holds these values, as its container does. Otherwise binding fails with the error of
converting the first text that is none, and the field is as it was. -/
theorem bindFields_scalarRun (accepted : b.Accepts t) (keeps : b.registry.KeepsScalars) {i : Nat}
    {text : String} {c : Container} {type : ScalarType}
    (met : b.Meets (b.table.recordName t) (b.table.pending t) tokens i s)
    (form : s.form = .delimited text) (shape : s.chosen.field.shape = .collection c (.scalar type))
    (resolves : b.registry.canParse s.chosen.field.descriptor (.single (.scalar type)) = true)
    (unresolved :
      b.registry.canParse s.chosen.field.descriptor (.collection c (.scalar type)) = false)
    (comparable : c.kind = .set → type.comparable = true)
    (run : s.chosen.field.descriptor.ValueRun tokens i texts) :
    ((∃ values, b.ReadAs s.chosen.field.descriptor type texts values) ∨
      ∃ text e, b.FirstUnread s.chosen.field.descriptor type texts text e) ∧
    (∀ values, b.ReadAs s.chosen.field.descriptor type texts values →
      ∃ claim elements, c.Collects values elements ∧ values.length = texts.length ∧
        b.Takes (b.table.recordName t) (b.table.pending t) tokens s (tokens.drop (i + 1)) claim ∧
        claim.extra + 1 = texts.length ∧ claim.update = some (.items elements) ∧
        ∀ fields w, fields[s.chosen.index]? = some w →
          (b.bindFields t fields tokens).fields[s.chosen.index]? = some (.items elements)) ∧
    ∀ text e, b.FirstUnread s.chosen.field.descriptor type texts text e →
      (∃ fault, e = .conversion s.chosen.field.signature text fault) ∧
        ∀ fields, (b.bindFields t fields tokens).run.outcome = .error (.failed e) ∧
          (b.bindFields t fields tokens).fields[s.chosen.index]? = fields[s.chosen.index]? := by
  obtain ⟨token, at', recognised⟩ := met.recognised
  rw [form] at recognised
  have first := run.eq_cons at' (Descriptor.recognise_delimited_iff.mp recognised).2
  have claims : (b.claim (b.table.recordName t) s (tokens.drop (i + 1))).outcome = _ :=
    claim_scalars form shape unresolved
  rw [← first] at claims
  refine ⟨b.readAs_or_firstUnread _ _ _, fun values read => ?_, fun text' e unread => ?_⟩
  · rw [readElements_scalars_ok_iff.mpr read] at claims
    have taken := met.takes claims
    obtain ⟨elements, made, collects⟩ := c.ofElements_collects fun set =>
      toldApart_of_readAs keeps (comparable set) read
    refine ⟨_, elements, collects, read.length_eq.symm, taken, by simp [first],
      congrArg some made, fun fields w held => ?_⟩
    have after := bindFields_of_takes accepted taken fields
    simpa [held, made] using after
  · refine ⟨conversion_of_parse resolves unread.failed, fun fields => ?_⟩
    rw [unread.readElements] at claims
    obtain ⟨segments, broken⟩ := met.breaks claims
    exact bindFields_of_breaks accepted broken fields

/-- A binder for a switch and a set of letters. -/
def letterSetBinder : Binder where
  table :=
    [{ fullName := "Letters", shortName := "Letters",
       fields :=
        [{ descriptor := { name := "x" }, shape := .flag },
         { descriptor := { name := "c" }, shape := .collection .treeSet (.scalar .char) }] }]
  registry := .builtin

/-- The selection of the letters after the switch. -/
def letterSelection : Selection :=
  ⟨⟨1, (letterSetBinder.table.fields 0)[1]⟩, .delimited "b", []⟩

theorem letterSetBinder_meets (more : List String) : letterSetBinder.Meets "Letters"
    (letterSetBinder.table.pending 0) ("-x" :: "-c=b" :: more) 1 letterSelection := by
  have switch : select "-x" (letterSetBinder.table.pending 0) =
      some ⟨⟨0, (letterSetBinder.table.fields 0)[0]⟩, .exact,
        (letterSetBinder.table.pending 0).drop 1⟩ := by decide +kernel
  have letters : select "-c=b" ((letterSetBinder.table.pending 0).drop 1) =
      some letterSelection := by decide +kernel
  exact .later switch (bindFlag_ok_iff.mpr (.switched (.inl rfl))) (.here letters)

/-- Three tokens give letters, and the set holds two. An empty text is no letter. -/
theorem bindFields_scalarRun_letters :
    letterSetBinder.Accepts 0 ∧ letterSetBinder.registry.KeepsScalars ∧
      letterSelection.chosen.field.descriptor.ValueRun
        ["-x", "-c=b", "-c=a", "-c=b", "y"] 1 ["b", "a", "b"] ∧
      letterSelection.chosen.field.descriptor.ValueRun
        ["-x", "-c=b", "-c=", "-c=a"] 1 ["b", "", "a"] ∧
      (∃ elements, Container.treeSet.Collects
          [.scalar (.char 'b'), .scalar (.char 'a'), .scalar (.char 'b')] elements ∧
        (letterSetBinder.bindFields 0 (letterSetBinder.table.fresh 0)
          ["-x", "-c=b", "-c=a", "-c=b", "y"]).fields[1]? = some (.items elements)) ∧
      (letterSetBinder.bindFields 0 (letterSetBinder.table.fresh 0)
        ["-x", "-c=b", "-c=", "-c=a"]).run.outcome =
          .error (.failed (.conversion "-c" "" .noCharacter)) := by
  have accepted : letterSetBinder.Accepts 0 := .inr rfl
  have keeps : letterSetBinder.registry.KeepsScalars := Registry.keepsScalars_builtin
  have three : letterSelection.chosen.field.descriptor.ValueRun
      ["-x", "-c=b", "-c=a", "-c=b", "y"] 1 ["b", "a", "b"] :=
    Descriptor.valueRun_iff.mpr (by decide +kernel)
  have broken : letterSelection.chosen.field.descriptor.ValueRun
      ["-x", "-c=b", "-c=", "-c=a"] 1 ["b", "", "a"] :=
    Descriptor.valueRun_iff.mpr (by decide +kernel)
  obtain ⟨-, taken, -⟩ := bindFields_scalarRun accepted keeps (letterSetBinder_meets _)
    rfl rfl rfl rfl (fun _ => rfl) three
  obtain ⟨-, -, failed⟩ := bindFields_scalarRun accepted keeps (letterSetBinder_meets _)
    rfl rfl rfl rfl (fun _ => rfl) broken
  refine ⟨accepted, keeps, three, broken, ?_, ?_⟩
  · obtain ⟨claim, elements, collects, -, -, -, -, after⟩ :=
      taken _ (.cons rfl (.cons rfl (.cons rfl .nil)))
    exact ⟨elements, collects, after _ _ rfl⟩
  · exact ((failed "" _ ⟨⟨["b"], ["a"], rfl, by simpa using ⟨_, rfl⟩⟩, rfl⟩).2 _).1

end Binder

end OptionBinding
