import OptionBinding.Binding.Binder

/-!
# Binding step by step

A binder hands itself back with the types that passed their check when a call ends, and not before.
Here the same calls are made with a journal that goes from step to step (`Binder.callStepwise`). A
check that is passed is written down on the spot, whatever happens after it (`Stepwise.schema`), and
no step checks a type that stands in the journal. The functions of `Stepwise` go through the same
steps as those of `Binder`, and bear their names.
-/

namespace OptionBinding

/-- A call of a binder. -/
inductive Call
  | bind (t : TypeId) (args : List String) (start : Nat)
  | bindInto (t : TypeId) (fields : List Value) (args : List String) (start : Nat)
  | parseArgument (t : TypeId) (fields : List Value) (args : List String) (index : Nat)

/-! ### Steps -/

/-- What is written down while steps are taken: the types that passed their check, and the
events. -/
structure Journal where
  checked : List TypeId
  events : List Event := []

/-- A step that reads the journal and writes in it. -/
abbrev Step (α : Type) := ExceptT (NoResult BindError) (StateM Journal) α

/-- The contents of the fields of a composite and how the step went that left them there. -/
abbrev Attempt (α : Type) := List Value × Outcome BindError α

namespace Stepwise

/-- A step that fails. -/
def fail {α : Type} (e : BindError) : Step α := throw (.failed e)

/-- A step that never ends. -/
def endless {α : Type} : Step α := throw .endless

/-- Writes down an event. -/
def tell (e : Event) : Step Unit := do
  modify fun j => { j with events := j.events ++ [e] }

/-- Writes down that a type passed its check. -/
def remember (t : TypeId) : Step Unit := do
  modify fun j => { j with checked := j.checked ++ [t] }

variable (table : TypeTable) (registry : Registry)

/-- Checks the fields of a type, unless the journal says that they passed. -/
def schema (t : TypeId) : Step Unit := do
  let j ← get
  if t ∈ j.checked then return
  else
    match table.fault? t with
    | some e => fail e
    | none =>
      remember t
      tell (.schemaChecked t (table.recordName t) (table.fields t).length)

section Schema

variable {table} {t : TypeId} {j : Journal}

theorem schema_of_mem (mem : t ∈ j.checked) : (schema table t).run.run j = (.ok (), j) := by
  change (if t ∈ j.checked then _ else _ : Step Unit).run.run j = _
  rw [if_pos mem]
  rfl

theorem schema_of_fault {e : BindError} (new : t ∉ j.checked) (fault : table.fault? t = some e) :
    (schema table t).run.run j = (.error (.failed e), j) := by
  change (if t ∈ j.checked then _ else _ : Step Unit).run.run j = _
  rw [if_neg new, fault]
  rfl

theorem schema_of_sound (new : t ∉ j.checked) (sound : table.fault? t = none) :
    (schema table t).run.run j = (.ok (), ⟨j.checked ++ [t],
      j.events ++ [.schemaChecked t (table.recordName t) (table.fields t).length]⟩) := by
  change (if t ∈ j.checked then _ else _ : Step Unit).run.run j = _
  rw [if_neg new, sound]
  rfl

end Schema

/-- How composites of a type are completed. -/
abbrev Finish := TypeId → List Value → Step (List Value)

/-! ### Values -/

/-- Turns a text into a value of a type. -/
def parse (d : Descriptor) (type : ValueType) (text : String) : Step Value :=
  liftExcept (Outcome.ended (registry.parse table d type text))

/-- Turns a text into a single value, completed if it is a composite. -/
def readElement (finish : Finish) (d : Descriptor) (e : Element) (text : String) :
    Step Value := do
  let v ← parse table registry d (.single e) text
  match e, v with
  | .composite t, .composite fields => return .composite (← finish t fields)
  | _, v => return v

/-- Turns texts into single values. -/
def readElements (finish : Finish) (d : Descriptor) (e : Element) :
    List String → Step (List Value)
  | [] => return []
  | text :: rest => do
    let v ← readElement table registry finish d e text
    let vs ← readElements finish d e rest
    return v :: vs

/-- Turns the text of a field and the texts that follow it into its contents. -/
def readContents (finish : Finish) (owner : String) (f : Field) (text : String)
    (more : List String) : Step (Value × Nat) :=
  match f.shape with
  | .flag => do return (← parse table registry f.descriptor (.single (.scalar .bool)) text, 0)
  | .single e => do return (← readElement table registry finish f.descriptor e text, 0)
  | .collection c e =>
    if registry.canParse f.descriptor (.collection c e) then do
      return (← parse table registry f.descriptor (.collection c e) text, 0)
    else do
      let elements ← readElements table registry finish f.descriptor e (text :: more)
      return (c.ofElements elements, more.length)
  | .invalid reason => fail (.invalidDescriptor f.signature owner (.rejected reason))
  | .unsupported typeName => fail (.unsupportedCollection f.signature owner typeName)

/-- Fills the empty fields of a composite, in order, up to the first that fails. -/
def fillFields (owner : String) (value : Field → String → Step Value) :
    List Field → List Value → StateM Journal (Attempt Unit)
  | f :: fs, v :: vs =>
    if !v.isEmpty then do
      let (rest, outcome) ← fillFields owner value fs vs
      return (v :: rest, outcome)
    else
      match f.descriptor.defaultText with
      | some text => do
        match ← (tell (.defaultApplied f.signature owner text) >>= fun _ => value f text).run with
        | .error e => return (v :: vs, .error e)
        | .ok v =>
          let (rest, outcome) ← fillFields owner value fs vs
          return (v :: rest, outcome)
      | none =>
        if f.descriptor.required then
          return (v :: vs, .error (.failed (.requiredOptionMissing f.signature owner)))
        else do
          let (rest, outcome) ← fillFields owner value fs vs
          return (v :: rest, outcome)
  | _, vs => return (vs, .ok ())

/-! ### Completing -/

/-- Completes a composite, where `finish` completes the composites that come from its defaults. -/
def completeWith (finish : Finish) (t : TypeId) (fields : List Value) :
    StateM Journal (Attempt Unit) := do
  match ← (schema table t).run with
  | .error e => return (fields, .error e)
  | .ok () =>
    let owner := table.recordName t
    fillFields owner
      (fun f text => do return (← readContents table registry finish owner f text []).1)
      (table.fields t) fields

/-- Counts what a step leaves in the fields only if it succeeds. -/
def whole {α : Type} (x : StateM Journal (Attempt α)) : Step (List Value) := do
  let (fields, outcome) ← x
  liftExcept (outcome.map fun _ => fields)

/-- Completes a composite by chains of at most `depth` defaults. -/
def completeWithin : (depth : Nat) → TypeId → List Value → StateM Journal (Attempt Unit)
  | 0 => completeWith table registry fun _ _ => endless
  | depth + 1 => completeWith table registry fun t fields =>
    whole (completeWithin depth t fields)

/-- Completes a composite. -/
def complete (t : TypeId) (fields : List Value) : StateM Journal (Attempt Unit) :=
  completeWithin table registry table.fieldCount t fields

/-- Completes a composite that counts only as a whole. -/
def finish : Finish := fun t fields => whole (complete table registry t fields)

/-! ### Matching -/

/-- What a field takes when a token gives its value. -/
def bindText (owner : String) (f : Field) (text : String) (rest : List String) : Step Claim := do
  let (contents, extra) ← readContents table registry (finish table registry) owner f text
    (f.descriptor.capturedRun rest)
  return ⟨some contents, extra⟩

mutual

/-- Scans tokens for pending options. -/
def scan (owner : String) (pending : List Pending) (tokens : List String) :
    StateM Journal (List Segment × Outcome BindError Unit) := do
  match tokens with
  | [] => return ([], .ok ())
  | token :: rest =>
    match select token pending with
    | none =>
      let _ ← (tell (.scopeLeft token owner)).run
      return ([], .ok ())
    | some s =>
      let claim := match s.form with
        | .exact => bindFlag owner s.chosen.field rest
        | .delimited text => bindText table registry owner s.chosen.field text rest
      match ← claim.run with
      | .error e => return ([], .error e)
      | .ok c =>
        let _ ← (tell (.optionBound s.chosen.field.signature owner (c.extra + 1))).run
        let (segments, outcome) ← scan owner s.others (rest.drop c.extra)
        return (⟨s.chosen.index, c.extra + 1, c.update⟩ :: segments, outcome)
termination_by (tokens.length, 0)

/-- What a field takes when its bare signature selects it. -/
def bindFlag (owner : String) (f : Field) (rest : List String) : Step Claim :=
  match f.shape with
  | .flag => return ⟨some (.scalar (.bool true)), 0⟩
  | .single (.scalar type) =>
    if type = .bool then return ⟨some (.scalar (.bool true)), 0⟩
    else fail (.missingValue f.signature owner)
  | .single (.composite t) => do
    let (fields, n) ← construct t rest
    if n = 0 then
      if f.descriptor.mustBeGiven then fail (.missingValue f.signature owner) else return ⟨none, 0⟩
    else return ⟨some (.composite fields), n⟩
  | .collection _ (.scalar _) => fail (.missingValue f.signature owner)
  | .collection c (.composite t) => do
    let (elements, n) ← composites t f.signature rest
    if elements.isEmpty && f.descriptor.mustBeGiven then fail (.missingValue f.signature owner)
    else
      let contents := c.ofElements elements
      tell (.compositesCollected f.signature contents.elements.length)
      return ⟨some contents, n⟩
  | .invalid reason => fail (.invalidDescriptor f.signature owner (.rejected reason))
  | .unsupported typeName => fail (.unsupportedCollection f.signature owner typeName)
termination_by (rest.length, 4)

/-- Binds the options of a composite from the front of tokens, and says how many it takes. -/
def bindFields (t : TypeId) (fields : List Value) (tokens : List String) :
    StateM Journal (Attempt Nat) := do
  match ← (schema table t).run with
  | .error e => return (fields, .error e)
  | .ok () =>
    let (segments, outcome) ← scan (table.recordName t) (table.pending t) tokens
    return (Segment.applyAll fields segments, outcome.map fun _ => Segment.totalWidth segments)
termination_by (tokens.length, 1)

/-- Binds a fresh composite from the front of tokens, and says how many it takes. -/
def construct (t : TypeId) (tokens : List String) : Step (List Value × Nat) := do
  let (fields, outcome) ← bindFields t (table.fresh t) tokens
  let n ← liftExcept outcome
  if n = 0 then return (fields, 0) else return (← finish table registry t fields, n)
termination_by (tokens.length, 2)

/-- Binds composites of a repeatable option from the front of tokens. -/
def composites (t : TypeId) (signature : String) (tokens : List String) :
    Step (List Value × Nat) := do
  let (fields, n) ← construct t tokens
  if n = 0 then return ([], 0)
  match _after : tokens.drop n with
  | [] => return ([.composite fields], n)
  | next :: more =>
    if Text.trim next = signature then
      let (elements, k) ← composites t signature more
      return (.composite fields :: elements, n + 1 + k)
    else return ([.composite fields], n)
termination_by (tokens.length, 3)
decreasing_by
  · exact Prod.Lex.right _ (by decide)
  · have shorter := congrArg List.length _after
    simp only [List.length_drop, List.length_cons] at shorter
    exact Prod.Lex.left _ _ (by omega)

end

/-! ### Calls -/

/-- Binds the options of a composite from the front of tokens, and completes it. -/
def bindAndComplete (t : TypeId) (fields : List Value) (tokens : List String) :
    StateM Journal (Attempt Nat) := do
  let (fields, outcome) ← bindFields table registry t fields tokens
  match outcome with
  | .error e => return (fields, .error e)
  | .ok n =>
    let (fields, outcome) ← complete table registry t fields
    return (fields, outcome.map fun _ => n)

/-- Makes a call. -/
def call : Call → StateM Journal (Attempt Nat)
  | .bind t args start => bindAndComplete table registry t (table.fresh t) (args.drop start)
  | .bindInto t fields args start => bindAndComplete table registry t fields (args.drop start)
  | .parseArgument t fields args index =>
    match table.root? t, args.drop index with
    | some root, token :: rest =>
      if root.isExact token then do
        let (fields, outcome) ← bindAndComplete table registry t fields rest
        match outcome with
        | .error e => return (fields, .error e)
        | .ok n =>
          let _ ← (tell (.rootParsed root.signature (n + 1))).run
          return (fields, .ok (n + 1))
      else return (fields, .ok 0)
    | _, _ => return (fields, .ok 0)

end Stepwise

namespace Binder

/-- What a call leaves. -/
def call (b : Binder) : Call → Bound
  | .bind t args start => b.bind t args start
  | .bindInto t fields args start => b.bindInto t fields args start
  | .parseArgument t fields args index => b.parseArgument t fields args index

/-- The binder after calls, whatever came of them. -/
def after (b : Binder) (calls : List Call) : Binder :=
  calls.foldl (fun b c => (b.call c).binder) b

/-- Makes a call step by step. -/
def callStepwise (b : Binder) (c : Call) : Bound :=
  let ((fields, outcome), j) := (Stepwise.call b.table b.registry c).run ⟨b.checked, []⟩
  ⟨{ b with checked := j.checked }, fields, outcome, j.events⟩

end Binder

end OptionBinding
