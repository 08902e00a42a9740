import OptionBinding.Binding.Run
import OptionBinding.Binding.Schema
import OptionBinding.Registry

/-!
# Reading values and filling in defaults

Composites are completed after they have been bound: every empty field takes the value of its
default text, and a required one without a default is missing. A composite that comes from a text,
be it a token's or a default's, is completed in turn, and so on down the types; a chain of defaults
longer than there are fields has met one of them twice and never ends.
-/

namespace OptionBinding

/-- What binding works with: the composite types, the parsers, and the types whose fields are known
to have passed their check. -/
structure Binder where
  table : TypeTable
  registry : Registry
  checked : List TypeId := []

/-- The contents that a step leaves in the fields of a composite, and how the step went. What was
done before an error stays done. -/
structure Pass (α : Type) where
  fields : List Value
  run : Run α

/-- A pass whose fields count only if it succeeds. -/
def Pass.whole {α : Type} (p : Pass α) : Run (List Value) :=
  ⟨p.run.outcome.map fun _ => p.fields, p.run.events⟩

/-- How composites of a type are completed. -/
abbrev Finish := TypeId → List Value → Run (List Value)

/-- Completes a value, if it is a composite. -/
def finishValue (finish : Finish) : Element → Value → Run Value
  | .composite t, .composite fields => do return .composite (← finish t fields)
  | _, v => pure v

namespace Binder

/-- Checks the fields of a type, unless that has been done. -/
def schema (b : Binder) (t : TypeId) : Run Unit :=
  if t ∈ b.checked then pure ()
  else
    match b.table.fault? t with
    | some e => .fail e
    | none => .tell (.schemaChecked t (b.table.recordName t) (b.table.fields t).length)

/-- Turns a text into a value of a type. -/
def parse (b : Binder) (d : Descriptor) (type : ValueType) (text : String) : Run Value :=
  .ofExcept (b.registry.parse b.table d type text)

/-- Turns a text into a single value, completed if it is a composite. -/
def readElement (b : Binder) (finish : Finish) (d : Descriptor) (e : Element) (text : String) :
    Run Value := do
  finishValue finish e (← b.parse d (.single e) text)

/-- Turns texts into single values. -/
def readElements (b : Binder) (finish : Finish) (d : Descriptor) (e : Element) :
    List String → Run (List Value)
  | [] => pure []
  | text :: rest => do
    let v ← b.readElement finish d e text
    let vs ← b.readElements finish d e rest
    return v :: vs

/-- Turns the text of a field into its contents, together with the texts `more` that follow it, and
says how many of these were used. A parser for the whole collection makes it of the one text; else
each text is an element. -/
def readContents (b : Binder) (finish : Finish) (owner : String) (f : Field) (text : String)
    (more : List String) : Run (Value × Nat) :=
  match f.shape with
  | .flag => do return (← b.parse f.descriptor (.single (.scalar .bool)) text, 0)
  | .single e => do return (← b.readElement finish f.descriptor e text, 0)
  | .collection c e =>
    if b.registry.canParse f.descriptor (.collection c e) then do
      return (← b.parse f.descriptor (.collection c e) text, 0)
    else do
      let elements ← b.readElements finish f.descriptor e (text :: more)
      return (c.ofElements elements, more.length)
  | .invalid reason => .fail (.invalidDescriptor f.signature owner (.rejected reason))
  | .unsupported typeName => .fail (.unsupportedCollection f.signature owner typeName)

end Binder

/-- Fills the empty fields of a composite, in order, up to the first that fails. `value` makes the
contents of a field from its default text. -/
def fillFields (owner : String) (value : Field → String → Run Value) :
    List Field → List Value → Pass Unit
  | f :: fs, v :: vs =>
    if !v.isEmpty then
      let rest := fillFields owner value fs vs
      ⟨v :: rest.fields, rest.run⟩
    else
      match f.descriptor.defaultText with
      | some text =>
        let made := Run.tell (.defaultApplied f.signature owner text) >>= fun _ => value f text
        match made.outcome with
        | .error e => ⟨v :: vs, ⟨.error e, made.events⟩⟩
        | .ok v =>
          let rest := fillFields owner value fs vs
          ⟨v :: rest.fields, ⟨rest.run.outcome, made.events ++ rest.run.events⟩⟩
      | none =>
        if f.descriptor.required then
          ⟨v :: vs, .fail (.requiredOptionMissing f.signature owner)⟩
        else
          let rest := fillFields owner value fs vs
          ⟨v :: rest.fields, rest.run⟩
  | _, vs => ⟨vs, pure ()⟩

namespace Binder

/-- Completes a composite, where `finish` completes the composites that come from its defaults. -/
def completeWith (b : Binder) (finish : Finish) (t : TypeId) (fields : List Value) : Pass Unit :=
  let checked := b.schema t
  match checked.outcome with
  | .error e => ⟨fields, ⟨.error e, checked.events⟩⟩
  | .ok () =>
    let owner := b.table.recordName t
    let filled := fillFields owner
      (fun f text => do return (← b.readContents finish owner f text []).1)
      (b.table.fields t) fields
    ⟨filled.fields, ⟨filled.run.outcome, checked.events ++ filled.run.events⟩⟩

/-- Completes a composite by chains of at most `depth` defaults. -/
def completeWithin (b : Binder) : (depth : Nat) → TypeId → List Value → Pass Unit
  | 0 => b.completeWith fun _ _ => .endless
  | depth + 1 => b.completeWith fun t fields => (b.completeWithin depth t fields).whole

/-- Completes a composite: fills its empty fields from their defaults, and fails at one that is
required and has none. -/
def complete (b : Binder) (t : TypeId) (fields : List Value) : Pass Unit :=
  b.completeWithin b.table.fieldCount t fields

/-- Completes a composite that counts only as a whole. -/
def finish (b : Binder) : Finish := fun t fields => (b.complete t fields).whole

end Binder

end OptionBinding
