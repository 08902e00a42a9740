import OptionBinding.Binding.Defaults

/-!
# Scanning tokens

The options of a composite take tokens one after another. Each token is offered to the options that
are still pending, in order of declaration; the first one that recognises it takes it, together with
the tokens after it that belong to it, and is pending no more. The scan ends at the first token that
no pending option recognises. What the scan found is a list of segments, one per option bound, which
do not depend on what the composite held before.
-/

namespace OptionBinding

/-- An option that has not been bound yet: its place among the fields, and the field. -/
structure Pending where
  index : Nat
  field : Field
  deriving DecidableEq, Repr

/-- A pending option that recognises a token, how it does, and the options that stay pending. -/
structure Selection where
  chosen : Pending
  form : TokenForm
  others : List Pending
  deriving DecidableEq, Repr

/-- The first pending option that recognises a token. -/
def select (token : String) : List Pending → Option Selection
  | [] => none
  | p :: rest =>
    match p.field.descriptor.recognise token with
    | some form => some ⟨p, form, rest⟩
    | none => (select token rest).map fun s => { s with others := p :: s.others }

/-- What a field takes after the token that selects it: its new contents, if it gets any, and how
many further tokens. -/
structure Claim where
  update : Option Value
  extra : Nat

/-- A run of tokens that one field takes: the field's place, the number of tokens, and the field's
new contents, if it gets any. -/
structure Segment where
  index : Nat
  width : Nat
  update : Option Value

namespace Segment

/-- The fields of a composite after a segment. -/
def apply (fields : List Value) (s : Segment) : List Value :=
  match s.update with
  | some v => fields.set s.index v
  | none => fields

/-- The fields of a composite after segments. -/
def applyAll (fields : List Value) (segments : List Segment) : List Value :=
  segments.foldl apply fields

/-- How many tokens segments take. -/
def totalWidth (segments : List Segment) : Nat := (segments.map (·.width)).foldr (· + ·) 0

@[simp] theorem totalWidth_nil : totalWidth [] = 0 := rfl

@[simp] theorem totalWidth_cons (s : Segment) (segments : List Segment) :
    totalWidth (s :: segments) = s.width + totalWidth segments := rfl

end Segment

/-- How a scan went: the segments found, and why it did not come to its end, if it did not. -/
structure Scan where
  segments : List Segment
  outcome : Outcome BindError Unit
  events : List Event

/-- A scan with a segment before it. -/
def Scan.after (s : Scan) (first : Segment) (events : List Event) : Scan :=
  ⟨first :: s.segments, s.outcome, events ++ s.events⟩

/-- The options of a type, all pending. -/
def TypeTable.pending (table : TypeTable) (t : TypeId) : List Pending :=
  (table.fields t).mapIdx fun i f => ⟨i, f⟩

namespace Binder

/-- What a field takes when a token gives its value; `rest` are the tokens after it. A repeatable
option takes all directly following tokens that give it further values. -/
def bindText (b : Binder) (owner : String) (f : Field) (text : String) (rest : List String) :
    Run Claim := do
  let (contents, extra) ← b.readContents b.finish owner f text (f.descriptor.capturedRun rest)
  return ⟨some contents, extra⟩

mutual

/-- Scans tokens for pending options. -/
def scan (b : Binder) (owner : String) (pending : List Pending) (tokens : List String) : Scan :=
  match tokens with
  | [] => ⟨[], .ok (), []⟩
  | token :: rest =>
    match select token pending with
    | none => ⟨[], .ok (), [.scopeLeft token owner]⟩
    | some s =>
      let claim := match s.form with
        | .exact => b.bindFlag owner s.chosen.field rest
        | .delimited text => b.bindText owner s.chosen.field text rest
      match claim.outcome with
      | .error e => ⟨[], .error e, claim.events⟩
      | .ok c =>
        (b.scan owner s.others (rest.drop c.extra)).after ⟨s.chosen.index, c.extra + 1, c.update⟩
          (claim.events ++ [.optionBound s.chosen.field.signature owner (c.extra + 1)])
termination_by (tokens.length, 0)

/-- What a field takes when its bare signature selects it; `rest` are the tokens after it. A
composite takes the tokens of its own options; if there are none it stays as it is, which is an
error if the option must be given. -/
def bindFlag (b : Binder) (owner : String) (f : Field) (rest : List String) : Run Claim :=
  match f.shape with
  | .flag => pure ⟨some (.scalar (.bool true)), 0⟩
  | .single (.scalar type) =>
    if type = .bool then pure ⟨some (.scalar (.bool true)), 0⟩
    else .fail (.missingValue f.signature owner)
  | .single (.composite t) => do
    let (fields, n) ← b.construct t rest
    if n = 0 then
      if f.descriptor.mustBeGiven then .fail (.missingValue f.signature owner) else return ⟨none, 0⟩
    else return ⟨some (.composite fields), n⟩
  | .collection _ (.scalar _) => .fail (.missingValue f.signature owner)
  | .collection c (.composite t) => do
    let (elements, n) ← b.composites t f.signature rest
    if elements.isEmpty && f.descriptor.mustBeGiven then .fail (.missingValue f.signature owner)
    else
      let contents := c.ofElements elements
      Run.tell (.compositesCollected f.signature contents.elements.length)
      return ⟨some contents, n⟩
  | .invalid reason => .fail (.invalidDescriptor f.signature owner (.rejected reason))
  | .unsupported typeName => .fail (.unsupportedCollection f.signature owner typeName)
termination_by (rest.length, 4)

/-- Binds the options of a composite from the front of tokens, and says how many it takes. -/
def bindFields (b : Binder) (t : TypeId) (fields : List Value) (tokens : List String) : Pass Nat :=
  let checked := b.schema t
  match checked.outcome with
  | .error e => ⟨fields, ⟨.error e, checked.events⟩⟩
  | .ok () =>
    let scanned := b.scan (b.table.recordName t) (b.table.pending t) tokens
    ⟨Segment.applyAll fields scanned.segments,
      ⟨scanned.outcome.map fun _ => Segment.totalWidth scanned.segments,
        checked.events ++ scanned.events⟩⟩
termination_by (tokens.length, 1)

/-- Binds a fresh composite from the front of tokens, and says how many it takes. It is completed if
it takes any. -/
def construct (b : Binder) (t : TypeId) (tokens : List String) : Run (List Value × Nat) := do
  let bound := b.bindFields t (b.table.fresh t) tokens
  let n ← bound.run
  if n = 0 then return (bound.fields, 0) else return (← b.finish t bound.fields, n)
termination_by (tokens.length, 2)

/-- Binds composites of a repeatable option from the front of tokens: one after the flag, and a
further one after each restatement of the flag. The last restatement is taken even if no composite
follows. -/
def composites (b : Binder) (t : TypeId) (signature : String) (tokens : List String) :
    Run (List Value × Nat) := do
  let (fields, n) ← b.construct t tokens
  if n = 0 then return ([], 0)
  match _after : tokens.drop n with
  | [] => return ([.composite fields], n)
  | next :: more =>
    if Text.trim next = signature then
      let (elements, k) ← b.composites t signature more
      return (.composite fields :: elements, n + 1 + k)
    else return ([.composite fields], n)
termination_by (tokens.length, 3)
decreasing_by
  · exact Prod.Lex.right _ (by decide)
  · have shorter := congrArg List.length _after
    simp only [List.length_drop, List.length_cons] at shorter
    exact Prod.Lex.left _ _ (by omega)

end

end Binder

end OptionBinding
