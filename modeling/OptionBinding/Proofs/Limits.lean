import OptionBinding.Proofs.Steps

/-!
# Binding within limits

Binding recurses in three ways: matching goes down into the composites of bare flags, a repeatable
option goes through rounds, and completing goes down into the composites of defaults. Here each of
them has a limit, and anything at all may happen beyond it (`Limits`). The functions within limits
are recursive in the limits alone, except for the scan, which loses a pending option with every
claim.

If the limits are as large as the number of tokens then matching within them is matching
(`bindFieldsWithin_eq`), whatever happens beyond: a matching inside another one has a token less
(the flag), and a round that is followed by another takes two tokens, one for its composite and the
restated flag (`Round.length_le`). What is needed of completing is a hypothesis here
(`Binder.Completes`).
-/

namespace OptionBinding

/-- **Limits to the recursion of binding**, and what happens beyond them. -/
structure Limits where
  nesting : Nat
  rounds : Nat
  chain : Nat
  /-- What matching does when it is nested too deep. -/
  deeper : TypeId → List Value → List String → Pass Nat
  /-- What a repeatable option does in a round too many. -/
  further : TypeId → String → List String → Run (List Value × Nat)
  /-- What completing does after a chain too long. -/
  longer : TypeId → List Value → Pass Unit

/-- Every composite type that a field holds is in the table. -/
def TypeTable.Closed (table : TypeTable) : Prop :=
  ∀ t, ∀ f ∈ table.fields t, ∀ u, f.shape.element = .composite u → u < table.length

theorem length_others_lt {token : String} {pending : List Pending} {s : Selection}
    (h : select token pending = some s) : s.others.length < pending.length := by
  obtain ⟨-, earlier, later, rfl, others, -⟩ := select_eq_some_iff.mp h
  simp [others]

namespace Binder

/-! ### One level -/

/-- Completes a composite by a chain of so many levels. -/
def completeLevels (b : Binder) (l : Limits) : (levels : Nat) → TypeId → List Value → Pass Unit
  | 0 => l.longer
  | levels + 1 => b.completeWith fun u fields => (b.completeLevels l levels u fields).whole

/-- Completes a composite, within limits, that counts only as a whole. -/
def finishLimited (b : Binder) (l : Limits) : Finish :=
  fun t fields => (b.completeLevels l l.chain t fields).whole

/-- Binds a fresh composite, where `inner` binds its options. -/
def constructBy (b : Binder) (l : Limits)
    (inner : TypeId → List Value → List String → Pass Nat) (t : TypeId) (tokens : List String) :
    Run (List Value × Nat) := do
  let bound := inner t (b.table.fresh t) tokens
  let n ← bound.run
  if n = 0 then return (bound.fields, 0) else return (← b.finishLimited l t bound.fields, n)

/-- Binds composites of a repeatable option in so many rounds, where `construct` binds each. -/
def compositesBy (l : Limits) (construct : TypeId → List String → Run (List Value × Nat))
    (t : TypeId) (signature : String) : (rounds : Nat) → List String → Run (List Value × Nat)
  | 0, tokens => l.further t signature tokens
  | rounds + 1, tokens => do
    let (fields, n) ← construct t tokens
    if n = 0 then return ([], 0)
    match tokens.drop n with
    | [] => return ([.composite fields], n)
    | next :: more =>
      if Text.trim next = signature then
        let (elements, k) ← compositesBy l construct t signature rounds more
        return (.composite fields :: elements, n + 1 + k)
      else return ([.composite fields], n)

/-- What a field takes when its bare signature selects it, where `construct` and `composites` bind
what it holds. -/
def bindFlagBy (construct : TypeId → List String → Run (List Value × Nat))
    (composites : TypeId → String → List String → Run (List Value × Nat)) (owner : String)
    (f : Field) (rest : List String) : Run Claim :=
  match f.shape with
  | .flag => pure ⟨some (.scalar (.bool true)), 0⟩
  | .single (.scalar type) =>
    if type = .bool then pure ⟨some (.scalar (.bool true)), 0⟩
    else .fail (.missingValue f.signature owner)
  | .single (.composite t) => do
    let (fields, n) ← construct t rest
    if n = 0 then
      if f.descriptor.mustBeGiven then .fail (.missingValue f.signature owner) else return ⟨none, 0⟩
    else return ⟨some (.composite fields), n⟩
  | .collection _ (.scalar _) => .fail (.missingValue f.signature owner)
  | .collection c (.composite t) => do
    let (elements, n) ← composites t f.signature rest
    if elements.isEmpty && f.descriptor.mustBeGiven then .fail (.missingValue f.signature owner)
    else
      let contents := c.ofElements elements
      Run.tell (.compositesCollected f.signature contents.elements.length)
      return ⟨some contents, n⟩
  | .invalid reason => .fail (.invalidDescriptor f.signature owner (.rejected reason))
  | .unsupported typeName => .fail (.unsupportedCollection f.signature owner typeName)

/-- What the field that a token selects takes, where `inner` binds the options of composites. -/
def claimBy (b : Binder) (l : Limits) (inner : TypeId → List Value → List String → Pass Nat)
    (owner : String) (s : Selection) (rest : List String) : Run Claim :=
  match s.form with
  | .exact =>
    bindFlagBy (b.constructBy l inner)
      (fun t signature => compositesBy l (b.constructBy l inner) t signature l.rounds) owner
      s.chosen.field rest
  | .delimited text => do
    let (contents, extra) ← b.readContents (b.finishLimited l) owner s.chosen.field text
      (s.chosen.field.descriptor.capturedRun rest)
    return ⟨some contents, extra⟩

/-- Scans tokens for pending options, where `claim` says what the field that a token selects
takes. -/
def scanBy (claim : Selection → List String → Run Claim) (owner : String) (pending : List Pending)
    (tokens : List String) : Scan :=
  match tokens with
  | [] => ⟨[], .ok (), []⟩
  | token :: rest =>
    match _selected : select token pending with
    | none => ⟨[], .ok (), [.scopeLeft token owner]⟩
    | some s =>
      let claimed := claim s rest
      match claimed.outcome with
      | .error e => ⟨[], .error e, claimed.events⟩
      | .ok c =>
        (scanBy claim owner s.others (rest.drop c.extra)).after (c.segment s.chosen.index)
          (claimed.events ++ [.optionBound s.chosen.field.signature owner (c.extra + 1)])
termination_by pending.length
decreasing_by exact length_others_lt _selected

/-! ### All levels -/

/-- Binds the options of a composite, with so many levels of composites in it. -/
def bindFieldsLevels (b : Binder) (l : Limits) :
    (levels : Nat) → TypeId → List Value → List String → Pass Nat
  | 0 => l.deeper
  | levels + 1 => fun t fields tokens =>
    let checked := b.schema t
    match checked.outcome with
    | .error e => ⟨fields, ⟨.error e, checked.events⟩⟩
    | .ok () =>
      let owner := b.table.recordName t
      let scanned :=
        scanBy (b.claimBy l (b.bindFieldsLevels l levels) owner) owner (b.table.pending t) tokens
      ⟨Segment.applyAll fields scanned.segments,
        ⟨scanned.outcome.map fun _ => Segment.totalWidth scanned.segments,
          checked.events ++ scanned.events⟩⟩

/-- Binds the options of a composite from the front of tokens, within limits. -/
def bindFieldsWithin (b : Binder) (l : Limits) : TypeId → List Value → List String → Pass Nat :=
  b.bindFieldsLevels l l.nesting

/-- Binds the options of a composite from the front of tokens, and completes it, within limits. -/
def bindAndCompleteWithin (b : Binder) (l : Limits) (t : TypeId) (fields : List Value)
    (tokens : List String) : Pass Nat :=
  let bound := b.bindFieldsWithin l t fields tokens
  match bound.run.outcome with
  | .error _ => bound
  | .ok n =>
    let completed := b.completeLevels l l.chain t bound.fields
    ⟨completed.fields,
      ⟨completed.run.outcome.map fun _ => n, bound.run.events ++ completed.run.events⟩⟩

/-- Binds the tokens from `start` on onto a configuration of a type, within limits. -/
def bindIntoWithin (b : Binder) (l : Limits) (t : TypeId) (fields : List Value)
    (args : List String) (start : Nat) : Bound :=
  b.settle (b.bindAndCompleteWithin l t fields (args.drop start))

/-- Binds the tokens from `start` on onto a fresh configuration of a type, within limits. -/
def bindWithin (b : Binder) (l : Limits) (t : TypeId) (args : List String) (start : Nat) : Bound :=
  b.bindIntoWithin l t (b.table.fresh t) args start

/-- Binds a configuration of a type whose root option stands at `index`, within limits. -/
def parseArgumentWithin (b : Binder) (l : Limits) (t : TypeId) (fields : List Value)
    (args : List String) (index : Nat) : Bound :=
  match b.table.root? t, args.drop index with
  | some root, token :: rest =>
    if root.isExact token then
      b.settle (withRoot root.signature (b.bindAndCompleteWithin l t fields rest))
    else ⟨b, fields, .ok 0, []⟩
  | _, _ => ⟨b, fields, .ok 0, []⟩

/-! ### Texts -/

variable {b : Binder} {l : Limits} {owner : String} {f : Field} {t : TypeId} {tokens : List String}

section Texts

variable {F G : Finish}

theorem readElement_congr {d : Descriptor} {e : Element} {text : String}
    (same : ∀ u fields, e = .composite u → F u fields = G u fields) :
    b.readElement F d e text = b.readElement G d e text := by
  have finished : ∀ v, finishValue F e v = finishValue G e v := by
    intro v
    cases e with
    | scalar type => rfl
    | composite u =>
      cases v with
      | composite fields => simp only [finishValue, same u fields rfl]
      | _ => rfl
  unfold readElement
  simp only [finished]

theorem readElements_congr {d : Descriptor} {e : Element} {texts : List String}
    (same : ∀ u fields, e = .composite u → F u fields = G u fields) :
    b.readElements F d e texts = b.readElements G d e texts := by
  induction texts with
  | nil => rfl
  | cons text texts ih => rw [readElements, readElements, readElement_congr same, ih]

/-- Reading depends on how the composites of the field are completed, and on no others. -/
theorem readContents_congr {text : String} {more : List String}
    (same : ∀ u fields, f.shape.element = .composite u → F u fields = G u fields) :
    b.readContents F owner f text more = b.readContents G owner f text more := by
  unfold readContents
  split
  · rfl
  · next shape => rw [readElement_congr (by simpa [shape, FieldShape.element] using same)]
  · next shape => rw [readElements_congr (by simpa [shape, FieldShape.element] using same)]
  · rfl
  · rfl

end Texts

/-! ### Matching within limits is matching -/

/-- **A round of a repeatable option that another one follows**, on the tokens `more`. -/
def Round (b : Binder) (t : TypeId) (signature : String) (tokens more : List String) : Prop :=
  ∃ fields n restated, (b.construct t tokens).outcome = .ok (fields, n) ∧ n ≠ 0 ∧
    tokens.drop n = restated :: more ∧ Text.trim restated = signature

/-- **A round takes a token at least**, and the restated flag is another one. -/
theorem Round.length_le {signature : String} {more : List String}
    (h : b.Round t signature tokens more) : more.length + 2 ≤ tokens.length := by
  obtain ⟨fields, n, restated, -, taken, after, -⟩ := h
  have len := congrArg List.length after
  simp only [List.length_drop, List.length_cons] at len
  omega

/-- Completing within limits is completing, for the types of the table. -/
def Completes (b : Binder) (l : Limits) : Prop :=
  ∀ t fields, t < b.table.length → b.completeLevels l l.chain t fields = b.complete t fields

theorem Completes.finish_eq (completes : b.Completes l) (known : t < b.table.length)
    (fields : List Value) : b.finishLimited l t fields = b.finish t fields := by
  rw [finishLimited, completes t fields known]
  rfl

theorem constructBy_eq {inner : TypeId → List Value → List String → Pass Nat}
    (completes : b.Completes l) (known : t < b.table.length)
    (same : inner t (b.table.fresh t) tokens = b.bindFields t (b.table.fresh t) tokens) :
    b.constructBy l inner t tokens = b.construct t tokens := by
  rw [construct, constructBy, same]
  simp only [completes.finish_eq known]

/-- As many rounds as there are pairs of tokens are enough. -/
theorem compositesBy_eq {construct : TypeId → List String → Run (List Value × Nat)}
    {signature : String} {rounds : Nat}
    (same : ∀ ts, ts.length ≤ tokens.length → construct t ts = b.construct t ts)
    (enough : tokens.length < 2 * rounds) :
    compositesBy l construct t signature rounds tokens = b.composites t signature tokens := by
  induction rounds generalizing tokens with
  | zero => omega
  | succ rounds ih =>
    rw [composites, compositesBy, same tokens (Nat.le_refl _)]
    congr 1
    funext r
    obtain ⟨fields, n⟩ := r
    dsimp only
    split
    · rfl
    · next taken =>
      cases after : tokens.drop n with
      | nil => rfl
      | cons restated more =>
        have len := congrArg List.length after
        simp only [List.length_drop, List.length_cons] at len
        dsimp only
        rw [ih (fun ts shorter => same ts (by omega)) (by omega)]

theorem bindFlagBy_eq {construct : TypeId → List String → Run (List Value × Nat)}
    {composites : TypeId → String → List String → Run (List Value × Nat)}
    (one : ∀ u, f.shape.element = .composite u → construct u tokens = b.construct u tokens)
    (several : ∀ u, f.shape.element = .composite u →
      composites u f.signature tokens = b.composites u f.signature tokens) :
    bindFlagBy construct composites owner f tokens = b.bindFlag owner f tokens := by
  rw [bindFlag, bindFlagBy]
  cases shape : f.shape with
  | single e =>
    cases e with
    | scalar type => rfl
    | composite u =>
      dsimp only
      rw [one u (by rw [shape]; rfl)]
  | collection c e =>
    cases e with
    | scalar type => rfl
    | composite u =>
      dsimp only
      rw [several u (by rw [shape]; rfl)]
  | _ => rfl

/-- A scan depends on what the selected fields take of shorter lists of tokens. -/
theorem scanBy_eq {claim : Selection → List String → Run Claim} {pending : List Pending}
    (same : ∀ s : Selection, ∀ rest, s.chosen ∈ pending → rest.length < tokens.length →
      claim s rest = b.claim owner s rest) :
    scanBy claim owner pending tokens = b.scan owner pending tokens := by
  induction pending, tokens using b.scan_induction owner with
  | nil pending => rw [scanBy, scan_nil]
  | unclaimed pending token rest unclaimed =>
    rw [scanBy, scan_cons_none unclaimed]
    split <;> simp_all
  | failed pending token rest s e selected failed =>
    have claimed := same s rest (chosen_mem_of_select selected) (by simp)
    rw [scanBy, scan_cons_error selected failed]
    split
    · simp_all
    · next s' selected' =>
      obtain rfl : s = s' := Option.some.inj (selected.symm.trans selected')
      simp only [claimed, failed]
  | claimed pending token rest s c selected done ih =>
    have claimed := same s rest (chosen_mem_of_select selected) (by simp)
    rw [scanBy, scan_cons_ok selected done]
    split
    · simp_all
    · next s' selected' =>
      obtain rfl : s = s' := Option.some.inj (selected.symm.trans selected')
      simp only [claimed, done]
      rw [ih fun r ts mem shorter => same r ts (mem_of_mem_others selected mem) ?_]
      simp only [List.length_drop, List.length_cons] at shorter ⊢
      omega

section Matching

variable (closed : b.table.Closed) (completes : b.Completes l)
include closed completes

theorem claimBy_eq {inner : TypeId → List Value → List String → Pass Nat} {s : Selection}
    (mem : s.chosen.field ∈ b.table.fields t) (rounds : tokens.length < 2 * l.rounds)
    (same : ∀ u fields ts, u < b.table.length → ts.length ≤ tokens.length →
      inner u fields ts = b.bindFields u fields ts) :
    b.claimBy l inner owner s tokens = b.claim owner s tokens := by
  have construct : ∀ u, s.chosen.field.shape.element = .composite u →
      ∀ ts, ts.length ≤ tokens.length → b.constructBy l inner u ts = b.construct u ts :=
    fun u shape ts shorter =>
      have known := closed t _ mem u shape
      constructBy_eq completes known (same u _ ts known shorter)
  unfold claimBy claim
  cases s.form with
  | exact =>
    refine bindFlagBy_eq (fun u shape => construct u shape tokens (Nat.le_refl _)) fun u shape => ?_
    exact compositesBy_eq (construct u shape) rounds
  | delimited text =>
    dsimp only [bindText]
    rw [readContents_congr fun u fields shape =>
      completes.finish_eq (closed t _ mem u shape) fields]

theorem bindFieldsLevels_eq {levels : Nat} {fields : List Value} (nesting : tokens.length < levels)
    (rounds : tokens.length < 2 * l.rounds) :
    b.bindFieldsLevels l levels t fields tokens = b.bindFields t fields tokens := by
  induction levels generalizing t fields tokens with
  | zero => omega
  | succ levels ih =>
    rw [bindFields, bindFieldsLevels]
    dsimp only
    cases (b.schema t).outcome with
    | error e => rfl
    | ok u =>
      dsimp only
      rw [scanBy_eq fun s rest mem shorter => ?_]
      -- Composites of the selected field are matched on the tokens after the one that selects it.
      refine claimBy_eq closed completes (TypeTable.field_mem mem) (by omega)
        fun u fields ts _ shorter' => ih (by omega) (by omega)

/-- **Matching is never nested deeper than there are tokens**, the outermost one aside, and there
are no more rounds than pairs of tokens. -/
theorem bindFieldsWithin_eq {fields : List Value} (nesting : tokens.length < l.nesting)
    (rounds : tokens.length < 2 * l.rounds) :
    b.bindFieldsWithin l t fields tokens = b.bindFields t fields tokens :=
  bindFieldsLevels_eq closed completes nesting rounds

theorem bindAndCompleteWithin_eq {fields : List Value} (known : t < b.table.length)
    (nesting : tokens.length < l.nesting) (rounds : tokens.length < 2 * l.rounds) :
    b.bindAndCompleteWithin l t fields tokens = b.bindAndComplete t fields tokens := by
  unfold bindAndCompleteWithin bindAndComplete
  rw [bindFieldsWithin_eq closed completes nesting rounds]
  dsimp only
  cases (b.bindFields t fields tokens).run.outcome with
  | error e => rfl
  | ok n => simp only [completes t _ known]

end Matching

end Binder

end OptionBinding
