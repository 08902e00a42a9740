import OptionBinding.Proofs.Offers
import OptionBinding.Proofs.StepwiseBinding

/-!
# Remembered checks

It cannot be seen from the answers of a binder which types it remembers
(`Binder.call_after_calls`). After any calls, whether they failed or not, it answers as a new binder
does. It remembers types that pass their check only, forgets none, and each call adds just those
that were checked, and passed, in the course of it.

That this is so in the course of a call, too, is shown by comparison with the same call made step by
step (`Binder.call_eq_stepwise`). Whatever sound journal a step starts from, it comes to what the
step of the binder comes to, and writes down the events that this one tells of, less the checks
already in the journal (`Binder.Writes`). The steps are compared one function after another; those
on tokens by induction on the number of tokens (`Binder.MatchesFollow`).
-/

namespace OptionBinding

variable {α β : Type}

/-! ### Events and journals -/

theorem newEvents_congr {seen seen' : List TypeId} (same : ∀ t, t ∈ seen ↔ t ∈ seen')
    (events : List Event) : newEvents seen events = newEvents seen' events := by
  induction events generalizing seen seen' with
  | nil => rfl
  | cons e events ih =>
    cases type : e.checkedType? with
    | none => simp only [newEvents, type, ih same]
    | some t =>
      have same' : ∀ u, u ∈ t :: seen ↔ u ∈ t :: seen' := by simp [same]
      simp only [newEvents, type, ih same, ih same', same t]

/-- **Later events** are compared with what the earlier ones told of, too. -/
theorem newEvents_append (seen : List TypeId) (first later : List Event) :
    newEvents seen (first ++ later) = newEvents seen first ++
      newEvents (seen ++ checkedTypes (newEvents seen first)) later := by
  induction first generalizing seen with
  | nil => simp [newEvents, checkedTypes]
  | cons e first ih =>
    unfold checkedTypes at ih ⊢
    rw [List.cons_append, newEvents, newEvents]
    cases type : e.checkedType? with
    | none => simp only [ih, List.cons_append, List.filterMap_cons_none type]
    | some t =>
      dsimp only
      split
      · exact ih seen
      · rw [ih, List.cons_append, List.filterMap_cons_some type]
        refine congrArg (e :: _ ++ ·) (newEvents_congr (fun u => ?_) later)
        simp only [List.mem_append, List.mem_cons]
        tauto

namespace Journal

/-- The journal after events, less the checks of types that are in it already. -/
def tells (j : Journal) (events : List Event) : Journal :=
  ⟨j.checked ++ checkedTypes (newEvents j.checked events), j.events ++ newEvents j.checked events⟩

theorem tells_nil (j : Journal) : j.tells [] = j := by
  simp [tells, newEvents, checkedTypes]

theorem tells_append (j : Journal) (first later : List Event) :
    j.tells (first ++ later) = (j.tells first).tells later := by
  simp only [tells, newEvents_append, checkedTypes, List.filterMap_append, List.append_assoc]

/-- **A journal in which nothing stands but what may**: the types that a binder remembers, and
types that pass their check. -/
structure Sound (b : Binder) (j : Journal) : Prop where
  kept : b.checked ⊆ j.checked
  passed : ∀ t ∈ j.checked, t ∈ b.checked ∨ b.table.fault? t = none

theorem Sound.tells {b : Binder} {j : Journal} {events : List Event} (sound : j.Sound b)
    (passed : ∀ t ∈ checkedTypes events, b.table.fault? t = none) : (j.tells events).Sound b where
  kept := List.subset_append_of_subset_left _ sound.kept
  passed t mem := by
    rcases List.mem_append.mp mem with mem | mem
    · exact sound.passed t mem
    · rw [checkedTypes_newEvents] at mem
      exact .inr (passed t (mem_newTypes.mp mem).2)

end Journal

namespace Binder

/-! ### Steps that follow runs -/

/-- **What a step comes to**, and the events it tells of, whatever sound journal it starts from. -/
structure Writes (b : Binder) (x : StateM Journal α) (a : α) (events : List Event) : Prop where
  run : ∀ j : Journal, j.Sound b → x.run j = (a, j.tells events)
  passed : ∀ t ∈ checkedTypes events, b.table.fault? t = none

/-- A step that comes to what a run does. -/
abbrev Follows (b : Binder) (x : Step α) (r : Run α) : Prop := b.Writes x.run r.outcome r.events

variable {b : Binder}

theorem Writes.pure (a : α) : b.Writes (Pure.pure a) a [] where
  run j _ := by rw [Journal.tells_nil]; rfl
  passed := by simp [checkedTypes]

theorem Writes.bind {x : StateM Journal α} {f : α → StateM Journal β} {a : α} {c : β}
    {events later : List Event} (first : b.Writes x a events) (next : b.Writes (f a) c later) :
    b.Writes (x >>= f) c (events ++ later) where
  run j sound := by
    rw [StateT.run_bind, first.run j sound, Journal.tells_append]
    exact next.run _ (sound.tells first.passed)
  passed t mem := by
    rw [checkedTypes, List.filterMap_append, List.mem_append] at mem
    exact mem.elim (first.passed t) (next.passed t)

theorem Writes.map {x : StateM Journal α} {f : α → StateM Journal β} {a : α} {c : β}
    {events : List Event} (first : b.Writes x a events) (next : f a = Pure.pure c) :
    b.Writes (x >>= f) c events := by
  rw [← List.append_nil events]
  exact first.bind (next ▸ .pure c)

namespace Follows

theorem pure (a : α) : b.Follows (Pure.pure a) (Pure.pure a) := Writes.pure _

theorem fail (e : BindError) : b.Follows (Stepwise.fail e : Step α) (.fail e) := Writes.pure _

theorem endless : b.Follows (Stepwise.endless : Step α) .endless := Writes.pure _

theorem liftExcept (x : Outcome BindError α) : b.Follows (liftExcept x) ⟨x, []⟩ := by
  cases x <;> exact Writes.pure _

theorem tell {e : Event} (silent : e.checkedType? = none) :
    b.Follows (Stepwise.tell e) (.tell e) where
  run j _ := by
    simp only [Journal.tells, newEvents, silent, Run.tell, checkedTypes, List.filterMap_cons_none,
      List.filterMap_nil, List.append_nil]
    rfl
  passed := by simp [Run.tell, checkedTypes, silent]

theorem bind {x : Step α} {r : Run α} {f : α → Step β} {g : α → Run β} (first : b.Follows x r)
    (next : ∀ a, b.Follows (f a) (g a)) : b.Follows (x >>= f) (r >>= g) := by
  obtain ⟨outcome, events⟩ := r
  change b.Writes (x.run >>= ExceptT.bindCont f) _ _
  cases outcome with
  | error e => exact Writes.map first rfl
  | ok a => exact Writes.bind first (next a)

end Follows

theorem schema_follows (t : TypeId) : b.Follows (Stepwise.schema b.table t) (b.schema t) where
  run j sound := by
    unfold schema
    by_cases before : t ∈ b.checked
    · rw [if_pos before, Stepwise.schema_of_mem (sound.kept before)]
      exact congrArg _ j.tells_nil.symm
    · rw [if_neg before]
      by_cases now : t ∈ j.checked
      · -- The binder checks the type, as it remembers only what was passed before the call.
        rw [(sound.passed t now).resolve_left before, Stepwise.schema_of_mem now]
        simp [Journal.tells, newEvents, Event.checkedType?, Run.tell, now, checkedTypes]
      · cases fault : b.table.fault? t with
        | some e =>
          rw [Stepwise.schema_of_fault now fault]
          exact congrArg _ j.tells_nil.symm
        | none =>
          rw [Stepwise.schema_of_sound now fault]
          simp [Journal.tells, newEvents, Event.checkedType?, Run.tell, now, checkedTypes]
  passed _ := schema_passed

section Texts

theorem parse_follows (d : Descriptor) (type : ValueType) (text : String) :
    b.Follows (Stepwise.parse b.table b.registry d type text) (b.parse d type text) :=
  .liftExcept _

variable {F : Stepwise.Finish} {G : Finish}
  (finished : ∀ t fields, b.Follows (F t fields) (G t fields))
include finished

theorem readElement_follows (d : Descriptor) (e : Element) (text : String) :
    b.Follows (Stepwise.readElement b.table b.registry F d e text) (b.readElement G d e text) := by
  refine (parse_follows d (.single e) text).bind fun v => ?_
  cases e with
  | scalar type => exact .pure v
  | composite t =>
    cases v with
    | composite fields => exact (finished t fields).bind fun _ => .pure _
    | _ => exact .pure _

theorem readElements_follows (d : Descriptor) (e : Element) (texts : List String) :
    b.Follows (Stepwise.readElements b.table b.registry F d e texts)
      (b.readElements G d e texts) := by
  induction texts with
  | nil => exact .pure []
  | cons text texts ih =>
    exact (readElement_follows finished d e text).bind fun _ => ih.bind fun _ => .pure _

theorem readContents_follows (owner : String) (f : Field) (text : String) (more : List String) :
    b.Follows (Stepwise.readContents b.table b.registry F owner f text more)
      (b.readContents G owner f text more) := by
  unfold Stepwise.readContents readContents
  cases f.shape with
  | flag => exact (parse_follows _ _ text).bind fun _ => .pure _
  | single e => exact (readElement_follows finished _ e text).bind fun _ => .pure _
  | collection c e =>
    dsimp only
    split
    · exact (parse_follows _ _ text).bind fun _ => .pure _
    · exact (readElements_follows finished _ e _).bind fun _ => .pure _
  | invalid reason => exact .fail _
  | unsupported typeName => exact .fail _

end Texts

/-! ### Completing -/

/-- An attempt that comes to what a pass does. -/
abbrev Attempts (b : Binder) (x : StateM Journal (Attempt α)) (p : Pass α) : Prop :=
  b.Writes x (p.fields, p.run.outcome) p.run.events

theorem run_lift_bind (x : StateM Journal α) (f : α → Step β) :
    (liftM x >>= f).run = x >>= fun a => (f a).run := ExceptT.run_bind_lift x f

theorem Attempts.whole {x : StateM Journal (Attempt α)} {p : Pass α} (h : b.Attempts x p) :
    b.Follows (Stepwise.whole x) p.whole := by
  obtain ⟨fields, outcome, events⟩ := p
  rw [Follows, Stepwise.whole, run_lift_bind]
  cases outcome <;> exact Writes.map h (by rfl)

theorem fillFields_follows (owner : String) {value : Field → String → Step Value}
    {value' : Field → String → Run Value}
    (same : ∀ f text, b.Follows (value f text) (value' f text)) (fs : List Field)
    (vs : List Value) :
    b.Attempts (Stepwise.fillFields owner value fs vs) (fillFields owner value' fs vs) := by
  induction fs generalizing vs with
  | nil => cases vs <;> exact .pure _
  | cons f fs ih =>
    cases vs with
    | nil => exact .pure _
    | cons v vs =>
      have later := ih vs
      rw [Stepwise.fillFields, fillFields]
      split
      · exact later.map (by rfl)
      · cases f.descriptor.defaultText with
        | some text =>
          have made := (Follows.tell (b := b)
            (e := .defaultApplied f.signature owner text) rfl).bind fun _ => same f text
          dsimp only
          generalize (Run.tell _ >>= fun _ => value' f text) = r at made ⊢
          obtain ⟨outcome, events⟩ := r
          cases outcome with
          | error e => exact made.map (by rfl)
          | ok v => exact Writes.bind made (later.map (by rfl))
        | none =>
          dsimp only
          split
          · exact .pure _
          · exact later.map (by rfl)

theorem completeWith_follows {finish : Stepwise.Finish} {finish' : Finish}
    (finished : ∀ t fields, b.Follows (finish t fields) (finish' t fields))
    (t : TypeId) (fields : List Value) :
    b.Attempts (Stepwise.completeWith b.table b.registry finish t fields)
      (b.completeWith finish' t fields) := by
  have checked := schema_follows (b := b) t
  unfold Stepwise.completeWith completeWith
  generalize b.schema t = r at checked ⊢
  obtain ⟨outcome, events⟩ := r
  cases outcome with
  | error e => exact checked.map (by rfl)
  | ok u =>
    refine Writes.bind checked (fillFields_follows _ (fun f text => ?_) _ _)
    exact (readContents_follows finished _ f text []).bind fun _ => .pure _

theorem completeWithin_follows (depth : Nat) (t : TypeId) (fields : List Value) :
    b.Attempts (Stepwise.completeWithin b.table b.registry depth t fields)
      (b.completeWithin depth t fields) := by
  induction depth generalizing t fields with
  | zero => exact completeWith_follows (fun _ _ => .endless) t fields
  | succ depth ih => exact completeWith_follows (fun t fields => (ih t fields).whole) t fields

theorem finish_follows (t : TypeId) (fields : List Value) :
    b.Follows (Stepwise.finish b.table b.registry t fields) (b.finish t fields) :=
  (completeWithin_follows b.table.fieldCount t fields).whole

/-! ### Matching -/

theorem bindText_follows (owner : String) (f : Field) (text : String) (rest : List String) :
    b.Follows (Stepwise.bindText b.table b.registry owner f text rest)
      (b.bindText owner f text rest) :=
  (readContents_follows finish_follows owner f text _).bind fun _ => .pure _

/-- **Matching on less than `n` tokens** is the same step by step. -/
def MatchesFollow (b : Binder) (n : Nat) : Prop :=
  ∀ t fields tokens, tokens.length < n →
    b.Attempts (Stepwise.bindFields b.table b.registry t fields tokens)
      (b.bindFields t fields tokens)

section Matches

variable {n : Nat} (matched : b.MatchesFollow n)
include matched

theorem construct_follows {t : TypeId} {tokens : List String} (short : tokens.length < n) :
    b.Follows (Stepwise.construct b.table b.registry t tokens) (b.construct t tokens) := by
  have bound := matched t (b.table.fresh t) tokens short
  rw [Follows, Stepwise.construct, construct, run_lift_bind]
  generalize b.bindFields t (b.table.fresh t) tokens = p at bound ⊢
  obtain ⟨fields, outcome, events⟩ := p
  cases outcome with
  | error e => exact Writes.map bound (by rfl)
  | ok k =>
    refine Writes.bind bound (?_ : b.Follows (if k = 0 then _ else _) (if k = 0 then _ else _))
    split
    · exact .pure _
    · exact (finish_follows t fields).bind fun _ => .pure _

theorem composites_follows {t : TypeId} {signature : String} {tokens : List String}
    (short : tokens.length < n) :
    b.Follows (Stepwise.composites b.table b.registry t signature tokens)
      (b.composites t signature tokens) := by
  induction len : tokens.length using Nat.strongRecOn generalizing tokens with
  | ind m ih =>
  rw [Stepwise.composites, composites]
  refine (construct_follows matched short).bind fun r => ?_
  obtain ⟨fields, k⟩ := r
  dsimp only
  split
  · exact .pure _
  · cases after : tokens.drop k with
    | nil => exact .pure _
    | cons restated more =>
      have shorter := congrArg List.length after
      simp only [List.length_drop, List.length_cons] at shorter
      dsimp only
      split
      · exact (ih more.length (by omega) (by omega) rfl).bind fun _ => .pure _
      · exact .pure _

theorem bindFlag_follows (owner : String) (f : Field) {rest : List String}
    (short : rest.length < n) :
    b.Follows (Stepwise.bindFlag b.table b.registry owner f rest) (b.bindFlag owner f rest) := by
  rw [Stepwise.bindFlag, bindFlag]
  cases f.shape with
  | single e =>
    cases e with
    | scalar type =>
      dsimp only
      split
      · exact .pure _
      · exact .fail _
    | composite t =>
      refine (construct_follows matched short).bind fun r => ?_
      dsimp only
      split
      · split
        · exact .fail _
        · exact .pure _
      · exact .pure _
  | collection c e =>
    cases e with
    | scalar type => exact .fail _
    | composite t =>
      refine (composites_follows matched short).bind fun r => ?_
      dsimp only
      split
      · exact .fail _
      · exact (Follows.tell rfl).bind fun _ => .pure _
  | flag => exact .pure _
  | invalid reason => exact .fail _
  | unsupported typeName => exact .fail _

theorem claim_follows (owner : String) (s : Selection) {rest : List String}
    (short : rest.length < n) :
    b.Follows (match s.form with
        | .exact => Stepwise.bindFlag b.table b.registry owner s.chosen.field rest
        | .delimited text => Stepwise.bindText b.table b.registry owner s.chosen.field text rest)
      (b.claim owner s rest) := by
  unfold claim
  cases s.form with
  | exact => exact bindFlag_follows matched owner s.chosen.field short
  | delimited text => exact bindText_follows owner s.chosen.field text rest

theorem scan_follows (owner : String) (pending : List Pending) {tokens : List String}
    (short : tokens.length ≤ n) :
    b.Writes (Stepwise.scan b.table b.registry owner pending tokens)
      ((b.scan owner pending tokens).segments, (b.scan owner pending tokens).outcome)
      (b.scan owner pending tokens).events := by
  induction pending, tokens using b.scan_induction owner with
  | nil pending =>
    rw [Stepwise.scan, scan_nil]
    exact .pure _
  | unclaimed pending token rest unclaimed =>
    rw [Stepwise.scan, scan_cons_none unclaimed, unclaimed]
    exact Writes.map (Follows.tell rfl) (by rfl)
  | failed pending token rest s e selected failed =>
    have claimed := claim_follows matched owner s short
    rw [Follows, failed] at claimed
    rw [Stepwise.scan, scan_cons_error selected failed, selected]
    exact claimed.map (by rfl)
  | claimed pending token rest s c selected done ih =>
    have claimed := claim_follows matched owner s short
    have others := ih (by simp only [List.length_cons, List.length_drop] at short ⊢; omega)
    rw [Follows, done] at claimed
    rw [Stepwise.scan, scan_cons_ok selected done, selected, Scan.after, List.append_assoc]
    exact claimed.bind (Writes.bind (Follows.tell rfl) (others.map (by rfl)))

end Matches

/-- **Matching is the same step by step**, on however many tokens. -/
theorem matchesFollow (b : Binder) (n : Nat) : b.MatchesFollow n := by
  induction n with
  | zero => exact fun _ _ _ short => absurd short (Nat.not_lt_zero _)
  | succ n ih =>
    intro t fields tokens short
    have checked := schema_follows (b := b) t
    have scanned := scan_follows ih (b.table.recordName t) (b.table.pending t)
      (Nat.le_of_lt_succ short)
    rw [Stepwise.bindFields, bindFields]
    generalize b.schema t = r at checked ⊢
    obtain ⟨outcome, events⟩ := r
    cases outcome with
    | error e => exact checked.map (by rfl)
    | ok u => exact Writes.bind checked (scanned.map (by rfl))

theorem bindAndComplete_follows (t : TypeId) (fields : List Value) (tokens : List String) :
    b.Attempts (Stepwise.bindAndComplete b.table b.registry t fields tokens)
      (b.bindAndComplete t fields tokens) := by
  have bound := b.matchesFollow _ t fields tokens (Nat.lt_succ_self _)
  unfold Stepwise.bindAndComplete bindAndComplete
  generalize b.bindFields t fields tokens = p at bound ⊢
  obtain ⟨fields, outcome, events⟩ := p
  cases outcome with
  | error e => exact Writes.map bound (by rfl)
  | ok n => exact Writes.bind bound ((completeWithin_follows _ t fields).map (by rfl))

/-! ### Calls -/

/-- What a call does, before the binder is handed back. -/
def pass (b : Binder) : Call → Pass Nat
  | .bind t args start => b.bindAndComplete t (b.table.fresh t) (args.drop start)
  | .bindInto t fields args start => b.bindAndComplete t fields (args.drop start)
  | .parseArgument t fields args index =>
    match b.table.root? t, args.drop index with
    | some root, token :: rest =>
      if root.isExact token then withRoot root.signature (b.bindAndComplete t fields rest)
      else ⟨fields, pure 0⟩
    | _, _ => ⟨fields, pure 0⟩

theorem settle_pure (b : Binder) (fields : List Value) :
    b.settle ⟨fields, pure 0⟩ = ⟨b, fields, .ok 0, []⟩ := by
  unfold settle
  exact congrArg (Bound.mk · fields (.ok 0) []) (congrArg b.remembering (List.append_nil b.checked))

theorem call_eq_settle (b : Binder) (c : Call) : b.call c = b.settle (b.pass c) := by
  cases c with
  | bind t args start => rfl
  | bindInto t fields args start => rfl
  | parseArgument t fields args index =>
    unfold call pass parseArgument
    dsimp only
    cases b.table.root? t with
    | none => exact (b.settle_pure fields).symm
    | some root =>
      cases args.drop index with
      | nil => exact (b.settle_pure fields).symm
      | cons token rest =>
        dsimp only
        split
        · rfl
        · exact (b.settle_pure fields).symm

theorem pass_alike {seen types : List TypeId} (recalls : b.Recalls seen types) (c : Call) :
    (b.pass c).Alike b.table seen ((b.remembering types).pass c) := by
  have bound : ∀ t fields tokens, (b.bindAndComplete t fields tokens).Alike b.table seen
      ((b.remembering types).bindAndComplete t fields tokens) := fun t fields tokens => by
    simpa only [List.append_nil] using
      bindAndComplete_alike recalls (foreign_nil (t := t)) fields tokens
  cases c with
  | bind t args start => exact bound t _ _
  | bindInto t fields args start => exact bound t _ _
  | parseArgument t fields args index =>
    unfold pass remembering
    dsimp only
    split
    · split
      · exact withRoot_alike (bound t fields _) _
      · exact .refl _ rfl
    · exact .refl _ rfl

theorem call_follows (b : Binder) (c : Call) :
    b.Attempts (Stepwise.call b.table b.registry c) (b.pass c) := by
  cases c with
  | bind t args start => exact bindAndComplete_follows t _ _
  | bindInto t fields args start => exact bindAndComplete_follows t _ _
  | parseArgument t fields args index =>
    unfold Stepwise.call pass
    dsimp only
    cases b.table.root? t with
    | none => exact .pure _
    | some root =>
      cases args.drop index with
      | nil => exact .pure _
      | cons token rest =>
        dsimp only
        split
        · have bound := bindAndComplete_follows (b := b) t fields rest
          generalize b.bindAndComplete t fields rest = p at bound ⊢
          obtain ⟨fields, outcome, events⟩ := p
          cases outcome with
          | error e => exact Writes.map bound (by rfl)
          | ok n => exact Writes.bind bound (Writes.map (Follows.tell rfl) (by rfl))
        · exact .pure _

/-- **A call comes to the same** if each passed check is remembered on the spot. -/
theorem call_eq_stepwise (b : Binder) (c : Call) : b.call c = b.callStepwise c := by
  have sound : Journal.Sound b ⟨b.checked, []⟩ := ⟨List.Subset.refl _, fun _ => .inl⟩
  unfold callStepwise
  rw [call_eq_settle, (b.call_follows c).run _ sound]
  rfl

theorem call_later (b : Binder) (c : Call) : b.Later (b.call c).binder := by
  rw [call_eq_settle]
  exact settle_later (b.call_follows c).passed

theorem after_later (b : Binder) (calls : List Call) : b.Later (b.after calls) := by
  induction calls generalizing b with
  | nil => exact .refl b
  | cons c calls ih => exact (b.call_later c).trans (ih _)

/-- **What a binder remembers cannot be seen from its answers.** After any calls it leaves the
fields and the outcome that a new binder does, and the call is the same step by step. It remembers
types that pass their check only, and after the call just those in addition whose check was passed
in the course of it: those that are new to it of the ones that a new binder has to check. -/
theorem call_after_calls (table : TypeTable) (registry : Registry) (calls : List Call) (c : Call) :
    let new : Binder := ⟨table, registry, []⟩
    let b := new.after calls
    let answer := b.call c
    answer.fields = (new.call c).fields ∧ answer.outcome = (new.call c).outcome ∧
      answer = b.callStepwise c ∧
      (∀ t ∈ answer.binder.checked, table.fault? t = none) ∧
      answer.binder.checked = b.checked ++ checkedTypes answer.events ∧
      ∀ t, t ∈ checkedTypes answer.events ↔ t ∉ b.checked ∧ t ∈ (new.call c).binder.checked := by
  intro new b answer
  have later : new.Later answer.binder := (new.after_later calls).trans (b.call_later c)
  obtain ⟨types, remembered, kept, passed⟩ := new.after_later calls
  have alike := pass_alike (recalls_of_passed kept (List.Subset.refl types) passed) c
  have settled : answer = b.settle (b.pass c) := b.call_eq_settle c
  have settled' : new.call c = new.settle (new.pass c) := new.call_eq_settle c
  rw [← remembered] at alike
  refine ⟨?_, ?_, b.call_eq_stepwise c, ?_, ?_, ?_⟩
  · rw [settled, settled']
    exact alike.fields.symm
  · rw [settled, settled']
    exact alike.run.outcome.symm
  · obtain ⟨types', remembered', -, passed'⟩ := later
    intro t mem
    rw [remembered'] at mem
    exact (passed' t mem).resolve_left List.not_mem_nil
  · rw [settled]
    rfl
  · intro t
    obtain rfl : b.checked = types := congrArg checked remembered
    have same : t ∈ unseenTypes b.checked _ ↔ t ∈ unseenTypes b.checked _ :=
      iff_of_eq (congrArg (t ∈ ·) alike.run.events.same)
    simp only [unseenTypes, List.mem_filter, decide_eq_true_eq] at same
    rw [settled, settled']
    change t ∈ checkedTypes (newEvents _ _) ↔ _ ∧ t ∈ checkedTypes (newEvents [] _)
    rw [checkedTypes_newEvents, checkedTypes_newEvents, mem_newTypes, mem_newTypes]
    constructor
    · rintro ⟨unseen, mem⟩
      exact ⟨unseen, List.not_mem_nil, (same.mpr ⟨mem, unseen⟩).1⟩
    · rintro ⟨unseen, -, mem⟩
      exact ⟨unseen, (same.mp ⟨mem, unseen⟩).1⟩

end Binder

end OptionBinding
