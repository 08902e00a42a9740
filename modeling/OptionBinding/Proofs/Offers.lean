import OptionBinding.Hosting.Plugin
import OptionBinding.Proofs.Comparison

/-!
# Offers of tokens

What a plugin does with the tokens it is offered. If the first of them is not its root option then
it stays as it is and claims nothing (`Plugin.parseArgument_of_unopened`). If it is, then the plugin
claims that one at least (`Plugin.parseArgument_ne_zero`), and never more than there are
(`Plugin.parseArgument_le`), or it fails for a reason of its own. In no case does its root option
change, and a binder may only come to remember further types that pass their check
(`Binder.Later`).
-/

namespace OptionBinding

namespace Binder

variable {b b' : Binder} {t : TypeId} {fields : List Value} {args tokens rest : List String}
  {index : Nat} {root : Descriptor} {token : String}

/-! ### What a binder remembers -/

/-- **The binder after calls**: it remembers further types, which pass their check. -/
def Later (b b' : Binder) : Prop :=
  ∃ types, b' = b.remembering types ∧ b.checked ⊆ types ∧
    ∀ t ∈ types, t ∈ b.checked ∨ b.table.fault? t = none

theorem Later.refl (b : Binder) : b.Later b := ⟨b.checked, rfl, List.Subset.refl _, fun _ => .inl⟩

theorem Later.trans {b'' : Binder} (h : b.Later b') (h' : b'.Later b'') : b.Later b'' := by
  obtain ⟨types, rfl, kept, passed⟩ := h
  obtain ⟨types', rfl, kept', passed'⟩ := h'
  refine ⟨types', rfl, List.Subset.trans kept kept', fun t mem => ?_⟩
  exact (passed' t mem).elim (passed t) .inr

/-- A call that tells of checks that were passed leaves a later binder. -/
theorem settle_later {p : Pass Nat}
    (passed : ∀ t ∈ checkedTypes p.run.events, b.table.fault? t = none) :
    b.Later (b.settle p).binder := by
  refine ⟨_, rfl, List.subset_append_left _ _, fun t mem => ?_⟩
  rcases List.mem_append.mp mem with mem | mem
  · exact .inl mem
  · rw [checkedTypes_newEvents] at mem
    exact .inr (passed t (mem_newTypes.mp mem).2)

/-- **It does not matter to a binding what is remembered.** -/
theorem Later.binds_iff (later : b.Later b') {r : List Value × Nat} :
    b'.Binds t fields tokens r ↔ b.Binds t fields tokens r := by
  obtain ⟨types, rfl, kept, passed⟩ := later
  have recalls := recalls_of_passed kept (List.Subset.refl types) passed
  have alike := bindAndComplete_alike recalls (foreign_nil (t := t)) fields tokens
  rw [List.append_nil] at alike
  rw [← bindAndComplete_ok_iff, ← bindAndComplete_ok_iff, alike.run.outcome, alike.fields]

/-! ### Calls with a root option -/

theorem withRoot_fields {p : Pass Nat} {signature : String} :
    (withRoot signature p).fields = p.fields := by
  unfold withRoot
  split <;> rfl

theorem checkedTypes_withRoot {p : Pass Nat} {signature : String} :
    checkedTypes (withRoot signature p).run.events = checkedTypes p.run.events := by
  unfold withRoot
  split
  · rfl
  · simp [checkedTypes, Event.checkedType?]

theorem withRoot_ok_iff {p : Pass Nat} {signature : String} {n : Nat} :
    (withRoot signature p).run.outcome = .ok n ↔ ∃ k, p.run.outcome = .ok k ∧ n = k + 1 := by
  unfold withRoot
  cases outcome : p.run.outcome with
  | error e => simp [outcome]
  | ok k => simp [eq_comm]

theorem withRoot_alike {table : TypeTable} {seen : List TypeId} {p q : Pass Nat}
    (h : p.Alike table seen q) (signature : String) :
    (withRoot signature p).Alike table seen (withRoot signature q) := by
  unfold withRoot
  rw [← h.run.outcome]
  cases p.run.outcome with
  | error e => exact h
  | ok n => exact ⟨h.fields, rfl, h.run.events.append (.of_silent rfl rfl)⟩

theorem parseArgument_of_unopened (fields : List Value) (rooted : b.table.root? t = some root)
    (unopened : ∀ token ∈ (args.drop index).head?, Text.trim token ≠ root.signature) :
    b.parseArgument t fields args index = ⟨b, fields, .ok 0, []⟩ := by
  unfold parseArgument
  rw [rooted]
  cases split : args.drop index with
  | nil => rfl
  | cons token rest =>
    have inexact : root.isExact token = false := by
      rw [split] at unopened
      exact beq_false_of_ne (unopened token rfl)
    simp only [inexact, Bool.false_eq_true, if_false]

theorem parseArgument_of_opened (fields : List Value) (rooted : b.table.root? t = some root)
    (split : args.drop index = token :: rest) (opened : Text.trim token = root.signature) :
    b.parseArgument t fields args index =
      b.settle (withRoot root.signature (b.bindAndComplete t fields rest)) := by
  have exact' : root.isExact token = true := beq_iff_eq.mpr opened
  unfold parseArgument
  rw [rooted, split]
  simp only [exact', if_true]

theorem parseArgument_drop (b : Binder) (t : TypeId) (fields : List Value) (args : List String)
    (index : Nat) :
    b.parseArgument t fields (args.drop index) 0 = b.parseArgument t fields args index := by
  unfold parseArgument
  rw [List.drop_zero]

theorem parseArgument_later (b : Binder) (t : TypeId) (fields : List Value) (args : List String)
    (index : Nat) : b.Later (b.parseArgument t fields args index).binder := by
  unfold parseArgument
  split
  · split
    · exact settle_later fun u mem => bindAndComplete_passed (checkedTypes_withRoot ▸ mem)
    · exact .refl b
  · exact .refl b

/-- **No call takes more tokens than there are.** -/
theorem bindAndComplete_le {n : Nat} (h : (b.bindAndComplete t fields tokens).run.outcome = .ok n) :
    n ≤ tokens.length :=
  Binds.local (r := (_, n)) (bindAndComplete_ok_iff.mp ⟨h, rfl⟩) |>.width_le

theorem parseArgument_le {n : Nat} (h : (b.parseArgument t fields args index).outcome = .ok n) :
    n ≤ (args.drop index).length := by
  unfold parseArgument at h
  split at h
  · next root token rest _ split' =>
    split at h
    · obtain ⟨k, done, rfl⟩ := withRoot_ok_iff.mp h
      rw [split', List.length_cons]
      exact Nat.succ_le_succ (bindAndComplete_le done)
    · obtain rfl := Except.ok.inj h
      exact Nat.zero_le _
  · obtain rfl := Except.ok.inj h
    exact Nat.zero_le _

/-- **What follows does not count**, if no option in sight recognises the first of it. -/
theorem parseArgument_append {more : List String} (fields : List Value) (foreign : b.Foreign t more)
    (within : index < args.length) :
    (b.parseArgument t fields (args ++ more) index).binder =
        (b.parseArgument t fields args index).binder ∧
      (b.parseArgument t fields (args ++ more) index).fields =
        (b.parseArgument t fields args index).fields ∧
      (b.parseArgument t fields (args ++ more) index).outcome =
        (b.parseArgument t fields args index).outcome := by
  unfold parseArgument
  rw [List.drop_append_of_le_length (Nat.le_of_lt within)]
  cases b.table.root? t with
  | none => exact ⟨rfl, rfl, rfl⟩
  | some root =>
    cases split : args.drop index with
    | nil => simp [List.drop_eq_nil_iff] at split; omega
    | cons token rest =>
      rw [List.cons_append]
      dsimp only
      split
      · have alike := withRoot_alike
          (bindAndComplete_alike (Recalls.refl b b.checked) foreign fields rest) root.signature
        refine ⟨?_, alike.fields.symm, alike.run.outcome.symm⟩
        have remembered := checkedTypes_newEvents_congr alike.run.events.same
        exact congrArg (fun types => b.remembering (b.checked ++ types)) remembered.symm
      · exact ⟨rfl, rfl, rfl⟩

end Binder

/-! ### Extensions -/

namespace Extension

variable {e : Extension} {bound bound' : Bound} {n : Nat} {token : String}
  {args rest : List String} {index : Nat}

/-- **What comes of a call of the binder.** -/
theorem receive_cases (same : bound.binder.table = e.table) :
    (∃ cause, bound.outcome = .error cause ∧
        (e.receive bound same).outcome = .error (cause.map (.badCommandLine e.optionName))) ∨
      (bound.outcome = .ok 0 ∧ (e.receive bound same).outcome = .ok 0) ∨
      ∃ n, bound.outcome = .ok (n + 1) ∧
        ((e.receive bound same).outcome = .ok (n + 1) ∨
          ∃ reason, (e.receive bound same).outcome =
            .error (.failed (.rejected e.optionName reason))) := by
  unfold receive
  split
  · next cause outcome => exact .inl ⟨cause, outcome, rfl⟩
  · next outcome => exact .inr (.inl ⟨outcome, rfl⟩)
  · next n outcome =>
    dsimp only
    split
    · next reason _ => exact .inr (.inr ⟨n, outcome, .inr ⟨reason, rfl⟩⟩)
    · exact .inr (.inr ⟨n, outcome, .inl rfl⟩)

/-- The events of a call make no difference. -/
theorem receive_congr (same : bound.binder.table = e.table) (same' : bound'.binder.table = e.table)
    (binder : bound.binder = bound'.binder) (held : bound.fields = bound'.fields)
    (outcome : bound.outcome = bound'.outcome) :
    (e.receive bound same).holder = (e.receive bound' same').holder ∧
      (e.receive bound same).outcome = (e.receive bound' same').outcome := by
  obtain ⟨b, fields, result, events⟩ := bound
  obtain ⟨b', fields', result', events'⟩ := bound'
  obtain rfl : b = b' := binder
  obtain rfl : fields = fields' := held
  obtain rfl : result = result' := outcome
  unfold receive
  cases result with
  | error cause => exact ⟨rfl, rfl⟩
  | ok n =>
    cases n with
    | zero => exact ⟨rfl, rfl⟩
    | succ n =>
      dsimp only
      split <;> exact ⟨rfl, rfl⟩

/-- **The extension after offers**: what it was created with stays, and its binder may remember
more. -/
structure Later (e e' : Extension) : Prop where
  type : e'.type = e.type
  root : e'.root = e.root
  review : e'.review = e.review
  revise : e'.revise = e.revise
  binder : e.binder.Later e'.binder

theorem Later.refl (e : Extension) : e.Later e := ⟨rfl, rfl, rfl, rfl, .refl _⟩

theorem Later.trans {e' e'' : Extension} (h : e.Later e') (h' : e'.Later e'') : e.Later e'' where
  type := h'.type.trans h.type
  root := h'.root.trans h.root
  review := h'.review.trans h.review
  revise := h'.revise.trans h.revise
  binder := h.binder.trans h'.binder

theorem receive_later (same : bound.binder.table = e.table) (later : e.binder.Later bound.binder) :
    e.Later (e.receive bound same).holder := by
  unfold receive
  split
  · exact ⟨rfl, rfl, rfl, rfl, later⟩
  · exact ⟨rfl, rfl, rfl, rfl, later⟩
  · dsimp only
    split <;> exact ⟨rfl, rfl, rfl, rfl, later⟩

theorem parseArgument_later (e : Extension) (args : List String) (index : Nat) :
    e.Later (e.parseArgument args index).holder :=
  receive_later _ (e.binder.parseArgument_later e.type e.config args index)

theorem parseArgument_of_unopened
    (unopened : ∀ token ∈ (args.drop index).head?, Text.trim token ≠ e.root.signature) :
    e.parseArgument args index = ⟨e, .ok 0, []⟩ := by
  have call := Binder.parseArgument_of_unopened e.config e.rooted unopened
  have received : ∀ (bound : Bound) (same : bound.binder.table = e.table),
      bound = ⟨e.binder, e.config, .ok 0, []⟩ → e.receive bound same = ⟨e, .ok 0, []⟩ := by
    rintro bound same rfl
    rfl
  exact received _ _ call

theorem parseArgument_drop (e : Extension) (args : List String) (index : Nat) :
    e.parseArgument (args.drop index) 0 = e.parseArgument args index := by
  unfold parseArgument
  simp only [Binder.parseArgument_drop]

/-- **An extension that is offered its root option claims it**, or it fails. -/
theorem parseArgument_ne_zero (split : args.drop index = token :: rest)
    (opened : Text.trim token = e.root.signature) :
    (e.parseArgument args index).outcome ≠ .ok 0 := by
  have call := Binder.parseArgument_of_opened e.config e.rooted split opened
  rcases receive_cases (e.binder.parseArgument_table e.type e.config args index) with
    ⟨cause, -, outcome⟩ | ⟨zero, -⟩ | ⟨n, -, outcome | ⟨reason, outcome⟩⟩
  · exact fun claimed => by cases outcome.symm.trans claimed
  · rw [call] at zero
    obtain ⟨k, -, one⟩ := Binder.withRoot_ok_iff.mp zero
    cases one
  · exact fun claimed => by cases outcome.symm.trans claimed
  · exact fun claimed => by cases outcome.symm.trans claimed

theorem parseArgument_le (h : (e.parseArgument args index).outcome = .ok n) :
    n ≤ (args.drop index).length := by
  rcases receive_cases (e.binder.parseArgument_table e.type e.config args index) with
    ⟨cause, -, outcome⟩ | ⟨-, outcome⟩ | ⟨k, done, outcome | ⟨reason, outcome⟩⟩
  · cases outcome.symm.trans h
  · obtain rfl := Except.ok.inj (outcome.symm.trans h)
    exact Nat.zero_le _
  · obtain rfl := Except.ok.inj (outcome.symm.trans h)
    exact Binder.parseArgument_le done
  · cases outcome.symm.trans h

/-- **A root option whose options bind is claimed**, unless what was bound is rejected. -/
theorem parseArgument_of_binds {fields : List Value} (split : args.drop index = token :: rest)
    (opened : Text.trim token = e.root.signature)
    (binds : e.binder.Binds e.type e.config rest (fields, n))
    (sound : e.review fields (n + 1) = none) :
    (e.parseArgument args index).outcome = .ok (n + 1) ∧
      (e.parseArgument args index).holder.config = e.revise fields (n + 1) := by
  have call := Binder.parseArgument_of_opened e.config e.rooted split opened
  obtain ⟨outcome, held⟩ := Binder.bindAndComplete_ok_iff.mpr binds
  have done : (e.binder.parseArgument e.type e.config args index).outcome = .ok (n + 1) := by
    rw [call]
    exact Binder.withRoot_ok_iff.mpr ⟨n, outcome, rfl⟩
  have config : (e.binder.parseArgument e.type e.config args index).fields = fields := by
    rw [call]
    exact Binder.withRoot_fields.trans held
  unfold parseArgument receive
  simp only [done, config, sound]
  exact ⟨trivial, trivial⟩

theorem parseArgument_append {more : List String} (foreign : e.binder.Foreign e.type more)
    (within : index < args.length) :
    (e.parseArgument (args ++ more) index).holder = (e.parseArgument args index).holder ∧
      (e.parseArgument (args ++ more) index).outcome = (e.parseArgument args index).outcome := by
  obtain ⟨binder, held, outcome⟩ := Binder.parseArgument_append e.config foreign within
  exact receive_congr _ _ binder held outcome

theorem parseArgument_of_error {cause : NoResult BindError}
    (stopped : (e.binder.parseArgument e.type e.config args index).outcome = .error cause) :
    (e.parseArgument args index).outcome = .error (cause.map (.badCommandLine e.optionName)) := by
  unfold parseArgument receive
  simp only [stopped]

theorem parseArgument_error {error : NoResult ExtensionError}
    (h : (e.parseArgument args index).outcome = .error error) :
    (∃ cause, (e.binder.parseArgument e.type e.config args index).outcome = .error cause ∧
        error = cause.map (.badCommandLine e.optionName)) ∨
      ∃ reason, error = .failed (.rejected e.optionName reason) := by
  rcases receive_cases (e.binder.parseArgument_table e.type e.config args index) with
    ⟨cause, failed, outcome⟩ | ⟨-, outcome⟩ | ⟨k, -, outcome | ⟨reason, outcome⟩⟩
  · exact .inl ⟨cause, failed, Except.error.inj (h.symm.trans outcome)⟩
  · cases outcome.symm.trans h
  · cases outcome.symm.trans h
  · exact .inr ⟨reason, Except.error.inj (h.symm.trans outcome)⟩

end Extension

/-! ### Switches -/

namespace Switch

variable {s : Switch} {token : String} {args rest : List String} {index : Nat}

theorem parseArgument_of_unopened
    (unopened : ∀ token ∈ (args.drop index).head?, Text.trim token ≠ s.signature) :
    s.parseArgument args index = ⟨s, .ok 0, []⟩ := by
  unfold parseArgument
  cases split : args.drop index with
  | nil => rfl
  | cons token rest =>
    rw [split] at unopened
    exact if_neg (unopened token rfl)

theorem parseArgument_of_opened (split : args.drop index = token :: rest)
    (opened : Text.trim token = s.signature) :
    s.parseArgument args index = ⟨{ s with enabled := true }, .ok 1, []⟩ := by
  unfold parseArgument
  rw [split]
  exact if_pos opened

theorem parseArgument_cases (s : Switch) (args : List String) (index : Nat) :
    s.parseArgument args index = ⟨s, .ok 0, []⟩ ∨
      args.drop index ≠ [] ∧
        s.parseArgument args index = ⟨{ s with enabled := true }, .ok 1, []⟩ := by
  unfold parseArgument
  split
  · exact .inl rfl
  · next split =>
    split
    · exact .inr ⟨by rw [split]; exact List.cons_ne_nil _ _, rfl⟩
    · exact .inl rfl

end Switch

/-! ### Plugins -/

namespace Plugin

variable {p : Plugin} {token : String} {args rest : List String} {index : Nat}

/-- The token is the root option of the plugin. -/
def Opens (p : Plugin) (token : String) : Prop := Text.trim token = p.signature

theorem parseArgument_drop (p : Plugin) (args : List String) (index : Nat) :
    p.parseArgument (args.drop index) 0 = p.parseArgument args index := by
  cases p with
  | extension e => simp only [parseArgument, e.parseArgument_drop]
  | switch s => simp only [parseArgument, Switch.parseArgument, List.drop_zero]

/-- **A plugin that is not offered its root option stays as it is.** -/
theorem parseArgument_of_unopened (unopened : ∀ token ∈ (args.drop index).head?, ¬ p.Opens token) :
    p.parseArgument args index = ⟨p, .ok 0, []⟩ := by
  cases p with
  | extension e =>
    rw [parseArgument, Extension.parseArgument_of_unopened unopened]
  | switch s =>
    rw [parseArgument, Switch.parseArgument_of_unopened unopened]

/-- **A plugin that is offered its root option claims it**, or it fails. -/
theorem parseArgument_ne_zero (split : args.drop index = token :: rest) (opens : p.Opens token) :
    (p.parseArgument args index).outcome ≠ .ok 0 := by
  cases p with
  | extension e => exact Extension.parseArgument_ne_zero split opens
  | switch s =>
    rw [parseArgument, Switch.parseArgument_of_opened split opens]
    exact fun one => by cases one

/-- **No plugin claims more tokens than there are.** -/
theorem parseArgument_le {n : Nat} (h : (p.parseArgument args index).outcome = .ok n) :
    n ≤ (args.drop index).length := by
  cases p with
  | extension e => exact Extension.parseArgument_le h
  | switch s =>
    rcases s.parseArgument_cases args index with same | ⟨some, one⟩
    · rw [parseArgument, same] at h
      obtain rfl := Except.ok.inj h
      exact Nat.zero_le _
    · rw [parseArgument, one] at h
      obtain rfl := Except.ok.inj h
      exact List.length_pos_iff.mpr some

/-- A plugin keeps its root option. -/
theorem parseArgument_signature (p : Plugin) (args : List String) (index : Nat) :
    (p.parseArgument args index).holder.signature = p.signature := by
  cases p with
  | extension e =>
    exact congrArg Descriptor.signature (e.parseArgument_later args index).root
  | switch s =>
    rcases s.parseArgument_cases args index with same | ⟨-, one⟩
    · rw [parseArgument, same]
    · rw [parseArgument, one]
      rfl

/-- A plugin fails because binding does, or because it rejects what was bound. -/
theorem parseArgument_error {error : NoResult ExtensionError}
    (h : (p.parseArgument args index).outcome = .error error) :
    ∃ e, p = .extension e ∧
      ((∃ cause, (e.binder.parseArgument e.type e.config args index).outcome = .error cause ∧
          error = cause.map (.badCommandLine e.optionName)) ∨
        ∃ reason, error = .failed (.rejected e.optionName reason)) := by
  cases p with
  | extension e => exact ⟨e, rfl, Extension.parseArgument_error h⟩
  | switch s =>
    rcases s.parseArgument_cases args index with same | ⟨-, one⟩
    · rw [parseArgument, same] at h
      cases h
    · rw [parseArgument, one] at h
      cases h

end Plugin

end OptionBinding
