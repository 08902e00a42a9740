import OptionBinding.Proofs.Offers
import OptionBinding.Proofs.Segments
import OptionBinding.Regex.Standard

/-!
# What a target holds already

Matching does not look at the contents of its target. So on two targets of a type it comes to the
same end, and a field either keeps what it held in both targets, or it gets the same contents in
both (`TargetsAlike`), of which nothing depends on what the field held.

An extension that has been offered tokens before (`Extension.after`) differs from one that has been
offered others in its configuration, and in what its binder remembers. Neither counts in the
matching phase of the next offer (`Extension.matching?`), so this phase is the same after both, and
claims that succeed are equally long (`Extension.matching_indifferent`).
-/

namespace OptionBinding

/-- **What becomes of two targets**: each field keeps what it held in both, or holds the same in
both. -/
def TargetsAlike (before after before' after' : List Value) : Prop :=
  ∀ i : Nat, (after[i]? = before[i]? ∧ after'[i]? = before'[i]?) ∨
    ∃ v, after[i]? = before[i]?.map (fun _ => v) ∧ after'[i]? = before'[i]?.map fun _ => v

namespace Segment

theorem apply_getElem? (s : Segment) (i : Nat) :
    ∃ written : Option Value, ∀ fields : List Value,
      (apply fields s)[i]? = fields[i]?.map fun old => written.getD old := by
  by_cases same : s.index = i
  · refine ⟨s.update, fun fields => ?_⟩
    unfold apply
    cases s.update with
    | none => simp
    | some v =>
      subst same
      rw [List.getElem?_set_self']
      rfl
  · exact ⟨none, fun fields => by simp [apply_getElem?_of_ne same]⟩

/-- **Segments leave a field alone, or they write contents into it**, whatever there was. -/
theorem exists_written (segments : List Segment) (i : Nat) :
    ∃ written : Option Value, ∀ fields : List Value,
      (applyAll fields segments)[i]? = fields[i]?.map fun old => written.getD old := by
  induction segments with
  | nil => exact ⟨none, fun fields => by simp [applyAll]⟩
  | cons s segments ih =>
    obtain ⟨first, hfirst⟩ := s.apply_getElem? i
    obtain ⟨later, hlater⟩ := ih
    refine ⟨later.or first, fun fields => ?_⟩
    have step : applyAll fields (s :: segments) = applyAll (apply fields s) segments := rfl
    rw [step, hlater, hfirst, Option.map_map]
    cases later <;> rfl

theorem applyAll_targetsAlike (segments : List Segment) (fields fields' : List Value) :
    TargetsAlike fields (applyAll fields segments) fields' (applyAll fields' segments) := by
  intro i
  obtain ⟨written, h⟩ := exists_written segments i
  rw [h fields, h fields']
  cases written with
  | none => exact .inl (by simp)
  | some v => exact .inr ⟨v, rfl, rfl⟩

end Segment

namespace Binder

variable {b b' : Binder} {t : TypeId} {fields : List Value} {tokens : List String}

/-- **Matching does not look at its target.** -/
theorem bindFields_indifferent (b : Binder) (t : TypeId) (fields fields' : List Value)
    (tokens : List String) :
    (b.bindFields t fields tokens).run = (b.bindFields t fields' tokens).run ∧
      TargetsAlike fields (b.bindFields t fields tokens).fields fields'
        (b.bindFields t fields' tokens).fields := by
  rw [bindFields, bindFields]
  dsimp only
  cases (b.schema t).outcome with
  | error e => exact ⟨rfl, fun i => .inl ⟨rfl, rfl⟩⟩
  | ok u => exact ⟨rfl, Segment.applyAll_targetsAlike _ fields fields'⟩

theorem bindFields_of_bindAndComplete {n : Nat}
    (h : (b.bindAndComplete t fields tokens).run.outcome = .ok n) :
    (b.bindFields t fields tokens).run.outcome = .ok n := by
  unfold bindAndComplete at h
  cases outcome : (b.bindFields t fields tokens).run.outcome with
  | error e => simp [outcome] at h
  | ok k =>
    simp only [outcome] at h
    cases completed : (b.complete t (b.bindFields t fields tokens).fields).run.outcome with
    | error e => simp [completed, Except.map] at h
    | ok u => simpa [completed, Except.map] using h

/-- Nor does it matter what the binder remembers by then. -/
theorem Later.bindFields (later : b.Later b') (t : TypeId) (fields : List Value)
    (tokens : List String) :
    (b'.bindFields t fields tokens).run.outcome = (b.bindFields t fields tokens).run.outcome ∧
      (b'.bindFields t fields tokens).fields = (b.bindFields t fields tokens).fields := by
  obtain ⟨types, rfl, kept, passed⟩ := later
  have recalls := recalls_of_passed kept (List.Subset.refl types) passed
  have alike := bindFields_alike recalls (foreign_nil (t := t)) fields tokens
  rw [List.append_nil] at alike
  exact ⟨alike.run.outcome.symm, alike.fields.symm⟩

end Binder

namespace Extension

variable {e : Extension} {args : List String} {index n : Nat}

/-- The extension after offers of tokens, each from an index on. -/
def after (e : Extension) (offers : List (List String × Nat)) : Extension :=
  offers.foldl (fun e offer => (e.parseArgument offer.1 offer.2).holder) e

/-- **The matching phase of an offer**, if the token offered is the root option: the options of the
extension take what follows it. -/
def matching? (e : Extension) (args : List String) (index : Nat) : Option (Pass Nat) :=
  match args.drop index with
  | [] => none
  | token :: rest =>
    if Text.trim token = e.root.signature then some (e.binder.bindFields e.type e.config rest)
    else none

/-- **Offers leave a later extension**, however many there are. -/
theorem after_later (e : Extension) (offers : List (List String × Nat)) :
    e.Later (e.after offers) := by
  induction offers generalizing e with
  | nil => exact .refl e
  | cons offer offers ih => exact (e.parseArgument_later offer.1 offer.2).trans (ih _)

/-- **A claim is what the matching phase takes, and the root option.** -/
theorem parseArgument_ok (h : (e.parseArgument args index).outcome = .ok n) :
    (n = 0 ∧ e.matching? args index = none) ∨
      ∃ p k, e.matching? args index = some p ∧ p.run.outcome = .ok k ∧ n = k + 1 := by
  cases split : args.drop index with
  | nil =>
    rw [parseArgument_of_unopened (by simp [split])] at h
    exact .inl ⟨(Except.ok.inj h).symm, by rw [matching?, split]⟩
  | cons token rest =>
    by_cases opened : Text.trim token = e.root.signature
    · have call := Binder.parseArgument_of_opened e.config e.rooted split opened
      have matching : e.matching? args index =
          some (e.binder.bindFields e.type e.config rest) := by
        rw [matching?, split]
        exact if_pos opened
      rcases receive_cases (e.binder.parseArgument_table e.type e.config args index) with
        ⟨cause, -, outcome⟩ | ⟨-, outcome⟩ | ⟨k, done, outcome | ⟨reason, outcome⟩⟩
      · cases outcome.symm.trans h
      · exact absurd outcome (parseArgument_ne_zero split opened)
      · obtain rfl := Except.ok.inj (outcome.symm.trans h)
        rw [call] at done
        obtain ⟨k', done, same⟩ := Binder.withRoot_ok_iff.mp done
        refine .inr ⟨_, k', matching, ?_, same⟩
        exact Binder.bindFields_of_bindAndComplete done
      · cases outcome.symm.trans h
    · rw [parseArgument_of_unopened (by simpa [split] using opened)] at h
      refine .inl ⟨(Except.ok.inj h).symm, ?_⟩
      rw [matching?, split]
      exact if_neg opened

/-- **What an extension was offered before does not matter to the matching phase of an offer.** -/
theorem matching?_after (e : Extension) (offers offers' : List (List String × Nat))
    (args : List String) (index : Nat) :
    Option.Rel
      (fun p q => p.run.outcome = q.run.outcome ∧
        TargetsAlike (e.after offers).config p.fields (e.after offers').config q.fields)
      ((e.after offers).matching? args index) ((e.after offers').matching? args index) := by
  have later := e.after_later offers
  have later' := e.after_later offers'
  unfold matching?
  rw [later.type, later.root, later'.type, later'.root]
  cases args.drop index with
  | nil => exact .none
  | cons token rest =>
    dsimp only
    split
    · obtain ⟨outcome, held⟩ := later.binder.bindFields e.type (e.after offers).config rest
      obtain ⟨outcome', held'⟩ := later'.binder.bindFields e.type (e.after offers').config rest
      obtain ⟨run, targets⟩ := e.binder.bindFields_indifferent e.type (e.after offers).config
        (e.after offers').config rest
      refine .some ⟨?_, ?_⟩
      · rw [outcome, outcome', run]
      · rw [held, held']
        exact targets
    · exact .none

/-- **What matching reads never depends on what the target already holds.** On any two targets it
takes as many tokens, or fails in the same way, and each field keeps what it held in both or holds
the same in both. So after any two sequences of offers an extension takes the same tokens in the
matching phase of the next offer, and a field that is written then keeps nothing of before. -/
theorem matching_indifferent :
    (∀ (b : Binder) (t : TypeId) (args : List String) (start : Nat) (fields fields' : List Value),
      (b.bindFields t fields (args.drop start)).run =
          (b.bindFields t fields' (args.drop start)).run ∧
        TargetsAlike fields (b.bindFields t fields (args.drop start)).fields fields'
          (b.bindFields t fields' (args.drop start)).fields) ∧
    ∀ (e : Extension) (offers offers' : List (List String × Nat)) (args : List String)
      (index : Nat),
      Option.Rel
        (fun p q => p.run.outcome = q.run.outcome ∧
          TargetsAlike (e.after offers).config p.fields (e.after offers').config q.fields)
        ((e.after offers).matching? args index) ((e.after offers').matching? args index) ∧
      ∀ n n', ((e.after offers).parseArgument args index).outcome = .ok n →
        ((e.after offers').parseArgument args index).outcome = .ok n' → n = n' := by
  refine ⟨fun b t args start fields fields' => b.bindFields_indifferent t fields fields' _, ?_⟩
  intro e offers offers' args index
  have phases := e.matching?_after offers offers' args index
  refine ⟨phases, fun n n' claimed claimed' => ?_⟩
  rcases parseArgument_ok claimed with ⟨rfl, none⟩ | ⟨p, k, some, done, rfl⟩
  · rcases parseArgument_ok claimed' with ⟨rfl, -⟩ | ⟨q, k', some', -, -⟩
    · rfl
    · rw [none, some'] at phases
      cases phases
  · rcases parseArgument_ok claimed' with ⟨-, none'⟩ | ⟨q, k', some', done', rfl⟩
    · rw [some, none'] at phases
      cases phases
    · rw [some, some'] at phases
      obtain ⟨same, -⟩ | _ := phases
      rw [Except.ok.inj (done.symm.trans (same.trans done'))]

/-- An extension for labels: any number of tags, and whether they are shown. -/
def labels : Extension where
  type := 0
  root := { name := "labels" }
  binder :=
    { table :=
        [{ fullName := "Labels", shortName := "Labels", root := some { name := "labels" },
           fields :=
            [{ descriptor := { name := "tag" }, shape := .collection .vector (.scalar .text) },
             { descriptor := { name := "show" }, shape := .flag }] }]
      registry := { byType := [ScalarType.text.parser] } }
  review _ _ := none
  revise config _ := config
  config := [.items [], .scalar (.bool false)]
  rooted := rfl

/-- A tag is claimed by the extension for labels after any offers that left it no flag. -/
theorem labels_claim {e : Extension} {tags : List Value} (token text : String)
    (later : labels.Later e) (config : e.config = [.items tags, .scalar (.bool false)])
    (selected : select token (labels.binder.table.pending 0) =
      some ⟨⟨0, (labels.binder.table.fields 0)[0]⟩, .delimited text,
        (labels.binder.table.pending 0).drop 1⟩) :
    (e.parseArgument ["-labels", token] 0).outcome = .ok 2 ∧
      (e.parseArgument ["-labels", token] 0).holder.config =
        [.items [.scalar (.text text)], .scalar (.bool false)] := by
  have found : labels.binder.FindsFor 0 [token] [⟨0, 1, some (.items [.scalar (.text text)])⟩] :=
    .take (c := ⟨some (.items [.scalar (.text text)]), 0⟩) selected rfl (.stop (by simp))
  have binds : labels.binder.Binds 0 [.items tags, .scalar (.bool false)] [token]
      ([.items [.scalar (.text text)], .scalar (.bool false)], 1) := .intro (.inr rfl) found rfl
  have opened : Text.trim "-labels" = labels.root.signature := by decide +kernel
  rw [← later.binder.binds_iff, ← config, ← show e.type = 0 from later.type] at binds
  have split : ["-labels", token].drop 0 = "-labels" :: [token] := rfl
  obtain ⟨claimed, left⟩ := parseArgument_of_binds split (later.root ▸ opened) binds
    (by rw [later.review]; rfl)
  exact ⟨claimed, left.trans (by rw [later.revise]; rfl)⟩

/-- The tag of an earlier offer is not there any more, and a fresh extension claims as much. -/
theorem matching_indifferent_labels :
    ∃ n n', ((labels.after [(["-labels", "-tag=a"], 0)]).parseArgument
          ["-labels", "-tag=b"] 0).outcome = .ok n ∧
        ((labels.after []).parseArgument ["-labels", "-tag=b"] 0).outcome = .ok n' ∧
        ((labels.after [(["-labels", "-tag=a"], 0)]).parseArgument
          ["-labels", "-tag=b"] 0).holder.config =
            [.items [.scalar (.text "b")], .scalar (.bool false)] ∧ n = n' := by
  have earlier := labels_claim "-tag=a" "a" (.refl labels) rfl (by decide +kernel)
  have again := labels_claim "-tag=b" "b" (labels.after_later [(["-labels", "-tag=a"], 0)])
    earlier.2 (by decide +kernel)
  have fresh := labels_claim "-tag=b" "b" (labels.after_later []) rfl (by decide +kernel)
  exact ⟨2, 2, again.1, fresh.1, again.2,
    (matching_indifferent.2 labels _ _ _ _).2 2 2 again.1 fresh.1⟩

end Extension

end OptionBinding
