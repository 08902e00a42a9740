import Mathlib.Algebra.Ring.Nat
import OptionBinding.Proofs.Locality
import OptionBinding.Proofs.RoundTrip
import OptionBinding.Proofs.WholeCollections

/-!
# Repeated composites

An option that repeats a composite takes its tokens in runs: its flag, stated or restated, and the
tokens that an element takes after it (`Binder.FlagRuns`). Elements do not interfere with each
other: if each of the elements can be bound on its own, with everything behind it, then all of them
are bound, in this order and as if each were bound alone, and the option takes all of the runs and
no more (`Binder.bind_repeated`).

The flag is taken before it is known whether an element follows. So the last run may be a bare flag,
and then it has no element; a run that is not bare has one (`Binder.FlagRuns.count`). There are as
many elements as flags if and only if no flag is bare (`Binder.elements_eq_flags_iff`).
-/

namespace OptionBinding

/-- A flag and the tokens that an element takes after it. -/
structure FlagRun where
  flag : String
  tokens : List String

/-- The tokens of a run, the flag included. -/
def FlagRun.all (r : FlagRun) : List String := r.flag :: r.tokens

theorem FlagRun.length_flatMap_all (runs : List FlagRun) :
    (runs.flatMap FlagRun.all).length = runs.length + (runs.map (·.tokens.length)).sum := by
  induction runs with
  | nil => rfl
  | cons r runs ih =>
    rw [List.flatMap_cons, List.length_append, ih]
    simp only [FlagRun.all, List.length_cons, List.map_cons, List.sum_cons]
    omega

namespace Binder

variable {b : Binder} {u : TypeId} {owner signature flag : String} {tokens rest after : List String}
  {fields elements : List Value} {r : FlagRun} {runs : List FlagRun} {n : Nat}

/-! ### One element -/

theorem construct_split (h : (b.construct u rest).outcome = .ok (fields, n)) :
    ∃ tokens after, rest = tokens ++ after ∧ tokens.length = n := by
  have within : n ≤ rest.length :=
    (construct_local (b.localBelow _) (Nat.le_refl _) h).width_le
  refine ⟨rest.take n, rest.drop n, (List.take_append_drop n rest).symm, ?_⟩
  rw [List.length_take]
  exact Nat.min_eq_left within

/-- Nothing is taken where the next token selects none of the options of the type. -/
theorem unclaimed_of_construct (h : (b.construct u tokens).outcome = .ok (fields, 0)) :
    ∀ token ∈ tokens.head?, select token (b.table.pending u) = none := by
  generalize result : (fields, 0) = r at h
  cases construct_ok_iff.mp h with
  | nothing accepted found =>
    cases found with
    | stop unclaimed => exact unclaimed
  | completed accepted found taken => exact absurd (congrArg Prod.snd result).symm taken

/-- A configuration that takes tokens is constructed from them like a composite. -/
theorem construct_of_bind (bound : (b.bind u tokens 0).outcome = .ok n) (taken : n ≠ 0) :
    (b.construct u tokens).outcome = .ok ((b.bind u tokens 0).fields, n) := by
  have binds : b.Binds u (b.table.fresh u) tokens ((b.bind u tokens 0).fields, n) :=
    (bind_ok_iff tokens 0).mp ⟨bound, rfl⟩
  obtain ⟨accepted, segments, found, rfl, ended, same⟩ := binds_iff.mp binds
  rw [← same]
  exact construct_ok_iff.mpr (.completed accepted found taken (finish_ok_iff.mpr ⟨ended, rfl⟩))

/-! ### Runs -/

/-- **The runs in which a flag is stated and restated**, with the tokens `after` behind them, and
the elements that they make. The last run may be a bare flag, which makes no element. -/
inductive FlagRuns (b : Binder) (u : TypeId) (signature : String) (after : List String) :
    List FlagRun → List Value → Prop
  | bare {r : FlagRun} {fields : List Value} (own : Text.trim r.flag = signature)
      (alone : r.tokens = []) (built : (b.construct u after).outcome = .ok (fields, 0)) :
      FlagRuns b u signature after [r] []
  | last {r : FlagRun} {fields : List Value} (own : Text.trim r.flag = signature)
      (taken : r.tokens ≠ [])
      (built : (b.construct u (r.tokens ++ after)).outcome = .ok (fields, r.tokens.length))
      (ended : ∀ token ∈ after.head?, Text.trim token ≠ signature) :
      FlagRuns b u signature after [r] [.composite fields]
  | next {r : FlagRun} {runs : List FlagRun} {fields elements : List Value}
      (own : Text.trim r.flag = signature) (taken : r.tokens ≠ [])
      (built : (b.construct u (r.tokens ++ (runs.flatMap FlagRun.all ++ after))).outcome =
        .ok (fields, r.tokens.length))
      (others : FlagRuns b u signature after runs elements) :
      FlagRuns b u signature after (r :: runs) (.composite fields :: elements)

namespace FlagRuns

theorem head (h : b.FlagRuns u signature after runs elements) :
    ∃ r more, runs = r :: more ∧ Text.trim r.flag = signature := by
  cases h with
  | bare own | last own | next own => exact ⟨_, _, rfl, own⟩

/-- **Each run but a bare one makes an element**, and only the last one may be bare: the next token
then selects no option of the element. -/
theorem count (h : b.FlagRuns u signature after runs elements) :
    (elements.length = runs.length ∧ ∀ r ∈ runs, r.tokens ≠ []) ∨
      ∃ before last, runs = before ++ [last] ∧ last.tokens = [] ∧
        elements.length = before.length ∧ (∀ r ∈ before, r.tokens ≠ []) ∧
        ∀ token ∈ after.head?, select token (b.table.pending u) = none := by
  induction h with
  | bare own alone built =>
    exact .inr ⟨[], _, rfl, alone, rfl, List.forall_mem_nil _, unclaimed_of_construct built⟩
  | last own taken built ended => exact .inl ⟨rfl, by simpa using taken⟩
  | next own taken built others ih =>
    rcases ih with ⟨count, all⟩ | ⟨before, last, rfl, alone, count, all, unclaimed⟩
    · exact .inl ⟨congrArg (· + 1) count, List.forall_mem_cons.mpr ⟨taken, all⟩⟩
    · exact .inr ⟨_ :: before, last, rfl, alone, congrArg (· + 1) count,
        List.forall_mem_cons.mpr ⟨taken, all⟩, unclaimed⟩

/-- Runs are what is taken after the first flag. -/
theorem repeats (h : b.FlagRuns u signature after (r :: runs) elements) :
    b.Repeats u signature (r.tokens ++ (runs.flatMap FlagRun.all ++ after))
      (elements, r.tokens.length + (runs.flatMap FlagRun.all).length) := by
  induction runs generalizing r elements with
  | nil =>
    cases h with
    | bare own alone built =>
      rw [alone]
      exact .nothing built
    | last own taken built ended =>
      refine .last built (by simpa using taken) ?_
      simpa using ended
    | next own taken built others =>
      obtain ⟨_, _, split, -⟩ := others.head
      cases split
  | cons r' runs ih =>
    cases h with
    | next own taken built others =>
      obtain ⟨_, _, same, again⟩ := others.head
      obtain ⟨rfl, rfl⟩ := List.cons.inj same
      have split : (r.tokens ++ ((r' :: runs).flatMap FlagRun.all ++ after)).drop
          r.tokens.length = r'.flag :: (r'.tokens ++ (runs.flatMap FlagRun.all ++ after)) := by
        simp [FlagRun.all]
      have width : r.tokens.length + ((r' :: runs).flatMap FlagRun.all).length =
          r.tokens.length + 1 + (r'.tokens.length + (runs.flatMap FlagRun.all).length) := by
        simp only [List.flatMap_cons, List.length_append, FlagRun.all, List.length_cons]
        omega
      rw [width]
      exact .next built (by simpa using taken) split again (ih others)

end FlagRuns

/-- **What is taken after a flag is runs**, with the flag. -/
theorem Repeats.flagRuns {e : List Value × Nat} (h : b.Repeats u signature rest e)
    (own : Text.trim flag = signature) :
    ∃ runs after, flag :: rest = runs.flatMap FlagRun.all ++ after ∧
      (runs.flatMap FlagRun.all).length = e.2 + 1 ∧ b.FlagRuns u signature after runs e.1 := by
  induction h generalizing flag with
  | @nothing tokens fields built => exact ⟨[⟨flag, []⟩], tokens, rfl, rfl, .bare own rfl built⟩
  | last built taken ended =>
    obtain ⟨tokens, after, rfl, rfl⟩ := construct_split built
    rw [List.drop_left] at ended
    exact ⟨[⟨flag, tokens⟩], after, by simp [FlagRun.all], by simp [FlagRun.all],
      .last own (by simpa using taken) built ended⟩
  | next built taken restated again others ih =>
    obtain ⟨tokens, more, rfl, rfl⟩ := construct_split built
    obtain ⟨runs, after, split, width, later⟩ := ih again
    rw [List.drop_left, split] at restated
    subst restated
    refine ⟨⟨flag, tokens⟩ :: runs, after, ?_, ?_, .next own (by simpa using taken) built later⟩
    · simp [FlagRun.all]
    · rw [List.flatMap_cons, List.length_append, width]
      simp only [FlagRun.all, List.length_cons]
      omega

/-! ### Elements that are bound one by one -/

/-- **Composites that can be bound one by one**: each of the given runs consists of a flag and of
what is bound of the tokens after it, and makes the given fields. No flag follows the last one. -/
structure BindApart (b : Binder) (u : TypeId) (signature : String) (rest : List String)
    (given : List (FlagRun × List Value)) : Prop where
  own : ∀ e ∈ given, Text.trim e.1.flag = signature
  taken : ∀ e ∈ given, e.1.tokens ≠ []
  bound : ∀ before e after, given = before ++ e :: after →
    (b.bind u (e.1.tokens ++ (after.flatMap (·.1.all) ++ rest)) 0).outcome =
        .ok e.1.tokens.length ∧
      (b.bind u (e.1.tokens ++ (after.flatMap (·.1.all) ++ rest)) 0).fields = e.2
  ended : ∀ token ∈ rest.head?, Text.trim token ≠ signature

namespace BindApart

variable {given : List (FlagRun × List Value)} {e : FlagRun × List Value}

theorem tail (apart : b.BindApart u signature rest (e :: given)) :
    b.BindApart u signature rest given where
  own e mem := apart.own e (List.mem_cons_of_mem _ mem)
  taken e mem := apart.taken e (List.mem_cons_of_mem _ mem)
  bound before e' after split := apart.bound (e :: before) e' after (congrArg (e :: ·) split)
  ended := apart.ended

theorem built (apart : b.BindApart u signature rest (e :: given)) :
    (b.construct u (e.1.tokens ++ ((given.map (·.1)).flatMap FlagRun.all ++ rest))).outcome =
      .ok (e.2, e.1.tokens.length) := by
  obtain ⟨bound, same⟩ := apart.bound [] e given rfl
  have taken : e.1.tokens.length ≠ 0 := by simpa using apart.taken e List.mem_cons_self
  rw [List.flatMap_map, ← same]
  exact construct_of_bind bound taken

theorem flagRuns (apart : b.BindApart u signature rest (e :: given)) :
    b.FlagRuns u signature rest ((e :: given).map (·.1))
      ((e :: given).map (.composite ·.2)) := by
  have own := apart.own e List.mem_cons_self
  have taken := apart.taken e List.mem_cons_self
  induction given generalizing e with
  | nil => exact .last own taken apart.built apart.ended
  | cons e' given ih =>
    have later := apart.tail
    exact .next own taken apart.built (ih later (later.own e' List.mem_cons_self)
      (later.taken e' List.mem_cons_self))

end BindApart

/-! ### Matches -/

variable {s : Selection} {pending : List Pending} {c : Container}

theorem form_of_select (selected : select flag pending = some s)
    (own : Text.trim flag = s.chosen.field.signature) : s.form = .exact := by
  have recognised := (select_eq_some_iff.mp selected).1
  rw [Descriptor.recognise_exact_iff.mpr own] at recognised
  exact (Option.some.inj recognised).symm

/-- What an option has been given stays there, however the scan goes on. -/
theorem applyAll_after (distinct : (pending.map (·.index)).Nodup)
    (selected : select flag pending = some s) {v : Value} {width : Nat} {events : List Event}
    (bound : s.chosen.index < fields.length) :
    (Segment.applyAll fields ((b.scan owner s.others rest).after
      ⟨s.chosen.index, width, some v⟩ events).segments)[s.chosen.index]? = some v := by
  obtain ⟨unlisted, -⟩ := nodup_of_select distinct selected
  have later : ∀ segment ∈ (b.scan owner s.others rest).segments,
      segment.index = s.chosen.index → segment.update = none := by
    intro segment mem same
    obtain ⟨s', rest', claim, taken, rfl⟩ := takes_of_mem mem
    exact absurd (List.mem_map.mpr ⟨_, taken.chosen_mem, same⟩) unlisted
  have kept : (Segment.applyAll (fields.set s.chosen.index v)
      (b.scan owner s.others rest).segments)[s.chosen.index]? = _ :=
    Segment.applyAll_getElem?_of_none later
  exact kept.trans (List.getElem?_set_self bound)

/-- **Repeated composites are bound independently and in order.** If each of them can be bound
alone, the option takes their flags and tokens, and then holds them, whatever the fields held before
and however the scan goes on. -/
theorem bind_repeated (owner : String) {given : List (FlagRun × List Value)}
    {e : FlagRun × List Value}
    (shape : s.chosen.field.shape = .collection c (.composite u)) (ordered : c.Ordered)
    (apart : b.BindApart u s.chosen.field.signature rest (e :: given))
    (distinct : (pending.map (·.index)).Nodup) (selected : select e.1.flag pending = some s) :
    (∃ events, b.scan owner pending ((e :: given).flatMap (·.1.all) ++ rest) =
      (b.scan owner s.others rest).after
        ⟨s.chosen.index, (e :: given).length + ((e :: given).map (·.1.tokens.length)).sum,
          some (.items ((e :: given).map (.composite ·.2)))⟩ events) ∧
    ∀ fields : List Value, s.chosen.index < fields.length →
      (Segment.applyAll fields (b.scan owner pending
        ((e :: given).flatMap (·.1.all) ++ rest)).segments)[s.chosen.index]? =
          some (.items ((e :: given).map (.composite ·.2))) := by
  have form := form_of_select selected (apart.own e List.mem_cons_self)
  have claimed : (b.claim owner s (e.1.tokens ++
      ((given.map (·.1)).flatMap FlagRun.all ++ rest))).outcome = .ok ⟨_, _⟩ :=
    (claim_exact_iff form).mpr
      (.composites shape (composites_ok_iff.mpr apart.flagRuns.repeats) rfl)
  have tokens : (e :: given).flatMap (·.1.all) ++ rest = e.1.flag ::
      (e.1.tokens ++ ((given.map (·.1)).flatMap FlagRun.all ++ rest)) := by
    simp [FlagRun.all, List.flatMap_map]
  have width : e.1.tokens.length + ((given.map (·.1)).flatMap FlagRun.all).length + 1 =
      (e :: given).length + ((e :: given).map (·.1.tokens.length)).sum := by
    rw [FlagRun.length_flatMap_all, List.map_map, List.length_map, List.map_cons, List.sum_cons,
      List.length_cons, Function.comp_def]
    omega
  have after : (e.1.tokens ++ ((given.map (·.1)).flatMap FlagRun.all ++ rest)).drop
      (e.1.tokens.length + ((given.map (·.1)).flatMap FlagRun.all).length) = rest := by
    rw [← List.append_assoc, ← List.length_append, List.drop_left]
  -- The claim does not count the first flag, the segment does.
  have scanned := scan_cons_ok selected claimed
  rw [← tokens, Claim.segment, after, width, ordered.ofElements] at scanned
  refine ⟨⟨_, scanned⟩, fun fields bound => ?_⟩
  rw [scanned]
  exact applyAll_after distinct selected bound

theorem itemBinder_bindItem (rest : List String) :
    (itemBinder.bind 1 ("-on" :: rest) 0).outcome = .ok 1 ∧
      (itemBinder.bind 1 ("-on" :: rest) 0).fields = [.scalar (.bool true)] :=
  (bind_ok_iff ("-on" :: rest) 0).mpr (binds_of_construct (itemBinder_construct rest) (by simp))

/-- The item option, selected. -/
def itemFlag : Selection := ⟨⟨0, (itemBinder.table.fields 0)[0]⟩, .exact, []⟩

theorem select_itemFlag : select "-item" (itemBinder.table.pending 0) = some itemFlag := by
  decide +kernel

/-- Two items, where there is white space around the second flag. -/
def twoItems : List (FlagRun × List Value) :=
  [(⟨"-item", ["-on"]⟩, [.scalar (.bool true)]), (⟨" -item", ["-on"]⟩, [.scalar (.bool true)])]

theorem twoItems_apart :
    itemBinder.BindApart 1 itemFlag.chosen.field.signature ["-end"] twoItems where
  own := by decide +kernel
  taken := by simp [twoItems]
  bound before e after split := by
    have alike : ∀ e ∈ twoItems, e.1.tokens = ["-on"] ∧ e.2 = [.scalar (.bool true)] := by
      simp [twoItems]
    obtain ⟨tokens, fields⟩ := alike e (by simp [split])
    rw [tokens, fields]
    exact itemBinder_bindItem _
  ended := by decide +kernel

theorem bind_repeated_items :
    itemBinder.BindApart 1 itemFlag.chosen.field.signature ["-end"] twoItems ∧
      ∃ events, itemBinder.scan "Items" (itemBinder.table.pending 0)
          ["-item", "-on", " -item", "-on", "-end"] =
        (itemBinder.scan "Items" [] ["-end"]).after ⟨0, 4, some (.items
          [.composite [.scalar (.bool true)], .composite [.scalar (.bool true)]])⟩ events := by
  have shape : itemFlag.chosen.field.shape = .collection .vector (.composite 1) := rfl
  have distinct := TypeTable.pending_nodup itemBinder.table 0
  exact ⟨twoItems_apart,
    (bind_repeated "Items" shape (.inl rfl) twoItems_apart distinct select_itemFlag).1⟩

/-- **There are as many elements as flags** in the tokens that the option takes if and only if no
flag is bare. Else the last flag is bare, the next token selects no option of the element, and there
is one element less. -/
theorem elements_eq_flags_iff {claim : Claim}
    (shape : s.chosen.field.shape = .collection c (.composite u)) (ordered : c.Ordered)
    (selected : select flag pending = some s) (own : Text.trim flag = s.chosen.field.signature)
    (claimed : (b.claim owner s rest).outcome = .ok claim) :
    ∃ runs elements after, flag :: rest = runs.flatMap FlagRun.all ++ after ∧
      (runs.flatMap FlagRun.all).length = claim.extra + 1 ∧
      b.FlagRuns u s.chosen.field.signature after runs elements ∧
      claim.update = some (.items elements) ∧
      (elements.length = runs.length ↔ ∀ r ∈ runs, r.tokens ≠ []) ∧
      (elements.length ≠ runs.length → ∃ before last, runs = before ++ [last] ∧
        last.tokens = [] ∧ elements.length = before.length ∧ (∀ r ∈ before, r.tokens ≠ []) ∧
        ∀ token ∈ after.head?, select token (b.table.pending u) = none) := by
  have taken := (claim_exact_iff (form_of_select selected own)).mp claimed
  cases taken with
  | switched shape' => simp [shape] at shape'
  | nothing shape' | composite shape' => simp [shape] at shape'
  | @composites _ _ elements _ shape' built given =>
    rw [shape] at shape'
    obtain ⟨rfl, rfl⟩ : _ ∧ _ := by simpa using shape'
    obtain ⟨runs, after, split, width, made⟩ := (composites_ok_iff.mp built).flagRuns own
    refine ⟨runs, elements, after, split, width, made, congrArg some (ordered.ofElements _), ?_⟩
    rcases made.count with ⟨count, all⟩ | ⟨before, last, rfl, alone, count, all, unclaimed⟩
    · exact ⟨iff_of_true count all, absurd count⟩
    · have fewer : elements.length ≠ (before ++ [last]).length := by
        rw [count, List.length_append]
        exact Nat.ne_of_lt (Nat.lt_succ_self _)
      have bare : ¬ ∀ r ∈ before ++ [last], r.tokens ≠ [] := fun all =>
        all last (List.mem_append_right _ List.mem_cons_self) alone
      exact ⟨iff_of_false fewer bare, fun _ => ⟨before, last, rfl, alone, count, all, unclaimed⟩⟩

/-- The second flag is bare. -/
theorem flagRuns_bareItem : itemBinder.FlagRuns 1 "-item" [] [⟨"-item", ["-on"]⟩, ⟨"-item", []⟩]
    [.composite [.scalar (.bool true)]] := by
  have none : (itemBinder.construct 1 []).outcome = .ok ([.scalar (.bool false)], 0) :=
    construct_ok_iff.mpr (.nothing (.inr rfl) (.stop (by simp)))
  exact .next (by decide +kernel) (by simp) (itemBinder_construct _)
    (.bare (by decide +kernel) rfl none)

theorem claim_bareItem : (itemBinder.claim "Items" itemFlag ["-on", "-item"]).outcome =
    .ok ⟨some (.items [.composite [.scalar (.bool true)]]), 2⟩ := by
  have built : (itemBinder.composites 1 "-item" ["-on", "-item"]).outcome =
      .ok ([.composite [.scalar (.bool true)]], 2) :=
    composites_ok_iff.mpr flagRuns_bareItem.repeats
  have taken : itemBinder.FlagClaim itemFlag.chosen.field ["-on", "-item"] ⟨some _, 2⟩ :=
    .composites rfl built rfl
  exact (claim_exact_iff rfl).mpr taken

theorem elements_eq_flags_items :
    ∃ runs elements after, ["-item", "-on", "-item"] = runs.flatMap FlagRun.all ++ after ∧
      (runs.flatMap FlagRun.all).length = 3 ∧
      itemBinder.FlagRuns 1 "-item" after runs elements ∧
      elements = [.composite [.scalar (.bool true)]] ∧
      (elements.length = runs.length ↔ ∀ r ∈ runs, r.tokens ≠ []) := by
  obtain ⟨runs, elements, after, split, width, made, update, count, -⟩ :=
    elements_eq_flags_iff rfl (.inl rfl) select_itemFlag (by decide +kernel) claim_bareItem
  obtain rfl : _ = elements := by simpa using update
  exact ⟨runs, _, after, split, width, made, rfl, count⟩

/-- **A flag may be taken without an element.** Two flags of the option are among the three tokens
that are bound, and there is one item. -/
theorem bind_bareItem :
    (itemBinder.bind 0 ["-item", "-on", "-item"] 0).outcome = .ok 3 ∧
      (itemBinder.bind 0 ["-item", "-on", "-item"] 0).fields =
        [.items [.composite [.scalar (.bool true)]]] ∧
      itemBinder.FlagRuns 1 "-item" [] [⟨"-item", ["-on"]⟩, ⟨"-item", []⟩]
        [.composite [.scalar (.bool true)]] := by
  have found : itemBinder.FindsFor 0 ["-item", "-on", "-item"] _ :=
    .take select_itemFlag claim_bareItem (.stop (by simp))
  have binds : itemBinder.Binds 0 (itemBinder.table.fresh 0) ["-item", "-on", "-item"] _ :=
    .intro (.inr rfl) found rfl
  obtain ⟨ended, fields⟩ := (bind_ok_iff ["-item", "-on", "-item"] 0).mpr binds
  exact ⟨ended, fields, flagRuns_bareItem⟩

end Binder

end OptionBinding
