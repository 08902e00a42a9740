import OptionBinding.Proofs.Filling
import OptionBinding.Proofs.Locality
import OptionBinding.Proofs.PlainTypes

/-!
# Two runs side by side

Two runs of binding are compared here. They may differ in the types of which it is remembered that
they passed their check (`Binder.Recalls`), and in the tokens `more` that follow those of the first
run, provided that no option in sight recognises the first of them (`Binder.Foreign`). Such runs are
alike: they come to the same outcome and contents, and tell of the same checks, except of types in
`seen` (`Run.Alike`).

Each step takes alike runs to alike runs. Of the steps on tokens this is stated for lists of less
than `n` tokens, on the assumption that matching is alike on these (`MatchesAlike`); the assumption
goes from shorter lists to longer ones (`matchesAlike`).
-/

namespace OptionBinding

variable {α β : Type} {seen : List TypeId}

/-! ### Checks that events tell of -/

/-- The types not in `seen` of whose checks events tell. -/
def unseenTypes (seen : List TypeId) (events : List Event) : List TypeId :=
  (checkedTypes events).filter (· ∉ seen)

theorem unseenTypes_append (first later : List Event) :
    unseenTypes seen (first ++ later) = unseenTypes seen first ++ unseenTypes seen later := by
  simp [unseenTypes, checkedTypes]

theorem unseenTypes_check {t : TypeId} {owner : String} {options : Nat} (mem : t ∈ seen) :
    unseenTypes seen [.schemaChecked t owner options] = [] := by
  unfold unseenTypes
  exact List.filter_cons_of_neg (by simpa using mem)

/-- The first occurrences of types not in `seen`. -/
def newTypes (seen : List TypeId) : List TypeId → List TypeId
  | [] => []
  | t :: types => if t ∈ seen then newTypes seen types else t :: newTypes (t :: seen) types

theorem mem_newTypes {types : List TypeId} {t : TypeId} :
    t ∈ newTypes seen types ↔ t ∉ seen ∧ t ∈ types := by
  induction types generalizing seen with
  | nil => simp [newTypes]
  | cons u types ih =>
    rw [newTypes]
    by_cases before : u ∈ seen
    · have other : t ∉ seen → t ≠ u := fun unseen same => unseen (same ▸ before)
      rw [if_pos before, ih, List.mem_cons]
      exact and_congr_right fun unseen => (or_iff_right (other unseen)).symm
    · rw [if_neg before, List.mem_cons, ih, List.mem_cons, List.mem_cons]
      by_cases same : t = u
      · simp [same, before]
      · simp [same]

theorem newTypes_filter {known : List TypeId} (types : List TypeId) (sub : seen ⊆ known) :
    newTypes known (types.filter (· ∉ seen)) = newTypes known types := by
  induction types generalizing known with
  | nil => rfl
  | cons t types ih =>
    by_cases mem : t ∈ seen
    · rw [List.filter_cons_of_neg (by simpa using mem), ih sub, newTypes, if_pos (sub mem)]
    · rw [List.filter_cons_of_pos (by simpa using mem), newTypes, newTypes, ih sub,
        ih (List.subset_cons_of_subset t sub)]

theorem checkedTypes_newEvents (events : List Event) :
    checkedTypes (newEvents seen events) = newTypes seen (checkedTypes events) := by
  induction events generalizing seen with
  | nil => rfl
  | cons e events ih =>
    unfold checkedTypes at ih ⊢
    cases type : e.checkedType? with
    | none => simp only [newEvents, type, List.filterMap_cons_none, ih]
    | some t =>
      rw [newEvents, List.filterMap_cons_some type, newTypes]
      simp only [type]
      split
      · exact ih
      · rw [List.filterMap_cons_some type, ih]

/-- **What is remembered of events** depends on the types not remembered yet alone. -/
theorem checkedTypes_newEvents_congr {events events' : List Event}
    (same : unseenTypes seen events = unseenTypes seen events') :
    checkedTypes (newEvents seen events) = checkedTypes (newEvents seen events') := by
  rw [checkedTypes_newEvents, checkedTypes_newEvents,
    ← newTypes_filter (checkedTypes events) (List.Subset.refl _),
    ← newTypes_filter (checkedTypes events') (List.Subset.refl _)]
  exact congrArg _ same

/-! ### Alike runs -/

/-- **Events that tell of the same checks**, those of types in `seen` aside; the checks were
passed. -/
structure ToldAlike (table : TypeTable) (seen : List TypeId) (events events' : List Event) :
    Prop where
  same : unseenTypes seen events = unseenTypes seen events'
  passed : ∀ t ∈ checkedTypes events, table.fault? t = none

/-- **Runs with the same outcome** that tell of the same checks. -/
structure Run.Alike (table : TypeTable) (seen : List TypeId) (x y : Run α) : Prop where
  outcome : x.outcome = y.outcome
  events : ToldAlike table seen x.events y.events

/-- Passes with the same contents and alike runs. -/
structure Pass.Alike (table : TypeTable) (seen : List TypeId) (p q : Pass α) : Prop where
  fields : p.fields = q.fields
  run : p.run.Alike table seen q.run

/-- Scans with the same segments and outcome that tell of the same checks. -/
structure Scan.Alike (table : TypeTable) (seen : List TypeId) (x y : Scan) : Prop where
  segments : x.segments = y.segments
  outcome : x.outcome = y.outcome
  events : ToldAlike table seen x.events y.events

variable {table : TypeTable}

theorem ToldAlike.of_silent {events events' : List Event} (silent : checkedTypes events = [])
    (silent' : checkedTypes events' = []) : ToldAlike table seen events events' where
  same := by rw [unseenTypes, unseenTypes, silent, silent']
  passed := by simp [silent]

theorem ToldAlike.append {events events' later later' : List Event}
    (h : ToldAlike table seen events events') (h' : ToldAlike table seen later later') :
    ToldAlike table seen (events ++ later) (events' ++ later') where
  same := by rw [unseenTypes_append, unseenTypes_append, h.same, h'.same]
  passed t mem := by
    rw [checkedTypes, List.filterMap_append, List.mem_append] at mem
    exact mem.elim (h.passed t) (h'.passed t)

namespace Run.Alike

theorem refl (x : Run α) (silent : checkedTypes x.events = []) :
    x.Alike table seen x := ⟨rfl, .of_silent silent silent⟩

theorem bind {x y : Run α} {f g : α → Run β} (first : x.Alike table seen y)
    (next : ∀ a, x.outcome = .ok a → (f a).Alike table seen (g a)) :
    (x >>= f).Alike table seen (y >>= g) := by
  obtain ⟨x, events⟩ := x
  obtain ⟨y, events'⟩ := y
  obtain rfl : x = y := first.outcome
  cases x with
  | error e => exact ⟨rfl, first.events⟩
  | ok a => exact ⟨(next a rfl).outcome, first.events.append (next a rfl).events⟩

end Run.Alike

theorem Pass.Alike.refl (p : Pass α) (silent : checkedTypes p.run.events = []) :
    p.Alike table seen p := ⟨rfl, .refl _ silent⟩

theorem Pass.Alike.whole {p q : Pass α} (h : p.Alike table seen q) :
    p.whole.Alike table seen q.whole := by
  refine ⟨?_, h.run.events⟩
  unfold Pass.whole
  rw [h.run.outcome, h.fields]

theorem fillFields_alike (owner : String) {value value' : Field → String → Run Value}
    (same : ∀ f text, (value f text).Alike table seen (value' f text)) (fs : List Field)
    (vs : List Value) :
    (fillFields owner value fs vs).Alike table seen (fillFields owner value' fs vs) := by
  induction fs generalizing vs with
  | nil => cases vs <;> exact .refl _ rfl
  | cons f fs ih =>
    cases vs with
    | nil => exact .refl _ rfl
    | cons v vs =>
      have later := ih vs
      rw [fillFields, fillFields]
      split
      · exact ⟨congrArg (_ :: ·) later.fields, later.run⟩
      · split
        · next text _ =>
          have made := (Run.Alike.refl
            (Run.tell (.defaultApplied f.signature owner text)) rfl).bind fun _ _ => same f text
          dsimp only
          rw [made.outcome]
          split
          · exact ⟨rfl, rfl, made.events⟩
          · exact ⟨congrArg (_ :: ·) later.fields, later.run.outcome,
              made.events.append later.run.events⟩
        · split
          · exact .refl _ rfl
          · exact ⟨congrArg (_ :: ·) later.fields, later.run⟩

theorem Descriptor.capturedRun_append {d : Descriptor} {rest more : List String}
    (unread : ∀ token ∈ more.head?, d.captured? token = none) :
    d.capturedRun (rest ++ more) = d.capturedRun rest := by
  induction rest with
  | nil => exact capturedRun_of_head unread
  | cons token rest ih =>
    rw [List.cons_append, capturedRun, capturedRun]
    cases d.captured? token with
    | none => rfl
    | some value => exact congrArg _ ih

namespace Binder

/-- The binder, if it remembers the given types. -/
def remembering (b : Binder) (types : List TypeId) : Binder := { b with checked := types }

/-- **It makes no difference whether the binder remembers the given types instead**, as far as the
checks of types not in `seen` go. -/
def Recalls (b : Binder) (seen types : List TypeId) : Prop :=
  ∀ t, (b.schema t).Alike b.table seen ((b.remembering types).schema t)

variable {b : Binder} {types : List TypeId} {owner : String} {f : Field} {t : TypeId}
  {fields : List Value} {rest more tokens : List String} {text : String}

theorem remembering_registry : (b.remembering types).registry = b.registry := rfl

theorem schema_passed {u : TypeId} (mem : u ∈ checkedTypes (b.schema t).events) :
    b.table.fault? u = none := by
  unfold schema at mem
  split at mem
  · cases mem
  · split at mem
    · cases mem
    · next sound =>
      obtain rfl : u = t := List.mem_singleton.mp mem
      exact sound

theorem Recalls.refl (b : Binder) (seen : List TypeId) : b.Recalls seen b.checked :=
  fun _ => ⟨rfl, rfl, fun _ => schema_passed⟩

/-- **More types may be remembered**, if they pass their check. -/
theorem recalls_of_passed (kept : b.checked ⊆ types) (sub : types ⊆ seen)
    (passed : ∀ t ∈ types, t ∈ b.checked ∨ b.table.fault? t = none) : b.Recalls seen types := by
  intro t
  suffices same : (b.schema t).outcome = ((b.remembering types).schema t).outcome ∧
      unseenTypes seen (b.schema t).events =
        unseenTypes seen ((b.remembering types).schema t).events from
    ⟨same.1, same.2, fun _ => schema_passed⟩
  unfold schema remembering
  by_cases before : t ∈ b.checked
  · rw [if_pos before, if_pos (kept before)]
    exact ⟨rfl, rfl⟩
  · by_cases now : t ∈ types
    · -- Only the binder that does not remember the check tells of it, but the type is in `seen`.
      simp only [if_neg before, if_pos now, (passed t now).resolve_left before]
      exact ⟨rfl, unseenTypes_check (sub now)⟩
    · rw [if_neg before, if_neg now]
      exact ⟨rfl, rfl⟩

section Texts

variable {F G : Finish} (finished : ∀ t fields, (F t fields).Alike b.table seen (G t fields))
include finished

theorem readElement_alike (d : Descriptor) (e : Element) (text : String) :
    (b.readElement F d e text).Alike b.table seen
      ((b.remembering types).readElement G d e text) := by
  refine (Run.Alike.refl (b.parse d (.single e) text) rfl).bind fun v _ => ?_
  cases e with
  | scalar type => exact .refl _ rfl
  | composite u =>
    cases v with
    | composite fields => exact (finished u fields).bind fun _ _ => .refl _ rfl
    | _ => exact .refl _ rfl

theorem readElements_alike (d : Descriptor) (e : Element) (texts : List String) :
    (b.readElements F d e texts).Alike b.table seen
      ((b.remembering types).readElements G d e texts) := by
  induction texts with
  | nil => exact .refl _ rfl
  | cons text texts ih =>
    exact (readElement_alike finished d e text).bind fun _ _ => ih.bind fun _ _ => .refl _ rfl

theorem readContents_alike (owner : String) (f : Field) (text : String) (more : List String) :
    (b.readContents F owner f text more).Alike b.table seen
      ((b.remembering types).readContents G owner f text more) := by
  unfold readContents
  split
  · exact (Run.Alike.refl (b.parse _ _ text) rfl).bind fun _ _ => .refl _ rfl
  · exact (readElement_alike finished _ _ text).bind fun _ _ => .refl _ rfl
  · rw [remembering_registry]
    split
    · exact (Run.Alike.refl (b.parse _ _ text) rfl).bind fun _ _ => .refl _ rfl
    · exact (readElements_alike finished _ _ _).bind fun _ _ => .refl _ rfl
  · exact .refl _ rfl
  · exact .refl _ rfl

end Texts

/-! ### Completing -/

variable (recalls : b.Recalls seen types)
include recalls

theorem completeWith_alike {finish finish' : Finish}
    (finished : ∀ t fields, (finish t fields).Alike b.table seen (finish' t fields)) (t : TypeId)
    (fields : List Value) :
    (b.completeWith finish t fields).Alike b.table seen
      ((b.remembering types).completeWith finish' t fields) := by
  have checked := recalls t
  have value : ∀ f text, (b.valueOf finish (b.table.recordName t) f text).Alike b.table seen
      ((b.remembering types).valueOf finish' (b.table.recordName t) f text) :=
    fun f text => (readContents_alike finished _ f text []).bind fun _ _ => .refl _ rfl
  have filled := fillFields_alike (b.table.recordName t) value (b.table.fields t) fields
  unfold completeWith
  dsimp only
  rw [← checked.outcome]
  cases (b.schema t).outcome with
  | error e => exact ⟨rfl, rfl, checked.events⟩
  | ok u =>
    exact ⟨filled.fields, filled.run.outcome, checked.events.append filled.run.events⟩

theorem completeWithin_alike (depth : Nat) (t : TypeId) (fields : List Value) :
    (b.completeWithin depth t fields).Alike b.table seen
      ((b.remembering types).completeWithin depth t fields) := by
  induction depth generalizing t fields with
  | zero => exact completeWith_alike recalls (fun _ _ => .refl _ rfl) t fields
  | succ depth ih =>
    exact completeWith_alike recalls (fun t fields => (ih t fields).whole) t fields

theorem finish_alike (t : TypeId) (fields : List Value) :
    (b.finish t fields).Alike b.table seen ((b.remembering types).finish t fields) :=
  (completeWithin_alike recalls _ t fields).whole

/-! ### Matching -/

/-- What a token gives a field does not depend on tokens that give it no further value. -/
theorem bindText_alike (owner : String) (f : Field) (text : String)
    (unread : ∀ token ∈ more.head?, f.descriptor.captured? token = none) :
    (b.bindText owner f text rest).Alike b.table seen
      ((b.remembering types).bindText owner f text (rest ++ more)) := by
  rw [bindText, bindText, Descriptor.capturedRun_append unread]
  exact (readContents_alike (finish_alike recalls) owner f text _).bind fun _ _ => .refl _ rfl

/-- **Matching on less than `n` tokens is alike**, if `more` follow. -/
def MatchesAlike (b : Binder) (seen types : List TypeId) (more : List String) (n : Nat) : Prop :=
  ∀ t fields tokens, tokens.length < n → b.Foreign t more →
    (b.bindFields t fields tokens).Alike b.table seen
      ((b.remembering types).bindFields t fields (tokens ++ more))

section Matches

variable {n : Nat} (matched : b.MatchesAlike seen types more n)
include matched

theorem construct_alike (short : tokens.length < n) (foreign : b.Foreign t more) :
    (b.construct t tokens).Alike b.table seen
      ((b.remembering types).construct t (tokens ++ more)) := by
  have bound := matched t (b.table.fresh t) tokens short foreign
  rw [construct, construct]
  refine bound.run.bind fun n _ => ?_
  split
  · rw [bound.fields]
    exact .refl _ rfl
  · rw [bound.fields]
    exact (finish_alike recalls t _).bind fun _ _ => .refl _ rfl

theorem composites_alike {signature : String} (short : tokens.length < n)
    (foreign : b.Foreign t more) (other : ∀ token ∈ more.head?, Text.trim token ≠ signature) :
    (b.composites t signature tokens).Alike b.table seen
      ((b.remembering types).composites t signature (tokens ++ more)) := by
  induction len : tokens.length using Nat.strongRecOn generalizing tokens with
  | ind m ih =>
  rw [composites, composites]
  refine (construct_alike recalls matched short foreign).bind fun r built => ?_
  obtain ⟨fields, n'⟩ := r
  dsimp only
  split
  · exact .refl _ rfl
  · have within : n' ≤ tokens.length :=
      (construct_local (b.localBelow _) (Nat.le_refl _) built).width_le
    rw [List.drop_append_of_le_length within]
    cases after : tokens.drop n' with
    | nil =>
      cases more with
      | nil => exact .refl _ rfl
      | cons token more =>
        simp only [List.nil_append, if_neg (other token rfl)]
        exact .refl _ rfl
    | cons restated tokens' =>
      have shorter := congrArg List.length after
      simp only [List.length_drop, List.length_cons] at shorter
      simp only [List.cons_append]
      split
      · exact (ih tokens'.length (by omega) (by omega) rfl).bind fun _ _ => .refl _ rfl
      · exact .refl _ rfl

/-- The options of a type and of the types nested in it do not recognise what follows, so neither do
those of the composites that a field of it holds. -/
theorem bindFlag_alike (mem : f ∈ b.table.fields t) (short : rest.length < n)
    (foreign : b.Foreign t more) :
    (b.bindFlag owner f rest).Alike b.table seen
      ((b.remembering types).bindFlag owner f (rest ++ more)) := by
  have below : ∀ u, f.shape.element = .composite u → b.Foreign u more :=
    fun u shape => foreign.nested ⟨f, mem, shape⟩
  rw [bindFlag, bindFlag]
  cases shape : f.shape with
  | single e =>
    cases e with
    | scalar type =>
      dsimp only
      split <;> exact .refl _ rfl
    | composite u =>
      have foreign := below u (by rw [shape]; rfl)
      refine (construct_alike recalls matched short foreign).bind fun r _ => ?_
      dsimp only
      split
      · split <;> exact .refl _ rfl
      · exact .refl _ rfl
  | collection c e =>
    cases e with
    | scalar type => exact .refl _ rfl
    | composite u =>
      have foreign' := below u (by rw [shape]; rfl)
      refine (composites_alike recalls matched short foreign' fun token head => ?_).bind
        fun r _ => ?_
      · have unrecognised := foreign token head t .refl f mem
        exact ne_of_beq_false (Descriptor.isExact_of_recognise_none unrecognised)
      · dsimp only
        split <;> exact .refl _ rfl
  | _ => exact .refl _ rfl

theorem claim_alike (owner : String) {s : Selection} (mem : s.chosen.field ∈ b.table.fields t)
    (short : rest.length < n) (foreign : b.Foreign t more) :
    (b.claim owner s rest).Alike b.table seen
      ((b.remembering types).claim owner s (rest ++ more)) := by
  unfold claim
  cases s.form with
  | exact => exact bindFlag_alike recalls matched mem short foreign
  | delimited text =>
    refine bindText_alike recalls owner s.chosen.field text fun token head => ?_
    exact Descriptor.captured?_of_recognise_none (foreign token head t .refl _ mem)

theorem scan_alike (owner : String) {pending : List Pending}
    (known : ∀ p ∈ pending, p ∈ b.table.pending t) (short : tokens.length ≤ n)
    (foreign : b.Foreign t more) :
    (b.scan owner pending tokens).Alike b.table seen
      ((b.remembering types).scan owner pending (tokens ++ more)) := by
  induction pending, tokens using b.scan_induction owner with
  | nil pending =>
    cases more with
    | nil => rw [List.append_nil, scan_nil, scan_nil]; exact ⟨rfl, rfl, .of_silent rfl rfl⟩
    | cons token more =>
      have unclaimed : select token pending = none := select_eq_none_iff.mpr fun p mem =>
        foreign token rfl t .refl p.field (TypeTable.field_mem (known p mem))
      rw [List.nil_append, scan_nil, scan_cons_none unclaimed]
      exact ⟨rfl, rfl, .of_silent rfl rfl⟩
  | unclaimed pending token rest unclaimed =>
    rw [List.cons_append, scan_cons_none unclaimed, scan_cons_none unclaimed]
    exact ⟨rfl, rfl, .of_silent rfl rfl⟩
  | failed pending token rest s e selected failed =>
    have mem := TypeTable.field_mem (known _ (chosen_mem_of_select selected))
    have claimed := claim_alike recalls matched owner mem short foreign
    rw [List.cons_append, scan_cons_error selected failed,
      scan_cons_error selected (claimed.outcome.symm.trans failed)]
    exact ⟨rfl, rfl, claimed.events⟩
  | claimed pending token rest s c selected done ih =>
    have mem := TypeTable.field_mem (known _ (chosen_mem_of_select selected))
    have claimed := claim_alike recalls matched owner mem short foreign
    have within : c.extra ≤ rest.length := (claim_local (b.localBelow _) short done).width_le
    have others := ih (fun p mem => known p (mem_of_mem_others selected mem))
      (by simp only [List.length_cons, List.length_drop] at short ⊢; omega)
    rw [← List.drop_append_of_le_length within] at others
    rw [List.cons_append, scan_cons_ok selected done,
      scan_cons_ok selected (claimed.outcome.symm.trans done)]
    have bound : ToldAlike b.table seen
        [.optionBound s.chosen.field.signature owner (c.extra + 1)]
        [.optionBound s.chosen.field.signature owner (c.extra + 1)] := .of_silent rfl rfl
    have told := claimed.events.append bound
    exact ⟨congrArg (_ :: ·) others.segments, others.outcome, told.append others.events⟩

end Matches

/-- **Matching is alike**, on however many tokens. -/
theorem matchesAlike (n : Nat) : b.MatchesAlike seen types more n := by
  induction n with
  | zero => exact fun _ _ _ short => absurd short (Nat.not_lt_zero _)
  | succ n ih =>
    intro t fields tokens short foreign
    have checked := recalls t
    have scanned := scan_alike recalls ih (b.table.recordName t)
      (fun p (mem : p ∈ b.table.pending t) => mem) (Nat.le_of_lt_succ short) foreign
    rw [bindFields, bindFields]
    dsimp only
    rw [← checked.outcome]
    cases (b.schema t).outcome with
    | error e => exact ⟨rfl, rfl, checked.events⟩
    | ok u =>
      refine ⟨congrArg (Segment.applyAll fields) scanned.segments, ?_,
        checked.events.append scanned.events⟩
      dsimp only
      rw [scanned.segments, scanned.outcome]
      rfl

theorem bindFields_alike (foreign : b.Foreign t more) (fields : List Value)
    (tokens : List String) :
    (b.bindFields t fields tokens).Alike b.table seen
      ((b.remembering types).bindFields t fields (tokens ++ more)) :=
  matchesAlike recalls _ t fields tokens (Nat.lt_succ_self _) foreign

/-- **Binding is alike**, whichever of the types that pass their check are remembered, and whatever
follows the tokens, if no option in sight recognises the first of it. -/
theorem bindAndComplete_alike (foreign : b.Foreign t more) (fields : List Value)
    (tokens : List String) :
    (b.bindAndComplete t fields tokens).Alike b.table seen
      ((b.remembering types).bindAndComplete t fields (tokens ++ more)) := by
  have bound := bindFields_alike recalls foreign fields tokens
  have completed := completeWithin_alike recalls b.table.fieldCount t
    (b.bindFields t fields tokens).fields
  unfold bindAndComplete
  dsimp only
  rw [← bound.run.outcome]
  cases outcome : (b.bindFields t fields tokens).run.outcome with
  | error e => exact bound
  | ok n =>
    rw [← bound.fields]
    exact ⟨completed.fields, congrArg (Except.map _) completed.run.outcome,
      bound.run.events.append completed.run.events⟩

omit recalls in
/-- The checks that binding tells of were passed. -/
theorem bindAndComplete_passed {u : TypeId}
    (mem : u ∈ checkedTypes (b.bindAndComplete t fields tokens).run.events) :
    b.table.fault? u = none :=
  (bindAndComplete_alike (Recalls.refl b []) foreign_nil fields tokens).run.events.passed u mem

end Binder

end OptionBinding
