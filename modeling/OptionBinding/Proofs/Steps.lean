import OptionBinding.Binding.Binder

/-!
# What the steps of binding do when they succeed

Each step of binding is stated here as a relation between the tokens it is given and what it makes
of them, with one constructor for each way in which it can succeed, and proved to be that relation.
Proofs about binding go by cases and by induction on these relations and do not open the functions.

* `readContents_ok_iff`: a text becomes the contents of a field (`Reads`);
* `bindFlag_ok_iff`: a field is selected by its bare signature (`FlagClaim`);
* `construct_ok_iff`, `composites_ok_iff`: a composite, and the composites of a repeatable option,
  are bound from the front of tokens (`Constructs`, `Repeats`);
* `scan_ok_iff`: a scan comes to its end (`Finds`), and `takes_of_mem`: also of a scan that fails,
  every segment is a claim that succeeded (`Takes`). Both go by `scan_induction`, along the claims.
-/

namespace OptionBinding

namespace Run

variable {α β : Type}

theorem bind_ok_iff {x : Run α} {f : α → Run β} {r : β} :
    (x >>= f).outcome = .ok r ↔ ∃ a, x.outcome = .ok a ∧ (f a).outcome = .ok r := by
  rw [outcome_bind]
  cases x.outcome with
  | error e => simp [bind, Except.bind]
  | ok a => simp [bind, Except.bind]

theorem pure_ok_iff {a r : α} : (pure a : Run α).outcome = .ok r ↔ a = r := by
  rw [outcome_pure, Except.ok.injEq]

theorem outcome_tell_bind (e : Event) (f : Unit → Run β) :
    (tell e >>= f).outcome = (f ()).outcome := rfl

end Run

variable {b : Binder} {owner : String} {f : Field} {t : TypeId}

namespace Binder

/-! ### Texts -/

theorem parse_ok_iff {d : Descriptor} {type : ValueType} {text : String} {v : Value} :
    (b.parse d type text).outcome = .ok v ↔ b.registry.parse b.table d type text = .ok v :=
  Outcome.ended_ok_iff

/-- **The contents of a field from a text**, and how many of the further texts they take. -/
inductive Reads (b : Binder) (finish : Finish) (f : Field) (text : String) (more : List String) :
    Value × Nat → Prop
  | flag {v : Value} (shape : f.shape = .flag)
      (parsed : b.registry.parse b.table f.descriptor (.single (.scalar .bool)) text = .ok v) :
      Reads b finish f text more (v, 0)
  | single {e : Element} {v : Value} (shape : f.shape = .single e)
      (read : (b.readElement finish f.descriptor e text).outcome = .ok v) :
      Reads b finish f text more (v, 0)
  | whole {c : Container} {e : Element} {v : Value} (shape : f.shape = .collection c e)
      (resolves : b.registry.canParse f.descriptor (.collection c e) = true)
      (parsed : b.registry.parse b.table f.descriptor (.collection c e) text = .ok v) :
      Reads b finish f text more (v, 0)
  | elements {c : Container} {e : Element} {vs : List Value} (shape : f.shape = .collection c e)
      (unresolved : b.registry.canParse f.descriptor (.collection c e) = false)
      (read : (b.readElements finish f.descriptor e (text :: more)).outcome = .ok vs) :
      Reads b finish f text more (c.ofElements vs, more.length)

theorem readContents_ok_iff {finish : Finish} {text : String} {more : List String}
    {r : Value × Nat} :
    (b.readContents finish owner f text more).outcome = .ok r ↔ b.Reads finish f text more r := by
  constructor
  · intro h
    unfold readContents at h
    split at h
    · obtain ⟨v, parsed, h⟩ := Run.bind_ok_iff.mp h
      obtain rfl := Run.pure_ok_iff.mp h
      exact .flag ‹_› (parse_ok_iff.mp parsed)
    · obtain ⟨v, read, h⟩ := Run.bind_ok_iff.mp h
      obtain rfl := Run.pure_ok_iff.mp h
      exact .single ‹_› read
    · split at h
      · obtain ⟨v, parsed, h⟩ := Run.bind_ok_iff.mp h
        obtain rfl := Run.pure_ok_iff.mp h
        exact .whole ‹_› ‹_› (parse_ok_iff.mp parsed)
      · obtain ⟨vs, read, h⟩ := Run.bind_ok_iff.mp h
        obtain rfl := Run.pure_ok_iff.mp h
        exact .elements ‹_› (Bool.eq_false_iff.mpr ‹_›) read
    · simp at h
    · simp at h
  · intro h
    unfold readContents
    cases h with
    | flag shape parsed =>
      simp only [shape]
      exact Run.bind_ok_iff.mpr ⟨_, parse_ok_iff.mpr parsed, rfl⟩
    | single shape read =>
      simp only [shape]
      exact Run.bind_ok_iff.mpr ⟨_, read, rfl⟩
    | whole shape resolves parsed =>
      simp only [shape, resolves, if_true]
      exact Run.bind_ok_iff.mpr ⟨_, parse_ok_iff.mpr parsed, rfl⟩
    | elements shape unresolved read =>
      simp only [shape, unresolved]
      exact Run.bind_ok_iff.mpr ⟨_, read, rfl⟩

theorem bindText_ok_iff {text : String} {rest : List String} {c : Claim} :
    (b.bindText owner f text rest).outcome = .ok c ↔
      ∃ v n, b.Reads b.finish f text (f.descriptor.capturedRun rest) (v, n) ∧ c = ⟨some v, n⟩ := by
  constructor
  · intro h
    obtain ⟨⟨v, n⟩, read, h⟩ := Run.bind_ok_iff.mp h
    exact ⟨v, n, readContents_ok_iff.mp read, (Run.pure_ok_iff.mp h).symm⟩
  · rintro ⟨v, n, read, rfl⟩
    exact Run.bind_ok_iff.mpr ⟨_, readContents_ok_iff.mpr read, rfl⟩

/-! ### Bare signatures -/

/-- **What a field takes when its bare signature selects it.** -/
inductive FlagClaim (b : Binder) (f : Field) (rest : List String) : Claim → Prop
  | switched (shape : f.shape = .flag ∨ f.shape = .single (.scalar .bool)) :
      FlagClaim b f rest ⟨some (.scalar (.bool true)), 0⟩
  | nothing {t : TypeId} {fields : List Value} (shape : f.shape = .single (.composite t))
      (built : (b.construct t rest).outcome = .ok (fields, 0))
      (optional : f.descriptor.mustBeGiven = false) :
      FlagClaim b f rest ⟨none, 0⟩
  | composite {t : TypeId} {fields : List Value} {n : Nat}
      (shape : f.shape = .single (.composite t))
      (built : (b.construct t rest).outcome = .ok (fields, n)) (taken : n ≠ 0) :
      FlagClaim b f rest ⟨some (.composite fields), n⟩
  | composites {c : Container} {t : TypeId} {elements : List Value} {n : Nat}
      (shape : f.shape = .collection c (.composite t))
      (built : (b.composites t f.signature rest).outcome = .ok (elements, n))
      (given : (elements.isEmpty && f.descriptor.mustBeGiven) = false) :
      FlagClaim b f rest ⟨some (c.ofElements elements), n⟩

theorem bindFlag_ok_iff {rest : List String} {c : Claim} :
    (b.bindFlag owner f rest).outcome = .ok c ↔ b.FlagClaim f rest c := by
  constructor
  · intro h
    rw [bindFlag] at h
    split at h
    · obtain rfl := Run.pure_ok_iff.mp h
      exact .switched (.inl ‹_›)
    · split at h
      · next bool =>
        subst bool
        obtain rfl := Run.pure_ok_iff.mp h
        exact .switched (.inr ‹_›)
      · simp at h
    · obtain ⟨⟨fields, n⟩, built, h⟩ := Run.bind_ok_iff.mp h
      dsimp only at h
      split at h
      · next zero =>
        subst zero
        split at h
        · simp at h
        · obtain rfl := Run.pure_ok_iff.mp h
          exact .nothing ‹_› built (Bool.eq_false_iff.mpr ‹_›)
      · obtain rfl := Run.pure_ok_iff.mp h
        exact .composite ‹_› built ‹_›
    · simp at h
    · obtain ⟨⟨elements, n⟩, built, h⟩ := Run.bind_ok_iff.mp h
      dsimp only at h
      split at h
      · simp at h
      · obtain ⟨_, _, h⟩ := Run.bind_ok_iff.mp h
        obtain rfl := Run.pure_ok_iff.mp h
        exact .composites ‹_› built (Bool.eq_false_iff.mpr ‹_›)
    · simp at h
    · simp at h
  · intro h
    rw [bindFlag]
    cases h with
    | switched shape => rcases shape with shape | shape <;> simp [shape]
    | nothing shape built optional =>
      simp only [shape]
      exact Run.bind_ok_iff.mpr ⟨_, built, by simp [optional]⟩
    | composite shape built taken =>
      simp only [shape]
      exact Run.bind_ok_iff.mpr ⟨_, built, by simp [taken]⟩
    | composites shape built given =>
      simp only [shape]
      refine Run.bind_ok_iff.mpr ⟨_, built, ?_⟩
      simp only [given, Bool.false_eq_true, if_false]
      exact Run.bind_ok_iff.mpr ⟨(), rfl, rfl⟩

end Binder

/-! ### Selections -/

theorem select_eq_none_iff {token : String} {pending : List Pending} :
    select token pending = none ↔ ∀ p ∈ pending, p.field.descriptor.recognise token = none := by
  induction pending with
  | nil => simp [select]
  | cons p rest ih =>
    rw [select]
    cases h : p.field.descriptor.recognise token with
    | none => simp [h, ih]
    | some form => simp [h]

/-- **A selection**: the first pending option that recognises the token; the others stay pending. -/
theorem select_eq_some_iff {token : String} {pending : List Pending} {s : Selection} :
    select token pending = some s ↔
      s.chosen.field.descriptor.recognise token = some s.form ∧
        ∃ earlier later, pending = earlier ++ s.chosen :: later ∧ s.others = earlier ++ later ∧
          ∀ p ∈ earlier, p.field.descriptor.recognise token = none := by
  induction pending generalizing s with
  | nil => simp [select]
  | cons p rest ih =>
    rw [select]
    cases h : p.field.descriptor.recognise token with
    | some form =>
      constructor
      · rintro ⟨⟩
        exact ⟨h, [], rest, rfl, rfl, by simp⟩
      · rintro ⟨recognised, earlier, later, split, others, unrecognised⟩
        cases earlier with
        | nil =>
          obtain ⟨rfl, rfl⟩ := List.cons.inj split
          rw [h, Option.some.injEq] at recognised
          cases s
          simp_all
        | cons q earlier =>
          obtain ⟨rfl, -⟩ := List.cons.inj split
          simp [h] at unrecognised
    | none =>
      simp only [Option.map_eq_some_iff]
      constructor
      · rintro ⟨s, selected, rfl⟩
        obtain ⟨recognised, earlier, later, split, others, unrecognised⟩ := ih.mp selected
        exact ⟨recognised, p :: earlier, later, by simp [split], by simp [others],
          by simpa [h] using unrecognised⟩
      · rintro ⟨recognised, earlier, later, split, others, unrecognised⟩
        cases earlier with
        | nil =>
          obtain ⟨rfl, -⟩ := List.cons.inj split
          simp [h] at recognised
        | cons q earlier =>
          obtain ⟨rfl, rfl⟩ := List.cons.inj split
          refine ⟨{ s with others := earlier ++ later }, ?_, ?_⟩
          · exact ih.mpr ⟨recognised, earlier, later, rfl, rfl, fun p hp =>
              unrecognised p (by simp [hp])⟩
          · cases s
            simp_all

theorem chosen_mem_of_select {token : String} {pending : List Pending} {s : Selection}
    (h : select token pending = some s) : s.chosen ∈ pending := by
  obtain ⟨-, earlier, later, rfl, -, -⟩ := select_eq_some_iff.mp h
  simp

theorem mem_of_mem_others {token : String} {pending : List Pending} {s : Selection} {p : Pending}
    (h : select token pending = some s) (mem : p ∈ s.others) : p ∈ pending := by
  obtain ⟨-, earlier, later, rfl, others, -⟩ := select_eq_some_iff.mp h
  rw [others, List.mem_append] at mem
  simp only [List.mem_append, List.mem_cons]
  exact mem.imp_right .inr

/-! ### Scans -/

/-- The segment that a claim of the field at a place makes. -/
def Claim.segment (c : Claim) (index : Nat) : Segment := ⟨index, c.extra + 1, c.update⟩

theorem Claim.totalWidth_segment_cons (c : Claim) (index : Nat) (segments : List Segment) :
    Segment.totalWidth (c.segment index :: segments) =
      c.extra + Segment.totalWidth segments + 1 := by
  rw [Segment.totalWidth_cons, segment]
  exact Nat.add_right_comm _ _ _

namespace Binder

/-- What the field that a token selects takes; `rest` are the tokens after it. -/
def claim (b : Binder) (owner : String) (s : Selection) (rest : List String) : Run Claim :=
  match s.form with
  | .exact => b.bindFlag owner s.chosen.field rest
  | .delimited text => b.bindText owner s.chosen.field text rest

variable {pending : List Pending} {token : String} {tokens rest : List String} {s : Selection}

theorem claim_exact_iff {c : Claim} (form : s.form = .exact) :
    (b.claim owner s rest).outcome = .ok c ↔ b.FlagClaim s.chosen.field rest c := by
  rw [claim, form]
  exact bindFlag_ok_iff

theorem claim_delimited_iff {c : Claim} {text : String} (form : s.form = .delimited text) :
    (b.claim owner s rest).outcome = .ok c ↔ ∃ v n,
      b.Reads b.finish s.chosen.field text (s.chosen.field.descriptor.capturedRun rest) (v, n) ∧
        c = ⟨some v, n⟩ := by
  rw [claim, form]
  exact bindText_ok_iff

theorem scan_nil : b.scan owner pending [] = ⟨[], .ok (), []⟩ := by rw [scan]

theorem scan_cons_none (h : select token pending = none) :
    b.scan owner pending (token :: rest) = ⟨[], .ok (), [.scopeLeft token owner]⟩ := by
  rw [scan]
  simp only [h]

theorem scan_cons_some (h : select token pending = some s) :
    b.scan owner pending (token :: rest) =
      match (b.claim owner s rest).outcome with
      | .error e => ⟨[], .error e, (b.claim owner s rest).events⟩
      | .ok c =>
        (b.scan owner s.others (rest.drop c.extra)).after (c.segment s.chosen.index)
          ((b.claim owner s rest).events ++
            [.optionBound s.chosen.field.signature owner (c.extra + 1)]) := by
  rw [scan]
  simp only [h]
  rfl

theorem scan_cons_error {e : NoResult BindError} (h : select token pending = some s)
    (failed : (b.claim owner s rest).outcome = .error e) :
    b.scan owner pending (token :: rest) = ⟨[], .error e, (b.claim owner s rest).events⟩ := by
  rw [scan_cons_some h, failed]

theorem scan_cons_ok {c : Claim} (h : select token pending = some s)
    (claimed : (b.claim owner s rest).outcome = .ok c) :
    b.scan owner pending (token :: rest) =
      (b.scan owner s.others (rest.drop c.extra)).after (c.segment s.chosen.index)
        ((b.claim owner s rest).events ++
          [.optionBound s.chosen.field.signature owner (c.extra + 1)]) := by
  rw [scan_cons_some h, claimed]

/-- Induction along a scan: it ends, it fails, or it goes on after a claim. -/
theorem scan_induction (b : Binder) (owner : String)
    {motive : List Pending → List String → Prop} (nil : ∀ pending, motive pending [])
    (unclaimed : ∀ pending token rest, select token pending = none → motive pending (token :: rest))
    (failed : ∀ pending token rest s e, select token pending = some s →
      (b.claim owner s rest).outcome = .error e → motive pending (token :: rest))
    (claimed : ∀ pending token rest s c, select token pending = some s →
      (b.claim owner s rest).outcome = .ok c → motive s.others (rest.drop c.extra) →
      motive pending (token :: rest))
    (pending : List Pending) (tokens : List String) : motive pending tokens := by
  induction len : tokens.length using Nat.strongRecOn generalizing tokens pending with
  | ind n ih =>
  cases tokens with
  | nil => exact nil pending
  | cons token rest =>
    cases selected : select token pending with
    | none => exact unclaimed pending token rest selected
    | some s =>
      cases outcome : (b.claim owner s rest).outcome with
      | error e => exact failed pending token rest s e selected outcome
      | ok c =>
        refine claimed pending token rest s c selected outcome (ih _ ?_ s.others _ rfl)
        simp only [List.length_cons, List.length_drop] at len ⊢
        omega

/-- **A scan that comes to its end**, and the segments it finds. -/
inductive Finds (b : Binder) (owner : String) : List Pending → List String → List Segment → Prop
  | stop {pending : List Pending} {tokens : List String}
      (unclaimed : ∀ token ∈ tokens.head?, select token pending = none) :
      Finds b owner pending tokens []
  | take {pending : List Pending} {token : String} {rest : List String} {s : Selection} {c : Claim}
      {segments : List Segment} (selected : select token pending = some s)
      (claimed : (b.claim owner s rest).outcome = .ok c)
      (others : Finds b owner s.others (rest.drop c.extra) segments) :
      Finds b owner pending (token :: rest) (c.segment s.chosen.index :: segments)

theorem scan_ok_iff {segments : List Segment} :
    (b.scan owner pending tokens).outcome = .ok () ∧
        (b.scan owner pending tokens).segments = segments ↔
      b.Finds owner pending tokens segments := by
  constructor
  · rintro ⟨ended, rfl⟩
    induction pending, tokens using b.scan_induction owner with
    | nil pending =>
      rw [scan_nil]
      exact .stop (by simp)
    | unclaimed pending token rest unclaimed =>
      rw [scan_cons_none unclaimed]
      exact .stop (by simpa using unclaimed)
    | failed pending token rest s e selected failed =>
      simp [scan_cons_error selected failed] at ended
    | claimed pending token rest s c selected claimed ih =>
      rw [scan_cons_ok selected claimed] at ended ⊢
      exact .take selected claimed (ih ended)
  · intro h
    induction h with
    | @stop pending tokens unclaimed =>
      cases tokens with
      | nil => simp [scan_nil]
      | cons token rest => simp [scan_cons_none (unclaimed token rfl)]
    | take selected claimed others ih =>
      rw [scan_cons_ok selected claimed]
      exact ⟨ih.1, congrArg _ ih.2⟩

/-- **The claims of a scan**, whether it comes to its end or not: the selection `s`, followed by the
tokens `rest`, takes what `c` says. -/
inductive Takes (b : Binder) (owner : String) :
    List Pending → List String → Selection → List String → Claim → Prop
  | here {pending : List Pending} {token : String} {rest : List String} {s : Selection} {c : Claim}
      (selected : select token pending = some s)
      (claimed : (b.claim owner s rest).outcome = .ok c) :
      Takes b owner pending (token :: rest) s rest c
  | later {pending : List Pending} {token : String} {rest rest' : List String} {s s' : Selection}
      {c c' : Claim} (selected : select token pending = some s)
      (claimed : (b.claim owner s rest).outcome = .ok c)
      (taken : Takes b owner s.others (rest.drop c.extra) s' rest' c') :
      Takes b owner pending (token :: rest) s' rest' c'

theorem takes_of_mem {segment : Segment} (h : segment ∈ (b.scan owner pending tokens).segments) :
    ∃ s rest c, b.Takes owner pending tokens s rest c ∧ segment = c.segment s.chosen.index := by
  induction pending, tokens using b.scan_induction owner with
  | nil pending => simp [scan_nil] at h
  | unclaimed pending token rest unclaimed => simp [scan_cons_none unclaimed] at h
  | failed pending token rest s e selected failed => simp [scan_cons_error selected failed] at h
  | claimed pending token rest s c selected claimed ih =>
    rw [scan_cons_ok selected claimed] at h
    rcases List.mem_cons.mp h with rfl | h
    · exact ⟨s, rest, c, .here selected claimed, rfl⟩
    · obtain ⟨s', rest', c', taken, rfl⟩ := ih h
      exact ⟨s', rest', c', .later selected claimed taken, rfl⟩

namespace Takes

variable {c : Claim}

theorem claimed (h : b.Takes owner pending tokens s rest c) :
    (b.claim owner s rest).outcome = .ok c := by
  induction h with
  | here _ claimed => exact claimed
  | later _ _ _ ih => exact ih

theorem chosen_mem (h : b.Takes owner pending tokens s rest c) : s.chosen ∈ pending := by
  induction h with
  | here selected claimed => exact chosen_mem_of_select selected
  | later selected claimed taken ih => exact mem_of_mem_others selected ih

theorem length_lt (h : b.Takes owner pending tokens s rest c) : rest.length < tokens.length := by
  induction h with
  | here selected claimed => simp
  | later selected claimed taken ih =>
    simp only [List.length_drop, List.length_cons] at ih ⊢
    omega

end Takes

end Binder

theorem TypeTable.pending_getElem? {table : TypeTable} (i : Nat) :
    (table.pending t)[i]? = (table.fields t)[i]?.map fun f => ⟨i, f⟩ := by
  simp [pending]

theorem TypeTable.field_mem {table : TypeTable} {p : Pending} (mem : p ∈ table.pending t) :
    p.field ∈ table.fields t := by
  obtain ⟨i, bound, rfl⟩ := List.mem_mapIdx.mp mem
  exact List.getElem_mem bound

theorem TypeTable.mem_pending {table : TypeTable} {p : Pending} :
    p ∈ table.pending t ↔ (table.fields t)[p.index]? = some p.field := by
  simp only [pending, List.mem_mapIdx, List.getElem?_eq_some_iff]
  constructor
  · rintro ⟨i, at', rfl⟩
    exact ⟨at', rfl⟩
  · rintro ⟨at', same⟩
    exact ⟨p.index, at', by rw [same]⟩

namespace Binder

/-! ### Composites -/

/-- The fields of a type have passed their check, or pass it. -/
def Accepts (b : Binder) (t : TypeId) : Prop := t ∈ b.checked ∨ b.table.fault? t = none

theorem schema_ok_iff : (b.schema t).outcome = .ok () ↔ b.Accepts t := by
  unfold schema Accepts
  split
  · simp [*]
  · split <;> simp [*]

/-- The scan of tokens for the options of a type. -/
abbrev scanFor (b : Binder) (t : TypeId) (tokens : List String) : Scan :=
  b.scan (b.table.recordName t) (b.table.pending t) tokens

/-- A scan for the options of a type that comes to its end. -/
abbrev FindsFor (b : Binder) (t : TypeId) (tokens : List String) (segments : List Segment) : Prop :=
  b.Finds (b.table.recordName t) (b.table.pending t) tokens segments

theorem bindFields_fields (accepted : b.Accepts t) (fields : List Value) :
    (b.bindFields t fields tokens).fields =
      Segment.applyAll fields (b.scanFor t tokens).segments := by
  rw [bindFields]
  simp only [schema_ok_iff.mpr accepted]

theorem bindFields_fields_of_not (rejected : ¬ b.Accepts t) (fields : List Value) :
    (b.bindFields t fields tokens).fields = fields := by
  rw [bindFields]
  cases h : (b.schema t).outcome with
  | error e => simp only
  | ok u => exact absurd (schema_ok_iff.mp h) rejected

theorem bindFields_ok_iff {fields : List Value} {n : Nat} :
    (b.bindFields t fields tokens).run.outcome = .ok n ↔
      b.Accepts t ∧ ∃ segments, b.FindsFor t tokens segments ∧ Segment.totalWidth segments = n := by
  rw [bindFields]
  cases h : (b.schema t).outcome with
  | error e =>
    have rejected : ¬ b.Accepts t := fun a => by simp [schema_ok_iff.mpr a] at h
    simp [rejected]
  | ok u =>
    have accepted : b.Accepts t := schema_ok_iff.mp h
    simp only [accepted, true_and]
    cases ended : (b.scanFor t tokens).outcome with
    | error e =>
      have : ∀ segments, ¬ b.FindsFor t tokens segments := fun segments found => by
        simp [(scan_ok_iff.mpr found).1] at ended
      simp [this, Except.map]
    | ok u =>
      simp only [Except.map, Except.ok.injEq]
      constructor
      · rintro rfl
        exact ⟨_, scan_ok_iff.mp ⟨ended, rfl⟩, rfl⟩
      · rintro ⟨segments, found, rfl⟩
        rw [(scan_ok_iff.mpr found).2]

theorem Finds.segments_eq {segments : List Segment} (h : b.Finds owner pending tokens segments) :
    (b.scan owner pending tokens).segments = segments := (scan_ok_iff.mpr h).2

theorem Finds.eq_nil_of_width {segments : List Segment} (h : b.Finds owner pending tokens segments)
    (none : Segment.totalWidth segments = 0) : segments = [] := by
  cases h with
  | stop => rfl
  | take => simp [Claim.segment] at none

/-- **A composite bound from the front of tokens**, and how many it takes. -/
inductive Constructs (b : Binder) (t : TypeId) (tokens : List String) : List Value × Nat → Prop
  | nothing (accepted : b.Accepts t) (found : b.FindsFor t tokens []) :
      Constructs b t tokens (b.table.fresh t, 0)
  | completed {segments : List Segment} {fields : List Value} (accepted : b.Accepts t)
      (found : b.FindsFor t tokens segments) (taken : Segment.totalWidth segments ≠ 0)
      (finished : (b.finish t (Segment.applyAll (b.table.fresh t) segments)).outcome = .ok fields) :
      Constructs b t tokens (fields, Segment.totalWidth segments)

theorem construct_ok_iff {r : List Value × Nat} :
    (b.construct t tokens).outcome = .ok r ↔ b.Constructs t tokens r := by
  rw [construct]
  constructor
  · intro h
    obtain ⟨n, bound, h⟩ := Run.bind_ok_iff.mp h
    obtain ⟨accepted, segments, found, rfl⟩ := bindFields_ok_iff.mp bound
    rw [bindFields_fields accepted, found.segments_eq] at h
    split at h
    · next none =>
      obtain rfl := found.eq_nil_of_width none
      obtain rfl := Run.pure_ok_iff.mp h
      exact .nothing accepted found
    · obtain ⟨fields, finished, h⟩ := Run.bind_ok_iff.mp h
      obtain rfl := Run.pure_ok_iff.mp h
      exact .completed accepted found ‹_› finished
  · intro h
    cases h with
    | nothing accepted found =>
      refine Run.bind_ok_iff.mpr ⟨0, bindFields_ok_iff.mpr ⟨accepted, [], found, rfl⟩, ?_⟩
      rw [bindFields_fields accepted, found.segments_eq]
      rfl
    | completed accepted found taken finished =>
      refine Run.bind_ok_iff.mpr ⟨_, bindFields_ok_iff.mpr ⟨accepted, _, found, rfl⟩, ?_⟩
      rw [bindFields_fields accepted, found.segments_eq, if_neg taken]
      exact Run.bind_ok_iff.mpr ⟨_, finished, rfl⟩

/-- **The composites of a repeatable option from the front of tokens**, and how many tokens they
take. -/
inductive Repeats (b : Binder) (t : TypeId) (signature : String) :
    List String → List Value × Nat → Prop
  | nothing {tokens : List String} {fields : List Value}
      (built : (b.construct t tokens).outcome = .ok (fields, 0)) :
      Repeats b t signature tokens ([], 0)
  | last {tokens : List String} {fields : List Value} {n : Nat}
      (built : (b.construct t tokens).outcome = .ok (fields, n)) (taken : n ≠ 0)
      (ended : ∀ next ∈ (tokens.drop n).head?, Text.trim next ≠ signature) :
      Repeats b t signature tokens ([.composite fields], n)
  | next {tokens more : List String} {fields elements : List Value} {restated : String} {n k : Nat}
      (built : (b.construct t tokens).outcome = .ok (fields, n)) (taken : n ≠ 0)
      (after : tokens.drop n = restated :: more) (again : Text.trim restated = signature)
      (others : Repeats b t signature more (elements, k)) :
      Repeats b t signature tokens (.composite fields :: elements, n + 1 + k)

theorem composites_ok_iff {signature : String} {r : List Value × Nat} :
    (b.composites t signature tokens).outcome = .ok r ↔ b.Repeats t signature tokens r := by
  constructor
  · intro h
    induction len : tokens.length using Nat.strongRecOn generalizing tokens r with
    | ind n ih =>
    rw [composites] at h
    obtain ⟨⟨fields, n⟩, built, h⟩ := Run.bind_ok_iff.mp h
    dsimp only at h
    split at h
    · next none =>
      subst none
      obtain rfl := Run.pure_ok_iff.mp h
      exact .nothing built
    · next taken =>
      split at h
      · next after =>
        obtain rfl := Run.pure_ok_iff.mp h
        exact .last built taken (by simp [after])
      · next next more after =>
        split at h
        · next again =>
          obtain ⟨⟨elements, k⟩, others, h⟩ := Run.bind_ok_iff.mp h
          obtain rfl := Run.pure_ok_iff.mp h
          have shorter := congrArg List.length after
          simp only [List.length_drop, List.length_cons] at shorter
          exact .next built taken after again (ih _ (by omega) others rfl)
        · obtain rfl := Run.pure_ok_iff.mp h
          exact .last built taken (by simpa [after] using ‹_›)
  · intro h
    induction h with
    | nothing built =>
      rw [composites]
      exact Run.bind_ok_iff.mpr ⟨_, built, rfl⟩
    | last built taken ended =>
      rw [composites]
      refine Run.bind_ok_iff.mpr ⟨_, built, ?_⟩
      simp only [taken, if_false]
      split
      · rfl
      · next next more after => simp [ended next (by simp [after])]
    | next built taken after again others ih =>
      rw [composites]
      refine Run.bind_ok_iff.mpr ⟨_, built, ?_⟩
      simp only [taken, if_false]
      split
      · next none => simp [none] at after
      · next next more' after' =>
        obtain ⟨rfl, rfl⟩ := List.cons.inj (after'.symm.trans after)
        simp only [again, if_true]
        exact Run.bind_ok_iff.mpr ⟨_, ih, rfl⟩

/-! ### Calls -/

/-- **A configuration bound from the front of tokens and completed**, and how many it takes. -/
inductive Binds (b : Binder) (t : TypeId) (fields : List Value) (tokens : List String) :
    List Value × Nat → Prop
  | intro {segments : List Segment} (accepted : b.Accepts t) (found : b.FindsFor t tokens segments)
      (completed : (b.complete t (Segment.applyAll fields segments)).run.outcome = .ok ()) :
      Binds b t fields tokens
        ((b.complete t (Segment.applyAll fields segments)).fields, Segment.totalWidth segments)

theorem bindAndComplete_ok_iff {fields : List Value} {r : List Value × Nat} :
    ((b.bindAndComplete t fields tokens).run.outcome = .ok r.2 ∧
        (b.bindAndComplete t fields tokens).fields = r.1) ↔ b.Binds t fields tokens r := by
  unfold bindAndComplete
  dsimp only
  constructor
  · rintro ⟨ended, same⟩
    cases bound : (b.bindFields t fields tokens).run.outcome with
    | error e => simp [bound] at ended
    | ok n =>
      obtain ⟨accepted, segments, found, rfl⟩ := bindFields_ok_iff.mp bound
      simp only [bound, bindFields_fields accepted, found.segments_eq] at ended same
      cases completed : (b.complete t (Segment.applyAll fields segments)).run.outcome with
      | error e => simp [completed, Except.map] at ended
      | ok u =>
        simp only [completed, Except.map, Except.ok.injEq] at ended
        obtain rfl : (_, Segment.totalWidth segments) = r := Prod.ext same ended
        exact .intro accepted found completed
  · rintro ⟨accepted, found, completed⟩
    rw [bindFields_ok_iff.mpr ⟨accepted, _, found, rfl⟩, bindFields_fields accepted,
      found.segments_eq]
    simp [completed, Except.map]

theorem binds_iff {fields r : List Value} {n : Nat} :
    b.Binds t fields tokens (r, n) ↔ b.Accepts t ∧ ∃ segments, b.FindsFor t tokens segments ∧
      Segment.totalWidth segments = n ∧
      (b.complete t (Segment.applyAll fields segments)).run.outcome = .ok () ∧
        (b.complete t (Segment.applyAll fields segments)).fields = r := by
  constructor
  · rintro ⟨accepted, found, completed⟩
    exact ⟨accepted, _, found, rfl, completed, rfl⟩
  · rintro ⟨accepted, segments, found, rfl, completed, rfl⟩
    exact .intro accepted found completed

theorem bind_ok_iff (args : List String) (start : Nat) {r : List Value × Nat} :
    ((b.bind t args start).outcome = .ok r.2 ∧ (b.bind t args start).fields = r.1) ↔
      b.Binds t (b.table.fresh t) (args.drop start) r :=
  bindAndComplete_ok_iff

end Binder

end OptionBinding
