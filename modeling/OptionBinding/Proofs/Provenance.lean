import Mathlib.Logic.Relation
import OptionBinding.Proofs.Filling
import OptionBinding.Proofs.Typing

/-!
# Where the composites of a configuration come from

A configuration is a graph of composites that hold composites in their fields (`Composite.Holds`).
Binding stores a composite in one of two ways: it has been completed before (`Composite.Completed`),
or a parser made it as it stands, as an element of a whole collection or inside another composite
(`Composite.Made`).

A composite is *sound* if this is so of every composite in its graph, itself included
(`Composite.Sound`). Completing keeps the fields of a composite sound and makes the composite itself
sound (`complete_sound`); so does reading a text (`Reads.sound`), and what a bare flag makes has
been completed, by induction on the number of tokens (`completedBelow`). It follows that what
binding leaves in the fields of a composite is sound, however it ends (`bindAndComplete_sound`).
-/

namespace OptionBinding

/-- A composite: its type and the contents of its fields. -/
structure Composite where
  type : TypeId
  fields : List Value

/-- A parser for the whole collection makes nothing of the field's default. -/
def Binder.DefaultsToNothing (b : Binder) (f : Field) : Prop :=
  ∃ c e text v, f.shape = .collection c e ∧ f.descriptor.defaultText = some text ∧
    b.registry.canParse f.descriptor (.collection c e) = true ∧
    b.registry.parse b.table f.descriptor (.collection c e) text = .ok v ∧ v.isEmpty = true

namespace Composite

/-- The composite `x` has the composite `y` in one of its fields, as its value or as an element. -/
def Holds (table : TypeTable) (x y : Composite) : Prop :=
  ∃ (i : Nat) (f : Field) (v : Value), (table.fields x.type)[i]? = some f ∧
    x.fields[i]? = some v ∧ f.shape.element = .composite y.type ∧ y.fields ∈ v.composites

/-- **No field that is required or has a default is empty.** -/
def Settled (table : TypeTable) (x : Composite) : Prop :=
  ∀ (i : Nat) (f : Field), (table.fields x.type)[i]? = some f →
    f.descriptor.required = true ∨ f.descriptor.defaultText.isSome = true →
      (Value.fieldAt x.fields i).isEmpty = false

/-- No field that is required or has a default is empty, unless its default is an empty
collection. -/
def Filled (b : Binder) (x : Composite) : Prop :=
  ∀ (i : Nat) (f : Field), (b.table.fields x.type)[i]? = some f →
    f.descriptor.required = true ∨ f.descriptor.defaultText.isSome = true →
      (Value.fieldAt x.fields i).isEmpty = false ∨ b.DefaultsToNothing f

/-- **Composites that have been completed**: a pass over their fields made them, and filled them. -/
structure Completed (b : Binder) (x : Composite) : Prop where
  filled : x.Filled b
  pass : ∃ (depth : Nat) (before : List Value),
    before.length = (b.table.fields x.type).length ∧
      (b.completeWithin depth x.type before).run.outcome = .ok () ∧
      (b.completeWithin depth x.type before).fields = x.fields

/-- **Composites as parsers made them**: the elements of whole collections, and what is held by
these or by a composite that was made of a text. -/
inductive Made (b : Binder) : Composite → Prop
  | element {d : Descriptor} {c : Container} {u : TypeId} {text : String} {v : Value}
      {us : List Value}
      (parsed : b.registry.parse b.table d (.collection c (.composite u)) text = .ok v)
      (mem : us ∈ v.composites) : Made b ⟨u, us⟩
  | inside {d : Descriptor} {u : TypeId} {text : String} {us : List Value} {y : Composite}
      (parsed : b.registry.parse b.table d (.single (.composite u)) text = .ok (.composite us))
      (held : Holds b.table ⟨u, us⟩ y) : Made b y
  | deeper {x y : Composite} (made : Made b x) (held : Holds b.table x y) : Made b y

/-- Every composite in the graph has been completed, or a parser made it. -/
def Sound (b : Binder) (x : Composite) : Prop :=
  ∀ y, Relation.ReflTransGen (Holds b.table) x y → y.Completed b ∨ y.Made b

end Composite

/-- The composites that a value is or has as elements are sound. -/
def Value.SoundAs (b : Binder) (e : Element) (v : Value) : Prop :=
  ∀ u, e = .composite u → ∀ us ∈ v.composites, Composite.Sound b ⟨u, us⟩

/-- The fields of a composite are all there, and what they hold is sound. -/
structure Composite.Kept (b : Binder) (x : Composite) : Prop where
  length_eq : x.fields.length = (b.table.fields x.type).length
  sound : ∀ (i : Nat) (f : Field) (v : Value), (b.table.fields x.type)[i]? = some f →
    x.fields[i]? = some v → v.SoundAs b f.shape.element

/-- The composites that a value is or has as elements have been completed. -/
def Value.CompletedAs (b : Binder) (e : Element) (v : Value) : Prop :=
  ∀ u, e = .composite u → ∀ us ∈ v.composites,
    Composite.Kept b ⟨u, us⟩ ∧ Composite.Completed b ⟨u, us⟩

namespace Composite

variable {b : Binder} {x y : Composite}

theorem Made.sound (h : x.Made b) : x.Sound b := by
  intro y reaches
  refine .inr ?_
  induction reaches with
  | refl => exact h
  | tail _ held ih => exact ih.deeper held

theorem Kept.sound_of_completed (h : x.Kept b) (completed : x.Completed b) : x.Sound b := by
  intro y reaches
  rcases Relation.ReflTransGen.cases_head reaches with rfl | ⟨z, held, reaches⟩
  · exact .inl completed
  · obtain ⟨i, f, v, field, at', element, mem⟩ := held
    exact h.sound i f v field at' _ element _ mem y reaches

theorem Kept.sound_below (h : x.Kept b) (below : Relation.TransGen (Holds b.table) x y) :
    y.Completed b ∨ y.Made b := by
  obtain ⟨z, ⟨i, f, v, field, at', element, mem⟩, reaches⟩ := Relation.TransGen.head'_iff.mp below
  exact h.sound i f v field at' _ element _ mem y reaches

/-- Nothing is held by a composite that nothing has been bound to. -/
theorem kept_fresh (b : Binder) (t : TypeId) : Kept b ⟨t, b.table.fresh t⟩ where
  length_eq := by simp [TypeTable.fresh]
  sound := by
    intro i f v field at' u element us mem
    simp only [TypeTable.fresh, List.getElem?_map, field, Option.map_some, Option.some.injEq] at at'
    subst at'
    cases shape : f.shape <;> simp [shape, FieldShape.fresh, Value.composites] at mem

end Composite

theorem Value.CompletedAs.sound {b : Binder} {e : Element} {v : Value} (h : v.CompletedAs b e) :
    v.SoundAs b e := by
  intro u element us mem
  obtain ⟨kept, completed⟩ := h u element us mem
  exact kept.sound_of_completed completed

/-- The elements of a container are completed if what was added is. -/
theorem Container.ofElements_completed {b : Binder} {c : Container} {e : Element}
    {elements : List Value} (h : ∀ v ∈ elements, v.CompletedAs b e) :
    (c.ofElements elements).CompletedAs b e := by
  intro u element us mem
  exact h _ (mem_ofElements_composites mem) u element us (by simp)

namespace Binder

variable {b : Binder} {owner : String} {f : Field} {t : TypeId} {tokens rest : List String}

/-! ### Texts -/

/-- A way to complete composites that makes them sound. -/
def FinishSound (b : Binder) (finish : Finish) : Prop :=
  ∀ (t : TypeId) (fields fields' : List Value), Composite.Kept b ⟨t, fields⟩ →
    (finish t fields).outcome = .ok fields' →
      Composite.Kept b ⟨t, fields'⟩ ∧ Composite.Completed b ⟨t, fields'⟩

section Reading

variable {finish : Finish} (typed : b.registry.Typed b.table) (finishes : b.FinishSound finish)
include typed finishes

theorem readElement_completed {d : Descriptor} {e : Element} {text : String} {v : Value}
    (h : (b.readElement finish d e text).outcome = .ok v) :
    v.Fits b.table e ∧ v.CompletedAs b e := by
  obtain ⟨v₀, parsed, h⟩ := Run.bind_ok_iff.mp h
  have parsed : b.registry.parse b.table d (.single e) text = .ok v₀ := parse_ok_iff.mp parsed
  have fits : v₀.Fits b.table e := typed.parse parsed
  cases e with
  | scalar type =>
    obtain ⟨s, rfl⟩ := fits
    obtain rfl := Run.pure_ok_iff.mp h
    exact ⟨⟨s, rfl⟩, by simp [Value.CompletedAs]⟩
  | composite u =>
    obtain ⟨us, rfl, len⟩ := fits
    obtain ⟨us', finished, h⟩ := Run.bind_ok_iff.mp h
    obtain rfl := Run.pure_ok_iff.mp h
    have kept : Composite.Kept b ⟨u, us⟩ := by
      refine ⟨len, fun i f v field at' w element ws mem => Composite.Made.sound ?_⟩
      exact .inside parsed ⟨i, f, v, field, at', element, mem⟩
    obtain ⟨kept', completed⟩ := finishes u us us' kept finished
    refine ⟨⟨us', rfl, kept'.length_eq⟩, ?_⟩
    rintro w ⟨rfl⟩ ws mem
    obtain rfl : ws = us' := by simpa using mem
    exact ⟨kept', completed⟩

theorem readElements_completed {d : Descriptor} {e : Element} {texts : List String}
    {vs : List Value} (h : (b.readElements finish d e texts).outcome = .ok vs) :
    vs.length = texts.length ∧ ∀ v ∈ vs, v.CompletedAs b e := by
  induction texts generalizing vs with
  | nil =>
    obtain rfl := Run.pure_ok_iff.mp h
    exact ⟨rfl, by simp⟩
  | cons text texts ih =>
    obtain ⟨v, first, h⟩ := Run.bind_ok_iff.mp h
    obtain ⟨vs', others, h⟩ := Run.bind_ok_iff.mp h
    obtain rfl := Run.pure_ok_iff.mp h
    obtain ⟨len, completed⟩ := ih others
    refine ⟨by simp [len], fun w mem => ?_⟩
    rcases List.mem_cons.mp mem with rfl | mem
    · exact (readElement_completed typed finishes first).2
    · exact completed w mem

/-- **Contents from a text.** They are not empty and their composites have been completed, or they
are a whole collection as its parser made it. -/
theorem Reads.completed {text : String} {more : List String} {v : Value} {n : Nat}
    (h : b.Reads finish f text more (v, n)) :
    (v.isEmpty = false ∧ v.CompletedAs b f.shape.element) ∨
      ∃ c e, f.shape = .collection c e ∧
        b.registry.canParse f.descriptor (.collection c e) = true ∧
        b.registry.parse b.table f.descriptor (.collection c e) text = .ok v := by
  cases h with
  | flag shape parsed =>
    obtain ⟨s, rfl⟩ : v.Fits b.table (.scalar .bool) := typed.parse parsed
    exact .inl ⟨rfl, by simp [Value.CompletedAs]⟩
  | single shape read =>
    obtain ⟨fits, completed⟩ := readElement_completed typed finishes read
    rw [shape]
    exact .inl ⟨fits.not_empty, completed⟩
  | whole shape resolves parsed => exact .inr ⟨_, _, shape, resolves, parsed⟩
  | elements shape unresolved read =>
    obtain ⟨len, completed⟩ := readElements_completed typed finishes read
    rw [shape]
    exact .inl ⟨Container.ofElements_not_empty (by rintro rfl; simp at len),
      Container.ofElements_completed completed⟩

theorem Reads.sound {text : String} {more : List String} {v : Value} {n : Nat}
    (h : b.Reads finish f text more (v, n)) : v.SoundAs b f.shape.element := by
  rcases h.completed typed finishes with ⟨-, completed⟩ | ⟨c, e, shape, -, parsed⟩
  · exact completed.sound
  · rintro u element us mem
    rw [shape] at element
    obtain rfl : e = .composite u := element
    exact (Composite.Made.element parsed mem).sound

end Reading

/-! ### Completing -/

section Completing

variable {fields : List Value}

/-- If the composites that come from defaults are completed, a pass keeps what is sound, and leaves
no field that it has to fill empty if it succeeds. -/
theorem completeWith_sound {finish : Finish} (typed : b.registry.Typed b.table)
    (finishes : b.FinishSound finish)
    (kept : Composite.Kept b ⟨t, fields⟩) :
    Composite.Kept b ⟨t, (b.completeWith finish t fields).fields⟩ ∧
      ((b.completeWith finish t fields).run.outcome = .ok () →
        Composite.Filled b ⟨t, (b.completeWith finish t fields).fields⟩) := by
  by_cases accepted : b.Accepts t
  · have fills := completeWith_fills finish accepted fields
    refine ⟨⟨fills.length_eq.trans kept.length_eq, ?_⟩, ?_⟩
    · intro i f v' field at'
      rcases fills.getElem? at' with before | ⟨g, v, field', before, filled⟩
      · exact kept.sound i f v' field before
      · obtain rfl : f = g := Option.some.inj (field.symm.trans field')
        cases filled with
        | given | left => exact kept.sound i f v' field before
        | made empty default made =>
          obtain ⟨n, read⟩ := valueOf_ok_iff.mp made
          exact read.sound typed finishes
    · intro ended i f field settles
      rw [ended] at fills
      obtain ⟨v, before⟩ : ∃ v, fields[i]? = some v := by
        have bound : i < (b.table.fields t).length := (List.getElem?_eq_some_iff.mp field).1
        exact ⟨_, List.getElem?_eq_getElem (by rw [kept.length_eq]; exact bound)⟩
      obtain ⟨v', at', filled⟩ := fills.filledAs field before
      simp only [Value.fieldAt, at', Option.getD_some]
      cases filled with
      | given given => exact .inl given
      | made empty default made =>
        obtain ⟨n, read⟩ := valueOf_ok_iff.mp made
        rcases read.completed typed finishes with ⟨given, -⟩ | ⟨c, e, shape, resolves, parsed⟩
        · exact .inl given
        · cases none : v'.isEmpty with
          | false => exact .inl rfl
          | true => exact .inr ⟨c, e, _, v', shape, default, resolves, parsed, none⟩
      | left empty undefaulted optional => simp [undefaulted, optional] at settles
  · obtain ⟨same, fails⟩ := completeWith_of_not finish accepted fields
    rw [same]
    exact ⟨kept, fun ended => absurd ended fails⟩

/-- Nothing comes of what never ends. -/
theorem finishSound_endless : b.FinishSound fun _ _ => .endless :=
  fun _ _ _ _ ended => by simp at ended

theorem finishSound_whole {pass : TypeId → List Value → Pass Unit}
    (sound : ∀ {t : TypeId} {fields : List Value}, Composite.Kept b ⟨t, fields⟩ →
      Composite.Kept b ⟨t, (pass t fields).fields⟩ ∧
        ((pass t fields).run.outcome = .ok () →
          Composite.Completed b ⟨t, (pass t fields).fields⟩)) :
    b.FinishSound fun t fields => (pass t fields).whole := by
  intro t fields fields' kept finished
  obtain ⟨kept', completed⟩ := sound kept
  simp only [Pass.whole] at finished
  cases ended : (pass t fields).run.outcome with
  | error e => simp [ended, Except.map] at finished
  | ok u =>
    obtain rfl : _ = fields' := by simpa [ended, Except.map] using finished
    exact ⟨kept', completed ended⟩

theorem completeWithin_sound (typed : b.registry.Typed b.table) (depth : Nat)
    (kept : Composite.Kept b ⟨t, fields⟩) :
    Composite.Kept b ⟨t, (b.completeWithin depth t fields).fields⟩ ∧
      ((b.completeWithin depth t fields).run.outcome = .ok () →
        Composite.Completed b ⟨t, (b.completeWithin depth t fields).fields⟩) := by
  induction depth generalizing t fields with
  | zero =>
    obtain ⟨kept', filled⟩ := completeWith_sound typed finishSound_endless kept
    exact ⟨kept', fun ended => ⟨filled ended, 0, fields, kept.length_eq, ended, rfl⟩⟩
  | succ depth ih =>
    obtain ⟨kept', filled⟩ := completeWith_sound typed (finishSound_whole ih) kept
    exact ⟨kept', fun ended => ⟨filled ended, depth + 1, fields, kept.length_eq, ended, rfl⟩⟩

/-- **Completing** keeps what is sound, however it ends, and if it succeeds the composite has been
completed. -/
theorem complete_sound (typed : b.registry.Typed b.table) (kept : Composite.Kept b ⟨t, fields⟩) :
    Composite.Kept b ⟨t, (b.complete t fields).fields⟩ ∧
      ((b.complete t fields).run.outcome = .ok () →
        Composite.Completed b ⟨t, (b.complete t fields).fields⟩) :=
  completeWithin_sound typed _ kept

theorem finish_sound (typed : b.registry.Typed b.table) : b.FinishSound b.finish :=
  finishSound_whole (complete_sound typed)

theorem finishWithin_sound (typed : b.registry.Typed b.table) (depth : Nat) :
    b.FinishSound (b.finishWithin depth) := by
  cases depth with
  | zero => exact finishSound_endless
  | succ depth => exact finishSound_whole (completeWithin_sound typed depth)

end Completing

/-! ### Bare signatures -/

/-- What a bare signature gives on lists of less than `n` tokens has been completed. -/
def CompletedBelow (b : Binder) (n : Nat) : Prop :=
  ∀ (f : Field) (rest : List String) (c : Claim) (v : Value), rest.length < n →
    b.FlagClaim f rest c → c.update = some v → v.CompletedAs b f.shape.element

section Below

variable {n : Nat} (typed : b.registry.Typed b.table) (below : b.CompletedBelow n)
include typed below

theorem Takes.sound {pending : List Pending} {s : Selection} {c : Claim} {v : Value}
    (short : tokens.length ≤ n) (h : b.Takes owner pending tokens s rest c)
    (update : c.update = some v) : v.SoundAs b s.chosen.field.shape.element := by
  cases form : s.form with
  | exact =>
    have claimed := (claim_exact_iff form).mp h.claimed
    exact (below _ _ _ _ (Nat.lt_of_lt_of_le h.length_lt short) claimed update).sound
  | delimited text =>
    obtain ⟨v', k, read, rfl⟩ := (claim_delimited_iff form).mp h.claimed
    obtain rfl : v' = v := by simpa using update
    exact read.sound typed (finish_sound typed)

/-- Segments keep what is sound. -/
theorem applyAll_kept {fields : List Value} (short : tokens.length ≤ n)
    (kept : Composite.Kept b ⟨t, fields⟩) :
    Composite.Kept b ⟨t, Segment.applyAll fields (b.scanFor t tokens).segments⟩ := by
  have segments : ∀ segment ∈ (b.scanFor t tokens).segments, ∀ f v,
      (b.table.fields t)[segment.index]? = some f → segment.update = some v →
        v.SoundAs b f.shape.element := by
    intro segment mem f v field update
    obtain ⟨s, rest, c, taken, rfl⟩ := takes_of_mem mem
    have chosen : _ = some s.chosen.field := TypeTable.mem_pending.mp taken.chosen_mem
    obtain rfl : f = s.chosen.field := Option.some.inj (field.symm.trans chosen)
    exact taken.sound typed below short update
  generalize (b.scanFor t tokens).segments = all at segments
  induction all generalizing fields with
  | nil => exact kept
  | cons segment all ih =>
    refine ih ?_ fun s mem => segments s (List.mem_cons_of_mem _ mem)
    unfold Segment.apply
    cases update : segment.update with
    | none => exact kept
    | some v =>
      refine ⟨by simpa using kept.length_eq, fun i f w field at' => ?_⟩
      rw [List.getElem?_set] at at'
      split at at'
      · next same =>
        subst same
        obtain ⟨-, rfl⟩ : _ ∧ v = w := by simpa using at'
        exact segments segment (by simp) f v field update
      · exact kept.sound i f w field at'

theorem bindFields_kept {fields : List Value} (short : tokens.length ≤ n)
    (kept : Composite.Kept b ⟨t, fields⟩) :
    Composite.Kept b ⟨t, (b.bindFields t fields tokens).fields⟩ := by
  by_cases accepted : b.Accepts t
  · rw [bindFields_fields accepted]
    exact applyAll_kept typed below short kept
  · rw [bindFields_fields_of_not accepted]
    exact kept

theorem construct_completed {fields : List Value} {k : Nat} (short : tokens.length ≤ n)
    (h : (b.construct t tokens).outcome = .ok (fields, k)) (taken : k ≠ 0) :
    Composite.Kept b ⟨t, fields⟩ ∧ Composite.Completed b ⟨t, fields⟩ := by
  cases construct_ok_iff.mp h with
  | nothing => exact absurd rfl taken
  | completed accepted found taken finished =>
    refine finish_sound typed _ _ _ ?_ finished
    rw [← found.segments_eq]
    exact applyAll_kept typed below short (Composite.kept_fresh b t)

theorem Repeats.completed {signature : String} {r : List Value × Nat} (short : tokens.length ≤ n)
    (h : b.Repeats t signature tokens r) :
    ∀ v ∈ r.1, v.CompletedAs b (.composite t) := by
  have element : ∀ {tokens : List String} {fields : List Value} {k : Nat}, tokens.length ≤ n →
      (b.construct t tokens).outcome = .ok (fields, k) → k ≠ 0 →
        (Value.composite fields).CompletedAs b (.composite t) := by
    rintro tokens fields k short built taken u ⟨rfl⟩ us mem
    obtain rfl : us = fields := by simpa using mem
    exact construct_completed typed below short built taken
  induction h with
  | nothing => simp
  | last built taken ended =>
    simpa using element short built taken
  | @next tokens more fields elements restated k m built taken after again others ih =>
    have shorter := congrArg List.length after
    simp only [List.length_drop, List.length_cons] at shorter
    intro v mem
    rcases List.mem_cons.mp mem with rfl | mem
    · exact element short built taken
    · exact ih (by omega) v mem

theorem FlagClaim.completed {c : Claim} {v : Value} (short : rest.length ≤ n)
    (h : b.FlagClaim f rest c) (update : c.update = some v) :
    v.CompletedAs b f.shape.element := by
  cases h with
  | switched shape =>
    rintro u element us mem
    obtain rfl : _ = v := by simpa using update
    simp at mem
  | nothing => simp at update
  | composite shape built taken =>
    obtain rfl : _ = v := by simpa using update
    rw [shape]
    rintro u ⟨rfl⟩ us mem
    obtain rfl : us = _ := by simpa using mem
    exact construct_completed typed below short built taken
  | composites shape built given =>
    obtain rfl : _ = v := by simpa using update
    rw [shape]
    refine Container.ofElements_completed ?_
    exact (composites_ok_iff.mp built).completed typed below short

end Below

/-- **Bare signatures give completed composites.** -/
theorem completedBelow (typed : b.registry.Typed b.table) (n : Nat) : b.CompletedBelow n := by
  induction n with
  | zero => exact fun _ _ _ _ short => absurd short (Nat.not_lt_zero _)
  | succ n ih =>
    intro f rest c v short h update
    exact h.completed typed ih (Nat.le_of_lt_succ short) update

/-! ### Calls -/

/-- **What binding leaves in a composite is sound**, however it ends, and if it succeeds the
composite has been completed. -/
theorem bindAndComplete_sound {fields : List Value} (typed : b.registry.Typed b.table)
    (kept : Composite.Kept b ⟨t, fields⟩) (tokens : List String) :
    Composite.Kept b ⟨t, (b.bindAndComplete t fields tokens).fields⟩ ∧
      ∀ n, (b.bindAndComplete t fields tokens).run.outcome = .ok n →
        Composite.Completed b ⟨t, (b.bindAndComplete t fields tokens).fields⟩ := by
  have kept := bindFields_kept typed (completedBelow typed _) (Nat.le_refl tokens.length) kept
  unfold bindAndComplete
  dsimp only
  cases bound : (b.bindFields t fields tokens).run.outcome with
  | error e =>
    refine ⟨kept, fun n ended => ?_⟩
    simp [bound] at ended
  | ok n =>
    obtain ⟨kept, completed⟩ := complete_sound typed kept
    refine ⟨kept, fun n ended => ?_⟩
    cases pass : (b.complete t (b.bindFields t fields tokens).fields).run.outcome with
    | error e => simp [pass, Except.map] at ended
    | ok u => exact completed pass

end Binder

end OptionBinding
