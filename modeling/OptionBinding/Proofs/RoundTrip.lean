import Mathlib.Data.List.Forall2
import OptionBinding.Proofs.PlainTypes
import OptionBinding.Proofs.Provenance
import OptionBinding.Regex.Standard

/-!
# Reading back what was written

A composite is written as the tokens of its fields, one field after another in any order
(`Written`): a switch that is on as its bare signature, a scalar as the signature with a text that
reads as it, a composite as the bare signature and the tokens of the composite, and a collection as
its elements, each written like a single value. Contents that nothing was bound to are not written.

If options are told apart by their signatures, binding what was written gives the composite back
(`bind_written`), provided that none of the fields that completing would fill is empty. By induction
on how it was written each part is read back, whatever foreign tokens follow it (`ReadsBack`,
`Written.readsBack`). Two facts carry the induction: a token that opens a field is foreign to what
is nested in the field's type, so nested scans stop where they have to; and it is no further value
of another field, so runs do.
-/

namespace OptionBinding

/-- The container hands its elements out in the order in which they were added. -/
def Container.Ordered (c : Container) : Prop := c = .vector ∨ c = .linkedList ∨ c = .deque

theorem Container.Ordered.ofElements {c : Container} (h : c.Ordered) (elements : List Value) :
    c.ofElements elements = .items elements := by
  have added : ∀ (before : List Value), elements.foldl c.add before = before ++ elements := by
    induction elements with
    | nil => simp
    | cons x elements ih =>
      intro before
      have one : c.add before x = before ++ [x] := by
        rcases h with rfl | rfl | rfl <;> rfl
      rw [List.foldl_cons, ih, one, List.append_assoc, List.singleton_append]
  rw [Container.ofElements, added, List.nil_append]

/-- What can be written: the contents of a field, the composites of a repeatable option of a type,
fields with their contents one after another, and a composite of a type. -/
inductive Part
  | contents (f : Field) (v : Value)
  | elements (f : Field) (t : TypeId) (vs : List Value)
  | listed (order : List (Pending × Value))
  | composite (t : TypeId) (fields : List Value)

/-- **How configurations are written.** -/
inductive Written (b : Binder) : Part → List String → Prop
  | off {f : Field} (shape : f.shape = .flag) : Written b (.contents f (.scalar (.bool false))) []
  | on {f : Field} (shape : f.shape = .flag) :
      Written b (.contents f (.scalar (.bool true))) [f.signature]
  | unset {f : Field} {e : Element} (shape : f.shape = .single e) :
      Written b (.contents f .unset) []
  | scalar {f : Field} {type : ScalarType} {s : Scalar} {text : String}
      (shape : f.shape = .single (.scalar type)) (oneLine : '\n' ∉ text.toList)
      (read : b.registry.parse b.table f.descriptor (.single (.scalar type)) text =
        .ok (.scalar s)) :
      Written b (.contents f (.scalar s)) [f.descriptor.valueToken text]
  | scalars {f : Field} {c : Container} {type : ScalarType} {texts : List (String × Scalar)}
      (shape : f.shape = .collection c (.scalar type)) (ordered : c.Ordered)
      (read : ∀ r ∈ texts, '\n' ∉ r.1.toList ∧
        b.registry.parse b.table f.descriptor (.single (.scalar type)) r.1 = .ok (.scalar r.2)) :
      Written b (.contents f (.items (texts.map fun r => .scalar r.2)))
        (texts.map fun r => f.descriptor.valueToken r.1)
  | single {f : Field} {t : TypeId} {fields : List Value} {tokens : List String}
      (shape : f.shape = .single (.composite t)) (written : Written b (.composite t fields) tokens)
      (given : tokens ≠ []) : Written b (.contents f (.composite fields)) (f.signature :: tokens)
  | repeated {f : Field} {c : Container} {t : TypeId} {vs : List Value} {tokens : List String}
      (shape : f.shape = .collection c (.composite t)) (ordered : c.Ordered)
      (written : Written b (.elements f t vs) tokens) : Written b (.contents f (.items vs)) tokens
  | noElement {f : Field} {t : TypeId} : Written b (.elements f t []) []
  | element {f : Field} {t : TypeId} {fields : List Value} {vs : List Value}
      {tokens more : List String} (written : Written b (.composite t fields) tokens)
      (given : tokens ≠ []) (others : Written b (.elements f t vs) more) :
      Written b (.elements f t (.composite fields :: vs)) (f.signature :: (tokens ++ more))
  | noField : Written b (.listed []) []
  | field {p : Pending} {v : Value} {order : List (Pending × Value)} {tokens more : List String}
      (written : Written b (.contents p.field v) tokens) (others : Written b (.listed order) more) :
      Written b (.listed ((p, v) :: order)) (tokens ++ more)
  | composite {t : TypeId} {fields : List Value} {order : List (Pending × Value)}
      {tokens : List String} (length_eq : fields.length = (b.table.fields t).length)
      (all : order.Perm ((b.table.pending t).zip fields))
      (written : Written b (.listed order) tokens) : Written b (.composite t fields) tokens

/-- No field that is required or has a default is empty, in the composite or in any composite
reached from it. -/
def Composite.Complete (table : TypeTable) (x : Composite) : Prop :=
  ∀ y, Relation.ReflTransGen (Composite.Holds table) x y → y.Settled table

/-- The composites that a value is or has as elements are complete. -/
def Value.CompleteAs (table : TypeTable) (e : Element) (v : Value) : Prop :=
  ∀ u, e = .composite u → ∀ us ∈ v.composites, Composite.Complete table ⟨u, us⟩

theorem Composite.Complete.contents {table : TypeTable} {t : TypeId} {fields : List Value}
    (complete : Composite.Complete table ⟨t, fields⟩) {p : Pending} {v : Value}
    (mem : (p, v) ∈ (table.pending t).zip fields) : v.CompleteAs table p.field.shape.element := by
  obtain ⟨i, at'⟩ := List.mem_iff_getElem?.mp mem
  obtain ⟨pending, value⟩ := List.getElem?_zip_eq_some.mp at'
  rw [TypeTable.pending_getElem?] at pending
  obtain ⟨f, field, rfl⟩ := Option.map_eq_some_iff.mp pending
  intro u element us mem y reaches
  exact complete y (.head ⟨i, f, v, field, value, element, mem⟩ reaches)

theorem Composite.Holds.nests {table : TypeTable} {x y : Composite}
    (h : Composite.Holds table x y) : table.Nests x.type y.type := by
  obtain ⟨i, f, v, field, -, element, -⟩ := h
  exact ⟨f, List.mem_of_getElem? field, element⟩

variable {b : Binder} {t u : TypeId} {f : Field} {tokens rest : List String}

/-! ### Completing what is complete -/

/-- Completing changes nothing where nothing is left to fill. -/
theorem Binder.complete_settled (accepted : b.Accepts t) {fields : List Value}
    (settled : Composite.Settled b.table ⟨t, fields⟩) :
    (b.complete t fields).run.outcome = .ok () ∧ (b.complete t fields).fields = fields := by
  have stays : Fills (b.table.recordName t) (b.valueOf b.finishDefault (b.table.recordName t))
      (b.table.fields t) fields fields (.ok ()) := by
    refine Fills.refl fun i f v field at' => ?_
    cases empty : v.isEmpty with
    | false => exact .given empty
    | true =>
      have unsettled :
          ¬ (f.descriptor.required = true ∨ f.descriptor.defaultText.isSome = true) := by
        intro settles
        have given := settled i f field settles
        simp [Value.fieldAt, at', empty] at given
      rw [not_or, Bool.not_eq_true, Option.not_isSome_iff_eq_none] at unsettled
      exact .left empty unsettled.2 unsettled.1
  obtain ⟨same, ended⟩ := (complete_fills accepted fields).unique stays
  exact ⟨ended, same⟩

/-! ### Reading back -/

namespace Binder

/-- The tokens go on outside of a field: the next one is nothing further of it, and it is foreign to
what the field holds. -/
structure Beyond (b : Binder) (f : Field) (rest : List String) : Prop where
  other : ∀ token ∈ rest.head?, f.descriptor.recognise token = none
  foreign : ∀ u, f.shape.element = .composite u → b.Foreign u rest

/-- **The tokens give a field its contents back**, whatever follows beyond it. -/
def GivesBack (b : Binder) (f : Field) (v : Value) : List String → Prop
  | [] => v = f.shape.fresh
  | token :: more => f.Opens token ∧ ∃ form, f.descriptor.recognise token = some form ∧
      ∀ (owner : String) (s : Selection) (rest : List String), s.chosen.field = f → s.form = form →
        b.Beyond f rest → (b.claim owner s (more ++ rest)).outcome = .ok ⟨some v, more.length⟩

/-- The segments put the contents in `order` into their fields, and nothing else. -/
structure Puts (segments : List Segment) (order : List (Pending × Value)) : Prop where
  only : ∀ s ∈ segments, s.index ∈ order.map (·.1.index)
  each : ∀ e ∈ order, (∃ s ∈ segments, s.index = e.1.index ∧ s.update = some e.2) ∨
    (e.2 = e.1.field.shape.fresh ∧ ∀ s ∈ segments, s.index ≠ e.1.index)

/-- **What was written is read back**, for each kind of part. -/
def ReadsBack (b : Binder) : Part → List String → Prop
  | .contents f v, tokens => ∀ t, b.PlainFrom t → f ∈ b.table.fields t →
      v.CompleteAs b.table f.shape.element → b.GivesBack f v tokens
  | .elements f u vs, tokens => ∀ t, b.PlainFrom t → f ∈ b.table.fields t →
      f.shape.element = .composite u →
      (∀ us, .composite us ∈ vs → Composite.Complete b.table ⟨u, us⟩) →
        (tokens = [] ∧ vs = []) ∨ ∃ more, tokens = f.signature :: more ∧ vs ≠ [] ∧
          ∀ rest, b.Beyond f rest → b.Repeats u f.signature (more ++ rest) (vs, more.length)
  | .listed order, tokens => ∀ t, b.PlainFrom t → (∀ e ∈ order, e.1 ∈ b.table.pending t) →
      (order.map (·.1.index)).Nodup →
      (∀ e ∈ order, e.2.CompleteAs b.table e.1.field.shape.element) →
        (∀ token ∈ tokens.head?, ∃ e ∈ order, e.1.field.Opens token) ∧
          ∀ (pending : List Pending) (rest : List String),
            (∀ p ∈ pending, p ∈ b.table.pending t) → (∀ e ∈ order, e.1 ∈ pending) →
            b.Foreign t rest → ∃ segments,
              b.Finds (b.table.recordName t) pending (tokens ++ rest) segments ∧
                Segment.totalWidth segments = tokens.length ∧ Puts segments order
  | .composite t fields, tokens => b.PlainFrom t → Composite.Complete b.table ⟨t, fields⟩ →
      ∀ rest, b.Foreign t rest → ∃ segments, b.FindsFor t (tokens ++ rest) segments ∧
        Segment.totalWidth segments = tokens.length ∧
          Segment.applyAll (b.table.fresh t) segments = fields

/-! ### Scalars -/

/-- A scalar is not completed after it has been read. -/
theorem readElement_scalar {finish : Finish} {d : Descriptor} {type : ScalarType} (text : String) :
    (b.readElement finish d (.scalar type) text).outcome =
      (b.parse d (.single (.scalar type)) text).outcome := by
  rw [readElement, Run.outcome_bind]
  cases (b.parse d (.single (.scalar type)) text).outcome <;> rfl

theorem readElements_scalars_ok_iff {finish : Finish} {d : Descriptor} {type : ScalarType}
    {texts : List String} {values : List Value} :
    (b.readElements finish d (.scalar type) texts).outcome = .ok values ↔
      List.Forall₂ (fun text v => b.registry.parse b.table d (.single (.scalar type)) text = .ok v)
        texts values := by
  induction texts generalizing values with
  | nil => cases values <;> simp [readElements]
  | cons text texts ih =>
    constructor
    · intro h
      obtain ⟨v, first, h⟩ := Run.bind_ok_iff.mp h
      obtain ⟨others, rest, h⟩ := Run.bind_ok_iff.mp h
      obtain rfl := Run.pure_ok_iff.mp h
      exact .cons (parse_ok_iff.mp (readElement_scalar text ▸ first)) (ih.mp rest)
    · intro h
      cases h with
      | cons first others =>
        refine Run.bind_ok_iff.mpr ⟨_, (readElement_scalar text).trans (parse_ok_iff.mpr first), ?_⟩
        exact Run.bind_ok_iff.mpr ⟨_, ih.mpr others, rfl⟩

theorem givesBack_scalar {type : ScalarType} {s : Scalar} {text : String}
    (plain : f.descriptor.Plain) (shape : f.shape = .single (.scalar type))
    (oneLine : '\n' ∉ text.toList)
    (read : b.registry.parse b.table f.descriptor (.single (.scalar type)) text =
      .ok (.scalar s)) :
    b.GivesBack f (.scalar s) [f.descriptor.valueToken text] := by
  have recognised := plain.recognise_own_value oneLine
  refine ⟨.inr ⟨text, oneLine, rfl⟩, .delimited text, recognised, ?_⟩
  rintro owner s rest rfl form beyond
  refine (claim_delimited_iff form).mpr ⟨_, _, .single shape ?_, rfl⟩
  exact (readElement_scalar text).trans (parse_ok_iff.mpr read)

theorem givesBack_scalars {c : Container} {type : ScalarType} {texts : List (String × Scalar)}
    (plain : f.descriptor.Plain) (shape : f.shape = .collection c (.scalar type))
    (ordered : c.Ordered)
    (unresolved : b.registry.canParse f.descriptor (.collection c (.scalar type)) = false)
    (read : ∀ r ∈ texts, '\n' ∉ r.1.toList ∧
      b.registry.parse b.table f.descriptor (.single (.scalar type)) r.1 = .ok (.scalar r.2)) :
    b.GivesBack f (.items (texts.map fun r => .scalar r.2))
      (texts.map fun r => f.descriptor.valueToken r.1) := by
  cases texts with
  | nil => simp [GivesBack, shape, FieldShape.fresh]
  | cons r texts =>
    obtain ⟨oneLine, -⟩ := read r List.mem_cons_self
    have recognised := plain.recognise_own_value oneLine
    refine ⟨.inr ⟨r.1, oneLine, rfl⟩, .delimited r.1, recognised, ?_⟩
    rintro owner s rest rfl form beyond
    have run : s.chosen.field.descriptor.capturedRun
        ((texts.map fun r => s.chosen.field.descriptor.valueToken r.1) ++ rest) =
          texts.map (·.1) := by
      have lines : ∀ text ∈ texts.map (·.1), '\n' ∉ text.toList := by
        intro text mem
        obtain ⟨q, held, rfl⟩ := List.mem_map.mp mem
        exact (read q (List.mem_cons_of_mem _ held)).1
      have run := plain.capturedRun_valueTokens lines beyond.other
      rwa [List.map_map] at run
    have made : (b.readElements b.finish s.chosen.field.descriptor (.scalar type)
        ((r :: texts).map (·.1))).outcome = .ok ((r :: texts).map fun r => .scalar r.2) := by
      refine readElements_scalars_ok_iff.mpr ?_
      rw [List.forall₂_map_left_iff, List.forall₂_map_right_iff]
      exact List.forall₂_same.mpr fun q mem => (read q mem).2
    have reads := Reads.elements shape unresolved made
    rw [ordered.ofElements, List.length_map] at reads
    refine (claim_delimited_iff form).mpr ⟨_, _, ?_, by rw [List.length_map]⟩
    rw [run]
    exact reads

/-! ### Composites -/

variable {fields : List Value} {tokens : List String} {segments : List Segment}

/-- A composite whose options have been found is constructed as it is, if it is settled. -/
theorem construct_of_found (accepted : b.Accepts u) (found : b.FindsFor u tokens segments)
    (width : Segment.totalWidth segments ≠ 0)
    (contents : Segment.applyAll (b.table.fresh u) segments = fields)
    (settled : Composite.Settled b.table ⟨u, fields⟩) :
    (b.construct u tokens).outcome = .ok (fields, Segment.totalWidth segments) := by
  refine construct_ok_iff.mpr (.completed accepted found width ?_)
  rw [contents]
  exact finish_ok_iff.mpr (complete_settled accepted settled)

theorem construct_of_readsBack (plain : b.PlainFrom u)
    (complete : Composite.Complete b.table ⟨u, fields⟩)
    (back : b.ReadsBack (.composite u fields) tokens) (given : tokens ≠ []) {rest : List String}
    (foreign : b.Foreign u rest) :
    (b.construct u (tokens ++ rest)).outcome = .ok (fields, tokens.length) := by
  obtain ⟨segments, found, width, contents⟩ := back plain complete rest foreign
  rw [← width]
  refine construct_of_found (.inr (plain.accepted u .refl)) found ?_ contents (complete _ .refl)
  rw [width]
  exact fun none => given (List.eq_nil_of_length_eq_zero none)

theorem givesBack_single (plain : b.PlainFrom t) (mem : f ∈ b.table.fields t)
    (shape : f.shape = .single (.composite u))
    (complete : (Value.composite fields).CompleteAs b.table f.shape.element)
    (back : b.ReadsBack (.composite u fields) tokens) (given : tokens ≠ []) :
    b.GivesBack f (.composite fields) (f.signature :: tokens) := by
  have element : f.shape.element = .composite u := by rw [shape]; rfl
  have option := plain.descriptor_plain mem
  refine ⟨.inl rfl, .exact, option.recognise_own_signature, ?_⟩
  rintro owner s rest rfl form beyond
  have built := construct_of_readsBack (plain.nested ⟨_, mem, element⟩)
    (complete u element fields (by simp)) back given (beyond.foreign u element)
  refine (claim_exact_iff form).mpr (.composite shape built fun none => given ?_)
  exact List.eq_nil_of_length_eq_zero none

theorem givesBack_repeated (plain : b.PlainFrom t) (mem : f ∈ b.table.fields t) {c : Container}
    {vs : List Value} (shape : f.shape = .collection c (.composite u)) (ordered : c.Ordered)
    (complete : (Value.items vs).CompleteAs b.table f.shape.element)
    (back : b.ReadsBack (.elements f u vs) tokens) : b.GivesBack f (.items vs) tokens := by
  have element : f.shape.element = .composite u := by rw [shape]; rfl
  have option := plain.descriptor_plain mem
  have each : ∀ us, .composite us ∈ vs → Composite.Complete b.table ⟨u, us⟩ := fun us held =>
    complete u element us (Value.mem_composites_items.mpr held)
  rcases back t plain mem element each with ⟨rfl, rfl⟩ | ⟨more, rfl, given, repeats⟩
  · simp [GivesBack, shape, FieldShape.fresh]
  · refine ⟨.inl rfl, .exact, option.recognise_own_signature, ?_⟩
    rintro owner s rest rfl form beyond
    have built := composites_ok_iff.mpr (repeats rest beyond)
    have claimed := FlagClaim.composites shape built (by simp [given])
    rw [ordered.ofElements] at claimed
    exact (claim_exact_iff form).mpr claimed

/-- One more composite before the others of a repeatable option. -/
theorem readsBack_element {vs : List Value} {more : List String}
    (back : b.ReadsBack (.composite u fields) tokens) (given : tokens ≠ [])
    (others : b.ReadsBack (.elements f u vs) more) :
    b.ReadsBack (.elements f u (.composite fields :: vs)) (f.signature :: (tokens ++ more)) := by
  intro t plain mem element complete
  have option := plain.descriptor_plain mem
  have width : tokens.length ≠ 0 := fun none => given (List.eq_nil_of_length_eq_zero none)
  have built : ∀ {rest : List String}, b.Foreign u rest →
      (b.construct u (tokens ++ rest)).outcome = .ok (fields, tokens.length) :=
    construct_of_readsBack (plain.nested ⟨f, mem, element⟩) (complete fields List.mem_cons_self)
      back given
  refine .inr ⟨tokens ++ more, rfl, by simp, fun rest beyond => ?_⟩
  rw [List.append_assoc]
  rcases others t plain mem element fun us held => complete us (List.mem_cons_of_mem _ held) with
    ⟨rfl, rfl⟩ | ⟨more, rfl, -, repeats⟩
  · rw [List.nil_append, List.append_nil]
    refine .last (built (beyond.foreign u element)) width fun next after => ?_
    rw [List.drop_left] at after
    have unselected := Descriptor.isExact_of_recognise_none (beyond.other next after)
    exact beq_eq_false_iff_ne.mp unselected
  · -- The restatement of the flag ends the composite before it.
    have restated : b.Foreign u (f.signature :: more ++ rest) :=
      plain.foreign_of_opens mem (.inl rfl) ⟨f, mem, element⟩ _
    have trimmed : Text.trim f.signature = f.signature := Text.trim_of_visible option.visible
    have all := Repeats.next (built restated) width List.drop_left trimmed (repeats rest beyond)
    rw [List.length_append, List.length_cons]
    rwa [Nat.add_assoc, Nat.add_comm 1] at all

/-! ### Fields in any order -/

namespace Puts

variable {order : List (Pending × Value)} {p : Pending} {v : Value}

theorem skip (h : Puts segments order) (fresh : v = p.field.shape.fresh)
    (distinct : p.index ∉ order.map (·.1.index)) : Puts segments ((p, v) :: order) where
  only s mem := List.mem_cons_of_mem _ (h.only s mem)
  each := by
    intro e mem
    rcases List.mem_cons.mp mem with rfl | mem
    · exact .inr ⟨fresh, fun s mem same => distinct (same ▸ h.only s mem)⟩
    · exact h.each e mem

theorem cons (h : Puts segments order) (distinct : p.index ∉ order.map (·.1.index)) (width : Nat) :
    Puts (⟨p.index, width, some v⟩ :: segments) ((p, v) :: order) where
  only := by
    intro s mem
    rcases List.mem_cons.mp mem with rfl | mem
    · exact List.mem_cons_self
    · exact List.mem_cons_of_mem _ (h.only s mem)
  each := by
    intro e mem
    rcases List.mem_cons.mp mem with rfl | mem
    · exact .inl ⟨_, List.mem_cons_self, rfl, rfl⟩
    · rcases h.each e mem with ⟨s, held, index, update⟩ | ⟨fresh, none⟩
      · exact .inl ⟨s, List.mem_cons_of_mem _ held, index, update⟩
      · refine .inr ⟨fresh, fun s held same => ?_⟩
        rcases List.mem_cons.mp held with rfl | held
        · exact distinct (List.mem_map.mpr ⟨e, mem, same.symm⟩)
        · exact none s held same

/-- Contents that segments put into fields are there afterwards. -/
theorem applyAll (h : Puts segments order) (distinct : (segments.map (·.index)).Nodup)
    (known : p ∈ b.table.pending t) (mem : (p, v) ∈ order) :
    (Segment.applyAll (b.table.fresh t) segments)[p.index]? = some v := by
  have field := TypeTable.mem_pending.mp known
  have fresh : (b.table.fresh t)[p.index]? = some p.field.shape.fresh := by
    simp [TypeTable.fresh, field]
  rcases h.each _ mem with ⟨s, held, index, update⟩ | ⟨unbound, none⟩
  · have bound : s.index < (b.table.fresh t).length := by
      rw [index]
      exact (List.getElem?_eq_some_iff.mp fresh).1
    rw [← index]
    exact Segment.applyAll_getElem? distinct held update bound
  · rw [Segment.applyAll_getElem?_of_none fun s held same => absurd same (none s held), fresh]
    exact congrArg some unbound.symm

end Puts

/-- Beyond a field come the tokens of other fields, and then what is foreign to their type. -/
theorem beyond_of_opens (plain : b.PlainFrom t) {p : Pending} (known : p ∈ b.table.pending t)
    {order : List (Pending × Value)} (others : ∀ e ∈ order, e.1 ∈ b.table.pending t ∧ e.1 ≠ p)
    (opens : ∀ token ∈ tokens.head?, ∃ e ∈ order, e.1.field.Opens token) {rest : List String}
    (foreign : b.Foreign t rest) : b.Beyond p.field (tokens ++ rest) := by
  have mem : p.field ∈ b.table.fields t := TypeTable.field_mem known
  cases tokens with
  | nil =>
    refine ⟨fun token head => foreign token head t .refl _ mem, fun u element => ?_⟩
    exact foreign.nested ⟨_, mem, element⟩
  | cons next tokens =>
    obtain ⟨e, held, opens⟩ := opens next rfl
    obtain ⟨known', other⟩ := others e held
    refine ⟨fun token head => ?_, fun u element => ?_⟩
    · obtain rfl : next = token := by simpa using head
      exact plain.recognise_none known' known (Ne.symm other) opens
    · exact plain.foreign_of_opens (TypeTable.field_mem known') opens ⟨_, mem, element⟩ _

/-- One more field before the others. -/
theorem readsBack_field {p : Pending} {v : Value} {order : List (Pending × Value)}
    {more : List String} (back : b.ReadsBack (.contents p.field v) tokens)
    (others : b.ReadsBack (.listed order) more) :
    b.ReadsBack (.listed ((p, v) :: order)) (tokens ++ more) := by
  intro t plain known distinct complete
  rw [List.map_cons, List.nodup_cons] at distinct
  have mine : p ∈ b.table.pending t := known (p, v) List.mem_cons_self
  have gives := back t plain (TypeTable.field_mem mine) (complete (p, v) List.mem_cons_self)
  obtain ⟨opensMore, findsMore⟩ := others t plain
    (fun e mem => known e (List.mem_cons_of_mem _ mem)) distinct.2
    fun e mem => complete e (List.mem_cons_of_mem _ mem)
  cases tokens with
  | nil =>
    refine ⟨fun token head => ?_, fun pending rest inside all foreign => ?_⟩
    · obtain ⟨e, mem, opens⟩ := opensMore token head
      exact ⟨e, List.mem_cons_of_mem _ mem, opens⟩
    · obtain ⟨segments, found, width, puts⟩ :=
        findsMore pending rest inside (fun e mem => all e (List.mem_cons_of_mem _ mem)) foreign
      exact ⟨segments, found, width, puts.skip gives distinct.1⟩
  | cons token own =>
    obtain ⟨opens, form, recognised, claims⟩ := gives
    refine ⟨fun next head => ?_, fun pending rest inside all foreign => ?_⟩
    · obtain rfl : token = next := by simpa using head
      exact ⟨_, List.mem_cons_self, opens⟩
    · have apart : ∀ e ∈ order, e.1 ∈ b.table.pending t ∧ e.1 ≠ p := fun e mem =>
        ⟨known e (List.mem_cons_of_mem _ mem),
          fun same => distinct.1 (List.mem_map.mpr ⟨e, mem, by rw [same]⟩)⟩
      obtain ⟨left, selected, within, kept⟩ :=
        plain.select_opens inside (all (p, v) List.mem_cons_self) opens recognised
      have claimed := claims (b.table.recordName t) ⟨p, form, left⟩ (more ++ rest) rfl rfl
        (beyond_of_opens plain mine apart opensMore foreign)
      obtain ⟨segments, found, width, puts⟩ :=
        findsMore left rest (fun q mem => inside q (within q mem))
          (fun e mem => kept e.1 (all e (List.mem_cons_of_mem _ mem)) (apart e mem).2) foreign
      refine ⟨⟨p.index, own.length + 1, some v⟩ :: segments, ?_, ?_, puts.cons distinct.1 _⟩
      · rw [List.cons_append, List.cons_append, List.append_assoc]
        refine .take selected claimed ?_
        rw [List.drop_left]
        exact found
      · simp only [Segment.totalWidth_cons, width, List.length_append, List.length_cons]

/-- A composite, of whose fields each is written once. -/
theorem readsBack_composite {order : List (Pending × Value)}
    (length_eq : fields.length = (b.table.fields t).length)
    (all : order.Perm ((b.table.pending t).zip fields))
    (back : b.ReadsBack (.listed order) tokens) : b.ReadsBack (.composite t fields) tokens := by
  intro plain complete rest foreign
  have listed : ∀ {p : Pending} {v : Value},
      (p, v) ∈ order ↔ (p, v) ∈ (b.table.pending t).zip fields := all.mem_iff
  have known : ∀ e ∈ order, e.1 ∈ b.table.pending t := fun e mem =>
    (List.of_mem_zip (listed.mp mem)).1
  have distinct : (order.map (·.1.index)).Nodup := by
    have firsts : ((b.table.pending t).zip fields).map (·.1.index) =
        (b.table.pending t).map (·.index) := by
      have bound : (b.table.pending t).length ≤ fields.length := by
        simp [TypeTable.pending, length_eq]
      have firsts := congrArg (List.map Pending.index) (List.map_fst_zip bound)
      rwa [List.map_map] at firsts
    rw [(all.map _).nodup_iff, firsts]
    exact b.table.pending_nodup t
  obtain ⟨-, finds⟩ := back t plain known distinct fun e mem => complete.contents (listed.mp mem)
  obtain ⟨segments, found, width, puts⟩ :=
    finds (b.table.pending t) rest (fun p mem => mem) known foreign
  refine ⟨segments, found, width, List.ext_getElem? fun i => ?_⟩
  by_cases bound : i < fields.length
  · have field : (b.table.fields t)[i]? = some (b.table.fields t)[i] := List.getElem?_eq_getElem _
    have known : ⟨i, (b.table.fields t)[i]⟩ ∈ b.table.pending t := TypeTable.mem_pending.mpr field
    have value : fields[i]? = some fields[i] := List.getElem?_eq_getElem bound
    have pending : (b.table.pending t)[i]? = some ⟨i, (b.table.fields t)[i]⟩ := by
      rw [TypeTable.pending_getElem?, field, Option.map_some]
    have mem := listed.mpr (List.mem_of_getElem? (List.getElem?_zip_eq_some.mpr ⟨pending, value⟩))
    rw [puts.applyAll (found.nodup (b.table.pending_nodup t)) known mem, value]
  · rw [List.getElem?_eq_none (by simpa [TypeTable.fresh, ← length_eq] using bound),
      List.getElem?_eq_none (by omega)]

/-! ### Configurations -/

end Binder

open Binder in
/-- **What was written is read back.** -/
theorem Written.readsBack {part : Part} (h : Written b part tokens) : b.ReadsBack part tokens := by
  induction h with
  | off shape =>
    intro t plain mem complete
    simp [GivesBack, shape, FieldShape.fresh]
  | on shape =>
    intro t plain mem complete
    have option := plain.descriptor_plain mem
    refine ⟨.inl rfl, .exact, option.recognise_own_signature, ?_⟩
    rintro owner s rest rfl form beyond
    exact (claim_exact_iff form).mpr (.switched (.inl shape))
  | unset shape =>
    intro t plain mem complete
    simp [GivesBack, shape, FieldShape.fresh]
  | scalar shape oneLine read =>
    intro t plain mem complete
    exact givesBack_scalar (plain.descriptor_plain mem) shape oneLine read
  | scalars shape ordered read =>
    intro t plain mem complete
    exact givesBack_scalars (plain.descriptor_plain mem) shape ordered
      (plain.single t .refl _ mem _ _ shape) read
  | single shape written given ih =>
    intro t plain mem complete
    exact givesBack_single plain mem shape complete ih given
  | repeated shape ordered written ih =>
    intro t plain mem complete
    exact givesBack_repeated plain mem shape ordered complete ih
  | noElement => exact fun t plain mem element complete => .inl ⟨rfl, rfl⟩
  | element written given others ih ihs => exact readsBack_element ih given ihs
  | noField =>
    intro t plain known distinct complete
    refine ⟨by simp, fun pending rest inside all foreign => ⟨[], .stop ?_, rfl, ⟨by simp, by simp⟩⟩⟩
    intro token head
    exact select_eq_none_iff.mpr fun p mem =>
      foreign token head t .refl _ (TypeTable.field_mem (inside p mem))
  | field written others ih ihs => exact readsBack_field ih ihs
  | composite length_eq all written ih => exact readsBack_composite length_eq all ih

namespace Binder

/-- **Binding undoes writing, in whatever order the fields are written.** From where the tokens of a
complete configuration begin, binding takes all of them and gives the configuration, whatever stands
before them and whatever foreign tokens follow. -/
theorem bind_written (plain : b.PlainFrom t) {fields : List Value} {tokens : List String}
    (written : Written b (.composite t fields) tokens)
    (complete : Composite.Complete b.table ⟨t, fields⟩) (before : List String)
    {rest : List String} (foreign : b.Foreign t rest) :
    (b.bind t (before ++ (tokens ++ rest)) before.length).outcome = .ok tokens.length ∧
      (b.bind t (before ++ (tokens ++ rest)) before.length).fields = fields := by
  obtain ⟨segments, found, width, contents⟩ := written.readsBack plain complete rest foreign
  have accepted : b.Accepts t := .inr (plain.accepted t .refl)
  obtain ⟨ended, same⟩ := complete_settled accepted (complete _ .refl)
  rw [← contents] at ended
  have binds : b.Binds t (b.table.fresh t) ((before ++ (tokens ++ rest)).drop before.length)
      (fields, tokens.length) := by
    rw [List.drop_left]
    have binds := Binds.intro accepted found ended
    rwa [contents, same, width] at binds
  exact (bind_ok_iff _ _).mpr binds

/-- A binder for folders and the files in them. -/
def folderBinder : Binder where
  table :=
    [{ fullName := "Folder", shortName := "Folder",
       fields :=
        [{ descriptor := { name := "name", required := true }, shape := .single (.scalar .text) },
         { descriptor := { name := "tag" }, shape := .collection .vector (.scalar .text) },
         { descriptor := { name := "hidden" }, shape := .flag },
         { descriptor := { name := "file" }, shape := .collection .linkedList (.composite 1) }] },
     { fullName := "File", shortName := "File",
       fields :=
        [{ descriptor := { name := "size", defaultText := some "0" },
           shape := .single (.scalar .text) }] }]
  registry := { byType := [ScalarType.text.parser] }

/-- A hidden folder with two tags and two files. -/
def folder : List Value :=
  [.scalar (.text "r"), .items [.scalar (.text "a"), .scalar (.text "b")], .scalar (.bool true),
    .items [.composite [.scalar (.text "1")], .composite [.scalar (.text "2")]]]

theorem folder_nests (h : folderBinder.table.Nests t u) : t = 0 ∧ u = 1 := by
  obtain ⟨f, mem, element⟩ := h
  match t with
  | 0 =>
    simp only [folderBinder, TypeTable.fields, List.getElem?_cons_zero, Option.map_some,
      Option.getD_some, List.mem_cons, List.not_mem_nil, or_false] at mem
    rcases mem with rfl | rfl | rfl | rfl <;> simp only [FieldShape.element] at element
    · cases element
    · cases element
    · cases element
    · exact ⟨rfl, (Element.composite.inj element).symm⟩
  | 1 =>
    simp only [folderBinder, TypeTable.fields, List.getElem?_cons_succ, List.getElem?_cons_zero,
      Option.map_some, Option.getD_some, List.mem_cons, List.not_mem_nil, or_false] at mem
    subst mem
    cases element
  | t + 2 => simp [folderBinder, TypeTable.fields] at mem

theorem folder_reaches (reaches : Relation.ReflTransGen folderBinder.table.Nests 0 u) :
    u = 0 ∨ u = 1 := by
  rcases Relation.ReflTransGen.cases_tail reaches with rfl | ⟨v, -, nests⟩
  · exact .inl rfl
  · exact .inr (folder_nests nests).2

theorem folder_plain : folderBinder.PlainFrom 0 where
  accepted u reaches := by
    rcases folder_reaches reaches with rfl | rfl <;> rfl
  plain u reaches f mem := by
    have all : ∀ f ∈ folderBinder.table.fields u, f.descriptor.delimiter = "=" ∧
        (f.descriptor.signature.toList.all fun c => !Text.isBlank c) = true ∧
        '=' ∉ f.descriptor.signature.toList := by
      rcases folder_reaches reaches with rfl | rfl <;> decide +kernel
    obtain ⟨delimiter, visible, undelimited⟩ := all f mem
    exact ⟨delimiter, by simpa using visible, undelimited⟩
  apart u w reaches below := by
    obtain ⟨v, nests, -⟩ := Relation.TransGen.head'_iff.mp below
    obtain ⟨v', -, nests'⟩ := Relation.TransGen.tail'_iff.mp below
    obtain rfl := (folder_nests nests).1
    obtain rfl := (folder_nests nests').2
    decide +kernel
  single u reaches f mem c e shape := rfl

theorem folder_complete : Composite.Complete folderBinder.table ⟨0, folder⟩ := by
  intro y reaches
  rcases Relation.ReflTransGen.cases_head reaches with rfl | ⟨⟨type, fields⟩, held, reaches⟩
  · intro i f field settles
    rcases i with _ | _ | _ | _ | i
    · rfl
    · rfl
    · rfl
    · rfl
    · simp [folderBinder, TypeTable.fields] at field
  · obtain rfl : type = 1 := (folder_nests held.nests).2
    obtain ⟨i, f, v, field, at', element, mem⟩ := held
    have file : ∃ text, fields = [.scalar (.text text)] := by
      rcases i with _ | _ | _ | _ | i
      · obtain rfl : _ = v := Option.some.inj at'
        simp at mem
      · obtain rfl : _ = v := Option.some.inj at'
        simp at mem
      · obtain rfl : _ = v := Option.some.inj at'
        simp at mem
      · obtain rfl : _ = v := Option.some.inj at'
        simp only [Value.mem_composites_items, List.mem_cons, Value.composite.injEq,
          List.not_mem_nil, or_false] at mem
        rcases mem with rfl | rfl
        · exact ⟨_, rfl⟩
        · exact ⟨_, rfl⟩
      · simp [folder] at at'
    obtain ⟨text, rfl⟩ := file
    rcases Relation.ReflTransGen.cases_head reaches with rfl | ⟨z, held, -⟩
    · intro i f field settles
      rcases i with _ | i
      · rfl
      · simp [folderBinder, TypeTable.fields] at field
    · exact absurd (folder_nests held.nests).1 Nat.one_ne_zero

theorem file_written (text : String) (oneLine : '\n' ∉ text.toList) :
    Written folderBinder (.composite 1 [.scalar (.text text)])
      [Descriptor.valueToken { name := "size" } text] := by
  have all := List.Perm.refl ((folderBinder.table.pending 1).zip [Value.scalar (.text text)])
  exact .composite rfl all (.field (.scalar rfl oneLine rfl) .noField)

theorem folder_written : Written folderBinder (.composite 0 folder)
    ["-file", "-size=1", "-file", "-size=2", "-hidden", "-tag=a", "-tag=b", "-name=r"] := by
  have one := file_written "1" (by decide +kernel)
  have two := file_written "2" (by decide +kernel)
  have files : Written folderBinder (.contents (folderBinder.table.fields 0)[3]
      (.items [.composite [.scalar (.text "1")], .composite [.scalar (.text "2")]]))
      ["-file", "-size=1", "-file", "-size=2"] :=
    .repeated rfl (.inr (.inl rfl)) (.element one (by simp) (.element two (by simp) .noElement))
  have hidden : Written folderBinder (.contents (folderBinder.table.fields 0)[2]
      (.scalar (.bool true))) ["-hidden"] := .on rfl
  have read : ∀ r ∈ [("a", Scalar.text "a"), ("b", Scalar.text "b")], '\n' ∉ r.1.toList ∧
      folderBinder.registry.parse folderBinder.table { name := "tag" } (.single (.scalar .text))
        r.1 = .ok (.scalar r.2) := by
    simp only [List.forall_mem_cons]
    exact ⟨⟨by decide +kernel, rfl⟩, ⟨by decide +kernel, rfl⟩, by simp⟩
  have tags : Written folderBinder (.contents (folderBinder.table.fields 0)[1]
      (.items [.scalar (.text "a"), .scalar (.text "b")])) ["-tag=a", "-tag=b"] := by
    have tags := Written.scalars (f := (folderBinder.table.fields 0)[1]) rfl (.inl rfl) read
    exact tags
  have name : Written folderBinder (.contents (folderBinder.table.fields 0)[0]
      (.scalar (.text "r"))) [Descriptor.valueToken { name := "name" } "r"] :=
    .scalar rfl (by decide +kernel) rfl
  have listed := Written.field (p := ⟨3, _⟩) files (.field (p := ⟨2, _⟩) hidden
    (.field (p := ⟨1, _⟩) tags (.field (p := ⟨0, _⟩) name .noField)))
  have all := List.reverse_perm ((folderBinder.table.pending 0).zip folder)
  exact .composite rfl all listed

/-- A folder with two files is read back from its fields in reverse order. -/
theorem bind_written_folder :
    folderBinder.PlainFrom 0 ∧
      Written folderBinder (.composite 0 folder)
        ["-file", "-size=1", "-file", "-size=2", "-hidden", "-tag=a", "-tag=b", "-name=r"] ∧
      Composite.Complete folderBinder.table ⟨0, folder⟩ ∧
      (folderBinder.bind 0 ["-v", "-file", "-size=1", "-file", "-size=2", "-hidden", "-tag=a",
        "-tag=b", "-name=r", "-other"] 1).outcome = .ok 8 ∧
      (folderBinder.bind 0 ["-v", "-file", "-size=1", "-file", "-size=2", "-hidden", "-tag=a",
        "-tag=b", "-name=r", "-other"] 1).fields = folder := by
  have foreign : folderBinder.Foreign 0 ["-other"] := by
    intro token head u reaches
    obtain rfl : "-other" = token := by simpa using head
    rcases folder_reaches reaches with rfl | rfl <;> decide +kernel
  exact ⟨folder_plain, folder_written, folder_complete,
    bind_written folder_plain folder_written folder_complete ["-v"] foreign⟩

end Binder

end OptionBinding
