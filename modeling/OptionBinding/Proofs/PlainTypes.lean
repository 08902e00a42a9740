import Mathlib.Logic.Relation
import OptionBinding.Proofs.Recognition
import OptionBinding.Proofs.Segments

/-!
# Types whose options are told apart by their signatures

A type *nests* the types of its composite fields (`TypeTable.Nests`). From a type on, options are
told apart if they are plain, if the fields of each type pass their check, and if no type nested in
another one, at any depth, has a signature of it (`Binder.PlainFrom`). A type is then nested in
itself only if it has no fields.

A written option starts with a token that opens it (`Field.Opens`): its signature, or its signature
with a value. In a type of this kind such a token selects the option itself
(`PlainFrom.select_opens`) and none that is nested in its type (`PlainFrom.foreign_of_opens`).
-/

namespace OptionBinding

/-- One of the fields of the type holds composites of the other type. -/
def TypeTable.Nests (table : TypeTable) (t u : TypeId) : Prop :=
  ∃ f ∈ table.fields t, f.shape.element = .composite u

/-- **The options of a type and of all types nested in it are told apart by their signatures**, and
none of them has a parser for a whole collection. -/
structure Binder.PlainFrom (b : Binder) (t : TypeId) : Prop where
  accepted : ∀ u, Relation.ReflTransGen b.table.Nests t u → b.table.fault? u = none
  plain : ∀ u, Relation.ReflTransGen b.table.Nests t u → ∀ f ∈ b.table.fields u, f.descriptor.Plain
  apart : ∀ u w, Relation.ReflTransGen b.table.Nests t u → Relation.TransGen b.table.Nests u w →
    ∀ f ∈ b.table.fields u, ∀ g ∈ b.table.fields w, f.signature ≠ g.signature
  single : ∀ u, Relation.ReflTransGen b.table.Nests t u → ∀ f ∈ b.table.fields u,
    ∀ (c : Container) (e : Element), f.shape = .collection c e →
      b.registry.canParse f.descriptor (.collection c e) = false

/-- No option of the type or of a type nested in it recognises the next token. -/
def Binder.Foreign (b : Binder) (t : TypeId) (rest : List String) : Prop :=
  ∀ token ∈ rest.head?, ∀ u, Relation.ReflTransGen b.table.Nests t u → ∀ f ∈ b.table.fields u,
    f.descriptor.recognise token = none

/-- **The token is the signature of the field, alone or with a value.** -/
def Field.Opens (f : Field) (token : String) : Prop :=
  token = f.signature ∨ ∃ text : String, '\n' ∉ text.toList ∧ token = f.descriptor.valueToken text

variable {b : Binder} {t u : TypeId} {f g : Field} {token : String}

/-- A token that opens a field selects no other plain option. -/
theorem Field.Opens.recognise_none (opens : f.Opens token) (written : f.descriptor.Plain)
    (plain : g.descriptor.Plain) (other : g.signature ≠ f.signature) :
    g.descriptor.recognise token = none := by
  rcases opens with rfl | ⟨text, oneLine, rfl⟩
  · exact (plain.recognise_signature written).trans (if_neg other)
  · exact (plain.recognise_valueToken written oneLine).trans (if_neg other)

/-! ### Types that pass their check -/

theorem Field.fault?_eq_none_iff {owner : String} {earlier : List String} :
    f.fault? owner earlier = none ↔ f.descriptor.name ≠ "" ∧ f.descriptor.delimiter ≠ "" ∧
      f.signature ∉ earlier ∧ f.shapeFault? owner = none := by
  unfold fault?
  split
  · next unnamed => simp [unnamed]
  · next named =>
    split
    · next undelimited => simp [undelimited]
    · next delimited =>
      split
      · next repeated => simp [repeated]
      · next fresh => simp [named, delimited, fresh]

/-- Each field of a type that passes its check passes its own. -/
theorem fault?_of_schemaFault? {owner : String} {earlier : List String} {fs : List Field}
    (h : schemaFault? owner earlier fs = none) (mem : f ∈ fs) :
    ∃ before, f.fault? owner before = none := by
  induction fs generalizing earlier with
  | nil => cases mem
  | cons g fs ih =>
    rw [schemaFault?] at h
    split at h
    · cases h
    · next sound =>
      rcases List.mem_cons.mp mem with rfl | mem
      · exact ⟨earlier, sound⟩
      · exact ih h mem

theorem nodup_of_schemaFault? {owner : String} {earlier : List String} {fs : List Field}
    (h : schemaFault? owner earlier fs = none) :
    (fs.map (·.signature)).Nodup ∧ ∀ f ∈ fs, f.signature ∉ earlier := by
  induction fs generalizing earlier with
  | nil => simp
  | cons f fs ih =>
    rw [schemaFault?] at h
    split at h
    · simp at h
    · next sound =>
      obtain ⟨distinct, later⟩ := ih h
      have fresh : f.signature ∉ earlier := (Field.fault?_eq_none_iff.mp sound).2.2.1
      refine ⟨List.nodup_cons.mpr ⟨fun mem => ?_, distinct⟩, fun g mem => ?_⟩
      · obtain ⟨g, mem, same⟩ := List.mem_map.mp mem
        exact later g mem (same ▸ List.mem_cons_self)
      · rcases List.mem_cons.mp mem with rfl | mem
        · exact fresh
        · exact fun earlier => later g mem (List.mem_cons_of_mem _ earlier)

/-- The pending options of a type that passes its check have different signatures. -/
theorem pending_eq_of_signature (accepted : b.table.fault? t = none) {p q : Pending}
    (hp : p ∈ b.table.pending t) (hq : q ∈ b.table.pending t)
    (same : p.field.signature = q.field.signature) : p = q := by
  have distinct := (nodup_of_schemaFault? accepted).1
  have signature : ∀ r ∈ b.table.pending t,
      ((b.table.fields t).map (·.signature))[r.index]? = some r.field.signature := by
    intro r mem
    rw [List.getElem?_map, TypeTable.mem_pending.mp mem, Option.map_some]
  have bound : p.index < ((b.table.fields t).map (·.signature)).length :=
    (List.getElem?_eq_some_iff.mp (signature p hp)).1
  refine TypeTable.pending_eq hp hq ((List.getElem?_inj bound distinct).mp ?_)
  rw [signature p hp, signature q hq, same]

namespace Binder

variable (plain : b.PlainFrom t)
include plain

namespace PlainFrom

theorem nested (nests : b.table.Nests t u) : b.PlainFrom u where
  accepted w reaches := plain.accepted w (.head nests reaches)
  plain w reaches := plain.plain w (.head nests reaches)
  apart w x reaches := plain.apart w x (.head nests reaches)
  single w reaches := plain.single w (.head nests reaches)

theorem descriptor_plain (mem : f ∈ b.table.fields t) : f.descriptor.Plain :=
  plain.plain t .refl f mem

/-- A token that opens one option of a type selects no other one. -/
theorem recognise_none {p q : Pending} (hp : p ∈ b.table.pending t) (hq : q ∈ b.table.pending t)
    (other : q ≠ p) (opens : p.field.Opens token) : q.field.descriptor.recognise token = none := by
  have written := plain.descriptor_plain (TypeTable.field_mem hp)
  refine opens.recognise_none written (plain.descriptor_plain (TypeTable.field_mem hq))
    fun same => other ?_
  exact pending_eq_of_signature (plain.accepted t .refl) hq hp same

/-- **A token that opens a pending option selects it.** -/
theorem select_opens {pending : List Pending} {p : Pending} {form : TokenForm}
    (known : ∀ q ∈ pending, q ∈ b.table.pending t) (mem : p ∈ pending) (opens : p.field.Opens token)
    (recognised : p.field.descriptor.recognise token = some form) :
    ∃ others, select token pending = some ⟨p, form, others⟩ ∧ (∀ q ∈ others, q ∈ pending) ∧
      ∀ q ∈ pending, q ≠ p → q ∈ others := by
  obtain ⟨earlier, later, rfl, first⟩ := List.eq_append_cons_of_mem mem
  refine ⟨earlier ++ later, select_eq_some_iff.mpr ⟨recognised, earlier, later, rfl, rfl, ?_⟩, ?_,
    ?_⟩
  · intro q before
    refine plain.recognise_none (known p mem) (known q (by simp [before])) ?_ opens
    rintro rfl
    exact first before
  · intro q mem
    simp only [List.mem_append, List.mem_cons] at mem ⊢
    exact mem.imp_right .inr
  · intro q mem other
    simp only [List.mem_append, List.mem_cons] at mem ⊢
    rcases mem with mem | rfl | mem
    · exact .inl mem
    · exact absurd rfl other
    · exact .inr mem

/-- A token that opens an option of a type is foreign to the types nested in it. -/
theorem foreign_of_opens (mem : f ∈ b.table.fields t) (opens : f.Opens token)
    (nests : b.table.Nests t u) (more : List String) : b.Foreign u (token :: more) := by
  intro next head w reaches g mem'
  obtain rfl : token = next := by simpa using head
  have below : Relation.TransGen b.table.Nests t w := .head' nests reaches
  have nested := plain.plain w below.to_reflTransGen g mem'
  refine opens.recognise_none (plain.descriptor_plain mem) nested fun same => ?_
  exact plain.apart t w .refl below f mem g mem' same.symm

end PlainFrom

omit plain in
@[simp] theorem foreign_nil : b.Foreign t [] := fun _ head => by simp at head

omit plain in
theorem Foreign.nested {rest : List String} (h : b.Foreign t rest) (nests : b.table.Nests t u) :
    b.Foreign u rest :=
  fun token head w reaches => h token head w (.head nests reaches)

end Binder

end OptionBinding
