import OptionBinding.Proofs.ErrorCauses
import OptionBinding.Proofs.RepeatedComposites

/-!
# Composite flags that take nothing

The flag of a composite may be followed by no token that is bound for it. An option for a single
composite then writes nothing, and its field holds what it held before, from an earlier call
perhaps. A repeatable option writes the elements that it found, also if there are none
(`FlagClaim.bare_update`). So its field loses what it held (`bareFlag_keeps_iff`), which shows when
a target is used a second time (`bindInto_bareItem_drops`).
-/

namespace OptionBinding

namespace Binder

variable {b : Binder} {t u : TypeId} {f : Field} {tokens rest : List String} {s : Selection}
  {c : Claim}

/-- Composites that take no token are none. -/
theorem Repeats.eq_nil {signature : String} {elements : List Value}
    (h : b.Repeats u signature tokens (elements, 0)) : elements = [] := by
  generalize result : (elements, 0) = r at h
  cases h with
  | nothing built => exact congrArg Prod.fst result
  | last built taken ended => exact absurd (congrArg Prod.snd result).symm taken
  | next built taken after again others =>
    have none := congrArg Prod.snd result
    dsimp only at none
    omega

/-- **What a composite flag writes when it takes no token**: nothing, or, if the option is
repeatable, the empty collection. -/
theorem FlagClaim.bare_update (claimed : b.FlagClaim f rest c)
    (composite : f.shape.element = .composite u) (bare : c.extra = 0) :
    f.shape = .single (.composite u) ∧ c.update = none ∨
      ∃ k, f.shape = .collection k (.composite u) ∧ c.update = some (.items []) := by
  cases claimed with
  | switched shape =>
    rcases shape with shape | shape <;> simp [shape, FieldShape.element] at composite
  | nothing shape built optional =>
    obtain rfl : _ = u := by simpa [shape, FieldShape.element] using composite
    exact .inl ⟨shape, rfl⟩
  | composite shape built taken => exact absurd bare taken
  | @composites k _ elements n shape built given =>
    obtain rfl : _ = u := by simpa [shape, FieldShape.element] using composite
    obtain rfl : n = 0 := bare
    obtain rfl := (composites_ok_iff.mp built).eq_nil
    exact .inr ⟨k, shape, rfl⟩

/-- **A composite flag that takes no token keeps what its field holds if and only if the option is
not repeatable, or there was no element.** What a repeatable option holds afterwards is the empty
collection. This is so whatever the target held before, and however matching goes on. -/
theorem bareFlag_keeps_iff (accepted : b.Accepts t)
    (taken : b.Takes (b.table.recordName t) (b.table.pending t) tokens s rest c)
    (form : s.form = .exact) (composite : s.chosen.field.shape.element = .composite u)
    (bare : c.extra = 0) {fields : List Value} {w : Value}
    (prior : fields[s.chosen.index]? = some w) :
    ((b.bindFields t fields tokens).fields[s.chosen.index]? = some w ↔
        s.chosen.field.shape = .single (.composite u) ∨ w = .items []) ∧
      (s.chosen.field.shape ≠ .single (.composite u) →
        (b.bindFields t fields tokens).fields[s.chosen.index]? = some (.items [])) := by
  have after := bindFields_of_takes accepted taken fields
  rw [prior, Option.map_some] at after
  have claimed := (claim_exact_iff form).mp taken.claimed
  rcases claimed.bare_update composite bare with ⟨shape, update⟩ | ⟨k, shape, update⟩
  · rw [update, Option.getD_none] at after
    exact ⟨iff_of_true after (.inl shape), fun other => absurd shape other⟩
  · rw [update, Option.getD_some] at after
    refine ⟨?_, fun _ => after⟩
    rw [after, shape]
    simp [eq_comm]

/-- The flag of the letter, with nothing behind it. -/
theorem boxBinder_takes :
    boxBinder.Takes "Box" (boxBinder.table.pending 0) ["-letter"]
      ⟨⟨0, (boxBinder.table.fields 0)[0]⟩, .exact, []⟩ [] ⟨none, 0⟩ := by
  have none : (boxBinder.construct 1 []).outcome = .ok ([.unset], 0) :=
    construct_ok_iff.mpr (.nothing (.inr rfl) (.stop (by simp)))
  exact .here (by decide +kernel) ((claim_exact_iff rfl).mpr (.nothing rfl none rfl))

/-- The letter of an earlier call stays in the box. -/
theorem bareFlag_keeps_letter :
    boxBinder.Accepts 0 ∧
      (boxBinder.bindFields 0 [.composite [.scalar (.char 'a')]] ["-letter"]).fields[0]? =
        some (.composite [.scalar (.char 'a')]) := by
  have accepted : boxBinder.Accepts 0 := .inr rfl
  exact ⟨accepted,
    (bareFlag_keeps_iff accepted boxBinder_takes rfl rfl rfl rfl).1.mpr (.inl rfl)⟩

/-- The flag of the items, with nothing behind it. -/
theorem itemBinder_takes :
    itemBinder.Takes "Items" (itemBinder.table.pending 0) ["-item"] itemFlag []
      ⟨some (.items []), 0⟩ := by
  have none : (itemBinder.construct 1 []).outcome = .ok ([.scalar (.bool false)], 0) :=
    construct_ok_iff.mpr (.nothing (.inr rfl) (.stop (by simp)))
  have taken : itemBinder.FlagClaim itemFlag.chosen.field [] ⟨some (.items []), 0⟩ :=
    .composites rfl (composites_ok_iff.mpr (.nothing none)) rfl
  exact .here select_itemFlag ((claim_exact_iff rfl).mpr taken)

/-- **A bare flag may drop the elements of an earlier call.** The first call leaves an item in the
target. The second one takes the flag alone, which takes no token besides, and leaves none. -/
theorem bindInto_bareItem_drops :
    (itemBinder.bindInto 0 (itemBinder.table.fresh 0) ["-item", "-on"] 0).outcome = .ok 2 ∧
      (itemBinder.bindInto 0 (itemBinder.table.fresh 0) ["-item", "-on"] 0).fields =
        [.items [.composite [.scalar (.bool true)]]] ∧
      itemBinder.Takes "Items" (itemBinder.table.pending 0) ["-item"] itemFlag []
        ⟨some (.items []), 0⟩ ∧
      itemFlag.form = .exact ∧ itemFlag.chosen.field.shape.element = .composite 1 ∧
      (itemBinder.bindInto 0 [.items [.composite [.scalar (.bool true)]]] ["-item"] 0).outcome =
        .ok 1 ∧
      (itemBinder.bindInto 0 [.items [.composite [.scalar (.bool true)]]] ["-item"] 0).fields =
        [.items []] := by
  have first : itemBinder.Binds 0 (itemBinder.table.fresh 0) ["-item", "-on"]
      ([.items [.composite [.scalar (.bool true)]]], 2) := by
    have built : itemBinder.Repeats 1 "-item" ["-on"] ([.composite [.scalar (.bool true)]], 1) :=
      .last (itemBinder_construct []) (by simp) (by simp)
    have taken : itemBinder.FlagClaim itemFlag.chosen.field ["-on"] ⟨some _, 1⟩ :=
      .composites rfl (composites_ok_iff.mpr built) rfl
    exact .intro (.inr rfl)
      (.take select_itemFlag ((claim_exact_iff rfl).mpr taken) (.stop (by simp))) rfl
  have second : itemBinder.Binds 0 [.items [.composite [.scalar (.bool true)]]] ["-item"]
      ([.items []], 1) :=
    .intro (.inr rfl)
      (.take select_itemFlag itemBinder_takes.claimed (.stop (by simp))) rfl
  obtain ⟨ended, fields⟩ := bindAndComplete_ok_iff.mpr first
  obtain ⟨ended', fields'⟩ := bindAndComplete_ok_iff.mpr second
  exact ⟨ended, fields, itemBinder_takes, rfl, rfl, ended', fields'⟩

end Binder

end OptionBinding
