import Mathlib.Data.List.Nodup
import OptionBinding.Proofs.Steps

/-!
# Where segments put contents

An option is pending until it is bound, so the segments of a scan have different fields
(`scan_nodup`), and what a segment puts into its field stays there (`applyAll_getElem?`). A field
into which no segment puts anything holds what it held before (`applyAll_getElem?_of_none`). Hence
what a selection takes decides what its field holds after matching (`bindFields_of_takes`).
-/

namespace OptionBinding

namespace Segment

variable {segments : List Segment} {fields : List Value} {i : Nat} {v : Value}

theorem apply_getElem?_of_ne {s : Segment} (other : s.index ≠ i) :
    (apply fields s)[i]? = fields[i]? := by
  unfold apply
  split
  · rw [List.getElem?_set_ne other]
  · rfl

@[simp] theorem apply_length (fields : List Value) (s : Segment) :
    (apply fields s).length = fields.length := by
  unfold apply
  split <;> simp

@[simp] theorem applyAll_length (fields : List Value) (segments : List Segment) :
    (applyAll fields segments).length = fields.length := by
  unfold applyAll
  induction segments generalizing fields with
  | nil => rfl
  | cons s segments ih => rw [List.foldl_cons, ih, apply_length]

theorem applyAll_getElem?_of_none (none : ∀ s ∈ segments, s.index = i → s.update = none) :
    (applyAll fields segments)[i]? = fields[i]? := by
  unfold applyAll
  induction segments generalizing fields with
  | nil => rfl
  | cons s segments ih =>
    rw [List.foldl_cons, ih fun r mem => none r (List.mem_cons_of_mem _ mem)]
    by_cases same : s.index = i
    · rw [apply, none s List.mem_cons_self same]
    · exact apply_getElem?_of_ne same

/-- Contents put where no segment puts any may be put there before or after. -/
theorem applyAll_set (other : ∀ s ∈ segments, s.index ≠ i) :
    applyAll (fields.set i v) segments = (applyAll fields segments).set i v := by
  unfold applyAll
  induction segments generalizing fields with
  | nil => rfl
  | cons s segments ih =>
    have first : apply (fields.set i v) s = (apply fields s).set i v := by
      unfold apply
      split
      · exact List.set_comm _ _ (Ne.symm (other s List.mem_cons_self))
      · rfl
    rw [List.foldl_cons, List.foldl_cons, first]
    exact ih fun r mem => other r (List.mem_cons_of_mem _ mem)

theorem applyAll_getElem? (distinct : (segments.map (·.index)).Nodup) {s : Segment}
    (mem : s ∈ segments) (update : s.update = some v) (bound : s.index < fields.length) :
    (applyAll fields segments)[s.index]? = some v := by
  induction segments generalizing fields with
  | nil => simp at mem
  | cons first segments ih =>
    rw [List.map_cons, List.nodup_cons] at distinct
    rcases List.mem_cons.mp mem with rfl | mem
    · have kept : (applyAll (apply fields s) segments)[s.index]? = (apply fields s)[s.index]? := by
        refine applyAll_getElem?_of_none fun r mem same => absurd ?_ distinct.1
        exact List.mem_map.mpr ⟨r, mem, same⟩
      refine kept.trans ?_
      rw [apply, update]
      exact List.getElem?_set_self bound
    · exact ih distinct.2 mem (by simpa using bound)

end Segment

variable {b : Binder} {owner : String} {t : TypeId} {pending : List Pending}
  {tokens rest : List String} {segments : List Segment}

theorem TypeTable.pending_nodup (table : TypeTable) (t : TypeId) :
    ((table.pending t).map (·.index)).Nodup := by
  have range : (table.pending t).map (·.index) = List.range (table.fields t).length :=
    List.ext_getElem (by simp [pending]) (by simp [pending])
  rw [range]
  exact List.nodup_range

theorem TypeTable.pending_eq {table : TypeTable} {p q : Pending} (hp : p ∈ table.pending t)
    (hq : q ∈ table.pending t) (same : p.index = q.index) : p = q := by
  rcases p with ⟨i, f⟩
  rcases q with ⟨j, g⟩
  obtain rfl : i = j := same
  rw [mem_pending] at hp hq
  obtain rfl : f = g := Option.some.inj (hp.symm.trans hq)
  rfl

namespace Binder

/-- Of options at different places the one that is selected is not left, and the others are at
different places. -/
theorem nodup_of_select {token : String} {s : Selection}
    (distinct : (pending.map (·.index)).Nodup) (h : select token pending = some s) :
    s.chosen.index ∉ s.others.map (·.index) ∧ (s.others.map (·.index)).Nodup := by
  obtain ⟨-, earlier, later, rfl, others, -⟩ := select_eq_some_iff.mp h
  have moved := (List.perm_middle.map Pending.index).nodup_iff.mp distinct
  rwa [List.map_cons, List.nodup_cons, ← others] at moved

/-- Segments have the places of options that were pending. -/
theorem scan_index_mem {i : Nat}
    (mem : i ∈ (b.scan owner pending tokens).segments.map (·.index)) :
    i ∈ pending.map (·.index) := by
  obtain ⟨segment, found, rfl⟩ := List.mem_map.mp mem
  obtain ⟨s, rest, c, taken, rfl⟩ := takes_of_mem found
  exact List.mem_map.mpr ⟨_, taken.chosen_mem, rfl⟩

/-- **Each option is bound at most once**, however the scan ends. -/
theorem scan_nodup (distinct : (pending.map (·.index)).Nodup) :
    ((b.scan owner pending tokens).segments.map (·.index)).Nodup := by
  induction pending, tokens using b.scan_induction owner with
  | nil pending => simp [scan_nil]
  | unclaimed pending token rest unclaimed => simp [scan_cons_none unclaimed]
  | failed pending token rest s e selected failed => simp [scan_cons_error selected failed]
  | claimed pending token rest s c selected claimed ih =>
    obtain ⟨fresh, distinct⟩ := nodup_of_select distinct selected
    rw [scan_cons_ok selected claimed, Scan.after, List.map_cons, List.nodup_cons]
    exact ⟨fun mem => fresh (scan_index_mem mem), ih distinct⟩

/-- What a scan has taken is among its segments, however it ends. -/
theorem Takes.segment_mem {s : Selection} {c : Claim}
    (taken : b.Takes owner pending tokens s rest c) :
    c.segment s.chosen.index ∈ (b.scan owner pending tokens).segments := by
  induction taken with
  | here selected claimed =>
    rw [scan_cons_ok selected claimed]
    exact List.mem_cons_self
  | later selected claimed taken ih =>
    rw [scan_cons_ok selected claimed]
    exact List.mem_cons_of_mem _ ih

theorem Finds.index_mem (h : b.Finds owner pending tokens segments) {i : Nat}
    (mem : i ∈ segments.map (·.index)) : i ∈ pending.map (·.index) :=
  scan_index_mem (h.segments_eq ▸ mem)

theorem Finds.nodup (h : b.Finds owner pending tokens segments)
    (distinct : (pending.map (·.index)).Nodup) : (segments.map (·.index)).Nodup :=
  h.segments_eq ▸ scan_nodup distinct

theorem Finds.segment_mem (h : b.Finds owner pending tokens segments) {s : Selection} {c : Claim}
    (taken : b.Takes owner pending tokens s rest c) : c.segment s.chosen.index ∈ segments :=
  h.segments_eq ▸ taken.segment_mem

/-- **What a field holds after matching**, once a selection of it has made a claim: what the claim
puts there, or else what it held before. Whether the scan fails later does not matter. -/
theorem bindFields_of_takes (accepted : b.Accepts t) {s : Selection} {c : Claim}
    (taken : b.Takes (b.table.recordName t) (b.table.pending t) tokens s rest c)
    (fields : List Value) :
    (b.bindFields t fields tokens).fields[s.chosen.index]? =
      fields[s.chosen.index]?.map fun old => c.update.getD old := by
  have distinct : ((b.scanFor t tokens).segments.map (·.index)).Nodup :=
    scan_nodup (b.table.pending_nodup t)
  have mem := taken.segment_mem
  rw [bindFields_fields accepted]
  cases update : c.update with
  | none =>
    refine (Segment.applyAll_getElem?_of_none fun segment listed same => ?_).trans (by simp)
    obtain rfl : segment = c.segment s.chosen.index :=
      List.inj_on_of_nodup_map distinct listed mem same
    exact update
  | some v =>
    cases before : fields[s.chosen.index]? with
    | none =>
      have short : fields.length ≤ s.chosen.index := List.getElem?_eq_none_iff.mp before
      exact List.getElem?_eq_none (by simpa using short)
    | some old =>
      have bound := (List.getElem?_eq_some_iff.mp before).1
      exact Segment.applyAll_getElem? distinct mem update bound

/-- **What the tokens give a field** of a type: the contents that the field's claim puts there. -/
def Gives (b : Binder) (t : TypeId) (tokens : List String) (p : Pending) (v : Value) : Prop :=
  ∃ s rest c, b.Takes (b.table.recordName t) (b.table.pending t) tokens s rest c ∧ s.chosen = p ∧
    c.update = some v

theorem Gives.field {p : Pending} {v : Value} (h : b.Gives t tokens p v) :
    (b.table.fields t)[p.index]? = some p.field := by
  obtain ⟨s, rest, c, taken, rfl, -⟩ := h
  exact TypeTable.mem_pending.mp taken.chosen_mem

/-- **Contents that the tokens give are the contents after the scan.** -/
theorem FindsFor.contents_of_gives (h : b.FindsFor t tokens segments) {p : Pending} {v : Value}
    (given : b.Gives t tokens p v) :
    (Segment.applyAll (b.table.fresh t) segments)[p.index]? = some v := by
  have field := given.field
  obtain ⟨s, rest, c, taken, rfl, update⟩ := given
  have bound : s.chosen.index < (b.table.fresh t).length := by
    simpa [TypeTable.fresh] using (List.getElem?_eq_some_iff.mp field).1
  exact Segment.applyAll_getElem? (h.nodup (b.table.pending_nodup t)) (h.segment_mem taken) update
    bound

/-- A field that the tokens give nothing is as fresh after the scan. -/
theorem FindsFor.contents_of_not (h : b.FindsFor t tokens segments) {p : Pending}
    (field : (b.table.fields t)[p.index]? = some p.field) (none : ∀ v, ¬ b.Gives t tokens p v) :
    (Segment.applyAll (b.table.fresh t) segments)[p.index]? = some p.field.shape.fresh := by
  have fresh : (b.table.fresh t)[p.index]? = some p.field.shape.fresh := by
    simp [TypeTable.fresh, field]
  rw [Segment.applyAll_getElem?_of_none, fresh]
  intro segment mem same
  rw [← h.segments_eq] at mem
  obtain ⟨s, rest, c, taken, rfl⟩ := takes_of_mem mem
  have eq : s.chosen = p :=
    TypeTable.pending_eq taken.chosen_mem (TypeTable.mem_pending.mpr field) same
  cases update : c.update with
  | none => exact update
  | some v => exact absurd ⟨s, rest, c, taken, eq, update⟩ (none v)

end Binder

end OptionBinding
