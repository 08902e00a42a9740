import Mathlib.Data.List.Perm.Subperm
import OptionBinding.Proofs.Locality
import OptionBinding.Proofs.Recognition
import OptionBinding.Proofs.Segments
import OptionBinding.Regex.Standard

/-!
# How a scan divides its tokens

A scan that comes to its end divides the tokens that it takes into pieces, one after another, each
of which one option takes (`Division`). A piece starts with a token that selects its option; of the
options that have no piece yet none that is declared before this one is selected by that token; and
no option is left that the token after the last piece selects. The pieces are those of the segments
that the scan finds (`Finds.division`), and the fields without a piece are untouched
(`bindFields_division`).

The induction is on the scan. Options stay pending in their order of declaration, so the first one
that recognises a token is the first in that order.
-/

namespace OptionBinding

/-- A run of tokens that one option takes: the token that selects it, and those that it takes
besides. -/
structure Piece where
  option : Pending
  first : String
  more : List String

def Piece.tokens (p : Piece) : List String := p.first :: p.more

/-- **A division of tokens among options** that are pending in this order, where `next` is the token
after them, if there is one. The pieces make up the tokens, and no option has two. The first token
of a piece selects its option, and none that is declared before it and has no earlier piece; the
next token selects no option without a piece. -/
structure Division (pending : List Pending) (taken : List String) (next : Option String)
    (pieces : List Piece) : Prop where
  split : taken = pieces.flatMap Piece.tokens
  distinct : (pieces.map Piece.option).Nodup
  selected : ∀ (before : List Piece) (piece : Piece) (after : List Piece),
    pieces = before ++ piece :: after →
      piece.option ∈ pending ∧ piece.option.field.descriptor.Recognises piece.first ∧
        ∀ p ∈ pending, p.index < piece.option.index → p ∉ before.map Piece.option →
          ¬ p.field.descriptor.Recognises piece.first
  maximal : ∀ token ∈ next, ∀ p ∈ pending, p ∉ pieces.map Piece.option →
    ¬ p.field.descriptor.Recognises token

variable {b : Binder} {owner : String} {t : TypeId} {pending : List Pending} {tokens : List String}
  {pieces : List Piece}

/-- Of options in order, the one that is selected is not left, the others stay as they are, and no
earlier one recognises the token. -/
theorem select_ordered {s : Selection} {token : String}
    (ordered : pending.Pairwise fun p q => p.index < q.index)
    (chosen : select token pending = some s) :
    (s.others.Pairwise fun p q => p.index < q.index) ∧ s.chosen ∉ s.others ∧
      (∀ p, p ∈ pending ↔ p = s.chosen ∨ p ∈ s.others) ∧
      ∀ p ∈ pending, p.index < s.chosen.index → p.field.descriptor.recognise token = none := by
  obtain ⟨-, earlier, later, rfl, others, unrecognised⟩ := select_eq_some_iff.mp chosen
  have kept := ordered.sublist (List.Sublist.append_left (List.sublist_cons_self s.chosen later) _)
  rw [List.pairwise_append, List.pairwise_cons] at ordered
  obtain ⟨-, ⟨before, -⟩, after⟩ := ordered
  rw [others]
  refine ⟨kept, fun mem => ?_, fun p => ?_, fun p mem lower => unrecognised p ?_⟩
  · rcases List.mem_append.mp mem with mem | mem
    · exact Nat.lt_irrefl _ (after _ mem _ List.mem_cons_self)
    · exact Nat.lt_irrefl _ (before _ mem)
  · simp only [List.mem_append, List.mem_cons]
    exact or_left_comm
  · rcases List.mem_append.mp mem with mem | mem
    · exact mem
    · rcases List.mem_cons.mp mem with rfl | mem
      · exact absurd lower (Nat.lt_irrefl _)
      · exact absurd lower (Nat.lt_asymm (before p mem))

namespace Division

variable {taken : List String} {next : Option String}

theorem option_mem (h : Division pending taken next pieces) {piece : Piece}
    (mem : piece ∈ pieces) : piece.option ∈ pending := by
  obtain ⟨before, after, rfl⟩ := List.append_of_mem mem
  exact (h.selected before piece after rfl).1

theorem length_le (h : Division pending taken next pieces) : pieces.length ≤ pending.length := by
  have among : ∀ p ∈ pieces.map Piece.option, p ∈ pending := by
    intro p listed
    obtain ⟨piece, mem, rfl⟩ := List.mem_map.mp listed
    exact h.option_mem mem
  simpa using (List.subperm_of_subset h.distinct among).length_le

theorem cons {s : Selection} {token : String} {more : List String}
    (ordered : pending.Pairwise fun p q => p.index < q.index)
    (chosen : select token pending = some s) (h : Division s.others taken next pieces) :
    Division pending (token :: more ++ taken) next (⟨s.chosen, token, more⟩ :: pieces) := by
  have recognised := (select_eq_some_iff.mp chosen).1
  obtain ⟨-, distinct, mem_iff, unrecognised⟩ := select_ordered ordered chosen
  refine ⟨?_, ?_, ?_, ?_⟩
  · simp [h.split, Piece.tokens]
  · rw [List.map_cons, List.nodup_cons]
    refine ⟨fun listed => ?_, h.distinct⟩
    obtain ⟨piece, mem, same⟩ := List.mem_map.mp listed
    have among := h.option_mem mem
    rw [same] at among
    exact distinct among
  · intro before piece after split
    cases before with
    | nil =>
      obtain ⟨rfl, rfl⟩ := List.cons.inj split
      refine ⟨(mem_iff _).mpr (.inl rfl), Descriptor.recognises_of_recognise recognised,
        fun p mem lower _ => ?_⟩
      exact Descriptor.recognise_eq_none_iff.mp (unrecognised p mem lower)
    | cons head before =>
      obtain ⟨rfl, rfl⟩ := List.cons.inj split
      obtain ⟨mem, selects, first⟩ := h.selected before piece after rfl
      refine ⟨(mem_iff _).mpr (.inr mem), selects, fun p among lower fresh => ?_⟩
      rw [List.map_cons, List.mem_cons, not_or] at fresh
      exact first p (((mem_iff p).mp among).resolve_left fresh.1) lower fresh.2
  · intro token' at' p among fresh
    rw [List.map_cons, List.mem_cons, not_or] at fresh
    exact h.maximal token' at' p (((mem_iff p).mp among).resolve_left fresh.1) fresh.2

end Division

namespace Binder

/-- The piece is what its option takes when it is selected in the scan of the tokens. -/
def TakesPiece (b : Binder) (owner : String) (pending : List Pending) (tokens : List String)
    (piece : Piece) : Prop :=
  ∃ s rest c, b.Takes owner pending tokens s rest c ∧ s.chosen = piece.option ∧
    piece.more = rest.take c.extra

/-- **A scan that comes to its end divides its tokens** into the pieces that the options take, one
for each segment. -/
theorem Finds.division {segments : List Segment} (h : b.Finds owner pending tokens segments)
    (ordered : pending.Pairwise fun p q => p.index < q.index) :
    ∃ pieces, Division pending (tokens.take (Segment.totalWidth segments))
        tokens[Segment.totalWidth segments]? pieces ∧
      (∀ piece ∈ pieces, b.TakesPiece owner pending tokens piece) ∧
      pieces.map (·.option.index) = segments.map (·.index) := by
  induction h with
  | @stop pending tokens unclaimed =>
    refine ⟨[], ⟨by simp, by simp, by simp, fun token mem p among _ => ?_⟩, by simp, rfl⟩
    have none := select_eq_none_iff.mp
      (unclaimed token (by simpa [List.head?_eq_getElem?] using mem))
    exact Descriptor.recognise_eq_none_iff.mp (none p among)
  | @take pending token rest s c segments selected claimed others ih =>
    obtain ⟨pieces, division, taken, indices⟩ := ih (select_ordered ordered selected).1
    refine ⟨⟨s.chosen, token, rest.take c.extra⟩ :: pieces, ?_, ?_, ?_⟩
    · rw [List.getElem?_drop] at division
      rw [Claim.totalWidth_segment_cons, List.take_succ_cons, List.getElem?_cons_succ,
        List.take_add]
      exact division.cons ordered selected
    · intro piece mem
      rcases List.mem_cons.mp mem with rfl | mem
      · exact ⟨s, rest, c, .here selected claimed, rfl, rfl⟩
      · obtain ⟨s', rest', c', later, chosen, more⟩ := taken piece mem
        exact ⟨s', rest', c', .later selected claimed later, chosen, more⟩
    · rw [List.map_cons, List.map_cons, indices]
      rfl

end Binder

theorem TypeTable.pending_ordered (table : TypeTable) (t : TypeId) :
    (table.pending t).Pairwise fun p q => p.index < q.index := by
  rw [List.pairwise_iff_getElem]
  intro i j hi hj lower
  simpa [pending] using lower

namespace Binder

/-- **The first declared option wins, each is bound at most once, and scanning is maximal.** Binding
that succeeds takes tokens that are there. They are divided into pieces, at most one for each
option; each piece is what the first declared option without a piece takes that its first token
selects, and the token after them selects no option without a piece. The fields without a piece are
as before. -/
theorem bindFields_division {fields : List Value} {args : List String} {start n : Nat}
    (h : (b.bindFields t fields (args.drop start)).run.outcome = .ok n) :
    n ≤ args.length - start ∧
      ∃ pieces : List Piece,
        Division (b.table.pending t) ((args.drop start).take n) args[start + n]? pieces ∧
        (∀ piece ∈ pieces,
          b.TakesPiece (b.table.recordName t) (b.table.pending t) (args.drop start) piece) ∧
        pieces.length ≤ (b.table.fields t).length ∧
        ∀ i, (∀ piece ∈ pieces, piece.option.index ≠ i) →
          (b.bindFields t fields (args.drop start)).fields[i]? = fields[i]? := by
  obtain ⟨accepted, segments, found, rfl⟩ := bindFields_ok_iff.mp h
  obtain ⟨pieces, division, taken, indices⟩ := found.division (b.table.pending_ordered t)
  rw [List.getElem?_drop] at division
  refine ⟨?_, pieces, division, taken, ?_, fun i untouched => ?_⟩
  · rw [← List.length_drop]
    exact (found.local (b.localBelow _) (Nat.le_refl _)).width_le
  · simpa [TypeTable.pending] using division.length_le
  · rw [bindFields_fields accepted, found.segments_eq]
    refine Segment.applyAll_getElem?_of_none fun segment mem same => ?_
    have piece : segment.index ∈ pieces.map (·.option.index) := by
      rw [indices]
      exact List.mem_map_of_mem mem
    obtain ⟨piece, mem, at'⟩ := List.mem_map.mp piece
    exact absurd (at'.trans same) (untouched piece mem)

/-- A binder for a text and a switch, where the name of the switch reads as the text `b`. -/
def overlapBinder : Binder where
  table :=
    [{ fullName := "Overlap", shortName := "Overlap",
       fields :=
        [{ descriptor := { name := "a" }, shape := .single (.scalar .text) },
         { descriptor := { name := "a=b" }, shape := .flag }] }]
  registry := .builtin

theorem overlapBinder_finds :
    overlapBinder.FindsFor 0 ["-a=b", "-a=b", "-a=b"]
      [⟨0, 1, some (.scalar (.text "b"))⟩, ⟨1, 1, some (.scalar (.bool true))⟩] := by
  have text : select "-a=b" (overlapBinder.table.pending 0) =
      some ⟨⟨0, (overlapBinder.table.fields 0)[0]⟩, .delimited "b",
        (overlapBinder.table.pending 0).drop 1⟩ := by decide +kernel
  have switch : select "-a=b" ((overlapBinder.table.pending 0).drop 1) =
      some ⟨⟨1, (overlapBinder.table.fields 0)[1]⟩, .exact, []⟩ := by decide +kernel
  refine .take (c := ⟨some (.scalar (.text "b")), 0⟩) text rfl ?_
  exact .take switch (bindFlag_ok_iff.mpr (.switched (.inl rfl))) (.stop fun _ _ => rfl)

/-- Of three tokens alike, the first goes to the text, the second to the switch, and the third to
none. -/
theorem bindFields_division_overlap :
    (overlapBinder.bindFields 0 (overlapBinder.table.fresh 0)
        (["-z", "-a=b", "-a=b", "-a=b"].drop 1)).run.outcome = .ok 2 ∧
      ∃ pieces : List Piece, Division (overlapBinder.table.pending 0) ["-a=b", "-a=b"]
        (some "-a=b") pieces := by
  have bound : (overlapBinder.bindFields 0 (overlapBinder.table.fresh 0)
      (["-z", "-a=b", "-a=b", "-a=b"].drop 1)).run.outcome = .ok 2 :=
    bindFields_ok_iff.mpr ⟨.inr rfl, _, overlapBinder_finds, rfl⟩
  obtain ⟨-, pieces, division, -⟩ := bindFields_division bound
  exact ⟨bound, pieces, division⟩

end Binder

end OptionBinding
