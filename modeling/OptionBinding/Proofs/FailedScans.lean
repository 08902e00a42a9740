import OptionBinding.Proofs.Locality
import OptionBinding.Proofs.Segments
import OptionBinding.Regex.Standard

/-!
# Scans that fail

A scan fails where the claim of a selected option does (`Breaks`, `breaks_iff`). The segments found
up to there are those that a scan finds of the tokens up to there alone (`Breaks.found`): what was
taken before does not depend on the tokens that follow it, by locality, and the option that fails is
still pending. Hence binding that fails leaves what binding a prefix of the tokens leaves, and the
option that failed has not touched its field (`bindFields_prefix`).
-/

namespace OptionBinding

variable {b : Binder} {owner : String} {t : TypeId} {pending : List Pending}
  {tokens rest : List String} {segments : List Segment} {s : Selection} {e : NoResult BindError}

namespace Binder

/-- **A scan that fails**, and the segments it finds before: the selection `s`, followed by the
tokens `rest`, makes no claim. -/
inductive Breaks (b : Binder) (owner : String) :
    List Pending → List String → List Segment → Selection → List String → NoResult BindError → Prop
  | here {pending : List Pending} {token : String} {rest : List String} {s : Selection}
      {e : NoResult BindError} (selected : select token pending = some s)
      (failed : (b.claim owner s rest).outcome = .error e) :
      Breaks b owner pending (token :: rest) [] s rest e
  | later {pending : List Pending} {token : String} {rest rest' : List String} {s s' : Selection}
      {c : Claim} {segments : List Segment} {e : NoResult BindError}
      (selected : select token pending = some s) (claimed : (b.claim owner s rest).outcome = .ok c)
      (broken : Breaks b owner s.others (rest.drop c.extra) segments s' rest' e) :
      Breaks b owner pending (token :: rest) (c.segment s.chosen.index :: segments) s' rest' e

theorem breaks_iff :
    (b.scan owner pending tokens).outcome = .error e ∧
        (b.scan owner pending tokens).segments = segments ↔
      ∃ s rest, b.Breaks owner pending tokens segments s rest e := by
  constructor
  · rintro ⟨ended, rfl⟩
    induction pending, tokens using b.scan_induction owner with
    | nil pending => simp [scan_nil] at ended
    | unclaimed pending token rest unclaimed => simp [scan_cons_none unclaimed] at ended
    | failed pending token rest s e' selected failed =>
      rw [scan_cons_error selected failed] at ended ⊢
      obtain rfl : e' = e := Except.error.inj ended
      exact ⟨s, rest, .here selected failed⟩
    | claimed pending token rest s c selected claimed ih =>
      rw [scan_cons_ok selected claimed] at ended ⊢
      obtain ⟨s', rest', broken⟩ := ih ended
      exact ⟨s', rest', .later selected claimed broken⟩
  · rintro ⟨s, rest, broken⟩
    induction broken with
    | here selected failed => simp [scan_cons_error selected failed]
    | later selected claimed broken ih =>
      rw [scan_cons_ok selected claimed]
      exact ⟨ih.1, congrArg _ ih.2⟩

namespace Breaks

variable (h : b.Breaks owner pending tokens segments s rest e)
include h

theorem failed : (b.claim owner s rest).outcome = .error e := by
  induction h with
  | here _ failed => exact failed
  | later _ _ _ ih => exact ih

theorem chosen_mem : s.chosen ∈ pending := by
  induction h with
  | here selected failed => exact chosen_mem_of_select selected
  | later selected claimed broken ih => exact mem_of_mem_others selected ih

/-- The token of the selection stands after the segments. -/
theorem drop_eq : ∃ token, tokens.drop (Segment.totalWidth segments) = token :: rest ∧
    s.chosen.field.descriptor.recognise token = some s.form := by
  induction h with
  | here selected failed => exact ⟨_, rfl, (select_eq_some_iff.mp selected).1⟩
  | @later pending token rest rest' s s' c segments e selected claimed broken ih =>
    obtain ⟨token', after, recognised⟩ := ih
    refine ⟨token', ?_, recognised⟩
    rw [Claim.totalWidth_segment_cons, List.drop_succ_cons, ← List.drop_drop, after]

/-- **The segments are those of the tokens up to the failure.** -/
theorem found : b.Finds owner pending (tokens.take (Segment.totalWidth segments)) segments := by
  induction h with
  | here selected failed => exact .stop (by simp)
  | @later pending token rest rest' s s' c segments e selected claimed broken ih =>
    obtain ⟨taken, after, rfl, len, same⟩ :=
      claim_local (b.localBelow (rest.length + 1)) (Nat.lt_succ_self _) claimed
    rw [← len, List.drop_left] at ih
    rw [Claim.totalWidth_segment_cons, ← len, List.take_succ_cons, List.take_length_add_append]
    -- What is left of the rest ends, or goes on as before.
    have goesOn : Continues after (after.take (Segment.totalWidth segments)) := by
      cases Segment.totalWidth segments with
      | zero => exact .inl rfl
      | succ k => exact .inr (by cases after <;> rfl)
    refine .take selected (same _ goesOn) ?_
    rwa [← len, List.drop_left]

/-- No segment has the option that fails. -/
theorem index_not_mem (distinct : (pending.map (·.index)).Nodup) :
    s.chosen.index ∉ segments.map (·.index) := by
  induction h with
  | here => simp
  | @later pending token rest rest' s s' c segments e selected claimed broken ih =>
    obtain ⟨fresh, distinct⟩ := nodup_of_select distinct selected
    rw [List.map_cons, List.mem_cons, not_or]
    refine ⟨fun same => fresh ?_, ih distinct⟩
    have among := List.mem_map_of_mem (f := Pending.index) broken.chosen_mem
    rwa [same] at among

end Breaks

theorem bindFields_error_iff {fields : List Value} :
    (b.bindFields t fields tokens).run.outcome = .error e ↔
      (b.schema t).outcome = .error e ∨
        b.Accepts t ∧ (b.scanFor t tokens).outcome = .error e := by
  rw [bindFields]
  cases checked : (b.schema t).outcome with
  | error e' =>
    have rejected : ¬ b.Accepts t := fun a => by simp [schema_ok_iff.mpr a] at checked
    simp [rejected]
  | ok u =>
    have accepted : b.Accepts t := schema_ok_iff.mp checked
    cases ended : (b.scanFor t tokens).outcome with
    | error e' => simp [accepted, ended, Except.map]
    | ok u => simp [ended, Except.map]

/-- **Binding that fails leaves no option half bound.** Either the check of the type failed and
nothing has changed, or the tokens up to some place bind by themselves, all of them, and leave what
was left; there an option is selected that fails, and its field is as before. -/
theorem bindFields_prefix {fields : List Value} {args : List String} {start : Nat}
    (h : (b.bindFields t fields (args.drop start)).run.outcome = .error e) :
    (b.schema t).outcome = .error e ∧ (b.bindFields t fields (args.drop start)).fields = fields ∨
      ∃ k, (b.bindFields t fields ((args.take (start + k)).drop start)).run.outcome = .ok k ∧
        (b.bindFields t fields ((args.take (start + k)).drop start)).fields =
          (b.bindFields t fields (args.drop start)).fields ∧
        ∃ token s, args[start + k]? = some token ∧ s.chosen ∈ b.table.pending t ∧
          s.chosen.field.descriptor.recognise token = some s.form ∧
          (b.claim (b.table.recordName t) s (args.drop (start + k + 1))).outcome = .error e ∧
          (b.bindFields t fields (args.drop start)).fields[s.chosen.index]? =
            fields[s.chosen.index]? := by
  rcases bindFields_error_iff.mp h with rejected | ⟨accepted, ended⟩
  · refine .inl ⟨rejected, bindFields_fields_of_not (fun accepted => ?_) fields⟩
    simp [schema_ok_iff.mpr accepted] at rejected
  · obtain ⟨s, rest, broken⟩ := breaks_iff.mp ⟨ended, rfl⟩
    generalize same : (b.scanFor t (args.drop start)).segments = segments at broken
    obtain ⟨token, after, recognised⟩ := broken.drop_eq
    have cut : (args.take (start + Segment.totalWidth segments)).drop start =
        (args.drop start).take (Segment.totalWidth segments) := by
      rw [List.drop_take, Nat.add_sub_cancel_left]
    have left : (b.bindFields t fields (args.drop start)).fields =
        Segment.applyAll fields segments := by
      rw [bindFields_fields accepted, same]
    rw [List.drop_drop] at after
    refine .inr ⟨Segment.totalWidth segments, ?_, ?_, token, s, ?_, broken.chosen_mem, recognised,
      ?_, ?_⟩
    · rw [cut]
      exact bindFields_ok_iff.mpr ⟨accepted, _, broken.found, rfl⟩
    · rw [cut, left, bindFields_fields accepted, broken.found.segments_eq]
    · rw [← List.head?_drop, after]
      rfl
    · rw [← List.drop_drop, after]
      exact broken.failed
    · rw [left]
      refine Segment.applyAll_getElem?_of_none fun segment mem at' => ?_
      refine absurd ?_ (broken.index_not_mem (b.table.pending_nodup t))
      exact List.mem_map.mpr ⟨segment, mem, at'⟩

/-- A binder for a switch and any number of letters. -/
def letterBinder : Binder where
  table :=
    [{ fullName := "Letters", shortName := "Letters",
       fields :=
        [{ descriptor := { name := "x" }, shape := .flag },
         { descriptor := { name := "c" }, shape := .collection .vector (.scalar .char) }] }]
  registry := .builtin

/-- The second letter is none. -/
def letterTokens : List String := ["-", "-x", "-c=a", "-c="]

theorem letterBinder_breaks :
    ∃ s rest, letterBinder.Breaks "Letters" (letterBinder.table.pending 0) (letterTokens.drop 1)
      [⟨0, 1, some (.scalar (.bool true))⟩] s rest
      (.failed (.conversion "-c" "" .noCharacter)) := by
  have switch : select "-x" (letterBinder.table.pending 0) =
      some ⟨⟨0, (letterBinder.table.fields 0)[0]⟩, .exact,
        (letterBinder.table.pending 0).drop 1⟩ := by decide +kernel
  have letters : select "-c=a" ((letterBinder.table.pending 0).drop 1) =
      some ⟨⟨1, (letterBinder.table.fields 0)[1]⟩, .delimited "a", []⟩ := by decide +kernel
  have run : ((letterBinder.table.fields 0)[1]).descriptor.capturedRun ["-c="] = [""] := by
    decide +kernel
  have failed : (letterBinder.bindText "Letters" (letterBinder.table.fields 0)[1] "a"
      ["-c="]).outcome = .error (.failed (.conversion "-c" "" .noCharacter)) := by
    rw [bindText, run]
    rfl
  exact ⟨_, _, .later switch (bindFlag_ok_iff.mpr (.switched (.inl rfl))) (.here letters failed)⟩

/-- The switch is on then, and no letter is held, not even the first one. -/
theorem bindFields_prefix_letters :
    (letterBinder.bindFields 0 (letterBinder.table.fresh 0) (letterTokens.drop 1)).run.outcome =
        .error (.failed (.conversion "-c" "" .noCharacter)) ∧
      (letterBinder.bindFields 0 (letterBinder.table.fresh 0) (letterTokens.drop 1)).fields =
        [.scalar (.bool true), .items []] ∧
      ∃ k, (letterBinder.bindFields 0 (letterBinder.table.fresh 0)
          ((letterTokens.take (1 + k)).drop 1)).run.outcome = .ok k ∧
        (letterBinder.bindFields 0 (letterBinder.table.fresh 0)
          ((letterTokens.take (1 + k)).drop 1)).fields = [.scalar (.bool true), .items []] := by
  have accepted : letterBinder.Accepts 0 := .inr rfl
  obtain ⟨ended, segments⟩ := breaks_iff.mpr letterBinder_breaks
  have left : (letterBinder.bindFields 0 (letterBinder.table.fresh 0)
      (letterTokens.drop 1)).fields = [.scalar (.bool true), .items []] := by
    rw [bindFields_fields accepted]
    exact congrArg (Segment.applyAll _) segments
  have failed : (letterBinder.bindFields 0 (letterBinder.table.fresh 0)
      (letterTokens.drop 1)).run.outcome = .error (.failed (.conversion "-c" "" .noCharacter)) :=
    bindFields_error_iff.mpr (.inr ⟨accepted, ended⟩)
  refine ⟨failed, left, ?_⟩
  rcases bindFields_prefix failed with ⟨rejected, -⟩ | ⟨k, bound, same, -⟩
  · simp [schema_ok_iff.mpr accepted] at rejected
  · exact ⟨k, bound, same.trans left⟩

end Binder

end OptionBinding
