import OptionBinding.Proofs.PatternMeaning

/-!
# Whether an expression occurs in a text

A search drops threads that come to an address where another one has been at the same place. None is
lost by that: whatever address a thread has been at, if it can accept from there in so many steps,
then a thread that has settled can accept, or one that has not can in fewer steps
(`Arriving.covered`). So a search finds something if and only if a thread that starts somewhere in
the text can accept (`Program.isSome_find_iff`), whether or not there are loops in the program that
take no character, and an expression occurs in a text if and only if it leads from some place of the
text to another (`isMatch_iff`).
-/

namespace OptionBinding.Regex

namespace Program

variable {p : Program} {t u : Thread} {threads settled : List Thread} {visits : Visits}
  {a fuel index n : Nat} {before : Option Char} {rest : List Char}

/-- One of the threads can accept from the place that they are at. -/
def SomeAccepts (p : Program) (before : Option Char) (rest : List Char) (threads : List Thread) :
    Prop :=
  ∃ t ∈ threads, p.Accepts t.address ⟨before, rest⟩

theorem someAccepts_cons : p.SomeAccepts before rest (t :: threads) ↔
    p.Accepts t.address ⟨before, rest⟩ ∨ p.SomeAccepts before rest threads := by
  simp [SomeAccepts]

theorem someAccepts_append {more : List Thread} :
    p.SomeAccepts before rest (threads ++ more) ↔
      p.SomeAccepts before rest threads ∨ p.SomeAccepts before rest more := by
  simp [SomeAccepts, or_and_right, exists_or]

/-- A thread that moves accepts as one of those that it becomes, which do so in fewer steps. -/
theorem acceptsIn_onward (moves : p.waits t.address = false) :
    p.AcceptsIn (n + 1) t.address ⟨before, rest⟩ ↔
      ∃ u ∈ p.onward (.between index before rest) t, p.AcceptsIn n u.address ⟨before, rest⟩ := by
  unfold onward
  cases found : p[t.address]? with
  | none => simp [not_acceptsIn_none found]
  | some i =>
    cases i with
    | take s => simp [waits, found] at moves
    | accept => simp [waits, found] at moves
    | check k =>
      have meets : Cursor.Meets k ⟨before, rest⟩ ↔
          k.holds (Place.between index before rest).before (Place.between index before rest).after =
            true := Iff.rfl
      rw [acceptsIn_check found, meets]
      dsimp only
      split_ifs with holds <;> simp [holds, Thread.next, Thread.goTo]
    | mark slot => simp [acceptsIn_mark found, Thread.next, Thread.goTo, Thread.mark]
    | jump target => simp [acceptsIn_jump found, Thread.goTo]
    | fork preferred other => simp [acceptsIn_fork found, Thread.goTo]

theorem accepts_onward (moves : p.waits t.address = false) :
    p.SomeAccepts before rest (p.onward (.between index before rest) t) ↔
      p.Accepts t.address ⟨before, rest⟩ := by
  constructor
  · rintro ⟨u, mem, n, accepts⟩
    exact ⟨n + 1, (acceptsIn_onward moves).mpr ⟨u, mem, accepts⟩⟩
  · rintro ⟨n, accepts⟩
    cases n with
    | zero => exact accepts.elim
    | succ n =>
      obtain ⟨u, mem, later⟩ := (acceptsIn_onward moves).mp accepts
      exact ⟨u, mem, n, later⟩

/-! ### Threads settle -/

/-- How far threads have settled at a place, where it is told whether one of them can accept. -/
structure Arriving (p : Program) (index : Nat) (before : Option Char) (rest : List Char)
    (outcome : Prop) (fuel : Nat) (threads settled : List Thread) (visits : Visits) : Prop where
  enough : threads.length + 2 * visits.fresh (.between index before rest) ≤ fuel
  size : visits.size = p.size
  precede : visits.Precede (index + 1)
  waits : ∀ t ∈ settled, p.waits t.address = true
  covered : ∀ {a n : Nat}, visits.has (.between index before rest) a = true →
    p.AcceptsIn n a ⟨before, rest⟩ → p.SomeAccepts before rest settled ∨
      ∃ u ∈ threads, ∃ m < n, p.AcceptsIn m u.address ⟨before, rest⟩
  same : p.SomeAccepts before rest settled ∨ p.SomeAccepts before rest threads ↔ outcome

/-- What has become of threads that have settled at a place. -/
structure Arrived (p : Program) (index : Nat) (before : Option Char) (rest : List Char)
    (outcome : Prop) (result : List Thread × Visits) : Prop where
  size : result.2.size = p.size
  precede : result.2.Precede (index + 1)
  waits : ∀ t ∈ result.1, p.waits t.address = true
  same : p.SomeAccepts before rest result.1 ↔ outcome

namespace Arriving

variable {outcome : Prop}

/-- An address that has been visited is covered without the next thread, if that has been visited,
too: where it would count, something with fewer steps does. -/
theorem covered_without
    (h : Arriving p index before rest outcome fuel (t :: threads) settled visits)
    (seen : visits.has (.between index before rest) t.address = true)
    (has : visits.has (.between index before rest) a = true)
    (accepts : p.AcceptsIn n a ⟨before, rest⟩) :
    p.SomeAccepts before rest settled ∨
      ∃ u ∈ threads, ∃ m < n, p.AcceptsIn m u.address ⟨before, rest⟩ := by
  induction n using Nat.strong_induction_on generalizing a with
  | _ n ih =>
    rcases h.covered has accepts with done | ⟨u, mem, m, fewer, later⟩
    · exact .inl done
    · rcases List.mem_cons.mp mem with rfl | mem
      · rcases ih m fewer seen later with done | ⟨u', mem', m', fewer', later'⟩
        · exact .inl done
        · exact .inr ⟨u', mem', m', fewer'.trans fewer, later'⟩
      · exact .inr ⟨u, mem, m, fewer, later⟩

theorem drop (h : Arriving p index before rest outcome (fuel + 1) (t :: threads) settled visits)
    (seen : visits.has (.between index before rest) t.address = true) :
    Arriving p index before rest outcome fuel threads settled visits where
  enough := by
    have := h.enough
    rw [List.length_cons] at this
    omega
  size := h.size
  precede := h.precede
  waits := h.waits
  covered := h.covered_without seen
  same := by
    rw [← h.same, someAccepts_cons]
    constructor
    · exact fun some => some.imp_right .inr
    · rintro (done | ⟨n, accepts⟩ | later)
      · exact .inl done
      · rcases h.covered_without seen seen accepts with done | ⟨u, mem, m, -, later⟩
        · exact .inl done
        · exact .inr ⟨u, mem, m, later⟩
      · exact .inr later

theorem keep (h : Arriving p index before rest outcome (fuel + 1) (t :: threads) settled visits)
    (new : visits.has (.between index before rest) t.address = false)
    (waits : p.waits t.address = true) :
    Arriving p index before rest outcome fuel threads (t :: settled)
      (visits.add (.between index before rest) t.address) where
  enough := by
    have room := Visits.fresh_add new
    have := h.enough
    rw [List.length_cons] at this
    omega
  size := Visits.size_add.trans h.size
  precede := Visits.Precede.add h.precede
  waits := List.forall_mem_cons.mpr ⟨waits, h.waits⟩
  covered := by
    intro a n has accepts
    rw [someAccepts_cons]
    rcases (Visits.has_add new).mp has with rfl | has
    · exact .inl (.inl ⟨n, accepts⟩)
    · rcases h.covered has accepts with done | ⟨u, mem, m, fewer, later⟩
      · exact .inl (.inr done)
      · rcases List.mem_cons.mp mem with rfl | mem
        · exact .inl (.inl ⟨m, later⟩)
        · exact .inr ⟨u, mem, m, fewer, later⟩
  same := by
    rw [← h.same, someAccepts_cons, someAccepts_cons, or_assoc, or_left_comm]

theorem expand (h : Arriving p index before rest outcome (fuel + 1) (t :: threads) settled visits)
    (new : visits.has (.between index before rest) t.address = false)
    (moves : p.waits t.address = false) :
    Arriving p index before rest outcome fuel
      (p.onward (.between index before rest) t ++ threads) settled
      (visits.add (.between index before rest) t.address) where
  enough := by
    have room := Visits.fresh_add new
    have two := p.length_onward_le (.between index before rest) t
    have := h.enough
    rw [List.length_cons] at this
    rw [List.length_append]
    omega
  size := Visits.size_add.trans h.size
  precede := Visits.Precede.add h.precede
  waits := h.waits
  covered := by
    -- What the thread can do, one that it becomes can do in fewer steps.
    have ahead {n : Nat} (accepts : p.AcceptsIn n t.address ⟨before, rest⟩) :
        ∃ u ∈ p.onward (.between index before rest) t ++ threads,
          ∃ m < n, p.AcceptsIn m u.address ⟨before, rest⟩ := by
      cases n with
      | zero => exact accepts.elim
      | succ n =>
        obtain ⟨u, mem, later⟩ := (acceptsIn_onward moves).mp accepts
        exact ⟨u, List.mem_append_left _ mem, n, Nat.lt_succ_self n, later⟩
    intro a n has accepts
    rcases (Visits.has_add new).mp has with rfl | has
    · exact .inr (ahead accepts)
    · rcases h.covered has accepts with done | ⟨u, mem, m, fewer, later⟩
      · exact .inl done
      · rcases List.mem_cons.mp mem with rfl | mem
        · obtain ⟨u', mem', m', fewer', later'⟩ := ahead later
          exact .inr ⟨u', mem', m', fewer'.trans fewer, later'⟩
        · exact .inr ⟨u, List.mem_append_right _ mem, m, fewer, later⟩
  same := by
    rw [← h.same, someAccepts_append, accepts_onward moves, someAccepts_cons]

theorem done (h : Arriving p index before rest outcome fuel [] settled visits) :
    Arrived p index before rest outcome (settled.reverse, visits) where
  size := h.size
  precede := h.precede
  waits := fun t mem => h.waits t (List.mem_reverse.mp mem)
  same := by
    rw [← h.same]
    simp [SomeAccepts]

theorem run (h : Arriving p index before rest outcome fuel threads settled visits) :
    Arrived p index before rest outcome
      (p.settleWithin (.between index before rest) fuel threads settled visits) := by
  induction fuel generalizing threads settled visits with
  | zero =>
    obtain rfl : threads = [] := List.eq_nil_of_length_eq_zero (by have := h.enough; omega)
    exact h.done
  | succ fuel ih =>
    cases threads with
    | nil => exact h.done
    | cons t threads =>
      cases new : visits.has (.between index before rest) t.address with
      | true =>
        rw [settleWithin_has new]
        exact ih (h.drop new)
      | false =>
        cases waits : p.waits t.address with
        | true =>
          rw [settleWithin_waits new waits]
          exact ih (h.keep new waits)
        | false =>
          rw [settleWithin_onward new waits]
          exact ih (h.expand new waits)

end Arriving

/-- Threads that settle at a new place lose nothing. -/
theorem settle_arrived (before : Option Char) (rest : List Char) (threads : List Thread)
    (size : visits.size = p.size) (precede : visits.Precede index) :
    Arrived p index before rest (p.SomeAccepts before rest threads)
      (p.settle (.between index before rest) threads visits) := by
  have start : Arriving p index before rest (p.SomeAccepts before rest threads)
      (threads.length + 2 * p.size) threads [] visits :=
    { enough := by
        have : visits.fresh (.between index before rest) ≤ visits.size := Array.countP_le_size
        omega
      size
      precede := fun found => (precede found).trans (Nat.le_succ _)
      waits := by simp
      covered := by
        -- No address of the program has been visited at this place yet.
        intro a n has accepts
        have out : p.size ≤ a := size ▸ Visits.Precede.size_le precede has
        exact absurd accepts (not_acceptsIn_none (Array.getElem?_eq_none out))
      same := by simp [SomeAccepts] }
  exact start.run

/-! ### Threads take a character -/

theorem accepts_take {s : CharSet} {c : Cursor} (found : p[a]? = some (.take s)) :
    p.Accepts a c ↔ ∃ d, c.Takes s d ∧ p.Accepts (a + 1) d := (Carries.take found).accepts_iff

theorem accepts_accept {c : Cursor} (found : p[a]? = some .accept) : p.Accepts a c :=
  ⟨1, acceptsIn_accept found⟩

/-- At the end of the text, a thread that waits can accept only if it does at once. -/
theorem isSome_advance_nil (waits : ∀ t ∈ threads, p.waits t.address = true) :
    (p.advance (.between index before []) threads).2.isSome = true ↔
      p.SomeAccepts before [] threads := by
  induction threads with
  | nil => simp [advance, SomeAccepts]
  | cons t threads ih =>
    obtain ⟨first, others⟩ := List.forall_mem_cons.mp waits
    rw [someAccepts_cons]
    rcases waits_iff.mp first with found | ⟨s, found⟩
    · simp [advance_accept found, accepts_accept found]
    · have stuck : ¬ p.Accepts t.address ⟨before, []⟩ := by
        rw [accepts_take found]
        rintro ⟨d, ⟨x, rest, split, -⟩, -⟩
        cases split
      rw [advance_take found, or_iff_right stuck]
      exact ih others

/-- Further on, it can if one does at once, or one that has taken the next character can. -/
theorem isSome_advance_cons (index : Nat) {c : Char}
    (waits : ∀ t ∈ threads, p.waits t.address = true) :
    (p.advance (.between index before (c :: rest)) threads).2.isSome = true ∨
        p.SomeAccepts (some c) rest (p.advance (.between index before (c :: rest)) threads).1 ↔
      p.SomeAccepts before (c :: rest) threads := by
  induction threads with
  | nil => simp [advance, SomeAccepts]
  | cons t threads ih =>
    obtain ⟨first, others⟩ := List.forall_mem_cons.mp waits
    have ih := ih others
    rw [someAccepts_cons]
    rcases waits_iff.mp first with found | ⟨s, found⟩
    · simp [advance_accept found, accepts_accept found]
    · have taken : p.Accepts t.address ⟨before, c :: rest⟩ ↔
          s.has c = true ∧ p.Accepts t.next.address ⟨some c, rest⟩ := by
        rw [accepts_take found]
        constructor
        · rintro ⟨d, ⟨x, more, split, has, rfl⟩, later⟩
          obtain ⟨rfl, rfl⟩ := List.cons.inj split
          exact ⟨has, later⟩
        · rintro ⟨has, later⟩
          exact ⟨_, ⟨c, rest, rfl, has, rfl⟩, later⟩
      have after : (Place.between index before (c :: rest)).after.any s.has = s.has c := rfl
      rw [advance_take found, taken, ← ih, after]
      cases s.has c with
      | false => simp
      | true => simp [someAccepts_cons, or_left_comm]

/-! ### The whole text -/

/-- The places of a text from one on. -/
def placesFrom (before : Option Char) : List Char → List Cursor
  | [] => [⟨before, []⟩]
  | c :: rest => ⟨before, c :: rest⟩ :: placesFrom (some c) rest

theorem someAccepts_starting (found : Option Match) :
    found.isSome = true ∨ p.SomeAccepts before rest (starting index found threads) ↔
      found.isSome = true ∨ p.SomeAccepts before rest threads ∨ p.Accepts 0 ⟨before, rest⟩ := by
  cases found with
  | some m => simp
  | none =>
    have start : starting index none threads = threads ++ [⟨0, index, []⟩] := rfl
    rw [start, someAccepts_append]
    simp [SomeAccepts]

/-- **From any place on**, something is found if something has been found, or one of the threads can
accept, or one that starts there or later. -/
theorem isSome_pass_iff {found : Option Match} (size : visits.size = p.size)
    (precede : visits.Precede index) :
    (p.pass index before threads visits found rest).isSome = true ↔
      found.isSome = true ∨ p.SomeAccepts before rest threads ∨
        ∃ c ∈ placesFrom before rest, p.Accepts 0 c := by
  induction rest generalizing index before threads visits found with
  | nil =>
    have arrived := settle_arrived before [] (starting index found threads) size precede
    have last : (∃ c ∈ placesFrom before [], p.Accepts 0 c) ↔ p.Accepts 0 ⟨before, []⟩ := by
      simp [placesFrom]
    rw [last, ← someAccepts_starting, ← arrived.same, ← isSome_advance_nil arrived.waits, pass]
    change (if (starting index found threads).isEmpty then found
      else (p.advance (.between index before [])
        (p.settle (.between index before []) (starting index found threads) visits).1).2.or
          found).isSome = true ↔ _
    split_ifs with empty
    · cases found with
      | none => simp [starting] at empty
      | some m => simp
    · rw [Option.isSome_or, Bool.or_eq_true, or_comm]
  | cons c rest ih =>
    have arrived := settle_arrived before (c :: rest) (starting index found threads) size precede
    have places : (∃ d ∈ placesFrom before (c :: rest), p.Accepts 0 d) ↔
        p.Accepts 0 ⟨before, c :: rest⟩ ∨ ∃ d ∈ placesFrom (some c) rest, p.Accepts 0 d := by
      simp [placesFrom]
    rw [places, ← or_assoc (a := p.SomeAccepts _ _ _), ← or_assoc, ← someAccepts_starting,
      ← arrived.same, ← isSome_advance_cons index arrived.waits]
    by_cases busy : starting index found threads = []
    · -- Nothing is under way, and what has been found stands.
      cases found with
      | none => simp [starting] at busy
      | some m =>
        obtain rfl : threads = [] := busy
        rw [pass]
        simp
    · have step : p.pass index before threads visits found (c :: rest) =
          p.pass (index + 1) (some c)
            (p.advance (.between index before (c :: rest))
              (p.settle (.between index before (c :: rest)) (starting index found threads)
                visits).1).1
            (p.settle (.between index before (c :: rest)) (starting index found threads) visits).2
            ((p.advance (.between index before (c :: rest))
              (p.settle (.between index before (c :: rest)) (starting index found threads)
                visits).1).2.or found) rest := by
        rw [pass]
        change (if (starting index found threads).isEmpty then found else _) = _
        rw [if_neg (by simpa using busy)]
        rfl
      rw [step, ih arrived.size arrived.precede, Option.isSome_or, Bool.or_eq_true]
      exact ⟨by tauto, by tauto⟩

/-- **A search finds something** if and only if a thread that starts at a place of the text can
accept. -/
theorem isSome_find_iff (p : Program) (text : List Char) :
    (p.find text 0).isSome = true ↔ ∃ c ∈ placesFrom none text, p.Accepts 0 c := by
  have new : (Visits.none p).Precede 0 := by
    intro a n found
    rw [Visits.none, Array.getElem?_replicate] at found
    split_ifs at found
    exact (Option.some.inj found).ge
  rw [find, isSome_pass_iff (by simp [Visits.none]) new]
  simp [SomeAccepts]

end Program

/-- **An expression occurs in a text** if and only if it leads from some place of the text to
another. -/
theorem isMatch_iff (r : Regex) (text : String) :
    r.isMatch text = true ↔
      ∃ c ∈ Program.placesFrom none text.toList, ∃ d, r.expr.Leads c d := by
  rw [isMatch, program, Program.isSome_find_iff]
  exact exists_congr fun c => and_congr_right fun _ => r.expr.accepts_program_iff c

end OptionBinding.Regex
