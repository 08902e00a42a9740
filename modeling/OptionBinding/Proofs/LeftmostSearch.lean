import Mathlib.Data.List.TakeWhile
import OptionBinding.Regex.Search

/-!
# The occurrence that a search finds

A search lets all threads of a program pass over a text together, and drops a thread that comes to
an address where another one has been at the same place. Here it is compared with a thread that
goes its way alone (`Ranking.follow`): at a fork it takes the preferred way, and the other way only
if the preferred one ends without an occurrence. The search finds what the leftmost such thread
comes to (`Ranking.find_eq`).

This needs that no way leads back to its own start without taking a character: a thread that is
dropped because it met itself would else count as one that had been tried. Addresses have ranks
which fall along these ways (`Ranking`). While threads settle at a place, an address that has been
left with success has a thread for it among the settled ones, or among the threads that wait before
the first one of no smaller rank (`Settling.covered`); so no thread is dropped to whose like the
search will not come before all that waits behind it.
-/

namespace OptionBinding.Regex

/-- The addresses that an instruction leads to without taking a character. -/
def Instruction.targets (address : Nat) : Instruction → List Nat
  | take _ => []
  | accept => []
  | check _ => [address + 1]
  | mark _ => [address + 1]
  | jump target => [target]
  | fork preferred other => [preferred, other]

/-- The place between a part of a text and the rest. -/
def Place.between (index : Nat) (before : Option Char) (rest : List Char) : Place :=
  ⟨index, before, rest.head?⟩

/-! ### Visits -/

namespace Visits

variable {visits : Visits} {place : Place} {a b n : Nat}

/-- The number of addresses that no thread has come to at a place. -/
def fresh (visits : Visits) (place : Place) : Nat := visits.countP (· != place.index + 1)

/-- All visits were before a place. -/
def Precede (visits : Visits) (index : Nat) : Prop :=
  ∀ {a n : Nat}, visits[a]? = some n → n ≤ index

theorem has_iff : visits.has place a = true ↔ ∀ n, visits[a]? = some n → n = place.index + 1 := by
  unfold has
  rw [Array.getD_eq_getD_getElem?]
  cases visits[a]? <;> simp

theorem Precede.size_le (h : visits.Precede place.index) (seen : visits.has place a = true) :
    visits.size ≤ a := by
  by_contra inside
  have found := Array.getElem?_eq_getElem (Nat.not_le.mp inside)
  have now := has_iff.mp seen _ found
  have before := h found
  omega

theorem lt_size_of_not_has (new : visits.has place a = false) : a < visits.size := by
  by_contra out
  have seen : visits.has place a = true := has_iff.mpr fun n found => by simp [out] at found
  simp [seen] at new

theorem has_add (new : visits.has place a = false) :
    (visits.add place a).has place b = true ↔ b = a ∨ visits.has place b = true := by
  have inside := lt_size_of_not_has new
  simp only [has_iff, add, Array.getElem?_setIfInBounds]
  by_cases same : a = b
  · subst same
    simp [inside]
  · simp [same, Ne.symm same]

theorem fresh_add (new : visits.has place a = false) :
    (visits.add place a).fresh place + 1 = visits.fresh place := by
  have inside := lt_size_of_not_has new
  have other : visits[a] ≠ place.index + 1 := by
    intro same
    rw [has_iff.mpr (by simp [inside, same])] at new
    cases new
  have positive : 0 < visits.fresh place :=
    Array.countP_pos_iff.mpr ⟨_, Array.getElem_mem inside, by simpa using other⟩
  unfold fresh at positive ⊢
  rw [add, Array.setIfInBounds_def, dif_pos inside, Array.countP_set]
  simp only [bne_iff_ne, ne_eq, other, not_false_eq_true, if_true, bne_self_eq_false,
    Bool.false_eq_true, if_false]
  omega

theorem Precede.add (h : visits.Precede (place.index + 1)) :
    (visits.add place a).Precede (place.index + 1) := by
  intro b n found
  rw [Visits.add, Array.getElem?_setIfInBounds] at found
  split_ifs at found
  · exact (Option.some.inj found).symm.le
  · exact h found

@[simp] theorem size_add : (visits.add place a).size = visits.size := Array.size_setIfInBounds

end Visits

namespace Program

/-- Ranks of the addresses that fall on every way that takes no character. -/
structure Ranking (p : Program) where
  rank : Nat → Nat
  falls : ∀ {a b : Nat} {i : Instruction}, p[a]? = some i → b ∈ i.targets a → rank b < rank a

/-- A thread at the address wants a character or accepts. -/
def waits (p : Program) (address : Nat) : Bool :=
  match p[address]? with
  | some (.take _) => true
  | some .accept => true
  | _ => false

theorem waits_iff {p : Program} {address : Nat} : p.waits address = true ↔
    p[address]? = some .accept ∨ ∃ s, p[address]? = some (.take s) := by
  unfold waits
  split <;> simp_all

/-- The threads that a thread becomes at a place, the preferred one first. -/
def onward (p : Program) (place : Place) (t : Thread) : List Thread :=
  match p[t.address]? with
  | some (.check a) => if a.holds place.before place.after then [t.next] else []
  | some (.mark slot) => [(t.mark slot place.index).next]
  | some (.jump target) => [t.goTo target]
  | some (.fork preferred other) => [t.goTo preferred, t.goTo other]
  | _ => []

variable {p : Program} {place : Place} {t u : Thread} {threads settled : List Thread}
  {visits : Visits} {a fuel index : Nat} {before : Option Char} {rest : List Char}

theorem length_onward_le (p : Program) (place : Place) (t : Thread) :
    (p.onward place t).length ≤ 2 := by
  unfold onward
  split
  · split <;> simp
  all_goals simp

theorem mem_targets_of_mem_onward (h : u ∈ p.onward place t) :
    ∃ i, p[t.address]? = some i ∧ u.address ∈ i.targets t.address := by
  unfold onward at h
  split at h
  · next found =>
    split at h
    · exact ⟨_, found, by simp_all [Instruction.targets, Thread.next, Thread.goTo]⟩
    · simp at h
  · next found =>
    exact ⟨_, found, by simp_all [Instruction.targets, Thread.next, Thread.goTo, Thread.mark]⟩
  · next found => exact ⟨_, found, by simp_all [Instruction.targets, Thread.goTo]⟩
  · next found =>
    refine ⟨_, found, ?_⟩
    simp only [List.mem_cons, List.not_mem_nil, or_false] at h
    rcases h with rfl | rfl <;> simp [Instruction.targets, Thread.goTo]
  · simp at h

theorem Ranking.rank_lt_of_mem_onward (r : p.Ranking) (h : u ∈ p.onward place t) :
    r.rank u.address < r.rank t.address := by
  obtain ⟨i, found, leads⟩ := mem_targets_of_mem_onward h
  exact r.falls found leads

/-! ### A thread on its own -/

namespace Ranking

/-- The occurrence that a thread comes to on its own. -/
def follow (r : p.Ranking) (index : Nat) (before : Option Char) (rest : List Char) (t : Thread) :
    Option Match :=
  match _ : p[t.address]? with
  | some (.take s) =>
    match rest with
    | [] => none
    | c :: rest => if s.has c then r.follow (index + 1) (some c) rest t.next else none
  | some .accept => some ⟨t.start, index, t.marks⟩
  | some (.check a) =>
    if a.holds before rest.head? then r.follow index before rest t.next else none
  | some (.mark slot) => r.follow index before rest (t.mark slot index).next
  | some (.jump target) => r.follow index before rest (t.goTo target)
  | some (.fork preferred other) =>
    (r.follow index before rest (t.goTo preferred)).or (r.follow index before rest (t.goTo other))
  | none => none
termination_by (rest.length, r.rank t.address)
decreasing_by
  · exact Prod.Lex.left _ _ (Nat.lt_succ_self _)
  all_goals
    refine Prod.Lex.right _ (r.falls ‹_› ?_)
    simp [Instruction.targets, Thread.next, Thread.mark, Thread.goTo]

variable (r : p.Ranking)

theorem follow_none (found : p[t.address]? = none) : r.follow index before rest t = none := by
  rw [follow]
  split <;> simp_all

theorem follow_take_nil {s : CharSet} (found : p[t.address]? = some (.take s)) :
    r.follow index before [] t = none := by
  rw [follow]
  split <;> simp_all

theorem follow_take_cons {s : CharSet} {c : Char} (found : p[t.address]? = some (.take s)) :
    r.follow index before (c :: rest) t =
      if s.has c then r.follow (index + 1) (some c) rest t.next else none := by
  rw [follow]
  split <;> simp_all

theorem follow_accept (found : p[t.address]? = some .accept) :
    r.follow index before rest t = some ⟨t.start, index, t.marks⟩ := by
  rw [follow]
  split <;> simp_all

theorem follow_check {a : Assertion} (found : p[t.address]? = some (.check a)) :
    r.follow index before rest t =
      if a.holds before rest.head? then r.follow index before rest t.next else none := by
  rw [follow]
  split <;> simp_all

theorem follow_mark {slot : Nat} (found : p[t.address]? = some (.mark slot)) :
    r.follow index before rest t = r.follow index before rest (t.mark slot index).next := by
  rw [follow]
  split <;> simp_all

theorem follow_jump {target : Nat} (found : p[t.address]? = some (.jump target)) :
    r.follow index before rest t = r.follow index before rest (t.goTo target) := by
  rw [follow]
  split <;> simp_all

theorem follow_fork {preferred other : Nat}
    (found : p[t.address]? = some (.fork preferred other)) :
    r.follow index before rest t =
      (r.follow index before rest (t.goTo preferred)).or
        (r.follow index before rest (t.goTo other)) := by
  rw [follow]
  split <;> simp_all

theorem follow_onward (moves : p.waits t.address = false) :
    r.follow index before rest t =
      (p.onward (.between index before rest) t).findSome? (r.follow index before rest) := by
  cases found : p[t.address]? with
  | none => simp [onward, found, r.follow_none found]
  | some i =>
    cases i with
    | take s => simp [waits, found] at moves
    | accept => simp [waits, found] at moves
    | check a =>
      have split : p.onward (.between index before rest) t =
          if a.holds before rest.head? then [t.next] else [] := by
        simp only [onward, found]
        rfl
      rw [r.follow_check found, split]
      split_ifs <;> simp
    | mark slot => simp [onward, found, Place.between, r.follow_mark found]
    | jump target => simp [onward, found, r.follow_jump found]
    | fork preferred other =>
      simp only [r.follow_fork found, onward, found, List.findSome?_cons, List.findSome?_nil]
      cases r.follow index before rest (t.goTo preferred) <;>
        cases r.follow index before rest (t.goTo other) <;> rfl

/-- Where a thread started and what it has marked does not decide whether it succeeds. -/
theorem isSome_follow_congr (same : u.address = t.address) :
    (r.follow index before rest u).isSome = (r.follow index before rest t).isSome := by
  fun_induction follow r index before rest t generalizing u with
  | case1 index before t s found => rw [r.follow_take_nil (same ▸ found)]
  | case2 index before t s found c rest inside ih =>
    rw [r.follow_take_cons (same ▸ found), if_pos inside]
    exact ih (congrArg (· + 1) same)
  | case3 index before t s found c rest outside =>
    rw [r.follow_take_cons (same ▸ found), if_neg outside]
  | case4 index before rest t found => rw [r.follow_accept (same ▸ found)]; rfl
  | case5 index before rest t a found holds ih =>
    rw [r.follow_check (same ▸ found), if_pos holds]
    exact ih (congrArg (· + 1) same)
  | case6 index before rest t a found fails =>
    rw [r.follow_check (same ▸ found), if_neg fails]
  | case7 index before rest t slot found ih =>
    rw [r.follow_mark (same ▸ found)]
    exact ih (congrArg (· + 1) same)
  | case8 index before rest t target found ih =>
    rw [r.follow_jump (same ▸ found)]
    exact ih rfl
  | case9 index before rest t preferred other found ihPreferred ihOther =>
    rw [r.follow_fork (same ▸ found), Option.isSome_or, Option.isSome_or]
    exact congrArg₂ (· || ·) (ihPreferred rfl) (ihOther rfl)
  | case10 index before rest t found => rw [r.follow_none (same ▸ found)]

/-- The occurrence that the leftmost thread comes to, of those that start at this place or later. -/
def leftmost (r : p.Ranking) (index : Nat) (before : Option Char) :
    (rest : List Char) → Option Match
  | [] => r.follow index before [] ⟨0, index, []⟩
  | c :: rest =>
    (r.follow index before (c :: rest) ⟨0, index, []⟩).or (r.leftmost (index + 1) (some c) rest)

end Ranking

/-! ### Threads settle -/

theorem settleWithin_has (seen : visits.has place t.address = true) :
    p.settleWithin place (fuel + 1) (t :: threads) settled visits =
      p.settleWithin place fuel threads settled visits := by
  rw [settleWithin, if_pos seen]

theorem settleWithin_waits (new : visits.has place t.address = false)
    (waits : p.waits t.address = true) :
    p.settleWithin place (fuel + 1) (t :: threads) settled visits =
      p.settleWithin place fuel threads (t :: settled) (visits.add place t.address) := by
  rw [settleWithin, if_neg (by simp [new])]
  unfold Program.waits at waits
  split at waits <;> simp_all

theorem settleWithin_onward (new : visits.has place t.address = false)
    (moves : p.waits t.address = false) :
    p.settleWithin place (fuel + 1) (t :: threads) settled visits =
      p.settleWithin place fuel (p.onward place t ++ threads) settled
        (visits.add place t.address) := by
  rw [settleWithin, if_neg (by simp [new])]
  cases found : p[t.address]? with
  | none => simp [onward, found]
  | some i =>
    cases i with
    | take s => simp [Program.waits, found] at moves
    | accept => simp [Program.waits, found] at moves
    | check a =>
      simp only [onward, found]
      split_ifs <;> rfl
    | mark slot => simp [onward, found]
    | jump target => simp [onward, found]
    | fork preferred other => simp [onward, found]

/-- A thread at the address comes to an occurrence on its own. -/
def Ranking.Succeeds (r : p.Ranking) (index : Nat) (before : Option Char) (rest : List Char)
    (address : Nat) : Prop :=
  (r.follow index before rest ⟨address, 0, []⟩).isSome = true

theorem Ranking.succeeds_iff (r : p.Ranking) :
    r.Succeeds index before rest t.address ↔ (r.follow index before rest t).isSome = true :=
  Bool.eq_iff_iff.mp (r.isSome_follow_congr rfl)

/-- How far threads have settled at a place, where the first of them that succeeds comes to the
outcome. -/
structure Settling (r : p.Ranking) (index : Nat) (before : Option Char) (rest : List Char)
    (outcome : Option Match) (fuel : Nat) (threads settled : List Thread) (visits : Visits) :
    Prop where
  enough : threads.length + 2 * visits.fresh (.between index before rest) ≤ fuel
  size : visits.size = p.size
  precede : visits.Precede (index + 1)
  waits : ∀ t ∈ settled, p.waits t.address = true
  covered : ∀ {a : Nat}, visits.has (.between index before rest) a = true →
    r.Succeeds index before rest a →
    (∃ u ∈ settled, r.Succeeds index before rest u.address) ∨
      ∃ u ∈ threads.takeWhile (r.rank ·.address < r.rank a), r.Succeeds index before rest u.address
  same : (settled.reverse ++ threads).findSome? (r.follow index before rest) = outcome

/-- What has become of threads that have settled at a place. -/
structure Settled (r : p.Ranking) (index : Nat) (before : Option Char) (rest : List Char)
    (outcome : Option Match) (result : List Thread × Visits) : Prop where
  size : result.2.size = p.size
  precede : result.2.Precede (index + 1)
  waits : ∀ t ∈ result.1, p.waits t.address = true
  same : result.1.findSome? (r.follow index before rest) = outcome

section

variable {r : p.Ranking} {outcome : Option Match}

theorem isSome_findSome?_reverse :
    (settled.reverse.findSome? (r.follow index before rest)).isSome = true ↔
      ∃ u ∈ settled, r.Succeeds index before rest u.address := by
  simp only [List.findSome?_isSome_iff, List.mem_reverse, r.succeeds_iff]

/-- What covers an address is settled, or is the next thread, which has a smaller rank, or stands
behind it. -/
theorem Settling.covered_cons
    (h : Settling r index before rest outcome fuel (t :: threads) settled visits)
    (has : visits.has (.between index before rest) a = true)
    (succeeds : r.Succeeds index before rest a) :
    (∃ u ∈ settled, r.Succeeds index before rest u.address) ∨
      r.rank t.address < r.rank a ∧ (r.Succeeds index before rest t.address ∨
        ∃ u ∈ threads.takeWhile (r.rank ·.address < r.rank a),
          r.Succeeds index before rest u.address) := by
  rcases h.covered has succeeds with found | ⟨u, mem, ok⟩
  · exact .inl found
  · rw [List.takeWhile_cons] at mem
    split_ifs at mem with smaller
    · refine .inr ⟨of_decide_eq_true smaller, ?_⟩
      rcases List.mem_cons.mp mem with rfl | mem
      · exact .inl ok
      · exact .inr ⟨u, mem, ok⟩
    · simp at mem

/-- A thread that has met another one, and would succeed, is behind one that has settled and
does. -/
theorem Settling.settled_of_has
    (h : Settling r index before rest outcome fuel (t :: threads) settled visits)
    (seen : visits.has (.between index before rest) t.address = true)
    (succeeds : r.Succeeds index before rest t.address) :
    ∃ u ∈ settled, r.Succeeds index before rest u.address := by
  rcases h.covered_cons seen succeeds with found | ⟨smaller, -⟩
  · exact found
  · exact absurd smaller (Nat.lt_irrefl _)

theorem Settling.drop
    (h : Settling r index before rest outcome (fuel + 1) (t :: threads) settled visits)
    (seen : visits.has (.between index before rest) t.address = true) :
    Settling r index before rest outcome fuel threads settled visits where
  enough := by
    have := h.enough
    rw [List.length_cons] at this
    omega
  size := h.size
  precede := h.precede
  waits := h.waits
  covered := by
    intro a has succeeds
    rcases h.covered_cons has succeeds with found | ⟨-, ok | later⟩
    · exact .inl found
    · exact .inl (h.settled_of_has seen ok)
    · exact .inr later
  same := by
    rw [← h.same, List.findSome?_append, List.findSome?_append, List.findSome?_cons]
    cases own : r.follow index before rest t with
    | none => rfl
    | some m =>
      have ok := isSome_findSome?_reverse.mpr
        (h.settled_of_has seen (r.succeeds_iff.mpr (by rw [own]; rfl)))
      obtain ⟨first, eq⟩ := Option.isSome_iff_exists.mp ok
      rw [eq, Option.some_or, Option.some_or]

theorem Settling.keep
    (h : Settling r index before rest outcome (fuel + 1) (t :: threads) settled visits)
    (new : visits.has (.between index before rest) t.address = false)
    (waits : p.waits t.address = true) :
    Settling r index before rest outcome fuel threads (t :: settled)
      (visits.add (.between index before rest) t.address) where
  enough := by
    have room := Visits.fresh_add new
    have := h.enough
    rw [List.length_cons] at this
    omega
  size := Visits.size_add.trans h.size
  precede := Visits.Precede.add h.precede
  waits := List.forall_mem_cons.mpr ⟨waits, h.waits⟩
  covered := by
    intro a has succeeds
    rcases (Visits.has_add new).mp has with rfl | has
    · exact .inl ⟨t, List.mem_cons_self, succeeds⟩
    · rcases h.covered_cons has succeeds with ⟨u, mem, ok⟩ | ⟨-, ok | later⟩
      · exact .inl ⟨u, List.mem_cons_of_mem _ mem, ok⟩
      · exact .inl ⟨t, List.mem_cons_self, ok⟩
      · exact .inr later
  same := by rw [← h.same, List.reverse_cons, List.append_assoc, List.singleton_append]

theorem Settling.expand
    (h : Settling r index before rest outcome (fuel + 1) (t :: threads) settled visits)
    (new : visits.has (.between index before rest) t.address = false)
    (moves : p.waits t.address = false) :
    Settling r index before rest outcome fuel
      (p.onward (.between index before rest) t ++ threads) settled
      (visits.add (.between index before rest) t.address) where
  enough := by
    have room := Visits.fresh_add new
    have two := p.length_onward_le (.between index before rest) t
    have := h.enough
    rw [List.length_cons] at this
    rw [List.length_append]
    omega
  size := Visits.size_add.trans h.size
  precede := Visits.Precede.add h.precede
  waits := h.waits
  covered := by
    -- A way on that succeeds stands in front of all that has a larger rank.
    have ahead {a : Nat} (le : r.rank t.address ≤ r.rank a)
        (ok : r.Succeeds index before rest t.address) :
        ∃ u ∈ (p.onward (.between index before rest) t ++ threads).takeWhile
          (r.rank ·.address < r.rank a), r.Succeeds index before rest u.address := by
      rw [r.succeeds_iff, r.follow_onward moves, List.findSome?_isSome_iff] at ok
      obtain ⟨u, mem, ok⟩ := ok
      rw [List.takeWhile_append_of_pos fun v mem =>
        decide_eq_true ((r.rank_lt_of_mem_onward mem).trans_le le)]
      exact ⟨u, List.mem_append_left _ mem, r.succeeds_iff.mpr ok⟩
    intro a has succeeds
    rcases (Visits.has_add new).mp has with rfl | has
    · exact .inr (ahead le_rfl succeeds)
    · rcases h.covered_cons has succeeds with found | ⟨smaller, ok | ⟨u, mem, ok⟩⟩
      · exact .inl found
      · exact .inr (ahead smaller.le ok)
      · rw [List.takeWhile_append_of_pos fun v mem =>
          decide_eq_true ((r.rank_lt_of_mem_onward mem).trans smaller)]
        exact .inr ⟨u, List.mem_append_right _ mem, ok⟩
  same := by
    rw [← h.same, List.findSome?_append, List.findSome?_append, List.findSome?_append,
      List.findSome?_cons, r.follow_onward moves]
    cases (p.onward (.between index before rest) t).findSome? (r.follow index before rest) <;> simp

theorem Settling.done (h : Settling r index before rest outcome fuel [] settled visits) :
    Settled r index before rest outcome (settled.reverse, visits) where
  size := h.size
  precede := h.precede
  waits := fun t mem => h.waits t (List.mem_reverse.mp mem)
  same := by rw [← h.same, List.append_nil]

theorem Settling.run (h : Settling r index before rest outcome fuel threads settled visits) :
    Settled r index before rest outcome
      (p.settleWithin (.between index before rest) fuel threads settled visits) := by
  induction fuel generalizing threads settled visits with
  | zero =>
    obtain rfl : threads = [] := List.eq_nil_of_length_eq_zero (by have := h.enough; omega)
    exact h.done
  | succ fuel ih =>
    cases threads with
    | nil => exact h.done
    | cons t threads =>
      cases new : visits.has (.between index before rest) t.address with
      | true =>
        rw [settleWithin_has new]
        exact ih (h.drop new)
      | false =>
        cases waits : p.waits t.address with
        | true =>
          rw [settleWithin_waits new waits]
          exact ih (h.keep new waits)
        | false =>
          rw [settleWithin_onward new waits]
          exact ih (h.expand new waits)

/-- Threads that settle at a new place lose nothing: the first that succeeds comes to the same. -/
theorem settle_settled (r : p.Ranking) (before : Option Char) (rest : List Char)
    (threads : List Thread) (size : visits.size = p.size) (precede : visits.Precede index) :
    Settled r index before rest (threads.findSome? (r.follow index before rest))
      (p.settle (.between index before rest) threads visits) := by
  have start : Settling r index before rest (threads.findSome? (r.follow index before rest))
      (threads.length + 2 * p.size) threads [] visits :=
    { enough := by
        have : visits.fresh (.between index before rest) ≤ visits.size := Array.countP_le_size
        omega
      size
      precede := fun found => (precede found).trans (Nat.le_succ _)
      waits := by simp
      covered := by
        -- No address of the program has been visited at this place yet.
        intro a has succeeds
        have out : p.size ≤ a := size ▸ Visits.Precede.size_le precede has
        rw [Ranking.Succeeds, r.follow_none (Array.getElem?_eq_none out)] at succeeds
        cases succeeds
      same := rfl }
  exact start.run

/-! ### Threads take a character -/

theorem advance_accept (found : p[t.address]? = some .accept) :
    p.advance place (t :: threads) = ([], some ⟨t.start, place.index, t.marks⟩) := by
  simp only [advance, found]

theorem advance_take {s : CharSet} (found : p[t.address]? = some (.take s)) :
    p.advance place (t :: threads) =
      (if place.after.any s.has then t.next :: (p.advance place threads).1
        else (p.advance place threads).1, (p.advance place threads).2) := by
  simp only [advance, found]

theorem advance_nil (waits : ∀ t ∈ threads, p.waits t.address = true) :
    p.advance (.between index before []) threads =
      ([], threads.findSome? (r.follow index before [])) := by
  induction threads with
  | nil => rfl
  | cons t threads ih =>
    have ih := ih fun u mem => waits u (List.mem_cons_of_mem _ mem)
    rw [List.findSome?_cons]
    rcases waits_iff.mp (waits t List.mem_cons_self) with found | ⟨s, found⟩
    · rw [advance_accept found, r.follow_accept found]
      rfl
    · rw [advance_take found, r.follow_take_nil found, ih]
      rfl

theorem findSome?_advance {c : Char} (waits : ∀ t ∈ threads, p.waits t.address = true) :
    ((p.advance (.between index before (c :: rest)) threads).1.findSome?
      (r.follow (index + 1) (some c) rest)).or
        (p.advance (.between index before (c :: rest)) threads).2 =
      threads.findSome? (r.follow index before (c :: rest)) := by
  induction threads with
  | nil => rfl
  | cons t threads ih =>
    have ih := ih fun u mem => waits u (List.mem_cons_of_mem _ mem)
    rw [List.findSome?_cons]
    rcases waits_iff.mp (waits t List.mem_cons_self) with found | ⟨s, found⟩
    · rw [advance_accept found, r.follow_accept found]
      rfl
    · rw [advance_take found, r.follow_take_cons found]
      have after : (Place.between index before (c :: rest)).after.any s.has = s.has c := rfl
      rw [after]
      cases s.has c with
      | false => exact ih
      | true =>
        rw [if_pos rfl, if_pos rfl, List.findSome?_cons]
        cases r.follow (index + 1) (some c) rest t.next with
        | none => exact ih
        | some m => rfl

/-! ### The whole text -/

/-- The threads at a place: as long as nothing has been found, another one starts. -/
def starting (index : Nat) (found : Option Match) (threads : List Thread) : List Thread :=
  if found.isNone then threads ++ [⟨0, index, []⟩] else threads

theorem findSome?_starting (index : Nat) (threads : List Thread) (f : Thread → Option Match)
    (found later : Option Match) :
    ((starting index found threads).findSome? f).or (found.or later) =
      (threads.findSome? f).or (found.or ((f ⟨0, index, []⟩).or later)) := by
  cases found with
  | some m => rfl
  | none =>
    have start : starting index none threads = threads ++ [⟨0, index, []⟩] := rfl
    rw [start, List.findSome?_append, Option.or_assoc, List.findSome?_singleton]
    rfl

theorem pass_nil {found : Option Match} (size : visits.size = p.size)
    (precede : visits.Precede index) :
    p.pass index before threads visits found [] =
      ((starting index found threads).findSome? (r.follow index before [])).or found := by
  have settled := settle_settled r before [] (starting index found threads) size precede
  rw [pass]
  change (if (starting index found threads).isEmpty then found
    else (p.advance (.between index before [])
      (p.settle (.between index before []) (starting index found threads) visits).1).2.or found) = _
  split_ifs with empty
  · rw [List.isEmpty_iff.mp empty]
    rfl
  · rw [advance_nil (r := r) settled.waits, settled.same]

theorem pass_cons {found : Option Match} (before : Option Char) (c : Char) (rest : List Char)
    (size : visits.size = p.size)
    (precede : visits.Precede index) (busy : starting index found threads ≠ []) :
    ∃ others better visits', p.pass index before threads visits found (c :: rest) =
        p.pass (index + 1) (some c) others visits' (better.or found) rest ∧
      visits'.size = p.size ∧ visits'.Precede (index + 1) ∧
      (others.findSome? (r.follow (index + 1) (some c) rest)).or better =
        (starting index found threads).findSome? (r.follow index before (c :: rest)) := by
  have settled := settle_settled r before (c :: rest) (starting index found threads) size precede
  refine ⟨_, _, _, ?_, settled.size, settled.precede,
    (findSome?_advance settled.waits).trans settled.same⟩
  rw [pass]
  change (if (starting index found threads).isEmpty then found else _) = _
  rw [if_neg (by simpa using busy)]
  rfl

/-- From any place on, the threads that are under way are preferred to what has been found, and
that to what starts later. -/
theorem pass_eq {found : Option Match} (size : visits.size = p.size)
    (precede : visits.Precede index) :
    p.pass index before threads visits found rest =
      (threads.findSome? (r.follow index before rest)).or
        (found.or (r.leftmost index before rest)) := by
  induction rest generalizing index before threads visits found with
  | nil =>
    have start := findSome?_starting index threads (r.follow index before []) found none
    rw [Option.or_none, Option.or_none] at start
    rw [pass_nil size precede, start]
    rfl
  | cons c rest ih =>
    by_cases busy : starting index found threads = []
    · -- Nothing is under way, and what has been found stands.
      obtain ⟨m, rfl⟩ : ∃ m, found = some m := by
        cases found with
        | none => simp [starting] at busy
        | some m => exact ⟨m, rfl⟩
      obtain rfl : threads = [] := busy
      rw [pass]
      rfl
    · obtain ⟨others, better, visits', step, size', precede', same⟩ :=
        pass_cons (r := r) before c rest size precede busy
      rw [step, ih size' precede', Option.or_assoc, ← Option.or_assoc, same,
        findSome?_starting]
      rfl

end

/-- **A search** finds what the leftmost thread that succeeds on its own comes to. -/
theorem Ranking.find_eq (r : p.Ranking) (text : List Char) :
    p.find text 0 = r.leftmost 0 none text := by
  rw [find, pass_eq (r := r) (by simp [Visits.none])]
  · rfl
  · intro a n found
    rw [Visits.none, Array.getElem?_replicate] at found
    split_ifs at found
    exact (Option.some.inj found).ge

end Program
end OptionBinding.Regex
