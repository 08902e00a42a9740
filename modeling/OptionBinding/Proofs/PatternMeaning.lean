import OptionBinding.Proofs.DelimiterPattern

/-!
# What an expression matches

An expression leads from one place of a text to another (`Expr.Leads`): over the characters that it
takes, one part after the other, by one alternative or another, in so many rounds. Nothing is said
here about which of several ways is preferred.

The program of the expression does the same (`Expr.carries_code`): a thread that starts at the
expression's code accepts if and only if one that starts behind the code does, at a place that the
expression leads to. Code that does so *carries out* a relation between places (`Program.Carries`),
and what is put together from such code does, too, as the expression is from its parts. A loop may
go round without taking a character, so from a thread's acceptance rounds are counted off by its
steps (`AcceptsIn`), which get fewer from round to round.
-/

namespace OptionBinding.Regex

/-! ### Places and expressions -/

/-- A place of a text: the character before it, unless the text starts there, and the characters
after it. -/
structure Cursor where
  before : Option Char
  rest : List Char

namespace Cursor

/-- The place at the start of a text. -/
def start (cs : List Char) : Cursor := ⟨none, cs⟩

/-- One character of a set leads from a place to the next. -/
def Takes (s : CharSet) (c d : Cursor) : Prop :=
  ∃ x rest, c.rest = x :: rest ∧ s.has x = true ∧ d = ⟨some x, rest⟩

/-- The condition holds at the place. -/
def Meets (a : Assertion) (c : Cursor) : Prop := a.holds c.before c.rest.head? = true

/-- The characters of a text lead from a place to another. -/
def TakesText : List Char → Cursor → Cursor → Prop
  | [], c, d => d = c
  | x :: xs, c, d => ∃ m, c.Takes (.single x) m ∧ TakesText xs m d

end Cursor

/-- So many rounds of a relation between places. -/
def Rounds (lead : Cursor → Cursor → Prop) : Nat → Cursor → Cursor → Prop
  | 0, c, d => d = c
  | n + 1, c, d => ∃ m, lead c m ∧ Rounds lead n m d

/-- **The expression leads from a place to another**: it matches the text between them. -/
def Expr.Leads : Expr → Cursor → Cursor → Prop
  | empty, c, d => d = c
  | literal cs, c, d => c.TakesText cs d
  | set s, c, d => c.Takes s d
  | assertion a, c, d => c.Meets a ∧ d = c
  | group _ e, c, d => e.Leads c d
  | seq a b, c, d => ∃ m, a.Leads c m ∧ b.Leads m d
  | either a b, c, d => a.Leads c d ∨ b.Leads c d
  | rounds least most _ e, c, d =>
    ∃ more, (∀ m ∈ most, more ≤ m - least) ∧ Rounds e.Leads (least + more) c d

namespace Rounds

variable {lead : Cursor → Cursor → Prop} {m n : Nat} {c d : Cursor}

theorem add : Rounds lead (m + n) c d ↔ ∃ x, Rounds lead m c x ∧ Rounds lead n x d := by
  induction m generalizing c with
  | zero => simp [Rounds]
  | succ m ih =>
    rw [Nat.succ_add]
    simp only [Rounds, ih]
    constructor
    · rintro ⟨x, first, y, later, last⟩
      exact ⟨y, ⟨x, first, later⟩, last⟩
    · rintro ⟨y, ⟨x, first, later⟩, last⟩
      exact ⟨x, first, y, later, last⟩

end Rounds

/-! ### Parts side by side -/

/-- The expressions lead from a place to another, one after the other. -/
def LeadsRow : List Expr → Cursor → Cursor → Prop
  | [], c, d => d = c
  | e :: es, c, d => ∃ m, e.Leads c m ∧ LeadsRow es m d

namespace Expr

variable {es fs : List Expr} {c d : Cursor}

theorem takesText_append {xs ys : List Char} :
    c.TakesText (xs ++ ys) d ↔ ∃ m, c.TakesText xs m ∧ m.TakesText ys d := by
  induction xs generalizing c with
  | nil => simp [Cursor.TakesText]
  | cons x xs ih =>
    simp only [List.cons_append, Cursor.TakesText, ih]
    constructor
    · rintro ⟨m, takes, n, first, later⟩
      exact ⟨n, ⟨m, takes, first⟩, later⟩
    · rintro ⟨n, ⟨m, takes, first⟩, later⟩
      exact ⟨m, takes, n, first, later⟩

theorem leadsRow_append : LeadsRow (es ++ fs) c d ↔ ∃ m, LeadsRow es c m ∧ LeadsRow fs m d := by
  induction es generalizing c with
  | nil => simp [LeadsRow]
  | cons e es ih =>
    simp only [List.cons_append, LeadsRow, ih]
    constructor
    · rintro ⟨m, leads, n, first, later⟩
      exact ⟨n, ⟨m, leads, first⟩, later⟩
    · rintro ⟨n, ⟨m, leads, first⟩, later⟩
      exact ⟨m, leads, n, first, later⟩

theorem leadsRow_singleton {e : Expr} : LeadsRow [e] c d ↔ e.Leads c d := by
  simp [LeadsRow]

theorem leadsRow_factors (e : Expr) : LeadsRow e.factors c d ↔ e.Leads c d := by
  induction e generalizing c d with
  | empty => rfl
  | seq a b iha ihb =>
    rw [factors, leadsRow_append]
    simp only [iha, ihb, Leads]
  | _ => exact leadsRow_singleton

theorem leads_ofFactors : (ofFactors es).Leads c d ↔ LeadsRow es c d := by
  induction es generalizing c with
  | nil => rfl
  | cons e es ih =>
    cases es with
    | nil => exact leadsRow_singleton.symm
    | cons e' es =>
      rw [ofFactors]
      · exact exists_congr fun m => and_congr_right fun _ => ih
      · exact List.cons_ne_nil e' es

/-- Two texts side by side are one text. -/
theorem leadsRow_consFactor {e : Expr} :
    LeadsRow (consFactor e es) c d ↔ LeadsRow (e :: es) c d := by
  unfold consFactor
  split
  · simp only [LeadsRow, Leads, takesText_append]
    constructor
    · rintro ⟨m, ⟨n, first, second⟩, later⟩
      exact ⟨n, first, m, second, later⟩
    · rintro ⟨n, first, m, second, later⟩
      exact ⟨m, ⟨n, first, second⟩, later⟩
  · rfl

/-- **One expression after the other.** -/
theorem leads_concat : (concat es).Leads c d ↔ LeadsRow es c d := by
  have row (fs : List Expr) (c : Cursor) :
      LeadsRow (fs.foldr consFactor []) c d ↔ LeadsRow fs c d := by
    induction fs generalizing c with
    | nil => rfl
    | cons f fs ih =>
      rw [List.foldr_cons, leadsRow_consFactor]
      simp only [LeadsRow, ih]
  have flat (es : List Expr) (c : Cursor) :
      LeadsRow (es.flatMap factors) c d ↔ LeadsRow es c d := by
    induction es generalizing c with
    | nil => rfl
    | cons e es ih =>
      rw [List.flatMap_cons, leadsRow_append]
      simp only [leadsRow_factors, LeadsRow, ih]
  rw [concat, leads_ofFactors, row, flat]

end Expr

/-! ### Threads that accept -/

/-- What an instruction at an address asks of a thread that is to accept, by what is asked of it
later. -/
def Instruction.Accepts (later : Nat → Cursor → Prop) (a : Nat) (c : Cursor) : Instruction → Prop
  | take s => ∃ d, c.Takes s d ∧ later (a + 1) d
  | check k => c.Meets k ∧ later (a + 1) c
  | mark _ => later (a + 1) c
  | jump b => later b c
  | fork x y => later x c ∨ later y c
  | accept => True

namespace Program

variable {p : Program} {a b m n : Nat} {c d : Cursor}

/-- A thread at an address and a place can come to accept within so many steps. -/
def AcceptsIn (p : Program) : Nat → Nat → Cursor → Prop
  | 0, _, _ => False
  | n + 1, a, c => ∃ i, p[a]? = some i ∧ i.Accepts (p.AcceptsIn n) a c

/-- **A thread at an address and a place can come to accept.** -/
def Accepts (p : Program) (a : Nat) (c : Cursor) : Prop := ∃ n, p.AcceptsIn n a c

/-- One more step. -/
theorem acceptsIn_succ {i : Instruction} (found : p[a]? = some i) :
    p.AcceptsIn (n + 1) a c ↔ i.Accepts (p.AcceptsIn n) a c := by
  constructor
  · rintro ⟨j, found', h⟩
    rwa [Option.some.inj (found.symm.trans found')]
  · exact fun h => ⟨i, found, h⟩

theorem acceptsIn_take {s : CharSet} (found : p[a]? = some (.take s)) :
    p.AcceptsIn (n + 1) a c ↔ ∃ d, c.Takes s d ∧ p.AcceptsIn n (a + 1) d :=
  acceptsIn_succ found

theorem acceptsIn_check {k : Assertion} (found : p[a]? = some (.check k)) :
    p.AcceptsIn (n + 1) a c ↔ c.Meets k ∧ p.AcceptsIn n (a + 1) c :=
  acceptsIn_succ found

theorem acceptsIn_mark {slot : Nat} (found : p[a]? = some (.mark slot)) :
    p.AcceptsIn (n + 1) a c ↔ p.AcceptsIn n (a + 1) c :=
  acceptsIn_succ found

theorem acceptsIn_jump (found : p[a]? = some (.jump b)) :
    p.AcceptsIn (n + 1) a c ↔ p.AcceptsIn n b c :=
  acceptsIn_succ found

theorem acceptsIn_fork {x y : Nat} (found : p[a]? = some (.fork x y)) :
    p.AcceptsIn (n + 1) a c ↔ p.AcceptsIn n x c ∨ p.AcceptsIn n y c :=
  acceptsIn_succ found

theorem acceptsIn_again {lazy : Bool} {x y : Nat} (found : p[a]? = some (.again lazy x y)) :
    p.AcceptsIn (n + 1) a c ↔ p.AcceptsIn n x c ∨ p.AcceptsIn n y c := by
  unfold Instruction.again at found
  split_ifs at found
  · rw [acceptsIn_fork found, or_comm]
  · exact acceptsIn_fork found

theorem acceptsIn_accept (found : p[a]? = some .accept) : p.AcceptsIn (n + 1) a c :=
  (acceptsIn_succ found).mpr trivial

theorem not_acceptsIn_none (found : p[a]? = none) : ¬ p.AcceptsIn n a c := by
  cases n with
  | zero => exact id
  | succ n =>
    rintro ⟨i, found', -⟩
    cases found.symm.trans found'

/-- A thread that goes on without taking a character. -/
theorem Accepts.of_step (step : ∀ n, p.AcceptsIn n b d → p.AcceptsIn (n + 1) a c)
    (h : p.Accepts b d) : p.Accepts a c := by
  obtain ⟨n, later⟩ := h
  exact ⟨n + 1, step n later⟩

/-! ### Code that carries out a relation -/

/-- **The code from one address to another carries out a relation between places**: threads at its
start accept just as those at its end do, in no more steps, at a place that the relation leads
to. -/
structure Carries (p : Program) (a b : Nat) (lead : Cursor → Cursor → Prop) : Prop where
  sound : ∀ {n c}, p.AcceptsIn n a c → ∃ d k, k ≤ n ∧ lead c d ∧ p.AcceptsIn k b d
  complete : ∀ {c d}, lead c d → p.Accepts b d → p.Accepts a c

namespace Carries

variable {lead lead' : Cursor → Cursor → Prop} {lazy : Bool} {x y : Nat}

theorem accepts_iff (h : p.Carries a b lead) :
    p.Accepts a c ↔ ∃ d, lead c d ∧ p.Accepts b d := by
  constructor
  · rintro ⟨n, accepts⟩
    obtain ⟨d, k, -, leads, later⟩ := h.sound accepts
    exact ⟨d, leads, k, later⟩
  · rintro ⟨d, leads, later⟩
    exact h.complete leads later

theorem congr (h : p.Carries a b lead) (same : ∀ c d, lead c d ↔ lead' c d) :
    p.Carries a b lead' where
  sound accepts := by
    obtain ⟨d, k, le, leads, later⟩ := h.sound accepts
    exact ⟨d, k, le, (same _ d).mp leads, later⟩
  complete leads := h.complete ((same _ _).mpr leads)

theorem stay : p.Carries a a fun c d => d = c where
  sound accepts := ⟨_, _, Nat.le_refl _, rfl, accepts⟩
  complete := by
    rintro c _ rfl accepts
    exact accepts

theorem seq (h : p.Carries a x lead) (h' : p.Carries x b lead') :
    p.Carries a b fun c d => ∃ m, lead c m ∧ lead' m d where
  sound accepts := by
    obtain ⟨m, k, le, leads, middle⟩ := h.sound accepts
    obtain ⟨d, k', le', leads', later⟩ := h'.sound middle
    exact ⟨d, k', Nat.le_trans le' le, ⟨m, leads, leads'⟩, later⟩
  complete := by
    rintro c d ⟨m, leads, leads'⟩ later
    exact h.complete leads (h'.complete leads' later)

theorem take {s : CharSet} (found : p[a]? = some (.take s)) :
    p.Carries a (a + 1) fun c d => c.Takes s d where
  sound := by
    intro n c accepts
    cases n with
    | zero => exact accepts.elim
    | succ n =>
      obtain ⟨d, takes, later⟩ := (acceptsIn_take found).mp accepts
      exact ⟨d, n, Nat.le_succ n, takes, later⟩
  complete takes later :=
    later.of_step fun _ later => (acceptsIn_take found).mpr ⟨_, takes, later⟩

theorem check {k : Assertion} (found : p[a]? = some (.check k)) :
    p.Carries a (a + 1) fun c d => c.Meets k ∧ d = c where
  sound := by
    intro n c accepts
    cases n with
    | zero => exact accepts.elim
    | succ n =>
      obtain ⟨meets, later⟩ := (acceptsIn_check found).mp accepts
      exact ⟨c, n, Nat.le_succ n, ⟨meets, rfl⟩, later⟩
  complete := by
    rintro c _ ⟨meets, rfl⟩ later
    exact later.of_step fun _ later => (acceptsIn_check found).mpr ⟨meets, later⟩

theorem mark {slot : Nat} (found : p[a]? = some (.mark slot)) :
    p.Carries a (a + 1) fun c d => d = c where
  sound := by
    intro n c accepts
    cases n with
    | zero => exact accepts.elim
    | succ n => exact ⟨c, n, Nat.le_succ n, rfl, (acceptsIn_mark found).mp accepts⟩
  complete := by
    rintro c _ rfl later
    exact later.of_step fun _ later => (acceptsIn_mark found).mpr later

theorem jump (found : p[a]? = some (.jump b)) : p.Carries a b fun c d => d = c where
  sound := by
    intro n c accepts
    cases n with
    | zero => exact accepts.elim
    | succ n => exact ⟨c, n, Nat.le_succ n, rfl, (acceptsIn_jump found).mp accepts⟩
  complete := by
    rintro c _ rfl later
    exact later.of_step fun _ later => (acceptsIn_jump found).mpr later

theorem again (found : p[a]? = some (.again lazy x y)) (h : p.Carries x b lead)
    (h' : p.Carries y b lead') : p.Carries a b fun c d => lead c d ∨ lead' c d where
  sound := by
    intro n c accepts
    cases n with
    | zero => exact accepts.elim
    | succ n =>
      rcases (acceptsIn_again found).mp accepts with first | other
      · obtain ⟨d, k, le, leads, later⟩ := h.sound first
        exact ⟨d, k, Nat.le_succ_of_le le, .inl leads, later⟩
      · obtain ⟨d, k, le, leads, later⟩ := h'.sound other
        exact ⟨d, k, Nat.le_succ_of_le le, .inr leads, later⟩
  complete := by
    rintro c d (leads | leads) later
    · exact (h.complete leads later).of_step fun _ later =>
        (acceptsIn_again found).mpr (.inl later)
    · exact (h'.complete leads later).of_step fun _ later =>
        (acceptsIn_again found).mpr (.inr later)

/-- A loop that is entered at its fork: any number of rounds. -/
theorem loop (found : p[a]? = some (.again lazy x b)) (round : p.Carries x a lead) :
    p.Carries a b fun c d => ∃ n, Rounds lead n c d where
  sound := by
    intro n
    induction n using Nat.strong_induction_on with
    | _ n ih =>
      intro c accepts
      cases n with
      | zero => exact accepts.elim
      | succ n =>
        rcases (acceptsIn_again found).mp accepts with another | last
        · obtain ⟨m, k, le, leads, back⟩ := round.sound another
          obtain ⟨d, k', le', ⟨i, rounds⟩, later⟩ := ih k (Nat.lt_succ_of_le le) back
          exact ⟨d, k', Nat.le_trans le' (Nat.le_succ_of_le le), ⟨i + 1, m, leads, rounds⟩, later⟩
        · exact ⟨c, n, Nat.le_succ n, ⟨0, rfl⟩, last⟩
  complete := by
    rintro c d ⟨n, rounds⟩ later
    induction n generalizing c with
    | zero =>
      obtain rfl : d = c := rounds
      exact later.of_step fun _ later => (acceptsIn_again found).mpr (.inr later)
    | succ n ih =>
      obtain ⟨m, leads, rounds⟩ := rounds
      exact (round.complete leads (ih rounds)).of_step fun _ later =>
        (acceptsIn_again found).mpr (.inl later)

/-- A loop that is entered at its round: one round or more. -/
theorem rounds (round : p.Carries a x lead) (found : p[x]? = some (.again lazy a b)) :
    p.Carries a b fun c d => ∃ n, Rounds lead (n + 1) c d := by
  refine (round.seq (.loop found round)).congr fun c d => ?_
  constructor
  · rintro ⟨m, leads, n, rounds⟩
    exact ⟨n, m, leads, rounds⟩
  · rintro ⟨n, m, leads, rounds⟩
    exact ⟨m, leads, n, rounds⟩

end Carries

/-! ### Repeated code -/

section

variable {size : Nat} {code : Nat → List Instruction} {lead : Cursor → Cursor → Prop} {lazy : Bool}

theorem length_copies (length : ∀ a, (code a).length = size) (n a : Nat) :
    (copies size code n a).length = n * size := by
  induction n generalizing a with
  | zero => rw [Nat.zero_mul]; rfl
  | succ n ih => rw [copies, List.length_append, length, ih, Nat.succ_mul, Nat.add_comm]

theorem length_chances (length : ∀ a, (code a).length = size) (after n a : Nat) :
    (chances lazy after size code n a).length = n * (size + 1) := by
  induction n generalizing a with
  | zero => rw [Nat.zero_mul]; rfl
  | succ n ih =>
    rw [chances, List.length_cons, List.length_append, length, ih, Nat.succ_mul]
    omega

theorem carries_copies (length : ∀ a, (code a).length = size)
    (part : ∀ a, p.Holds a (code a) → p.Carries a (a + size) lead)
    (holds : p.Holds a (copies size code n a)) :
    p.Carries a (a + n * size) (Rounds lead n) := by
  induction n generalizing a with
  | zero =>
    rw [Nat.zero_mul]
    exact .stay
  | succ n ih =>
    rw [copies, holds_append, length] at holds
    have last : a + (n + 1) * size = a + size + n * size := by
      rw [Nat.succ_mul]
      omega
    rw [last]
    exact (part a holds.1).seq (ih holds.2)

/-- Copies are followed by the last of them. -/
theorem holds_copies_succ (length : ∀ a, (code a).length = size) :
    p.Holds a (copies size code (n + 1) a) ↔
      p.Holds a (copies size code n a) ∧ p.Holds (a + n * size) (code (a + n * size)) := by
  induction n generalizing a with
  | zero => simp [copies]
  | succ n ih =>
    have last : a + (n + 1) * size = a + size + n * size := by
      rw [Nat.succ_mul]
      omega
    rw [copies, holds_append, length, ih, last, ← and_assoc, copies, holds_append, length]

/-- Any of the rounds may be the last. -/
theorem carries_chances (length : ∀ a, (code a).length = size)
    (part : ∀ a, p.Holds a (code a) → p.Carries a (a + size) lead)
    (after : a + n * (size + 1) = b)
    (holds : p.Holds a (chances lazy b size code n a)) :
    p.Carries a b fun c d => ∃ i ≤ n, Rounds lead i c d := by
  induction n generalizing a with
  | zero =>
    rw [Nat.zero_mul, Nat.add_zero] at after
    subst after
    refine Carries.stay.congr fun c d => ?_
    constructor
    · exact fun same => ⟨0, Nat.le_refl 0, same⟩
    · rintro ⟨i, le, rounds⟩
      obtain rfl := Nat.le_zero.mp le
      exact rounds
  | succ n ih =>
    rw [chances, holds_cons, holds_append, length] at holds
    obtain ⟨found, first, later⟩ := holds
    have next : a + 1 + size + n * (size + 1) = b := by
      rw [Nat.succ_mul] at after
      omega
    refine (Carries.again found ((part _ first).seq (ih next later)) .stay).congr fun c d => ?_
    constructor
    · rintro (⟨m, leads, i, le, rounds⟩ | same)
      · exact ⟨i + 1, Nat.succ_le_succ le, m, leads, rounds⟩
      · exact ⟨0, Nat.zero_le _, same⟩
    · rintro ⟨i, le, rounds⟩
      cases i with
      | zero => exact .inr rounds
      | succ i =>
        obtain ⟨m, leads, rounds⟩ := rounds
        exact .inl ⟨m, leads, i, Nat.le_of_succ_le_succ le, rounds⟩

theorem carries_literal {cs : List Char}
    (holds : p.Holds a (cs.map fun c => .take (.single c))) :
    p.Carries a (a + cs.length) fun c d => c.TakesText cs d := by
  induction cs generalizing a with
  | nil => exact .stay
  | cons x cs ih =>
    rw [List.map_cons, holds_cons] at holds
    have last : a + (x :: cs).length = a + 1 + cs.length := by
      rw [List.length_cons]
      omega
    rw [last]
    exact (Carries.take holds.1).seq (ih holds.2)

end

end Program

/-! ### The program of an expression -/

namespace Expr

theorem length_code (e : Expr) (a : Nat) : (e.code a).length = e.size := by
  induction e generalizing a with
  | empty => rfl
  | literal cs => simp [code, size]
  | set s => rfl
  | assertion k => rfl
  | group i e ih => simp [code, size, ih]
  | seq e f ihe ihf => simp [code, size, ihe, ihf]
  | either e f ihe ihf =>
    simp only [code, size, List.length_cons, List.length_append, ihe, ihf]
    omega
  | rounds least most lazy e ih =>
    cases most with
    | none =>
      cases least with
      | zero => simp [code, size, ih]
      | succ n => simp [code, size, Program.length_copies ih]
    | some most =>
      simp [code, size, Program.length_copies ih, Program.length_chances ih]

variable {p : Program}

section

variable {e : Expr} {a n least most : Nat} {lazy : Bool}
  (round : ∀ a, p.Holds a (e.code a) → p.Carries a (a + e.size) e.Leads)
include round

theorem carries_anyRounds (holds : p.Holds a ((rounds 0 none lazy e).code a)) :
    p.Carries a (a + (rounds 0 none lazy e).size) (rounds 0 none lazy e).Leads := by
  rw [code, Program.holds_cons, Program.holds_append, length_code, Program.holds_cons] at holds
  obtain ⟨fork, inside, back, -⟩ := holds
  rw [size, ← Nat.add_assoc]
  have any (c d : Cursor) : (∃ n, Rounds e.Leads n c d) ↔ (rounds 0 none lazy e).Leads c d := by
    simp [Leads]
  refine Program.Carries.congr ?_ any
  split_ifs at back with takes
  · -- Every round takes a character, and the loop goes back to its fork.
    refine .loop fork (((round _ inside).seq (.jump back)).congr fun c d => ⟨?_, ?_⟩)
    · rintro ⟨_, leads, rfl⟩
      exact leads
    · exact fun leads => ⟨d, leads, rfl⟩
  · -- Behind each round there is a fork of its own.
    refine (Program.Carries.again fork ((round _ inside).rounds back) .stay).congr fun c d => ?_
    constructor
    · rintro (⟨n, rounds⟩ | same)
      · exact ⟨n + 1, rounds⟩
      · exact ⟨0, same⟩
    · rintro ⟨n, rounds⟩
      cases n with
      | zero => exact .inr rounds
      | succ n => exact .inl ⟨n, rounds⟩

theorem carries_someRounds (holds : p.Holds a ((rounds (n + 1) none lazy e).code a)) :
    p.Carries a (a + (rounds (n + 1) none lazy e).size) (rounds (n + 1) none lazy e).Leads := by
  rw [code, Program.holds_append, Program.length_copies (length_code e),
    Program.holds_copies_succ (length_code e), Program.holds_cons] at holds
  obtain ⟨⟨earlier, last⟩, fork, -⟩ := holds
  have place : a + (n + 1) * e.size = a + n * e.size + e.size := by
    rw [Nat.succ_mul]
    omega
  have stop : a + (rounds (n + 1) none lazy e).size = a + n * e.size + e.size + 1 := by
    rw [size, ← Nat.add_assoc, place]
    exact fun h => absurd h (Nat.succ_ne_zero n)
  rw [place] at fork
  rw [stop]
  refine ((Program.carries_copies (length_code e) round earlier).seq
    ((round _ last).rounds fork)).congr fun c d => ?_
  have unbounded : (rounds (n + 1) none lazy e).Leads c d ↔
      ∃ more, Rounds e.Leads (n + (more + 1)) c d := by
    simp [Leads, Nat.add_right_comm, Nat.add_assoc]
  rw [unbounded]
  constructor
  · rintro ⟨m, first, i, later⟩
    exact ⟨i, Rounds.add.mpr ⟨m, first, later⟩⟩
  · rintro ⟨i, rounds⟩
    obtain ⟨m, first, later⟩ := Rounds.add.mp rounds
    exact ⟨m, first, i, later⟩

theorem carries_boundedRounds (holds : p.Holds a ((rounds least (some most) lazy e).code a)) :
    p.Carries a (a + (rounds least (some most) lazy e).size)
      (rounds least (some most) lazy e).Leads := by
  rw [code, Program.holds_append, Program.length_copies (length_code e)] at holds
  obtain ⟨first, chances⟩ := holds
  have stop : a + (rounds least (some most) lazy e).size =
      a + least * e.size + (most - least) * (e.size + 1) := by
    rw [size, ← Nat.add_assoc]
  rw [stop]
  refine ((Program.carries_copies (length_code e) round first).seq
    (Program.carries_chances (length_code e) round rfl chances)).congr fun c d => ?_
  have bounded : (rounds least (some most) lazy e).Leads c d ↔
      ∃ more ≤ most - least, Rounds e.Leads (least + more) c d := by simp [Leads]
  rw [bounded]
  constructor
  · rintro ⟨m, first, i, le, later⟩
    exact ⟨i, le, Rounds.add.mpr ⟨m, first, later⟩⟩
  · rintro ⟨i, le, rounds⟩
    obtain ⟨m, first, later⟩ := Rounds.add.mp rounds
    exact ⟨m, first, i, le, later⟩

end

/-- **The code of an expression carries it out.** -/
theorem carries_code (e : Expr) (a : Nat) (holds : p.Holds a (e.code a)) :
    p.Carries a (a + e.size) e.Leads := by
  induction e generalizing a with
  | empty => exact .stay
  | literal cs => exact Program.carries_literal holds
  | set s => exact .take (Program.holds_cons.mp holds).1
  | assertion k => exact .check (Program.holds_cons.mp holds).1
  | group i e ih =>
    rw [code, Program.holds_cons, Program.holds_append, length_code, Program.holds_cons] at holds
    obtain ⟨first, inside, last, -⟩ := holds
    have stop : a + (group i e).size = a + 1 + e.size + 1 := by
      rw [size]
      omega
    rw [stop]
    refine ((Program.Carries.mark first).seq ((ih _ inside).seq (.mark last))).congr fun c d => ?_
    constructor
    · rintro ⟨_, rfl, _, leads, rfl⟩
      exact leads
    · exact fun leads => ⟨c, rfl, d, leads, rfl⟩
  | seq e f ihe ihf =>
    rw [code, Program.holds_append, length_code] at holds
    rw [size, ← Nat.add_assoc]
    exact (ihe _ holds.1).seq (ihf _ holds.2)
  | either e f ihe ihf =>
    rw [code, Program.holds_cons, Program.holds_append, length_code, Program.holds_cons] at holds
    obtain ⟨fork, first, jump, other⟩ := holds
    have stop : a + (either e f).size = a + e.size + 2 + f.size := by
      rw [size]
      omega
    have second : a + 1 + e.size + 1 = a + e.size + 2 := by omega
    rw [second] at other
    have fork : p[a]? = some (.again false (a + 1) (a + e.size + 2)) := fork
    rw [stop]
    refine (Program.Carries.again fork ((ihe _ first).seq (.jump jump))
      (ihf _ other)).congr fun c d => ?_
    refine or_congr ⟨?_, ?_⟩ Iff.rfl
    · rintro ⟨_, leads, rfl⟩
      exact leads
    · exact fun leads => ⟨d, leads, rfl⟩
  | rounds least most lazy e ih =>
    cases most with
    | none =>
      cases least with
      | zero => exact carries_anyRounds ih holds
      | succ n => exact carries_someRounds ih holds
    | some most => exact carries_boundedRounds ih holds

/-- **The program of an expression** accepts from a place if and only if the expression leads
anywhere from it. -/
theorem accepts_program_iff (e : Expr) (c : Cursor) :
    e.program.Accepts 0 c ↔ ∃ d, e.Leads c d := by
  have whole : e.program.Holds 0 (e.code 0 ++ [Instruction.accept]) := Program.holds_toArray _
  rw [Program.holds_append, length_code, Program.holds_cons] at whole
  obtain ⟨code, accept, -⟩ := whole
  have accepts (d : Cursor) : e.program.Accepts (0 + e.size) d :=
    ⟨1, Program.acceptsIn_accept accept⟩
  rw [(carries_code e 0 code).accepts_iff]
  exact exists_congr fun d => and_iff_left (accepts d)

end Expr

end OptionBinding.Regex
