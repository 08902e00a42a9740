import OptionBinding.Proofs.Filling
import OptionBinding.Proofs.Precedence
import OptionBinding.Proofs.Registrations
import OptionBinding.Proofs.Segments
import OptionBinding.Proofs.TokenForms
import OptionBinding.Regex.Standard

/-!
# Integers are read exactly or not at all

A text is read as an integer of a type if and only if, white space around it aside, it is the
decimal notation of a value of the type (`IntegerType.Denotes`). All others are faults, and which
one it is depends on the first character from the left that does not go (`IntegerType.FirstFault`):
one that is no digit, or a digit that takes the number out of the range.

The digits are read upwards from zero or, after a minus sign, downwards; `readOn` is the one or the
other. What it is about to read does not matter as long as the number so far is in the range, and
every number on the way to one in the range is (`Holds.of_prefix`).

The decimal notation of a value, with white space around it, is read back after the delimiter of an
option (`Binder.integers_exact`).
-/

namespace OptionBinding

namespace IntegerType

variable {t : IntegerType} {negative : Bool} {cs digits part : List Char} {c : Char} {n : Int}
  {fault : IntegerFault}

/-! ### Numbers in decimal notation -/

/-- The number that digits denote after a minus sign, or without one. -/
def numberOf (negative : Bool) (digits : List Char) : Int :=
  if negative then -(Nat.ofDigitChars 10 digits 0 : Int) else Nat.ofDigitChars 10 digits 0

/-- **The decimal notation of a number**: one or more digits, and a sign that the type can have in
front of them or none. -/
inductive Denotes (t : IntegerType) : List Char → Int → Prop
  | bare {digits : List Char} (given : digits ≠ []) (all : ∀ c ∈ digits, c.isDigit = true) :
      Denotes t digits (numberOf false digits)
  | plus {digits : List Char} (given : digits ≠ []) (all : ∀ c ∈ digits, c.isDigit = true) :
      Denotes t ('+' :: digits) (numberOf false digits)
  | minus {digits : List Char} (signed : t.signed = true) (given : digits ≠ [])
      (all : ∀ c ∈ digits, c.isDigit = true) : Denotes t ('-' :: digits) (numberOf true digits)

/-- **The sign of a text**, and what is read after it. A sign is only one with something after it,
and types without negative values have no minus sign. -/
inductive Lead (t : IntegerType) : List Char → Bool → List Char → Prop
  | bare {cs : List Char} (plus : ∀ more, cs = '+' :: more → more = [])
      (minus : ∀ more, cs = '-' :: more → more = [] ∨ t.signed = false) : Lead t cs false cs
  | plus {digits : List Char} (given : digits ≠ []) : Lead t ('+' :: digits) false digits
  | minus {digits : List Char} (signed : t.signed = true) (given : digits ≠ []) :
      Lead t ('-' :: digits) true digits

/-- **What stops reading** at a character after some digits: it is no digit, or else the number
through it is out of the range. -/
inductive StopsAt (t : IntegerType) (negative : Bool) (before : List Char) (c : Char) :
    IntegerFault → Prop
  | invalidDigit (other : c.isDigit = false) : StopsAt t negative before c .invalidDigit
  | overflow (digit : c.isDigit = true) (out : ¬ t.Holds (numberOf negative (before ++ [c]))) :
      StopsAt t negative before c (if negative then .tooSmall else .tooLarge)

/-- **The fault of a text that is met first** from the left: there is nothing to read, or reading
stops at a character, and the characters before it are digits that all go. -/
inductive FirstFault (t : IntegerType) : List Char → IntegerFault → Prop
  | empty : FirstFault t [] .empty
  | stop {cs before after : List Char} {negative : Bool} {c : Char} {fault : IntegerFault}
      (lead : t.Lead cs negative (before ++ c :: after))
      (digits : ∀ d ∈ before, d.isDigit = true)
      (goes : ∀ part, part <+: before → t.Holds (numberOf negative part))
      (stops : t.StopsAt negative before c fault) : FirstFault t cs fault

theorem numberOf_nil : numberOf negative [] = 0 := by cases negative <;> rfl

theorem numberOf_concat (negative : Bool) (digits : List Char) (c : Char) :
    numberOf negative (digits ++ [c]) =
      numberOf negative digits * 10 +
        if negative then -((c.toNat - '0'.toNat : Nat) : Int) else (c.toNat - '0'.toNat : Nat) := by
  have whole : Nat.ofDigitChars 10 (digits ++ [c]) 0 =
      10 * Nat.ofDigitChars 10 digits 0 + (c.toNat - '0'.toNat) := by
    rw [Nat.ofDigitChars_append, Nat.ofDigitChars_cons, Nat.ofDigitChars_nil]
  unfold numberOf
  rw [whole]
  cases negative
  · simp only [Bool.false_eq_true, if_false]
    omega
  · simp only [if_true]
    omega

/-- More digits make the number larger. -/
theorem ofDigitChars_le (digits more : List Char) :
    Nat.ofDigitChars 10 digits 0 ≤ Nat.ofDigitChars 10 (digits ++ more) 0 := by
  rw [Nat.ofDigitChars_append, Nat.ofDigitChars_eq_ofDigitChars_zero (l := more)]
  have power : 1 ≤ 10 ^ more.length := Nat.one_le_pow _ _ (by decide)
  have scaled := Nat.mul_le_mul_right (Nat.ofDigitChars 10 digits 0) power
  omega

theorem least_nonpos (t : IntegerType) : t.least ≤ 0 := by cases t <;> decide

theorem greatest_nonneg (t : IntegerType) : 0 ≤ t.greatest := by cases t <;> decide

/-- **On the way to a number in the range** all numbers are in it. -/
theorem Holds.of_prefix (h : t.Holds (numberOf negative digits)) (front : part <+: digits) :
    t.Holds (numberOf negative part) := by
  obtain ⟨more, rfl⟩ := front
  have le := ofDigitChars_le part more
  have low := t.least_nonpos
  have high := t.greatest_nonneg
  obtain ⟨above, below⟩ := h
  unfold numberOf at above below
  unfold numberOf Holds
  cases negative
  · simp only [Bool.false_eq_true, if_false] at above below ⊢
    omega
  · simp only [if_true] at above below ⊢
    omega

theorem holds_zero (t : IntegerType) : t.Holds 0 := ⟨t.least_nonpos, t.greatest_nonneg⟩

/-! ### Reading digits -/

theorem digit?_eq (c : Char) :
    digit? c = if c.isDigit then some ((c.toNat - '0'.toNat : Nat) : Int) else none := by
  unfold digit?
  by_cases digit : c.isDigit = true
  · have bounds : '0' ≤ c ∧ c ≤ '9' := by simpa [Char.isDigit, Char.le_def] using digit
    have low : '0'.toNat ≤ c.toNat := bounds.1
    rw [if_pos bounds, if_pos digit, Int.ofNat_sub low]
  · have bounds : ¬ ('0' ≤ c ∧ c ≤ '9') := by simpa [Char.isDigit, Char.le_def] using digit
    rw [if_neg bounds, if_neg digit]

/-- Reads digits after a number, away from zero. -/
def readOn (t : IntegerType) (negative : Bool) (n : Int) (cs : List Char) :
    Except IntegerFault Int :=
  if negative then t.readDown n cs else t.readUp n cs

theorem readOn_nil : t.readOn negative n [] = .ok n := by cases negative <;> rfl

theorem readOn_other (other : c.isDigit = false) :
    t.readOn negative n (c :: cs) = .error .invalidDigit := by
  have none : digit? c = none := by rw [digit?_eq, if_neg (by simp [other])]
  unfold readOn
  cases negative <;> simp [readUp, readDown, none]

/-- **One digit more**: reading goes on from the number through it, if that is in the range. -/
theorem readOn_digit (digit : c.isDigit = true) (before : List Char) :
    t.readOn negative (numberOf negative before) (c :: cs) =
      if t.Holds (numberOf negative (before ++ [c])) then
        t.readOn negative (numberOf negative (before ++ [c])) cs
      else .error (if negative then .tooSmall else .tooLarge) := by
  have value := digit?_eq c
  rw [if_pos digit] at value
  have concat := numberOf_concat negative before c
  have low := t.least_nonpos
  have high := t.greatest_nonneg
  unfold readOn
  cases negative
  · simp only [Bool.false_eq_true, if_false] at concat ⊢
    have nonneg : 0 ≤ numberOf false before := Int.natCast_nonneg _
    have range : t.Holds (numberOf false (before ++ [c])) ↔
        numberOf false (before ++ [c]) ≤ t.greatest := and_iff_right (by omega)
    rw [readUp, value]
    dsimp only
    rw [← concat]
    simp only [range]
  · simp only [if_true] at concat ⊢
    have nonpos : numberOf true before ≤ 0 := by
      simp only [numberOf, if_true]
      omega
    have range : t.Holds (numberOf true (before ++ [c])) ↔
        t.least ≤ numberOf true (before ++ [c]) := and_iff_left (by omega)
    rw [readDown, value]
    dsimp only
    rw [Int.sub_eq_add_neg, ← concat]
    simp only [range]

/-- **Reading comes to the end** if the rest are digits and the whole number is in the range. -/
theorem readOn_ok_iff {before : List Char} (goes : t.Holds (numberOf negative before)) :
    t.readOn negative (numberOf negative before) cs = .ok n ↔
      (∀ c ∈ cs, c.isDigit = true) ∧ n = numberOf negative (before ++ cs) ∧ t.Holds n := by
  induction cs generalizing before with
  | nil =>
    rw [readOn_nil, Except.ok.injEq, List.append_nil]
    constructor
    · rintro rfl
      exact ⟨by simp, rfl, goes⟩
    · rintro ⟨-, rfl, -⟩
      rfl
  | cons c cs ih =>
    have split : before ++ c :: cs = before ++ [c] ++ cs := by simp
    cases digit : c.isDigit with
    | false => simp [readOn_other digit, digit]
    | true =>
      rw [readOn_digit digit, List.forall_mem_cons, split]
      by_cases next : t.Holds (numberOf negative (before ++ [c]))
      · rw [if_pos next, ih next, and_iff_right digit]
      · rw [if_neg next]
        refine iff_of_false (by simp) ?_
        rintro ⟨-, rfl, holds⟩
        exact next (holds.of_prefix (List.prefix_append _ _))

/-- Reading stops at one of the characters that follow, and those before it have gone. -/
def StopsWithin (t : IntegerType) (negative : Bool) (before cs : List Char) (fault : IntegerFault) :
    Prop :=
  ∃ more c after, cs = more ++ c :: after ∧ (∀ d ∈ more, d.isDigit = true) ∧
    t.Holds (numberOf negative (before ++ more)) ∧ t.StopsAt negative (before ++ more) c fault

/-- Reading stops at the character at hand, or at a later one after this one has gone. -/
theorem stopsWithin_cons {before : List Char} (goes : t.Holds (numberOf negative before)) :
    t.StopsWithin negative before (c :: cs) fault ↔ t.StopsAt negative before c fault ∨
      c.isDigit = true ∧ t.StopsWithin negative (before ++ [c]) cs fault := by
  constructor
  · rintro ⟨more, d, after, split, digits, holds, stops⟩
    cases more with
    | nil =>
      obtain ⟨rfl, rfl⟩ := List.cons.inj split
      rw [List.append_nil] at stops
      exact .inl stops
    | cons e more =>
      obtain ⟨rfl, rfl⟩ := List.cons.inj split
      obtain ⟨digit, digits⟩ := List.forall_mem_cons.mp digits
      rw [List.append_cons] at holds stops
      exact .inr ⟨digit, more, d, after, rfl, digits, holds, stops⟩
  · rintro (stops | ⟨digit, more, d, after, rfl, digits, holds, stops⟩)
    · exact ⟨[], c, cs, rfl, by simp, by rwa [List.append_nil], by rwa [List.append_nil]⟩
    · refine ⟨c :: more, d, after, rfl, List.forall_mem_cons.mpr ⟨digit, digits⟩, ?_⟩
      rw [List.append_cons]
      exact ⟨holds, stops⟩

/-- **Reading stops** at the first character that does not go. -/
theorem readOn_error_iff {before : List Char} (goes : t.Holds (numberOf negative before)) :
    t.readOn negative (numberOf negative before) cs = .error fault ↔
      t.StopsWithin negative before cs fault := by
  induction cs generalizing before with
  | nil => simp [readOn_nil, StopsWithin]
  | cons c cs ih =>
    rw [stopsWithin_cons goes]
    cases digit : c.isDigit with
    | false =>
      rw [readOn_other digit, Except.error.injEq]
      constructor
      · rintro rfl
        exact .inl (.invalidDigit digit)
      · rintro (stops | ⟨⟨⟩, -⟩)
        cases stops with
        | invalidDigit => rfl
        | overflow other => simp [digit] at other
    | true =>
      rw [readOn_digit digit, and_iff_right rfl]
      by_cases next : t.Holds (numberOf negative (before ++ [c]))
      · rw [if_pos next, ih next]
        refine (or_iff_right fun stops => ?_).symm
        cases stops with
        | invalidDigit other => simp [digit] at other
        | overflow _ out => exact out next
      · rw [if_neg next, Except.error.injEq]
        constructor
        · rintro rfl
          exact .inl (.overflow digit next)
        · rintro (stops | ⟨more, d, after, rfl, -, holds, -⟩)
          · cases stops with
            | invalidDigit other => simp [digit] at other
            | overflow => rfl
          · exact absurd (holds.of_prefix (List.prefix_append _ _)) next

/-! ### Reading integers -/

theorem exists_lead (t : IntegerType) (cs : List Char) :
    ∃ negative digits, t.Lead cs negative digits := by
  by_cases plus : ∃ digits, cs = '+' :: digits ∧ digits ≠ []
  · obtain ⟨digits, rfl, given⟩ := plus
    exact ⟨false, digits, .plus given⟩
  · by_cases minus : t.signed = true ∧ ∃ digits, cs = '-' :: digits ∧ digits ≠ []
    · obtain ⟨signed, digits, rfl, given⟩ := minus
      exact ⟨true, digits, .minus signed given⟩
    · refine ⟨false, cs, .bare (fun more split => ?_) fun more split => ?_⟩
      · by_contra given
        exact plus ⟨more, split, given⟩
      · by_contra neither
        rw [not_or, Bool.not_eq_false] at neither
        exact minus ⟨neither.2, more, split, neither.1⟩

theorem Lead.ne_nil (lead : t.Lead cs negative digits) (some : cs ≠ []) : digits ≠ [] := by
  cases lead with
  | bare => exact some
  | plus given => exact given
  | minus _ given => exact given

/-- Reading is reading the digits after the sign. -/
theorem Lead.read_eq (lead : t.Lead cs negative digits) (some : cs ≠ []) :
    t.read cs = t.readOn negative 0 digits := by
  cases lead with
  | plus given =>
    obtain ⟨d, digits, rfl⟩ := List.exists_cons_of_ne_nil given
    rfl
  | minus signed given =>
    obtain ⟨d, digits, rfl⟩ := List.exists_cons_of_ne_nil given
    simp [read, signed, readOn]
  | bare plus minus =>
    -- A sign that is none is read as a character that is no digit.
    have refused : t.readOn false 0 cs = t.readUp 0 cs := rfl
    rw [refused]
    unfold read
    split
    · exact absurd rfl some
    · split_ifs with sign
      · rcases sign with rfl | rfl <;> rfl
      · rfl
    · next digits more =>
      obtain rfl := plus digits rfl
      exact absurd rfl more
    · next digits more =>
      rcases minus digits rfl with rfl | unsigned
      · exact absurd rfl more
      · rw [if_neg (by simp [unsigned])]
        rfl
    · rfl

theorem denotes_iff : t.Denotes cs n ↔ ∃ negative digits, t.Lead cs negative digits ∧
    digits ≠ [] ∧ (∀ c ∈ digits, c.isDigit = true) ∧ n = numberOf negative digits := by
  constructor
  · intro h
    cases h with
    | bare given all =>
      refine ⟨false, cs, .bare (fun more split => ?_) fun more split => ?_, given, all, rfl⟩
      · have digit := all '+' (split ▸ List.mem_cons_self)
        simp at digit
      · have digit := all '-' (split ▸ List.mem_cons_self)
        simp at digit
    | plus given all => exact ⟨false, _, .plus given, given, all, rfl⟩
    | minus signed given all => exact ⟨true, _, .minus signed given, given, all, rfl⟩
  · rintro ⟨negative, digits, lead, given, all, rfl⟩
    cases lead with
    | bare => exact .bare given all
    | plus => exact .plus given all
    | minus signed => exact .minus signed given all

/-- **The texts that are read** as a number of the type. -/
theorem read_ok_iff : t.read cs = .ok n ↔ t.Denotes cs n ∧ t.Holds n := by
  rw [denotes_iff]
  by_cases given : cs = []
  · subst given
    refine iff_of_false (by simp [read]) ?_
    rintro ⟨⟨negative, digits, lead, some, -⟩, -⟩
    cases lead
    exact some rfl
  · constructor
    · intro h
      obtain ⟨negative, digits, lead⟩ := t.exists_lead cs
      rw [lead.read_eq given, ← numberOf_nil, readOn_ok_iff (numberOf_nil ▸ t.holds_zero)] at h
      obtain ⟨all, value, holds⟩ := h
      exact ⟨⟨negative, digits, lead, lead.ne_nil given, all, value⟩, holds⟩
    · rintro ⟨⟨negative, digits, lead, -, all, value⟩, holds⟩
      rw [lead.read_eq given, ← numberOf_nil, readOn_ok_iff (numberOf_nil ▸ t.holds_zero)]
      exact ⟨all, value, holds⟩

/-- **The texts that are faulty**, and how. -/
theorem read_error_iff : t.read cs = .error fault ↔ t.FirstFault cs fault := by
  by_cases given : cs = []
  · subst given
    constructor
    · rintro ⟨⟩
      exact .empty
    · intro h
      generalize whole : ([] : List Char) = cs at h
      cases h with
      | empty => rfl
      | stop lead =>
        subst whole
        generalize digits : _ ++ _ :: _ = rest at lead
        cases lead
        simp at digits
  · have zero (negative : Bool) : t.Holds (numberOf negative []) := numberOf_nil ▸ t.holds_zero
    constructor
    · intro h
      obtain ⟨negative, digits, lead⟩ := t.exists_lead cs
      rw [lead.read_eq given, ← numberOf_nil, readOn_error_iff (zero negative)] at h
      obtain ⟨before, c, after, rfl, all, holds, stops⟩ := h
      exact .stop lead all (fun _ => holds.of_prefix) stops
    · intro h
      cases h with
      | empty => exact absurd rfl given
      | @stop _ before after negative c _ lead all goes stops =>
        rw [lead.read_eq given, ← numberOf_nil, readOn_error_iff (zero negative)]
        exact ⟨before, c, after, rfl, all, goes before (List.prefix_refl _), stops⟩

/-! ### Writing integers -/

theorem repr_denotes (signs : n < 0 → t.signed = true) : t.Denotes n.repr.toList n := by
  have given (m : Nat) : Nat.toDigits 10 m ≠ [] := Nat.toDigits_ne_nil
  have all (m : Nat) : ∀ c ∈ Nat.toDigits 10 m, c.isDigit = true := fun c mem =>
    Nat.isDigit_of_mem_toDigits (by decide) (by decide) mem
  cases n with
  | ofNat m =>
    have value : numberOf false (Nat.toDigits 10 m) = Int.ofNat m := by
      simp [numberOf, Nat.ofDigitChars_ten_toDigits]
    have text : (Int.ofNat m).repr.toList = Nat.toDigits 10 m := Nat.toList_repr
    rw [text, ← value]
    exact .bare (given m) (all m)
  | negSucc m =>
    have value : numberOf true (Nat.toDigits 10 (m + 1)) = Int.negSucc m := by
      simp [numberOf, Nat.ofDigitChars_ten_toDigits, Int.negSucc_eq]
    have text : (Int.negSucc m).repr.toList = '-' :: Nat.toDigits 10 (m + 1) := by
      have parts : (Int.negSucc m).repr = "-" ++ (m + 1).repr := rfl
      rw [parts, String.toList_append, Nat.toList_repr]
      rfl
    rw [text, ← value]
    exact .minus (signs (Int.negSucc_lt_zero m)) (given _) (all _)

/-- Types with values below zero can have a minus sign. -/
theorem Holds.signed (h : t.Holds n) (below : n < 0) : t.signed = true := by
  by_contra unsigned
  have least : t.least = 0 := by simp [least, unsigned]
  have above := h.1
  omega

end IntegerType

/-! ### Texts and tokens -/

theorem Text.trimChars_blanks_append {before cs : List Char}
    (all : ∀ c ∈ before, Text.isBlank c = true) :
    Text.trimChars (before ++ cs) = Text.trimChars cs := by
  rw [trimChars, List.dropWhile_append_of_pos all, trimChars]

theorem Text.trimChars_of_visible {cs : List Char} (h : ∀ c ∈ cs, Text.isBlank c = false) :
    Text.trimChars cs = cs := by
  rw [trimChars, dropWhile_isBlank_of_visible h, dropWhile_isBlank_of_visible (by simpa using h),
    List.reverse_reverse]

namespace IntegerType

variable {t : IntegerType} {n : Int}

/-- There is no white space in decimal notation. -/
theorem Denotes.visible {cs : List Char} (h : t.Denotes cs n) :
    ∀ c ∈ cs, Text.isBlank c = false := by
  have digit {c : Char} (digit : c.isDigit = true) : Text.isBlank c = false := by
    have bounds : '0'.toNat ≤ c.toNat ∧ c.toNat ≤ '9'.toNat := by
      simpa [Char.isDigit, UInt32.le_iff_toNat_le] using digit
    simp only [Text.isBlank, Text.blankRanges, Text.RangeTable.contains, Text.RangeTable.has]
    simp at bounds ⊢
    omega
  cases h with
  | bare _ all => exact fun c mem => digit (all c mem)
  | plus _ all =>
    exact List.forall_mem_cons.mpr ⟨by decide, fun c mem => digit (all c mem)⟩
  | minus _ _ all =>
    exact List.forall_mem_cons.mpr ⟨by decide, fun c mem => digit (all c mem)⟩

end IntegerType

/-! ### Registries -/

namespace Registry

variable [Regex.Engine] {r : Registry} {d : Descriptor} {t : IntegerType} {table : TypeTable}
  {text : String}

theorem resolve?_builtin_integer (t : IntegerType) (d : Descriptor) :
    builtin.resolve? d (.single (.scalar (.integer t))) = some (ScalarType.integer t).parser :=
  resolve?_builtin (by cases t <;> decide) d

section

variable (resolved :
  r.resolve? d (.single (.scalar (.integer t))) = some (ScalarType.integer t).parser)
include resolved

theorem parse_integer_eq :
    r.parse table d (.single (.scalar (.integer t))) text =
      ((t.read (Text.trimChars text.toList)).map fun n => Value.scalar (.integer n)).mapError
        fun fault => .conversion d.signature text (.integer fault) := by
  rw [parse_of_resolve? resolved]
  unfold ScalarType.parser ScalarType.read
  dsimp only
  cases t.read (Text.trimChars text.toList) <;> rfl

/-- **The texts of integers**, as far as a registry reads them with the built-in parser. -/
theorem parse_integer_ok_iff {v : Value} :
    r.parse table d (.single (.scalar (.integer t))) text = .ok v ↔
      ∃ n, v = .scalar (.integer n) ∧ t.Denotes (Text.trimChars text.toList) n ∧ t.Holds n := by
  simp only [← IntegerType.read_ok_iff]
  rw [parse_integer_eq resolved]
  cases t.read (Text.trimChars text.toList) <;> simp [Except.map, Except.mapError, eq_comm]

/-- **All other texts are faulty**, which is told with the text as it is. -/
theorem parse_integer_error_iff {e : BindError} :
    r.parse table d (.single (.scalar (.integer t))) text = .error e ↔
      ∃ fault, e = .conversion d.signature text (.integer fault) ∧
        t.FirstFault (Text.trimChars text.toList) fault := by
  simp only [← IntegerType.read_error_iff]
  rw [parse_integer_eq resolved]
  cases t.read (Text.trimChars text.toList) <;> simp [Except.map, Except.mapError, eq_comm]

end

end Registry

/-! ### Options that take an integer -/

namespace TypeTable

variable {table : TypeTable} {t : TypeId} {p : Pending} {token : String} {form : TokenForm}

/-- The first option that recognises a token is selected. -/
theorem select_of_first (mem : p ∈ table.pending t)
    (recognised : p.field.descriptor.recognise token = some form)
    (first : ∀ q ∈ table.pending t, q.index < p.index → ¬ q.field.descriptor.Recognises token) :
    ∃ others, select token (table.pending t) = some ⟨p, form, others⟩ := by
  obtain ⟨earlier, later, split⟩ := List.append_of_mem mem
  have ordered := table.pending_ordered t
  rw [split, List.pairwise_append] at ordered
  refine ⟨earlier ++ later, select_eq_some_iff.mpr
    ⟨recognised, earlier, later, split, rfl, fun q among => ?_⟩⟩
  have lower := ordered.2.2 q among p List.mem_cons_self
  have listed : q ∈ table.pending t := split ▸ List.mem_append_left _ among
  exact Descriptor.recognise_eq_none_iff.mpr (first q listed lower)

end TypeTable

namespace Binder

variable {b : Binder} {T : TypeId} {p : Pending} {t : IntegerType} {n : Int} {text : String}

/-- **An option that takes an integer**, after `=`, and leaves it to the built-in parser. -/
structure TakesInteger [Regex.Engine] (b : Binder) (T : TypeId) (p : Pending) (t : IntegerType) :
    Prop where
  mem : p ∈ b.table.pending T
  shape : p.field.shape = .single (.scalar (.integer t))
  delimiter : p.field.descriptor.delimiter = "="
  builtin : b.registry.resolve? p.field.descriptor (.single (.scalar (.integer t))) =
    some (ScalarType.integer t).parser

/-- **What fails at another option** than the one given: it is required, or its default gives
nothing. -/
def FailsElsewhere (b : Binder) (T : TypeId) (p : Pending) (e : NoResult BindError) :
    Prop :=
  ∃ q ∈ b.table.pending T, q.index ≠ p.index ∧
    FailsAs (b.table.recordName T) (b.valueOf b.finishDefault (b.table.recordName T)) q.field
      q.field.shape.fresh e

namespace TakesInteger

variable [Regex.Engine] (option : b.TakesInteger T p t)
include option

/-- The token with a text in one line is taken, and no other token, if the text is read. -/
theorem takes (holds : t.Holds n) (denotes : t.Denotes (Text.trimChars text.toList) n)
    (oneLine : '\n' ∉ text.toList) (rest : List String)
    (first : ∀ q ∈ b.table.pending T, q.index < p.index →
      ¬ q.field.descriptor.Recognises (p.field.signature ++ "=" ++ text)) :
    ∃ others, select (p.field.signature ++ "=" ++ text) (b.table.pending T) =
        some ⟨p, .delimited text, others⟩ ∧
      (b.claim (b.table.recordName T) ⟨p, .delimited text, others⟩ rest).outcome =
        .ok ⟨some (.scalar (.integer n)), 0⟩ := by
  have token : p.field.descriptor.givenToken text = p.field.signature ++ "=" ++ text := by
    rw [Descriptor.givenToken, option.delimiter]
    rfl
  have visible : '=' ∈ p.field.descriptor.delimiter.toList := by
    rw [option.delimiter]
    decide
  have recognised := Descriptor.readsValues_of_visible visible (by decide) text oneLine
  rw [token] at recognised
  obtain ⟨others, selected⟩ := TypeTable.select_of_first option.mem recognised first
  have parsed : b.registry.parse b.table p.field.descriptor (.single (.scalar (.integer t))) text =
      .ok (.scalar (.integer n)) :=
    (Registry.parse_integer_ok_iff option.builtin).mpr ⟨n, rfl, denotes, holds⟩
  have read : (b.readElement b.finish p.field.descriptor (.scalar (.integer t)) text).outcome =
      .ok (.scalar (.integer n)) := Run.bind_ok_iff.mpr ⟨_, parse_ok_iff.mpr parsed, rfl⟩
  exact ⟨others, selected,
    (claim_delimited_iff rfl).mpr ⟨_, 0, .single option.shape read, rfl⟩⟩

end TakesInteger

/-- After a call in which the first token gives the option an integer, its field holds the integer,
whatever else happens. -/
theorem bind_holds {v : Value} {token : String} {s : Selection} {args rest : List String}
    {start : Nat} (accepted : b.Accepts T) (first : args.drop start = token :: rest)
    (selected : select token (b.table.pending T) = some s)
    (claimed : (b.claim (b.table.recordName T) s rest).outcome = .ok ⟨some v, 0⟩)
    (given : v.isEmpty = false) :
    (b.bind T args start).fields[s.chosen.index]? = some v := by
  have field := TypeTable.mem_pending.mp (chosen_mem_of_select selected)
  have held := bindFields_of_takes accepted (.here selected claimed) (b.table.fresh T)
  have fresh : (b.table.fresh T)[s.chosen.index]? = some s.chosen.field.shape.fresh := by
    simp [TypeTable.fresh, field]
  rw [fresh, Option.map_some, Option.getD_some, ← first] at held
  unfold bind bindInto settle bindAndComplete
  dsimp only
  cases (b.bindFields T (b.table.fresh T) (args.drop start)).run.outcome with
  | error e => exact held
  | ok _ => exact (complete_fills accepted _).keeps held given

/-- A token alone that gives an option a single value: binding takes it, and completing may fail
at another option only. -/
theorem bind_alone {v : Value} {token : String} {s : Selection} (accepted : b.Accepts T)
    (selected : select token (b.table.pending T) = some s)
    (claimed : (b.claim (b.table.recordName T) s []).outcome = .ok ⟨some v, 0⟩)
    (given : v.isEmpty = false) (fields : List Value) :
    (b.bindFields T fields [token]).run.outcome = .ok 1 ∧
      (b.bindFields T fields [token]).fields = fields.set s.chosen.index v ∧
      ∀ args start, args.drop start = [token] → (b.bind T args start).outcome = .ok 1 ∨
        ∃ e, (b.bind T args start).outcome = .error e ∧ b.FailsElsewhere T s.chosen e := by
  have found : b.FindsFor T [token] [⟨s.chosen.index, 1, some v⟩] :=
    .take selected claimed (.stop (by simp))
  have bound (fields : List Value) : (b.bindFields T fields [token]).run.outcome = .ok 1 :=
    bindFields_ok_iff.mpr ⟨accepted, _, found, rfl⟩
  have fields_eq (fields : List Value) :
      (b.bindFields T fields [token]).fields = fields.set s.chosen.index v := by
    rw [bindFields_fields accepted, found.segments_eq]
    rfl
  refine ⟨bound fields, fields_eq fields, fun args start alone => ?_⟩
  unfold bind bindInto settle bindAndComplete
  rw [alone]
  simp only [bound]
  have fills := complete_fills accepted (b.bindFields T (b.table.fresh T) [token]).fields
  cases ended : (b.complete T (b.bindFields T (b.table.fresh T) [token]).fields).run.outcome with
  | ok _ => exact .inl rfl
  | error e =>
    rw [ended] at fills
    obtain ⟨k, f, w, field, held, fails, -⟩ := fills.stops
    rw [fields_eq] at held
    have elsewhere : k ≠ s.chosen.index := by
      rintro rfl
      have bound : s.chosen.index < (b.table.fresh T).length := by
        simpa using (List.getElem?_eq_some_iff.mp held).1
      obtain rfl : v = w := by simpa [List.getElem?_set_self bound] using held
      cases fails with
      | default empty => simp [given] at empty
      | missing empty => simp [given] at empty
    rw [List.getElem?_set_ne elsewhere.symm] at held
    obtain rfl : f.shape.fresh = w := by simpa [TypeTable.fresh, field] using held
    exact .inr ⟨e, rfl, ⟨k, f⟩, TypeTable.mem_pending.mpr field, elsewhere, fails⟩

/-- **Integers bind exactly or not at all.** For each integer type there is a built-in parser. A
text is read by it as a number if and only if, white space around it aside, it is the decimal
notation of the number, and the number is in the range of the type; all others are conversion errors
with the text as it is and the fault that is met first. And the decimal notation of a value of the
type, with white space around it, binds as that value after the delimiter of the option: the field
holds it after the call, whatever tokens follow; alone the token is taken, and if the call fails
then because of another option. -/
theorem integers_exact [Regex.Engine] (t : IntegerType) :
    (∀ d, Registry.builtin.resolve? d (.single (.scalar (.integer t))) =
        some (ScalarType.integer t).parser) ∧
      (∀ (r : Registry) (d : Descriptor), r.resolve? d (.single (.scalar (.integer t))) =
          some (ScalarType.integer t).parser → ∀ (table : TypeTable) (text : String),
        (∀ v, r.parse table d (.single (.scalar (.integer t))) text = .ok v ↔
          ∃ n, v = .scalar (.integer n) ∧ t.Denotes (Text.trimChars text.toList) n ∧ t.Holds n) ∧
        ∀ e, r.parse table d (.single (.scalar (.integer t))) text = .error e ↔
          ∃ fault, e = .conversion d.signature text (.integer fault) ∧
            t.FirstFault (Text.trimChars text.toList) fault) ∧
      ∀ (b : Binder) (T : TypeId) (p : Pending), b.Accepts T → b.TakesInteger T p t →
        ∀ (n : Int) (before after token : String), t.Holds n →
        (∀ c ∈ before.toList ++ after.toList, Text.isBlank c = true ∧ c ≠ '\n') →
        token = p.field.signature ++ "=" ++ before ++ n.repr ++ after →
        (∀ q ∈ b.table.pending T, q.index < p.index → ¬ q.field.descriptor.Recognises token) →
        (∀ args start rest, args.drop start = token :: rest →
          (b.bind T args start).fields[p.index]? = some (.scalar (.integer n))) ∧
        (∀ fields, (b.bindFields T fields [token]).run.outcome = .ok 1 ∧
          (b.bindFields T fields [token]).fields = fields.set p.index (.scalar (.integer n))) ∧
        ∀ args start, args.drop start = [token] → (b.bind T args start).outcome = .ok 1 ∨
          ∃ e, (b.bind T args start).outcome = .error e ∧ b.FailsElsewhere T p e := by
  refine ⟨Registry.resolve?_builtin_integer t, fun r d resolved table text =>
    ⟨fun v => Registry.parse_integer_ok_iff resolved,
      fun e => Registry.parse_integer_error_iff resolved⟩, ?_⟩
  rintro b T p accepted option n before after token holds blanks rfl first
  obtain ⟨front, back⟩ := List.forall_mem_append.mp blanks
  have denotes : t.Denotes n.repr.toList n := IntegerType.repr_denotes holds.signed
  have visible := denotes.visible
  have trimmed : Text.trimChars (before ++ n.repr ++ after).toList = n.repr.toList := by
    rw [String.toList_append, String.toList_append,
      Text.trimChars_append_blanks fun c mem => (back c mem).1,
      Text.trimChars_blanks_append fun c mem => (front c mem).1, Text.trimChars_of_visible visible]
  have oneLine : '\n' ∉ (before ++ n.repr ++ after).toList := by
    rw [String.toList_append, String.toList_append, List.mem_append, List.mem_append]
    rintro ((mem | mem) | mem)
    · exact (front _ mem).2 rfl
    · have blank := visible _ mem
      revert blank
      decide
    · exact (back _ mem).2 rfl
  have parts : p.field.signature ++ "=" ++ before ++ n.repr ++ after =
      p.field.signature ++ "=" ++ (before ++ n.repr ++ after) := by
    simp only [String.append_assoc]
  rw [parts] at first ⊢
  have taken := fun rest => option.takes holds (trimmed.symm ▸ denotes) oneLine rest first
  refine ⟨fun args start rest front => ?_, fun fields => ?_, fun args start alone => ?_⟩
  · obtain ⟨others, selected, claimed⟩ := taken rest
    exact bind_holds accepted front selected claimed rfl
  · obtain ⟨others, selected, claimed⟩ := taken []
    obtain ⟨bound, fields_eq, -⟩ := bind_alone accepted selected claimed rfl fields
    exact ⟨bound, fields_eq⟩
  · obtain ⟨others, selected, claimed⟩ := taken []
    exact (bind_alone accepted selected claimed rfl []).2.2 args start alone

/-- An option for a byte with a sign. -/
def offsetPending : Pending :=
  ⟨0, { descriptor := { name := "n" }, shape := .single (.scalar (.integer .i8)) }⟩

/-- A binder for the option. -/
def offsetBinder : Binder where
  table := [{ fullName := "Offset", shortName := "Offset", fields := [offsetPending.field] }]
  registry := .builtin

theorem offsetBinder_takes : offsetBinder.TakesInteger 0 offsetPending .i8 where
  mem := by decide +kernel
  shape := rfl
  delimiter := rfl
  builtin := Registry.resolve?_builtin_integer .i8 _

/-- The least byte is bound with white space around it; the number below it is too small, and one
with a letter in the place of the digit that makes it so is no number. -/
theorem integers_exact_offset :
    offsetBinder.registry.parse offsetBinder.table offsetPending.field.descriptor
        (.single (.scalar (.integer .i8))) "-129" =
          .error (.conversion "-n" "-129" (.integer .tooSmall)) ∧
      offsetBinder.registry.parse offsetBinder.table offsetPending.field.descriptor
        (.single (.scalar (.integer .i8))) "-12x9" =
          .error (.conversion "-n" "-12x9" (.integer .invalidDigit)) ∧
      (offsetBinder.bind 0 ["-n=\t-128 "] 0).fields[0]? = some (.scalar (.integer (-128))) := by
  obtain ⟨builtin, parses, binds⟩ := integers_exact .i8
  have resolved := builtin offsetPending.field.descriptor
  have digits : ∀ d ∈ ['1', '2'], d.isDigit = true :=
    List.forall_mem_cons.mpr ⟨rfl, List.forall_mem_singleton.mpr rfl⟩
  have blanks : ∀ c ∈ ['\t', ' '], Text.isBlank c = true ∧ c ≠ '\n' :=
    List.forall_mem_cons.mpr ⟨by decide, List.forall_mem_singleton.mpr (by decide)⟩
  have small : IntegerType.FirstFault .i8 (Text.trimChars "-129".toList) .tooSmall := by
    have lead : IntegerType.Lead .i8 "-129".toList true (['1', '2'] ++ '9' :: []) :=
      .minus rfl (by simp)
    have goes : IntegerType.Holds .i8 (IntegerType.numberOf true ['1', '2']) := by decide +kernel
    exact .stop lead digits (fun _ => goes.of_prefix) (.overflow rfl (by decide +kernel))
  have invalid : IntegerType.FirstFault .i8 (Text.trimChars "-12x9".toList) .invalidDigit := by
    have lead : IntegerType.Lead .i8 "-12x9".toList true (['1', '2'] ++ 'x' :: ['9']) :=
      .minus rfl (by simp)
    have goes : IntegerType.Holds .i8 (IntegerType.numberOf true ['1', '2']) := by decide +kernel
    exact .stop lead digits (fun _ => goes.of_prefix) (.invalidDigit rfl)
  have tooSmall := ((parses _ _ resolved offsetBinder.table "-129").2 _).mpr ⟨_, rfl, small⟩
  have noNumber := ((parses _ _ resolved offsetBinder.table "-12x9").2 _).mpr ⟨_, rfl, invalid⟩
  have bound := binds offsetBinder 0 offsetPending (.inr rfl) offsetBinder_takes (-128) "\t" " "
    "-n=\t-128 " (by decide) blanks rfl (by simp [offsetPending])
  exact ⟨tooSmall, noNumber, bound.1 ["-n=\t-128 "] 0 [] rfl⟩

end Binder

end OptionBinding
