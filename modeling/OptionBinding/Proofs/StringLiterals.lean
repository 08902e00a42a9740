import Mathlib.Data.List.Basic
import OptionBinding.Derivation.Expansion

/-!
# String literals

A string literal denotes a text: what stands between its quotes are characters that stand for
themselves, and escapes (`Denotes`). There is one text that it denotes (`Quotes.unique`). What an
expansion writes for a text is a literal that denotes it, whether NULs are kept apart from the
digits behind them or not (`quotes_literal`).
-/

namespace OptionBinding

/-! ### Hexadecimal numbers -/

/-- The hexadecimal digits. -/
def hexDigits : List Char :=
  ['0', '1', '2', '3', '4', '5', '6', '7', '8', '9', 'a', 'b', 'c', 'd', 'e', 'f']

/-- What a hexadecimal digit counts, in lower case or upper case; 16 for anything else. -/
def hexDigit (c : Char) : Nat := hexDigits.idxOf c.toLower

/-- The number that is written with hexadecimal digits. -/
def hexNumber (digits : List Char) : Nat := digits.foldl (fun n c => 16 * n + hexDigit c) 0

theorem hexDigit_digitChar {d : Nat} (small : d < 16) : hexDigit d.digitChar = d := by
  have all : ∀ d < 16, hexDigit d.digitChar = d := by decide
  exact all d small

theorem hexDigit_of_mem_toDigits {n : Nat} {c : Char} (mem : c ∈ Nat.toDigits 16 n) :
    hexDigit c < 16 := by
  induction n using Nat.strongRecOn with
  | ind n ih =>
    by_cases small : n < 16
    · rw [Nat.toDigits_of_lt_base small, List.mem_singleton] at mem
      rwa [mem, hexDigit_digitChar small]
    · rw [Nat.toDigits_of_base_le (by decide) (Nat.not_lt.mp small), List.mem_append,
        List.mem_singleton] at mem
      rcases mem with mem | rfl
      · exact ih _ (Nat.div_lt_self (by omega) (by decide)) mem
      · have last := Nat.mod_lt n (show 16 > 0 by decide)
        rwa [hexDigit_digitChar last]

theorem hexNumber_toDigits (n : Nat) : hexNumber (Nat.toDigits 16 n) = n := by
  induction n using Nat.strongRecOn with
  | ind n ih =>
    by_cases small : n < 16
    · rw [Nat.toDigits_of_lt_base small, hexNumber, List.foldl_cons, List.foldl_nil,
        hexDigit_digitChar small, Nat.mul_zero, Nat.zero_add]
    · have front := ih (n / 16) (Nat.div_lt_self (by omega) (by decide))
      rw [hexNumber] at front
      rw [Nat.toDigits_of_base_le (by decide) (Nat.not_lt.mp small), hexNumber,
        List.foldl_append, front, List.foldl_cons, List.foldl_nil,
        hexDigit_digitChar (Nat.mod_lt n (by decide)), Nat.div_add_mod]

/-! ### Literals -/

/-- The escapes of one letter, with what they stand for. -/
def letterEscapes : List (Char × Char) :=
  [('"', '"'), ('\'', '\''), ('\\', '\\'), ('n', '\n'), ('r', '\r'), ('t', '\t'), ('0', '\x00')]

/-- **What stands between the quotes of a literal**, and what it stands for. -/
inductive Denotes : List Char → List Char → Prop
  | nil : Denotes [] []
  | plain {c : Char} {body cs : List Char} (quote : c ≠ '"') (backslash : c ≠ '\\')
      (notReturn : c ≠ '\r') (more : Denotes body cs) : Denotes (c :: body) (c :: cs)
  | letter {letter c : Char} {body cs : List Char} (escape : (letter, c) ∈ letterEscapes)
      (more : Denotes body cs) : Denotes ('\\' :: letter :: body) (c :: cs)
  | byte {high low c : Char} {body cs : List Char} (ascii : hexDigit high < 8)
      (hex : hexDigit low < 16) (value : hexNumber [high, low] = c.toNat)
      (more : Denotes body cs) : Denotes ('\\' :: 'x' :: high :: low :: body) (c :: cs)
  | number {digits : List Char} {c : Char} {body cs : List Char} (given : digits ≠ [])
      (short : digits.length ≤ 6) (hex : ∀ d ∈ digits, hexDigit d < 16)
      (value : hexNumber digits = c.toNat) (more : Denotes body cs) :
      Denotes ('\\' :: 'u' :: '\x7b' :: (digits ++ '\x7d' :: body)) (c :: cs)

/-- **A literal denotes a text.** -/
def Quotes (literal text : String) : Prop :=
  ∃ body, literal.toList = '"' :: (body ++ ['"']) ∧ Denotes body text.toList

variable {body body' cs cs' : List Char} {c : Char} {literal text text' : String}

/-- The first closing brace ends the digits. -/
theorem append_brace_inj {digits digits' : List Char} (hex : ∀ d ∈ digits, hexDigit d < 16)
    (hex' : ∀ d ∈ digits', hexDigit d < 16)
    (same : digits ++ '\x7d' :: body = digits' ++ '\x7d' :: body') :
    digits = digits' ∧ body = body' := by
  have closed {ds : List Char} (hex : ∀ d ∈ ds, hexDigit d < 16) : '\x7d' ∉ ds := fun mem =>
    absurd (hex _ mem) (by decide)
  rcases List.append_eq_append_iff.mp same with ⟨more, rfl, split⟩ | ⟨more, rfl, split⟩
  · cases more with
    | nil => simpa using split
    | cons d more =>
      obtain ⟨rfl, -⟩ := List.cons.inj split
      exact absurd (List.mem_append_right _ List.mem_cons_self) (closed hex')
  · cases more with
    | nil => simpa [eq_comm] using split
    | cons d more =>
      obtain ⟨rfl, -⟩ := List.cons.inj split
      exact absurd (List.mem_append_right _ List.mem_cons_self) (closed hex)

theorem Denotes.unique (h : Denotes body cs) (h' : Denotes body cs') : cs = cs' := by
  induction h generalizing cs' with
  | nil =>
    cases h'
    rfl
  | plain quote backslash notReturn more ih =>
    cases h' with
    | plain _ _ _ more' => rw [ih more']
    | letter | byte | number => exact absurd rfl backslash
  | @letter letter c body cs escape more ih =>
    cases h' with
    | plain _ backslash => exact absurd rfl backslash
    | @letter _ c' _ _ escape' more' =>
      have one : ∀ e ∈ letterEscapes, ∀ e' ∈ letterEscapes, e.1 = e'.1 → e.2 = e'.2 := by decide
      rw [ih more', show c = c' from one _ escape _ escape' rfl]
    | byte | number => simp [letterEscapes] at escape
  | @byte high low c body cs ascii hex value more ih =>
    cases h' with
    | plain _ backslash => exact absurd rfl backslash
    | letter escape' => simp [letterEscapes] at escape'
    | byte _ _ value' more' => rw [ih more', Char.toNat_inj.mp (value.symm.trans value')]
  | @number digits c body cs given short hex value more ih =>
    generalize split : '\\' :: 'u' :: '\x7b' :: (digits ++ '\x7d' :: body) = whole at h'
    cases h' with
    | nil => cases split
    | plain _ backslash => exact absurd (List.cons.inj split).1.symm backslash
    | letter escape' =>
      obtain ⟨-, letter⟩ := List.cons.inj split
      rw [← (List.cons.inj letter).1] at escape'
      simp [letterEscapes] at escape'
    | byte =>
      obtain ⟨-, letter⟩ := List.cons.inj split
      exact absurd (List.cons.inj letter).1 (by decide)
    | @number digits' c' body' cs' _ _ hex' value' more' =>
      simp only [List.cons.injEq, true_and] at split
      obtain ⟨rfl, rfl⟩ := append_brace_inj hex hex' split
      rw [ih more', Char.toNat_inj.mp (value.symm.trans value')]

theorem Quotes.unique (h : Quotes literal text) (h' : Quotes literal text') : text = text' := by
  obtain ⟨body, shape, denotes⟩ := h
  obtain ⟨body', shape', denotes'⟩ := h'
  obtain rfl : body = body' := by
    rw [shape] at shape'
    exact List.append_cancel_right (List.cons.inj shape').2
  exact String.toList_inj.mp (denotes.unique denotes')

/-! ### Literals that are written -/

/-- A character that is written by its escape, or as itself. -/
theorem denotes_escapeChar (c : Char) (more : Denotes body cs) :
    Denotes (Text.escapeChar c ++ body) (c :: cs) := by
  unfold Text.escapeChar
  split_ifs with quote backslash feed carriage tab nul hidden
  · subst quote
    exact .letter (by decide) more
  · subst backslash
    exact .letter (by decide) more
  · subst feed
    exact .letter (by decide) more
  · subst carriage
    exact .letter (by decide) more
  · subst tab
    exact .letter (by decide) more
  · have zero : c = '\x00' := Char.toNat_inj.mp nul
    exact zero ▸ .letter (by decide) more
  · have short : (Nat.toDigits 16 c.toNat).length ≤ 6 := by
      rw [Nat.length_toDigits_le_iff (by decide) (by decide)]
      rcases c.valid with below | above
      · exact Nat.lt_trans below (by decide)
      · exact Nat.lt_trans above.2 (by decide)
    have written : Text.numericEscape c ++ body =
        '\\' :: 'u' :: '\x7b' :: (Nat.toDigits 16 c.toNat ++ '\x7d' :: body) := by
      simp [Text.numericEscape]
    rw [written]
    exact .number Nat.toDigits_ne_nil short (fun d => hexDigit_of_mem_toDigits)
      (hexNumber_toDigits _) more
  · exact .plain quote backslash carriage more

open Derivation in
theorem denotes_literalChars (guardsNul : Bool) (cs : List Char) :
    Denotes (literalChars guardsNul cs) cs := by
  induction cs with
  | nil => exact .nil
  | cons c cs ih =>
    rw [literalChars]
    split_ifs with guarded
    · simp only [Bool.and_eq_true, decide_eq_true_eq] at guarded
      have zero : c = '\x00' := Char.toNat_inj.mp guarded.1.2
      exact zero ▸ .byte (by decide) (by decide) (by decide) ih
    · exact denotes_escapeChar c ih

open Derivation in
/-- **What is written for a text** is a literal that denotes it. -/
theorem quotes_literal (style : ExpansionStyle) (text : String) :
    Quotes (style.literal text) text :=
  ⟨_, String.toList_ofList, denotes_literalChars _ _⟩

end OptionBinding
