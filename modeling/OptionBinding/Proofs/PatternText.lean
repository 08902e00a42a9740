import OptionBinding.Proofs.PatternTails

/-!
# The text of a pattern and its expression

A text becomes a pattern for itself if a backslash is put before every character that means
something in patterns (`escape`). Reading it back pushes its characters one by one (`Reads.escape`),
and side by side they become one text again (`Expr.foldr_consFactor_literals`).

The pattern of an option with a value has two such texts in it, the signature and the delimiter.
Whatever they are, it is read to the expression that it is meant to be (`delimiterExpr`,
`readPattern_delimiterChars`).

Sets of characters are lists of switches; those that the pattern needs are told here by their
members.
-/

namespace OptionBinding.Regex

open Reader

/-! ### Members of sets -/

namespace CharSet

variable {c d : Char}

theorem rank_lt_characterCount (c : Char) : rank c < characterCount := by
  have valid := c.valid
  unfold rank rankOfNumber characterCount
  unfold UInt32.isValidChar Nat.isValidChar at valid
  have : c.toNat = c.val.toNat := rfl
  split_ifs <;> omega

/-- Places keep the order of code points that are no surrogates. -/
theorem rankOfNumber_lt_iff {m n : Nat} (hm : m.isValidChar) (hn : n.isValidChar) :
    rankOfNumber m < rankOfNumber n ↔ m < n := by
  unfold rankOfNumber
  unfold Nat.isValidChar at hm hn
  split_ifs <;> omega

theorem rank_inj : rank c = rank d ↔ c = d := by
  constructor
  · intro same
    have lt := rankOfNumber_lt_iff c.valid d.valid
    have gt := rankOfNumber_lt_iff d.valid c.valid
    have : c.toNat = d.toNat := by
      unfold rank at same
      change (rankOfNumber c.toNat < rankOfNumber d.toNat ↔ c.toNat < d.toNat) at lt
      change (rankOfNumber d.toNat < rankOfNumber c.toNat ↔ d.toNat < c.toNat) at gt
      omega
    exact Char.ext (UInt32.toNat_inj.mp this)
  · exact congrArg rank

theorem has_single : (single d).has c = true ↔ c = d := by
  have bound := rank_lt_characterCount c
  rw [← rank_inj]
  unfold single range rangeSwitches has
  change reads false (rank c) (if rank d + 1 < characterCount then [rank d, rank d + 1]
    else [rank d]) = true ↔ _
  split_ifs with last
  · simp only [reads]
    split_ifs <;> simp <;> omega
  · simp only [reads]
    split_ifs <;> simp <;> omega

/-- The ends of the ranges of a table are characters, and none is the last one. -/
def Bounded (table : Text.RangeTable) : Prop :=
  ∀ range ∈ table, range.1.isValidChar ∧ range.2.isValidChar ∧
    rankOfNumber range.2 + 1 < characterCount

instance (table : Text.RangeTable) : Decidable (Bounded table) :=
  inferInstanceAs (Decidable (∀ range ∈ table, _))

theorem has_ofTable {table : Text.RangeTable} (bounded : Bounded table) :
    (ofTable table).has c = table.contains c := by
  unfold has ofTable Text.RangeTable.contains
  induction table with
  | nil => rfl
  | cons range table ih =>
    obtain ⟨low, high⟩ := range
    obtain ⟨⟨validLow, validHigh, more⟩, bounded⟩ := List.forall_mem_cons.mp bounded
    have below : rank c < rankOfNumber low ↔ c.toNat < low := rankOfNumber_lt_iff c.valid validLow
    have above : rankOfNumber high < rank c ↔ high < c.toNat :=
      rankOfNumber_lt_iff validHigh c.valid
    have switches : rangeSwitches low high = [rankOfNumber low, rankOfNumber high + 1] :=
      if_pos more
    simp only [List.flatMap_cons, switches, List.cons_append, List.nil_append, reads,
      Text.RangeTable.has, Bool.not_false, Bool.not_true, ih bounded]
    by_cases before : c.toNat < low
    · rw [if_pos (below.mpr before), if_pos before]
    · rw [if_neg (mt below.mp before), if_neg before]
      by_cases after : high < c.toNat
      · rw [if_neg (by have := above.mpr after; omega)]
        simp [Nat.not_le.mpr after]
      · rw [if_pos (by have := mt above.mp after; omega)]
        simp [Nat.not_lt.mp after]

theorem has_blank : blank.has c = Text.isBlank c := has_ofTable (by decide)

theorem notLineFeed_eq : notLineFeed = ⟨[0, 10, 11]⟩ := by
  have one : single '\n' = ⟨[10, 11]⟩ := by decide
  rw [notLineFeed, one]
  simp [complement, exclusive, combine, anything, sweep]

theorem has_notLineFeed : notLineFeed.has c = true ↔ c ≠ '\n' := by
  rw [Ne, ← rank_inj, notLineFeed_eq]
  change reads false (rank c) [0, 10, 11] = true ↔ ¬rank c = 10
  simp only [reads]
  split_ifs <;> simp <;> omega

end CharSet

/-! ### Escaped texts -/

/-- A character that means something in patterns. -/
def isMeta (c : Char) : Bool :=
  ['\\', '.', '+', '*', '?', '(', ')', '|', '[', ']', '\x7b', '\x7d', '^', '$', '#', '&', '-',
    '~'].contains c

/-- The characters with a backslash before those that mean something in patterns. -/
def escapeChars (cs : List Char) : List Char :=
  cs.flatMap fun c => if isMeta c then ['\\', c] else [c]

/-- The text as a pattern for itself. -/
def escape (text : String) : String := String.ofList (escapeChars text.toList)

/-- No escaped text starts with a question mark. -/
theorem isPrefixOf_escape (cs rest : List Char) :
    ['?'].isPrefixOf (escapeChars cs ++ '(' :: rest) = false := by
  cases cs with
  | nil => rfl
  | cons c cs =>
    rw [escapeChars, List.flatMap_cons, List.append_assoc]
    cases special : isMeta c with
    | true => rfl
    | false =>
      have other : ('?' == c) = false := by
        rw [beq_eq_false_iff_ne]
        rintro rfl
        cases special
      simp [List.isPrefixOf, other]

theorem Reading.finish_ok_iff {s : Reading} {result : Expr × List (String × Nat)} :
    s.finish = .ok result ↔
      s.opened = [] ∧ s.level.close.2 ≤ depthLimit ∧ result = (s.level.close.1, s.names) := by
  unfold finish
  split_ifs with opened deep
  · have some : s.opened ≠ [] := by simpa using opened
    simp [some]
  · simp [Nat.not_le.mpr deep]
  · have closed : s.opened = [] := by simpa using opened
    simp [closed, Nat.not_lt.mp deep, eq_comm]

section

variable [Properties]

/-- Reading the rest of a pattern comes to a result. -/
def Reads (s : Reading) (cs : List Char) (result : Reading) : Prop :=
  ∀ fuel, cs.length < fuel → s.run fuel cs = .ok result

variable {s s' result : Reading} {c : Char} {cs rest rest' : List Char}

theorem Reads.nil : Reads s [] s := by
  intro fuel enough
  obtain ⟨fuel, rfl⟩ : ∃ n, fuel = n + 1 := ⟨fuel - 1, by simp at enough; omega⟩
  rfl

theorem Reads.step (plain : s.level.flags = {}) (step : s.step c rest = .ok (s', rest'))
    (shorter : rest'.length ≤ rest.length) (h : Reads s' rest' result) :
    Reads s (c :: rest) result := by
  intro fuel enough
  obtain ⟨fuel, rfl⟩ : ∃ n, fuel = n + 1 := ⟨fuel - 1, by simp at enough; omega⟩
  rw [List.length_cons] at enough
  have skip : s.level.flags.skip (c :: rest) = c :: rest := by
    rw [plain]
    rfl
  simp only [Reading.run, skip, step]
  exact h fuel (by omega)

theorem readPattern_of_reads (read : Reads {} cs result) (closed : result.opened = [])
    (shallow : result.level.close.2 ≤ depthLimit) :
    readPattern cs = .ok (result.level.close.1, result.names) := by
  rw [readPattern, read _ (Nat.lt_succ_self _)]
  exact Reading.finish_ok_iff.mpr ⟨closed, shallow, rfl⟩

theorem readEscape_of_isMeta {flags : Flags} (special : isMeta c = true) :
    readEscape flags (c :: rest) = .ok (.char c, rest) := by
  simp only [isMeta, List.contains_iff_mem, List.mem_cons, List.not_mem_nil, or_false] at special
  rcases special with rfl | rfl | rfl | rfl | rfl | rfl | rfl | rfl | rfl | rfl | rfl | rfl |
    rfl | rfl | rfl | rfl | rfl | rfl <;> rfl

theorem step_backslash (special : isMeta c = true) :
    s.step '\\' (c :: rest) = .ok (s.pushChar c, rest) := by
  have escape : s.step '\\' (c :: rest) =
      (s.pushEscape <$> readEscape s.level.flags) (c :: rest) := by
    simp [Reading.step]
  rw [escape, map_apply, readEscape_of_isMeta special]
  rfl

theorem step_plain (plain : isMeta c = false) : s.step c rest = .ok (s.pushChar c, rest) := by
  simp only [isMeta, List.contains_eq_mem, decide_eq_false_iff_not, List.mem_cons,
    List.not_mem_nil, or_false, not_or] at plain
  have char : s.step c = pure (s.pushChar c) := by simp [Reading.step, plain]
  rw [char]
  rfl

theorem Reads.escape (plain : s.level.flags = {}) (h : Reads (cs.foldl .pushChar s) rest result) :
    Reads s (escapeChars cs ++ rest) result := by
  induction cs generalizing s with
  | nil => exact h
  | cons c cs ih =>
    have later := ih (s := s.pushChar c) plain h
    rw [escapeChars, List.flatMap_cons, List.append_assoc]
    cases special : isMeta c with
    | true => exact .step plain (step_backslash special) (by simp) later
    | false => exact .step plain (step_plain special) (Nat.le_refl _) later

end

/-! ### Texts side by side -/

namespace Expr

/-- A text as the only part of a row, or nothing. -/
def textFactors (cs : List Char) : List Expr := if cs.isEmpty then [] else [literal cs]

theorem foldr_consFactor_literals {e : Expr} (other : ∀ cs, e ≠ literal cs) (cs : List Char)
    (rest : List Expr) :
    (cs.map fun c => literal [c]).foldr consFactor (e :: rest) = textFactors cs ++ e :: rest := by
  induction cs with
  | nil => rfl
  | cons c cs ih =>
    rw [List.map_cons, List.foldr_cons, ih]
    cases cs with
    | nil =>
      unfold consFactor
      split
      · next found => exact absurd (List.cons.inj found).1 (other _)
      · rfl
    | cons d ds => rfl

theorem branches_ofFactors {es : List Expr} (whole : ∀ e ∈ es, e.branches = [e]) :
    (ofFactors es).branches = [ofFactors es] := by
  match es with
  | [] => rfl
  | [e] => exact whole e List.mem_cons_self
  | _ :: _ :: _ => rfl

/-- A choice that leaves no choice. -/
theorem alternation_singleton {e : Expr} (whole : e.branches = [e]) : alternation [e] = e := by
  simp [alternation, choice, ofBranches, whole]

end Expr

theorem rowDepth_le {depths : List Nat} {bound : Nat} (all : ∀ depth ∈ depths, depth ≤ bound) :
    rowDepth depths ≤ bound + 1 := by
  unfold rowDepth
  split
  · exact Nat.zero_le _
  · next depth => exact Nat.le_succ_of_le (all depth List.mem_cons_self)
  · exact Nat.succ_le_succ ((List.max?_le_iff List.max?_cons').mpr all)

/-! ### The expression of the pattern -/

section

variable {signature delimiter : List Char}

/-- Any number of characters of a set, as many as possible. -/
def Expr.manyOf (s : CharSet) : Expr := .rounds 0 none false (.set s)

/-- What the pattern of an option with a value is a row of. -/
def delimiterFactors (signature delimiter : List Char) : List Expr :=
  .assertion .textStart :: (Expr.textFactors signature ++ .manyOf .blank ::
    (Expr.textFactors delimiter ++ [.group 1 (.manyOf .notLineFeed), .assertion .textEnd]))

/-- The expression of the pattern of an option with a value. -/
def delimiterExpr (signature delimiter : List Char) : Expr :=
  .ofFactors (delimiterFactors signature delimiter)

/-! ### Reading the pattern -/

/-- A reading without flags and names. -/
def bareReading (groups : Nat) (opened : List OpenGroup) (items : List Item) : Reading :=
  ⟨groups, [], opened, ⟨{}, [], items⟩⟩

/-- A character as an element of a branch. -/
def charItem (c : Char) : Item := .expr (.literal [c]) 0

theorem foldl_pushChar {groups : Nat} {opened : List OpenGroup} {items : List Item}
    (cs : List Char) :
    cs.foldl .pushChar (bareReading groups opened items) =
      bareReading groups opened ((cs.map charItem).reverse ++ items) := by
  induction cs generalizing items with
  | nil => rfl
  | cons c cs ih =>
    have push : (bareReading groups opened items).pushChar c =
      bareReading groups opened (charItem c :: items) := rfl
    rw [List.foldl_cons, push, ih]
    simp

/-- The elements of the pattern, the last first. -/
def delimiterItems (signature delimiter : List Char) : List Item :=
  .expr (.assertion .textEnd) 0 :: .expr (.group 1 (.manyOf .notLineFeed)) 2 ::
    ((delimiter.map charItem).reverse ++ .expr (.manyOf .blank) 1 ::
      ((signature.map charItem).reverse ++ [.expr (.assertion .textStart) 0]))

theorem ofSet_blank : Expr.ofSet .blank = .set .blank := by decide

theorem ofSet_notLineFeed : Expr.ofSet .notLineFeed = .set .notLineFeed := by
  rw [CharSet.notLineFeed_eq]
  rfl

/-- The characters of the pattern of an option with a value. -/
def delimiterChars (signature delimiter : List Char) : List Char :=
  '^' :: (escapeChars signature ++ '\\' :: 's' :: '*' ::
    (escapeChars delimiter ++ ['(', '.', '*', ')', '$']))

variable {groups : Nat} {opened : List OpenGroup} {items : List Item} {rest : List Char}

section

variable [Properties]

theorem step_blank : (bareReading groups opened items).step '\\' ('s' :: rest) =
    .ok (bareReading groups opened (.expr (.set .blank) 0 :: items), rest) := by
  rw [← ofSet_blank]
  rfl

theorem step_dot : (bareReading groups opened items).step '.' rest =
    .ok (bareReading groups opened (.expr (.set .notLineFeed) 0 :: items), rest) := by
  rw [← ofSet_notLineFeed]
  rfl

theorem step_star {s : CharSet} (greedy : ['?'].isPrefixOf rest = false) :
    (bareReading groups opened (.expr (.set s) 0 :: items)).step '*' rest =
      .ok (bareReading groups opened (.expr (.manyOf s) 1 :: items), rest) := by
  have question : accept ['?'] rest = .ok (false, rest) := by rw [accept, greedy]; rfl
  exact bind_ok question

theorem step_start : (bareReading groups opened items).step '^' rest =
    .ok (bareReading groups opened (.expr (.assertion .textStart) 0 :: items), rest) := rfl

theorem step_end : (bareReading groups opened items).step '$' rest =
    .ok (bareReading groups opened (.expr (.assertion .textEnd) 0 :: items), rest) := rfl

theorem step_open : (bareReading groups opened items).step '(' ('.' :: rest) =
    .ok (bareReading (groups + 1) (⟨some (groups + 1), ⟨{}, [], items⟩⟩ :: opened) [],
      '.' :: rest) := rfl

theorem step_close {s : CharSet} {index : Nat} :
    (bareReading groups (⟨some index, ⟨{}, [], items⟩⟩ :: opened)
      [.expr (.manyOf s) 1]).step ')' rest =
      .ok (bareReading groups opened (.expr (.group index (.manyOf s)) 2 :: items), rest) := rfl

theorem reads_delimiterChars : Reads {} (delimiterChars signature delimiter)
    (bareReading 1 [] (delimiterItems signature delimiter)) := by
  change Reads (bareReading 0 [] []) _ _
  refine .step rfl step_start (Nat.le_refl _) (.escape rfl ?_)
  rw [foldl_pushChar]
  refine .step rfl step_blank (by simp) (.step rfl (step_star (isPrefixOf_escape _ _))
    (Nat.le_refl _) (.escape rfl ?_))
  rw [foldl_pushChar]
  refine .step rfl step_open (Nat.le_refl _) (.step rfl step_dot (Nat.le_refl _) ?_)
  refine .step rfl (step_star rfl) (Nat.le_refl _) (.step rfl step_close (Nat.le_refl _) ?_)
  exact .step rfl step_end (Nat.le_refl _) .nil

end

theorem filterMap_expr?_charItem (cs : List Char) :
    cs.filterMap (Item.expr? ∘ charItem) = cs.map fun c => .literal [c] :=
  congrFun List.filterMap_eq_map' cs

theorem flatMap_factors {es : List Expr} (single : ∀ e ∈ es, e.factors = [e]) :
    es.flatMap Expr.factors = es := by
  induction es with
  | nil => rfl
  | cons e es ih =>
    obtain ⟨first, rest⟩ := List.forall_mem_cons.mp single
    rw [List.flatMap_cons, first, ih rest]
    rfl

/-- The expressions of the pattern's elements: every character of the texts is one of them. -/
theorem exprs_delimiterItems :
    (delimiterItems signature delimiter).reverse.filterMap Item.expr? =
      Expr.assertion .textStart :: (signature.map (fun c => Expr.literal [c]) ++
        Expr.manyOf .blank :: (delimiter.map (fun c => Expr.literal [c]) ++
          [Expr.group 1 (.manyOf .notLineFeed), Expr.assertion .textEnd])) := by
  simp [delimiterItems, filterMap_expr?_charItem, Item.expr?]

theorem concat_delimiterItems :
    Expr.concat ((delimiterItems signature delimiter).reverse.filterMap Item.expr?) =
      delimiterExpr signature delimiter := by
  have single : ∀ e ∈ (delimiterItems signature delimiter).reverse.filterMap Item.expr?,
      e.factors = [e] := by
    rw [exprs_delimiterItems]
    intro e mem
    simp only [List.mem_cons, List.mem_append, List.mem_map, List.not_mem_nil, or_false] at mem
    rcases mem with rfl | ⟨c, -, rfl⟩ | rfl | ⟨c, -, rfl⟩ | rfl | rfl <;> rfl
  have back : (delimiter.map fun c => .literal [c]).foldr Expr.consFactor
      [.group 1 (.manyOf .notLineFeed), .assertion .textEnd] =
        Expr.textFactors delimiter ++ [.group 1 (.manyOf .notLineFeed), .assertion .textEnd] :=
    Expr.foldr_consFactor_literals (by simp) delimiter _
  have front (rest : List Expr) : (signature.map fun c => .literal [c]).foldr Expr.consFactor
      (.manyOf .blank :: rest) = Expr.textFactors signature ++ .manyOf .blank :: rest :=
    Expr.foldr_consFactor_literals (by simp [Expr.manyOf]) signature rest
  rw [Expr.concat, flatMap_factors single, exprs_delimiterItems, delimiterExpr, delimiterFactors,
    ← back, ← front]
  simp only [List.foldr_cons, List.foldr_append]
  rfl

theorem close_of_no_branches {flags : Flags} :
    (⟨flags, [], items⟩ : Level).close =
      (.alternation [.concat (items.reverse.filterMap Item.expr?)],
        rowDepth (items.map (·.depth))) := rfl

theorem close_delimiterItems_fst :
    (bareReading 1 [] (delimiterItems signature delimiter)).level.close.1 =
      delimiterExpr signature delimiter := by
  have text (cs : List Char) : ∀ e ∈ Expr.textFactors cs, e.branches = [e] := by
    unfold Expr.textFactors
    split <;> simp [Expr.branches]
  have whole : (delimiterExpr signature delimiter).branches =
      [delimiterExpr signature delimiter] := by
    refine Expr.branches_ofFactors ?_
    simp only [delimiterFactors, List.forall_mem_cons, List.forall_mem_append]
    exact ⟨rfl, text _, rfl, text _, rfl, rfl, by simp⟩
  rw [bareReading, close_of_no_branches, concat_delimiterItems, Expr.alternation_singleton whole]

theorem close_delimiterItems_snd :
    (bareReading 1 [] (delimiterItems signature delimiter)).level.close.2 ≤ 3 := by
  have flat (cs : List Char) : ∀ item ∈ (cs.map charItem).reverse, item.depth ≤ 2 := by
    simp [charItem, Item.depth]
  rw [bareReading, close_of_no_branches]
  change rowDepth ((delimiterItems signature delimiter).map (·.depth)) ≤ 2 + 1
  refine rowDepth_le (List.forall_mem_map.mpr ?_)
  simp only [delimiterItems, List.forall_mem_cons, List.forall_mem_append]
  exact ⟨by decide, by decide, flat _, by simp [Item.depth], flat _, by decide, by simp⟩

/-- **Reading the pattern** gives its expression. -/
theorem readPattern_delimiterChars [Properties] :
    readPattern (delimiterChars signature delimiter) =
      .ok (delimiterExpr signature delimiter, []) := by
  rw [readPattern_of_reads reads_delimiterChars rfl
    (Nat.le_trans close_delimiterItems_snd (by decide)), close_delimiterItems_fst]
  rfl

end

end OptionBinding.Regex
