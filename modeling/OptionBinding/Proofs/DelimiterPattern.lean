import OptionBinding.Proofs.LeftmostSearch
import OptionBinding.Proofs.PatternText
import OptionBinding.Proofs.TokenForms
import OptionBinding.Regex.Standard

/-!
# The pattern of an option with a value

A token selects an option with a value if the option's pattern occurs in it, and the value is the
text of the pattern's only group. The pattern says in four parts what a token has to be: the
signature, white space, the delimiter, and a value in one line (`Descriptor.Splits`). A delimiter
that is empty or starts with white space may leave several ways to split a token like this; the one
with the longest white space counts (`Descriptor.delimiterPattern_grammar`).

In the program of the pattern, ranks fall towards its end (`delimiterRanking`), so what a search
finds is what one thread comes to on its own. From the back to the front: behind the delimiter it
takes the rest of the text (`follow_valueCode`), in front of that as much white space as possible
(`afterMany_blank`), and in front of that the signature (`follow_delimiterProgram`).
-/

namespace OptionBinding

namespace Regex

namespace Expr

/-- The code of a row of expressions. -/
def rowCode : List Expr → (address : Nat) → List Instruction
  | [], _ => []
  | e :: es, address => e.code address ++ rowCode es (address + e.size)

theorem code_ofFactors (es : List Expr) (address : Nat) :
    (ofFactors es).code address = rowCode es address := by
  match es with
  | [] => rfl
  | [e] => simp [ofFactors, rowCode]
  | e :: e' :: es =>
    rw [rowCode, ← code_ofFactors (e' :: es)]
    rfl

theorem rowCode_textFactors (cs : List Char) (es : List Expr) (address : Nat) :
    rowCode (textFactors cs ++ es) address = rowCode (literal cs :: es) address := by
  cases cs <;> rfl

end Expr

variable {signature delimiter rest : List Char}

/-! ### The program -/

/-- The code of a text. -/
def takeCode (cs : List Char) : List Instruction := cs.map fun c => .take (.single c)

/-- The code of any number of characters of a set, at an address. -/
def manyCode (s : CharSet) (address : Nat) : List Instruction :=
  [.fork (address + 1) (address + 3), .take s, .jump address]

theorem code_manyOf {s : CharSet} (some : s ≠ .nothing) (address : Nat) :
    (Expr.manyOf s).code address = manyCode s address := by
  have takes : (Expr.set s).takesSome = true := by simp [Expr.takesSome, Expr.leastWidth, some]
  simp [Expr.manyOf, Expr.code, Expr.size, takes, manyCode, Instruction.again]

/-- The code of a group that takes the rest of a text, and of the text's end, at an address. -/
def valueCode (address : Nat) : List Instruction :=
  .mark 2 :: (manyCode .notLineFeed (address + 1) ++ [.mark 3, .check .textEnd, .accept])

/-- The instructions of the pattern's program. -/
def delimiterCode (signature delimiter : List Char) : List Instruction :=
  .check .textStart :: (takeCode signature ++
    (manyCode .blank (signature.length + 1) ++ (takeCode delimiter ++
      valueCode (signature.length + delimiter.length + 4))))

/-- The pattern's program. -/
def delimiterProgram (signature delimiter : List Char) : Program :=
  (delimiterCode signature delimiter).toArray

theorem program_delimiterExpr :
    (delimiterExpr signature delimiter).program = delimiterProgram signature delimiter := by
  have blank : CharSet.blank ≠ .nothing := by decide
  have line : CharSet.notLineFeed ≠ .nothing := by
    rw [CharSet.notLineFeed_eq]
    decide
  rw [Expr.program, delimiterExpr, Expr.code_ofFactors, delimiterFactors, delimiterProgram,
    delimiterCode]
  have first : 0 + 1 + signature.length = signature.length + 1 := by omega
  have second : signature.length + 1 + (Expr.manyOf .blank).size + delimiter.length + 1 =
      signature.length + delimiter.length + 5 := by
    have three : (Expr.manyOf .blank).size = 3 := rfl
    omega
  simp only [Expr.rowCode, Expr.rowCode_textFactors, Expr.code, Expr.size, code_manyOf blank,
    code_manyOf line, first, second, takeCode]
  simp [valueCode]

/-! ### Code at addresses -/

/-- The instructions stand in the program from an address on. -/
def Program.Holds (p : Program) (address : Nat) (code : List Instruction) : Prop :=
  ∀ line ∈ code.zipIdx address, p[line.2]? = some line.1

theorem Program.holds_toArray (code : List Instruction) : Program.Holds code.toArray 0 code := by
  intro line mem
  simpa using List.mem_zipIdx_iff_getElem?.mp mem

@[simp] theorem Program.holds_nil {p : Program} {a : Nat} : p.Holds a [] := by simp [Holds]

@[simp] theorem Program.holds_cons {p : Program} {a : Nat} {i : Instruction}
    {code : List Instruction} :
    p.Holds a (i :: code) ↔ p[a]? = some i ∧ p.Holds (a + 1) code := by
  simp only [Holds, List.zipIdx_cons, List.forall_mem_cons]

@[simp] theorem Program.holds_append {p : Program} {a : Nat} {code more : List Instruction} :
    p.Holds a (code ++ more) ↔ p.Holds a code ∧ p.Holds (a + code.length) more := by
  simp only [Holds, List.zipIdx_append, List.forall_mem_append]

/-- From an address on, the ranks fall on the ways that take no character. -/
def Falls (rank : Nat → Nat) (address : Nat) (code : List Instruction) : Prop :=
  ∀ line ∈ code.zipIdx address, ∀ b ∈ line.1.targets line.2, rank b < rank line.2

/-- Ranks of the addresses of a program, from its code. -/
def Program.Ranking.ofCode {code : List Instruction} {rank : Nat → Nat}
    (falls : Falls rank 0 code) : Program.Ranking code.toArray where
  rank := rank
  falls found leads :=
    falls (_, _) (List.mem_zipIdx_iff_getElem?.mpr (by simpa using found)) _ leads

section

variable {rank : Nat → Nat} {a : Nat} {i : Instruction} {code more : List Instruction}

@[simp] theorem falls_nil : Falls rank a [] := by simp [Falls]

@[simp] theorem falls_cons : Falls rank a (i :: code) ↔
    (∀ b ∈ i.targets a, rank b < rank a) ∧ Falls rank (a + 1) code := by
  simp only [Falls, List.zipIdx_cons, List.forall_mem_cons]

@[simp] theorem falls_append :
    Falls rank a (code ++ more) ↔ Falls rank a code ∧ Falls rank (a + code.length) more := by
  simp only [Falls, List.zipIdx_append, List.forall_mem_append]

@[simp] theorem falls_takeCode (cs : List Char) : Falls rank a (takeCode cs) := by
  induction cs generalizing a with
  | nil => exact falls_nil
  | cons c cs ih => exact falls_cons.mpr ⟨by simp [Instruction.targets], ih⟩

@[simp] theorem falls_manyCode {s : CharSet} : Falls rank a (manyCode s a) ↔
    (rank (a + 1) < rank a ∧ rank (a + 3) < rank a) ∧ rank a < rank (a + 2) := by
  simp [manyCode, Instruction.targets]

end

@[simp] theorem length_takeCode (cs : List Char) : (takeCode cs).length = cs.length := by
  simp [takeCode]

@[simp] theorem length_manyCode (s : CharSet) (a : Nat) : (manyCode s a).length = 3 := rfl

/-- The ranks of the pattern's addresses: they fall towards the end, and a jump back is above the
fork that it leads to. -/
def delimiterRank (signature delimiter : List Char) (address : Nat) : Nat :=
  let size := signature.length + delimiter.length + 11
  if address = signature.length + 3 ∨ address = signature.length + delimiter.length + 7 then
    2 * (size - (address - 2)) + 1
  else 2 * (size - address)

theorem falls_delimiterCode :
    Falls (delimiterRank signature delimiter) 0 (delimiterCode signature delimiter) := by
  have first : 0 + 1 + signature.length = signature.length + 1 := by omega
  have second : signature.length + 1 + 3 + delimiter.length =
    signature.length + delimiter.length + 4 := by omega
  simp only [delimiterCode, valueCode, falls_cons, falls_append, falls_takeCode, length_takeCode,
    length_manyCode, falls_manyCode, falls_nil, Instruction.targets, first, second,
    List.forall_mem_cons, List.not_mem_nil, false_imp_iff, implies_true, and_true, true_and]
  refine ⟨?_, ⟨⟨?_, ?_⟩, ?_⟩, ?_, ⟨⟨?_, ?_⟩, ?_⟩, ?_, ?_⟩
  all_goals
    unfold delimiterRank
    dsimp only
    split_ifs
    all_goals omega

/-- The ranking of the pattern's program. -/
def delimiterRanking (signature delimiter : List Char) :
    (delimiterProgram signature delimiter).Ranking :=
  .ofCode falls_delimiterCode

/-! ### Threads in texts and in repetitions -/

section

variable {p : Program} {r : p.Ranking} {t : Thread} {a index : Nat} {before : Option Char}
  {next : Nat → List Char → Option Match}

theorem follow_takeCode {cs : List Char} (holds : p.Holds a (takeCode cs))
    (onward : ∀ index before rest,
      r.follow index before rest (t.goTo (a + cs.length)) = next index rest) :
    r.follow index before rest (t.goTo a) =
      (cs.isPrefixOf? rest).bind (next (index + cs.length)) := by
  induction cs generalizing a index before rest with
  | nil => exact onward index before rest
  | cons c cs ih =>
    obtain ⟨here, holds⟩ := Program.holds_cons.mp holds
    have here : p[(t.goTo a).address]? = some (.take (.single c)) := here
    cases rest with
    | nil => exact r.follow_take_nil here
    | cons d rest =>
      have step : r.follow (index + 1) (some d) rest (t.goTo a).next =
          (cs.isPrefixOf? rest).bind (next (index + (c :: cs).length)) := by
        rw [List.length_cons, Nat.add_comm cs.length, ← Nat.add_assoc]
        refine ih holds ?_
        rw [Nat.add_assoc, Nat.add_comm 1]
        exact onward
      rw [r.follow_take_cons here, step, List.isPrefixOf?]
      by_cases same : d = c
      · subst same
        rw [if_pos (CharSet.has_single.mpr rfl), if_pos (beq_self_eq_true d)]
      · rw [if_neg (mt CharSet.has_single.mp same), if_neg (by simpa using Ne.symm same)]
        rfl

/-- What any number of characters of a set come to, as many as possible first, if `next` goes on
behind them. -/
def afterMany (s : CharSet) (next : Nat → List Char → Option Match) (index : Nat) :
    List Char → Option Match
  | [] => next index []
  | c :: rest =>
    if s.has c then (afterMany s next (index + 1) rest).or (next index (c :: rest))
    else next index (c :: rest)

theorem follow_manyCode {s : CharSet} (holds : p.Holds a (manyCode s a))
    (onward : ∀ index before rest, r.follow index before rest (t.goTo (a + 3)) = next index rest) :
    r.follow index before rest (t.goTo a) = afterMany s next index rest := by
  obtain ⟨fork, take, jump, -⟩ : p[a]? = some (.fork (a + 1) (a + 3)) ∧
      p[a + 1]? = some (.take s) ∧ p[a + 2]? = some (.jump a) ∧ True := by
    simpa [manyCode] using holds
  have fork : p[(t.goTo a).address]? = some (.fork (a + 1) (a + 3)) := fork
  have take : p[(t.goTo (a + 1)).address]? = some (.take s) := take
  have jump : p[(t.goTo (a + 2)).address]? = some (.jump a) := jump
  have split (index : Nat) (before : Option Char) (rest : List Char) :
      r.follow index before rest (t.goTo a) =
        (r.follow index before rest (t.goTo (a + 1))).or (next index rest) := by
    rw [r.follow_fork fork, ← onward index before rest]
    rfl
  induction rest generalizing index before with
  | nil =>
    rw [split, r.follow_take_nil take]
    rfl
  | cons c rest ih =>
    have round : r.follow (index + 1) (some c) rest (t.goTo (a + 1)).next =
        afterMany s next (index + 1) rest := (r.follow_jump jump).trans ih
    rw [split, r.follow_take_cons take, round, afterMany]
    split_ifs <;> rfl

end

/-- The rest of the text, if there is no line feed in it. -/
theorem afterMany_notLineFeed {f : Nat → Match} :
    afterMany .notLineFeed (fun index rest => if rest.isEmpty then some (f index) else none) index
        rest =
      if '\n' ∈ rest then none else some (f (index + rest.length)) := by
  induction rest generalizing index with
  | nil => rfl
  | cons c rest ih =>
    have longer : index + 1 + rest.length = index + (c :: rest).length := by
      rw [List.length_cons]
      omega
    rw [afterMany, ih, longer]
    by_cases line : c = '\n'
    · rw [if_neg (by simp [CharSet.has_notLineFeed, line])]
      simp [line]
    · rw [if_pos (CharSet.has_notLineFeed.mpr line)]
      simp [Ne.symm line]

/-- As much white space as possible, then the delimiter and the value. -/
theorem afterMany_blank {f : Nat → List Char → Match} :
    afterMany .blank (fun index rest => (valueAfter? delimiter rest).map (f (index + rest.length)))
        index rest =
      (valueAfterBlanks? delimiter rest).map (f (index + rest.length)) := by
  induction rest generalizing index with
  | nil => rfl
  | cons c rest ih =>
    have longer : index + 1 + rest.length = index + (c :: rest).length := by
      rw [List.length_cons]
      omega
    rw [afterMany, ih, longer, CharSet.has_blank, valueAfterBlanks?]
    split_ifs with blank
    · cases valueAfterBlanks? delimiter rest <;> rfl
    · rfl

/-! ### What the search finds -/

/-- The occurrence of the pattern in a text with the given value. -/
def valueMatch (length : Nat) (value : List Char) : Match :=
  ⟨0, length, [(3, length), (2, length - value.length)]⟩

/-- The occurrence that ends with the rest of the text as its value, from a place on. -/
def matchRest (index : Nat) (rest : List Char) : Option Match :=
  if '\n' ∈ rest then none
  else some ⟨0, index + rest.length, [(3, index + rest.length), (2, index)]⟩

theorem follow_valueCode {p : Program} (r : p.Ranking) {a index : Nat} {before : Option Char}
    (holds : p.Holds a (valueCode a)) :
    r.follow index before rest ⟨a, 0, []⟩ = matchRest index rest := by
  obtain ⟨start, holds⟩ := Program.holds_cons.mp holds
  obtain ⟨line, holds⟩ := Program.holds_append.mp holds
  obtain ⟨stop, last, accept, -⟩ : p[a + 4]? = some (.mark 3) ∧
      p[a + 5]? = some (.check .textEnd) ∧ p[a + 6]? = some .accept ∧ True := by
    simpa using holds
  have onward (i : Nat) (before : Option Char) (rest : List Char) :
      r.follow i before rest ⟨a + 4, 0, [(2, index)]⟩ =
        if rest.isEmpty then some ⟨0, i, [(3, i), (2, index)]⟩ else none := by
    rw [r.follow_mark (t := ⟨a + 4, 0, _⟩) stop]
    change r.follow i before rest ⟨a + 5, 0, [(3, i), (2, index)]⟩ = _
    rw [r.follow_check (t := ⟨a + 5, 0, _⟩) last]
    change (if rest.head?.isNone then r.follow i before rest ⟨a + 6, 0, [(3, i), (2, index)]⟩
      else none) = _
    rw [r.follow_accept (t := ⟨a + 6, 0, _⟩) accept]
    cases rest <;> rfl
  rw [r.follow_mark (t := ⟨a, 0, []⟩) start]
  exact (follow_manyCode (t := ⟨a, 0, [(2, index)]⟩) line onward).trans
    (afterMany_notLineFeed (f := fun i => ⟨0, i, [(3, i), (2, index)]⟩))

/-- Behind the delimiter, the value is the rest of the text. -/
theorem bind_delimiter {index : Nat} :
    (delimiter.isPrefixOf? rest).bind (matchRest (index + delimiter.length)) =
      (valueAfter? delimiter rest).map (valueMatch (index + rest.length)) := by
  unfold valueAfter?
  cases split : delimiter.isPrefixOf? rest with
  | none => rfl
  | some value =>
    have whole := List.isPrefixOf?_eq_some_iff_append_eq.mp split
    have stop : index + rest.length = index + delimiter.length + value.length := by
      rw [← whole, List.length_append, Nat.add_assoc]
    have start : index + delimiter.length + value.length - value.length =
      index + delimiter.length := by omega
    change (if '\n' ∈ value then none else some _) =
      (if '\n' ∈ value then none else some value).map _
    split_ifs with line
    · rfl
    · rw [Option.map_some, valueMatch, stop, start]

/-- **A thread on its own** comes to the occurrence with the value behind the signature. -/
theorem follow_delimiterProgram (text : List Char) :
    (delimiterRanking signature delimiter).follow 0 none text ⟨0, 0, []⟩ =
      (signature.isPrefixOf? text).bind fun rest =>
        (valueAfterBlanks? delimiter rest).map (valueMatch text.length) := by
  have holds : (delimiterProgram signature delimiter).Holds 0 (delimiterCode signature delimiter) :=
    Program.holds_toArray _
  have first : 0 + 1 + signature.length = signature.length + 1 := by omega
  have second : signature.length + 1 + 3 + delimiter.length =
    signature.length + delimiter.length + 4 := by omega
  simp only [delimiterCode, Program.holds_cons, Program.holds_append, length_takeCode,
    length_manyCode, first, second] at holds
  obtain ⟨start, front, blanks, back, value⟩ := holds
  let r := delimiterRanking signature delimiter
  have behindDelimiter (index : Nat) (before : Option Char) (rest : List Char) :
      r.follow index before rest ((⟨0, 0, []⟩ : Thread).goTo (signature.length + 1 + 3)) =
        (valueAfter? delimiter rest).map (valueMatch (index + rest.length)) := by
    rw [← bind_delimiter]
    refine follow_takeCode back fun index before rest => ?_
    rw [second]
    exact follow_valueCode r value
  have behindSignature (index : Nat) (before : Option Char) (rest : List Char) :
      r.follow index before rest ((⟨0, 0, []⟩ : Thread).goTo (signature.length + 1)) =
        (valueAfterBlanks? delimiter rest).map (valueMatch (index + rest.length)) :=
    (follow_manyCode blanks behindDelimiter).trans afterMany_blank
  calc r.follow 0 none text ⟨0, 0, []⟩
      = r.follow 0 none text ((⟨0, 0, []⟩ : Thread).goTo (0 + 1)) :=
        (r.follow_check start).trans (if_pos rfl)
    _ = (signature.isPrefixOf? text).bind fun rest =>
          (valueAfterBlanks? delimiter rest).map
            (valueMatch (0 + signature.length + rest.length)) :=
        follow_takeCode front (fun index before rest => first ▸ behindSignature index before rest)
    _ = _ := by
      cases split : signature.isPrefixOf? text with
      | none => rfl
      | some rest =>
        have whole := List.isPrefixOf?_eq_some_iff_append_eq.mp split
        rw [← whole, List.length_append, Nat.zero_add]
        rfl

/-- A thread that starts behind the text's start fails. -/
theorem leftmost_of_textStart {p : Program} (r : p.Ranking)
    (start : p[0]? = some (.check .textStart)) (index : Nat) (c : Char) :
    r.leftmost index (some c) rest = none := by
  have stuck (index : Nat) (c : Char) (rest : List Char) :
      r.follow index (some c) rest ⟨0, index, []⟩ = none := by
    rw [r.follow_check (t := ⟨0, index, []⟩) start]
    rfl
  induction rest generalizing index c with
  | nil => exact stuck index c []
  | cons d rest ih => rw [Program.Ranking.leftmost, stuck, ih, Option.or_none]

/-- **The search** finds the occurrence with the value behind the signature. -/
theorem find_delimiterProgram (signature delimiter text : List Char) :
    (delimiterProgram signature delimiter).find text 0 =
      (signature.isPrefixOf? text).bind fun rest =>
        (valueAfterBlanks? delimiter rest).map (valueMatch text.length) := by
  rw [(delimiterRanking signature delimiter).find_eq, ← follow_delimiterProgram]
  cases text with
  | nil => rfl
  | cons c rest =>
    rw [Program.Ranking.leftmost, leftmost_of_textStart _ rfl, Option.or_none]

theorem take_drop_append {α : Type} (front back : List α) :
    ((front ++ back).drop ((front ++ back).length - back.length)).take
      ((front ++ back).length - ((front ++ back).length - back.length)) = back := by
  simp

/-- The text of a group at the leftmost occurrence of a pattern. -/
def groupText? (r : Regex) (group : Nat) (text : String) : Option String :=
  (r.program.find text.toList 0).bind fun m => (m.group? group).map fun (start, stop) =>
    String.ofList ((text.toList.drop start).take (stop - start))

end Regex

/-! ### The grammar -/

namespace Descriptor

variable (d : Descriptor)

/-- The pattern of the tokens that select the option with a value. -/
def delimiterPattern : String :=
  "^" ++ Regex.escape d.signature ++ "\\s*" ++ Regex.escape d.delimiter ++ "(.*)$"

/-- The token is the signature, white space, the delimiter and a value in one line. -/
structure Splits (token blanks value : String) : Prop where
  whole : token = d.signature ++ blanks ++ d.delimiter ++ value
  blank : ∀ c ∈ blanks.toList, Text.isBlank c = true
  oneLine : '\n' ∉ value.toList

theorem toList_delimiterPattern : d.delimiterPattern.toList =
    Regex.delimiterChars d.signature.toList d.delimiter.toList := by
  simp [delimiterPattern, Regex.escape, Regex.delimiterChars]

theorem parse_delimiterPattern [Regex.Engine] : Regex.parse d.delimiterPattern =
    if Regex.Engine.fits d.delimiterPattern then
      .ok ⟨d.delimiterPattern, Regex.delimiterExpr d.signature.toList d.delimiter.toList, []⟩
    else .error .tooLarge := by
  rw [Regex.parse, toList_delimiterPattern, Regex.readPattern_delimiterChars]
  rfl

/-- The group of the pattern is the value that the option captures. -/
theorem groupText?_delimiterExpr {r : Regex}
    (expr : r.expr = Regex.delimiterExpr d.signature.toList d.delimiter.toList) (token : String) :
    r.groupText? 1 token = d.captured? token := by
  have find := Regex.find_delimiterProgram d.signature.toList d.delimiter.toList token.toList
  rw [← Regex.program_delimiterExpr, ← expr] at find
  unfold Regex.groupText? captured?
  rw [Regex.program, find]
  cases front : d.signature.toList.isPrefixOf? token.toList with
  | none => rfl
  | some rest =>
    simp only [Option.bind_some]
    cases found : valueAfterBlanks? d.delimiter.toList rest with
    | none => rfl
    | some value =>
      obtain ⟨blanks, -, rfl, -⟩ := valueAfterBlanks?_split found
      have whole :
          d.signature.toList ++ (blanks ++ d.delimiter.toList) ++ value = token.toList := by
        rw [← List.isPrefixOf?_eq_some_iff_append_eq.mp front]
        simp only [List.append_assoc]
      have group (length : Nat) : (Regex.valueMatch length value).group? 1 =
        some (length - value.length, length) := rfl
      simp only [Option.map_some, Option.bind_some, group, ← whole, Regex.take_drop_append]

/-! ### Ways to split a token -/

variable {d} {token blanks value : String}

theorem splits_iff : d.Splits token blanks value ↔
    (∀ c ∈ blanks.toList, Text.isBlank c = true) ∧ '\n' ∉ value.toList ∧
      d.signature.toList.isPrefixOf? token.toList =
        some (blanks.toList ++ (d.delimiter.toList ++ value.toList)) := by
  have whole : token = d.signature ++ blanks ++ d.delimiter ++ value ↔
      d.signature.toList.isPrefixOf? token.toList =
        some (blanks.toList ++ (d.delimiter.toList ++ value.toList)) := by
    rw [List.isPrefixOf?_eq_some_iff_append_eq, ← String.toList_inj, eq_comm]
    simp only [String.toList_append, List.append_assoc]
  exact ⟨fun h => ⟨h.blank, h.oneLine, whole.mp h.whole⟩, fun ⟨blank, oneLine, split⟩ =>
    ⟨whole.mpr split, blank, oneLine⟩⟩

theorem captured?_eq_some_iff : d.captured? token = some value ↔
    ∃ rest, d.signature.toList.isPrefixOf? token.toList = some rest ∧
      valueAfterBlanks? d.delimiter.toList rest = some value.toList := by
  unfold captured?
  cases d.signature.toList.isPrefixOf? token.toList with
  | none => simp
  | some rest =>
    simp only [Option.map_eq_some_iff, Option.some.injEq, exists_eq_left']
    constructor
    · rintro ⟨l, found, rfl⟩
      rw [found, String.toList_ofList]
    · exact fun found => ⟨_, found, String.ofList_toList⟩

/-- What a token captures is split off by the longest run of white space. -/
theorem splits_of_captured? (h : d.captured? token = some value) :
    ∃ blanks, d.Splits token blanks value ∧ ∀ blanks' value', d.Splits token blanks' value' →
      blanks'.length ≤ blanks.length := by
  obtain ⟨rest, front, found⟩ := captured?_eq_some_iff.mp h
  obtain ⟨blanks, all, rfl, oneLine⟩ := valueAfterBlanks?_split found
  refine ⟨String.ofList blanks, splits_iff.mpr ?_, ?_⟩
  · simpa only [String.toList_ofList] using ⟨all, oneLine, front⟩
  · intro blanks' value' split
    obtain ⟨all', oneLine', front'⟩ := splits_iff.mp split
    have same := Option.some.inj (front.symm.trans front')
    obtain ⟨least, found', le⟩ := valueAfterBlanks?_least all' oneLine' same
    obtain rfl : value.toList = least := Option.some.inj (found.symm.trans found')
    have lengths := congrArg List.length same
    simp only [List.length_append] at lengths
    simp only [← String.length_toList, String.toList_ofList]
    omega

/-- A token that can be split captures something. -/
theorem Splits.captured? (h : d.Splits token blanks value) : ∃ v, d.captured? token = some v := by
  obtain ⟨all, oneLine, front⟩ := splits_iff.mp h
  obtain ⟨least, found, -⟩ := valueAfterBlanks?_least all oneLine rfl
  refine ⟨String.ofList least, captured?_eq_some_iff.mpr ⟨_, front, ?_⟩⟩
  rw [found, String.toList_ofList]

/-- Two ways to split a token with equally much white space are the same. -/
theorem Splits.value_eq {blanks' value' : String} (h : d.Splits token blanks value)
    (h' : d.Splits token blanks' value') (length : blanks.length = blanks'.length) :
    blanks = blanks' ∧ value = value' := by
  have same := Option.some.inj ((splits_iff.mp h).2.2.symm.trans (splits_iff.mp h').2.2)
  obtain ⟨front, back⟩ := List.append_inj same (by simpa only [String.length_toList] using length)
  exact ⟨String.toList_inj.mp front, String.toList_inj.mp (List.append_cancel_left back)⟩

/-- White space before a delimiter that starts with something else cannot be split in two ways. -/
theorem Splits.unique {blanks' value' : String} {c : Char} {more : List Char}
    (delimiter : d.delimiter.toList = c :: more) (visible : Text.isBlank c = false)
    (h : d.Splits token blanks value) (h' : d.Splits token blanks' value') :
    blanks = blanks' ∧ value = value' := by
  have lead {blanks value : String} (h : d.Splits token blanks value) :
      (blanks.toList ++ (d.delimiter.toList ++ value.toList)).takeWhile Text.isBlank =
        blanks.toList := by
    rw [List.takeWhile_append_of_pos h.blank, delimiter]
    simp [visible]
  have same := Option.some.inj ((splits_iff.mp h).2.2.symm.trans (splits_iff.mp h').2.2)
  have blanksEq : blanks = blanks' := by
    rw [← String.toList_inj, ← lead h, ← lead h', same]
  exact h.value_eq h' (congrArg String.length blanksEq)

/-- **The pattern** of an option with a value recognises its grammar: it can be read unless its
program is too large, its group is what the option captures, and a token is captured from exactly if
it can be split, with the longest white space that any of its splits has. -/
theorem delimiterPattern_grammar [Regex.Engine] (d : Descriptor) :
    ((∃ r, Regex.parse d.delimiterPattern = .ok r) ↔
        Regex.Engine.fits d.delimiterPattern = true) ∧
      (∀ r, Regex.parse d.delimiterPattern = .ok r →
        ∀ token, r.groupText? 1 token = d.captured? token) ∧
      (∀ token, (d.captured? token).isSome ↔ ∃ blanks value, d.Splits token blanks value) ∧
      (∀ token value, d.captured? token = some value ↔
        ∃ blanks, d.Splits token blanks value ∧
          ∀ blanks' value', d.Splits token blanks' value' → blanks'.length ≤ blanks.length) ∧
      (∀ c more, d.delimiter.toList = c :: more → Text.isBlank c = false →
        ∀ token blanks value blanks' value', d.Splits token blanks value →
          d.Splits token blanks' value' → blanks = blanks' ∧ value = value') := by
  refine ⟨?_, ?_, ?_, ?_, ?_⟩
  · rw [parse_delimiterPattern]
    split_ifs with fits <;> simp [fits]
  · intro r read token
    rw [parse_delimiterPattern] at read
    split_ifs at read
    cases read
    exact groupText?_delimiterExpr d rfl token
  · intro token
    constructor
    · intro captures
      obtain ⟨value, found⟩ := Option.isSome_iff_exists.mp captures
      obtain ⟨blanks, split, -⟩ := splits_of_captured? found
      exact ⟨blanks, value, split⟩
    · rintro ⟨blanks, value, split⟩
      exact Option.isSome_iff_exists.mpr split.captured?
  · intro token value
    refine ⟨splits_of_captured?, ?_⟩
    rintro ⟨blanks, split, longest⟩
    obtain ⟨v, found⟩ := split.captured?
    obtain ⟨blanks', split', longest'⟩ := splits_of_captured? found
    obtain ⟨-, rfl⟩ := split.value_eq split'
      (Nat.le_antisymm (longest' _ _ split) (longest _ _ split'))
    exact found
  · intro c more delimiter visible token blanks value blanks' value' h h'
    exact h.unique delimiter visible h'

/-- With a space as delimiter, the spaces before a value belong to the white space, all but the last
one, which is the delimiter. -/
theorem delimiterPattern_grammar_space :
    let d : Descriptor := { name := "a.b", lead := "+", delimiter := " " }
    d.delimiterPattern = "^\\+a\\.b\\s* (.*)$" ∧
      (∃ r, Regex.parse d.delimiterPattern = .ok r ∧ r.groupText? 1 "+a.b   5 6" = some "5 6") ∧
      ∃ blanks, d.Splits "+a.b   5 6" blanks "5 6" ∧
        ∀ blanks' value', d.Splits "+a.b   5 6" blanks' value' →
          blanks'.length ≤ blanks.length := by
  intro d
  obtain ⟨readable, captures, -, longest, -⟩ := delimiterPattern_grammar d
  have captured : d.captured? "+a.b   5 6" = some "5 6" := by decide +kernel
  obtain ⟨r, read⟩ := readable.mpr (by decide +kernel)
  exact ⟨by decide +kernel, ⟨r, read, (captures r read _).trans captured⟩,
    (longest _ _).mp captured⟩

end Descriptor

end OptionBinding
