import Mathlib.Data.List.TakeWhile
import OptionBinding.Proofs.PatternTails

/-!
# A parenthesis behind a class

A class is read beside a parenthesis as everything is. No end of its text swallows the parenthesis
but a comment (`steady_readClass`): named sets, operators and hyphens are found behind as they are
found without it. A class inside a class takes a reading of its own, so the law is told for all the
fuel that is enough (`along_readMembers`).
-/

namespace OptionBinding.Regex

open Reader

variable (flags : Flags)

/-! ### Sets with names -/

theorem nameSign_append (cs t : List Char) :
    nameSign (cs ++ ')' :: t) = ((nameSign cs).1, (nameSign cs).2 ++ ')' :: t) := by
  cases cs with
  | nil => rfl
  | cons c rest =>
    unfold nameSign
    by_cases caret : c = '^'
    · subst caret
      rfl
    · rw [List.cons_append]
      split
      · next same => exact absurd (List.cons.inj same).1 caret
      · split
        · next same => exact absurd (List.cons.inj same).1 caret
        · rfl

theorem nameSign_suffix (cs : List Char) : (nameSign cs).2 <:+ cs := by
  unfold nameSign
  split
  · exact List.suffix_cons _ _
  · exact List.suffix_refl _

theorem nameEnd?_append (cs : List Char) {t : List Char} (tail : Tail t) :
    nameEnd? (cs ++ ')' :: t) =
      (nameEnd? cs).map fun found => (found.1, found.2 ++ ')' :: t) := by
  have none : (')' :: t).dropWhile (· != ':') = [] := by
    refine List.dropWhile_eq_nil_iff.mpr fun c mem => ?_
    rcases List.mem_cons.mp mem with rfl | mem
    · rfl
    · rw [tail c mem]
      rfl
  unfold nameEnd?
  rw [List.dropWhile_append]
  cases behind : cs.dropWhile (· != ':') with
  | nil =>
    rw [List.isEmpty_nil, if_pos rfl, none]
    rfl
  | cons d more =>
    have whole : (cs.takeWhile (· != ':')).length ≠ cs.length := by
      have parts : (cs.takeWhile (· != ':') ++ cs.dropWhile (· != ':')).length = cs.length :=
        congrArg List.length List.takeWhile_append_dropWhile
      rw [List.length_append, behind, List.length_cons] at parts
      omega
    rw [List.takeWhile_append, if_neg whole, List.isEmpty_cons, if_neg Bool.false_ne_true]
    cases more with
    | nil => simp
    | cons d' more =>
      simp only [List.cons_append, List.take_succ_cons, List.take_zero, List.drop_succ_cons,
        List.drop_zero]
      split_ifs <;> rfl

theorem nameEnd?_suffix {cs name rest : List Char} (found : nameEnd? cs = some (name, rest)) :
    rest <:+ cs := by
  unfold nameEnd? at found
  dsimp only at found
  split_ifs at found
  obtain ⟨-, rfl⟩ := Prod.mk.inj (Option.some.inj found)
  exact (List.drop_suffix 2 _).trans (List.dropWhile_suffix _)

theorem namedSet?_colon (cs : List Char) : namedSet? (':' :: cs) =
    (nameEnd? (nameSign cs).2).bind fun found =>
      (namedSets.lookup (String.ofList found.1)).map fun ranges =>
        (((nameSign cs).1, .ofRanges ranges), found.2) := by
  have read : namedSet? (':' :: cs) = (nameEnd? (nameSign cs).2).bind fun found =>
      (namedSets.lookup (String.ofList found.1)).bind fun ranges =>
        some (((nameSign cs).1, .ofRanges ranges), found.2) := rfl
  simp only [read, ← Function.comp_def, Option.map_eq_bind]

/-- **A set with a name** is found behind or not, whatever follows. -/
theorem steady_namedSet? : Steady (attempt namedSet?) := by
  have other {c : Char} (colon : c ≠ ':') (more : List Char) : namedSet? (c :: more) = none := by
    unfold namedSet?
    split
    · next same => exact absurd (List.cons.inj same).1 colon
    · rfl
  refine .attempt (fun {cs a r} found => ?_) fun cs t tail => ?_
  · match cs with
    | [] => cases found
    | c :: rest =>
      by_cases colon : c = ':'
      · subst colon
        rw [namedSet?_colon, Option.bind_eq_some_iff] at found
        obtain ⟨⟨name, behind⟩, ends, found⟩ := found
        obtain ⟨ranges, -, same⟩ := Option.map_eq_some_iff.mp found
        obtain ⟨-, rfl⟩ := Prod.mk.inj same
        exact ((nameEnd?_suffix ends).trans (nameSign_suffix rest)).trans (List.suffix_cons _ _)
      · rw [other colon] at found
        cases found
  · match cs with
    | [] => rfl
    | c :: rest =>
      by_cases colon : c = ':'
      · subst colon
        rw [List.cons_append, namedSet?_colon, namedSet?_colon, nameSign_append,
          nameEnd?_append _ tail]
        cases nameEnd? (nameSign rest).2 with
        | none => rfl
        | some found => simp [Function.comp_def]
      · rw [List.cons_append, other colon, other colon]
        rfl

/-! ### Members and ranges -/

/-- A parenthesis behind is no hyphen, and as good as any start of a range's end. -/
theorem rangeAhead_append (cs : List Char) {t : List Char} (tail : Tail t) :
    rangeAhead flags (cs ++ ')' :: t) = rangeAhead flags cs := by
  unfold rangeAhead
  rcases flags.skip_append cs with left | ⟨none, swallowed⟩
  · rw [left t tail]
    cases flags.skip cs with
    | nil => rfl
    | cons c rest =>
      by_cases hyphen : c = '-'
      · subst hyphen
        simp only [List.cons_append]
        rcases flags.skip_append rest with left | ⟨none, swallowed⟩
        · rw [left t tail]
          cases flags.skip rest <;> rfl
        · rw [none, swallowed t tail]
      · simp only [List.cons_append]
        split
        · next same => exact absurd (List.cons.inj same).1 hyphen
        · split
          · next same => exact absurd (List.cons.inj same).1 hyphen
          · rfl
  · rw [none, swallowed t tail]

theorem steady_readClassStart : Steady (readClassStart flags) := by
  have leading : Steady (readLeading flags) :=
    (Steady.many (by decide)).bind fun _ =>
      .ite ((Steady.accept (by decide)).bind fun _ => .ite (.pure _) (.pure _)) (.pure _)
  exact (Steady.skip flags).bind fun _ => (Steady.accept (by decide)).bind fun _ =>
    leading.bind fun _ => .pure _

theorem steady_readOperator (c : Char) : Steady (readOperator c) := by
  unfold readOperator
  split
  · exact .pure _
  · next found =>
    have other : ')' ≠ c := by
      rintro rfl
      cases found
    exact (Steady.accept (by simpa using other)).bind fun _ => .ite (.pure _) (.pure _)

section

variable [Properties]

theorem steady_readMember (c : Char) : Steady (readMember flags c) :=
  .ite ((steady_readEscape flags).bind fun _ => .give _) (.give _)

theorem steady_readMemberOrRange (c : Char) : Steady (readMemberOrRange flags c) := by
  refine (steady_readMember flags c).bind fun low =>
    (Steady.ahead fun cs t tail => rangeAhead_append flags cs tail).bind fun _ => .ite ?_ (.pure _)
  exact (Steady.skip flags).bind fun _ => (Steady.next _).discard.bind fun _ =>
    (Steady.skip flags).bind fun _ => (Steady.next _).bind fun c =>
      (steady_readMember flags c).bind fun _ => .give _

/-! ### Classes -/

variable {n : Nat} {go : ClassLevel → Reader NestedSet}
  {go' : List Char → ClassLevel → Reader NestedSet}

/-- **A step in a class** takes a character, and reads beside a parenthesis if what reads on
does. -/
theorem along_classStep (h : ∀ level, Along n (go level) fun t => go' t level)
    (level : ClassLevel) :
    Along (n + 1) (classStep flags go level) fun t => classStep flags (go' t) level := by
  refine ((Steady.skip flags).along _).bind fun _ => .next (fun c => ?_) _
  refine .ite ((Steady.give _).along n) (.ite ?_ ?_)
  · refine (steady_namedSet?.along n).bind fun found => ?_
    cases found with
    | some found => exact ((Steady.give _).along n).bind fun _ => h _
    | none =>
      exact ((steady_readClassStart flags).along n).bind fun start => (h start).bind fun _ => h _
  · refine ((steady_readOperator c).along n).bind fun found => ?_
    cases found with
    | some op => exact h _
    | none => exact ((steady_readMemberOrRange flags c).along n).bind fun _ => h _

theorem readMembers_nil (fuel : Nat) (level : ClassLevel) :
    readMembers flags fuel level [] = .error .unclosedClass := by
  cases fuel <;> rfl

theorem readMembers_suffix {fuel : Nat} {level : ClassLevel} {cs r : List Char} {s : NestedSet}
    (read : readMembers flags fuel level cs = .ok (s, r)) : r <:+ cs := by
  have ended : Along 0 (readMembers flags fuel level) fun _ => readMembers flags fuel level := by
    clear read
    induction fuel generalizing level with
    | zero => exact ⟨nofun, nofun, nofun, .faulty rfl fun _ _ => ⟨_, rfl⟩⟩
    | succ fuel ih => exact (along_classStep flags (fun _ => ih) level).of_end
  exact ended.suffix read

/-- **The members of a class,** for all the fuel that is enough. -/
theorem along_readMembers {fuel : Nat} {fuel' : List Char → Nat}
    (enough : ∀ t, fuel + t.length < fuel' t) (level : ClassLevel) :
    Along fuel (readMembers flags fuel level) fun t => readMembers flags (fuel' t) level := by
  induction fuel generalizing fuel' level with
  | zero =>
    refine ⟨nofun, fun read => readMembers_suffix flags read, nofun, ?_⟩
    exact .faulty (readMembers_nil ..) fun _ _ => ⟨_, readMembers_nil ..⟩
  | succ fuel ih =>
    obtain ⟨fuel', rfl⟩ := exists_add_one_of_lt enough
    refine along_classStep flags (ih fun t => ?_) level
    have enough : fuel + 1 + t.length < fuel' t + 1 := enough t
    omega

theorem steady_readClass : Steady (readClass flags) := by
  refine (steady_readClassStart flags).bind fun level => ⟨fun read => ?_, fun cs => ?_⟩
  · exact readMembers_suffix flags read
  · refine (along_readMembers flags (fun t => ?_) level).beside (Nat.lt_succ_self _)
    rw [List.length_append, List.length_cons]
    omega

end

end OptionBinding.Regex
