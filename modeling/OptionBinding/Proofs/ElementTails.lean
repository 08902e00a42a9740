import OptionBinding.Proofs.ClassTails

/-!
# A parenthesis behind an element of a pattern

Groups, flags and repetitions are read beside a parenthesis too, and with them every element of a
pattern (`Reading.steady_step`).
-/

namespace OptionBinding.Regex

open Reader

variable (flags : Flags)

/-! ### Groups -/

/-- Flags may be ended by the parenthesis behind them. -/
theorem steady_readFlags (seen : List Char) : Steady (readFlags flags seen) where
  suffix {cs result r} read := by
    fun_induction readFlags flags seen cs with
    | case4 flags seen c rest =>
      cases read
      exact List.suffix_cons _ _
    | case6 flags seen rest _ _ ih => exact (ih read).trans (List.suffix_cons _ _)
    | case7 flags seen c rest _ _ _ flags' _ ih => exact (ih read).trans (List.suffix_cons _ _)
    | _ => cases read
  beside cs := by
    induction cs generalizing flags seen with
    | nil =>
      refine .beyond rfl fun t a r _ read => ?_
      rw [List.nil_append, readFlags, if_pos (.inr rfl)] at read
      split_ifs at read
      cases read
      exact List.suffix_refl _
    | cons c rest ih =>
      simp only [List.cons_append, readFlags]
      split_ifs
      · exact (Steady.throw _).beside rest
      · exact (Steady.throw _).beside rest
      · exact (Steady.pure _).beside rest
      · exact (Steady.throw _).beside rest
      · exact ih flags (c :: seen)
      · split
        · exact ih _ _
        · exact (Steady.throw _).beside rest

namespace Reading

variable (s : Reading)

theorem steady_openParenthesis : Steady s.openParenthesis := by
  have named : Steady (upTo false '>' .invalidGroupName >>= fun name =>
      give (s.openNamed name)) :=
    (Steady.upTo (by decide) (by decide)).bind fun _ => .give _
  have flagged : Steady (readFlags s.level.flags [] >>= fun result =>
      if result.2 then pure (s.openGroup none result.1) else pure (s.setFlags result.1)) :=
    (steady_readFlags _ _).bind fun _ => .ite (.pure _) (.pure _)
  have look (cs t : List Char) (_ : Tail t) :
      lookAroundSigns.any (·.isPrefixOf (cs ++ ')' :: t)) =
        lookAroundSigns.any (·.isPrefixOf cs) := by
    simp [lookAroundSigns, isPrefixOf_append]
  refine (Steady.skip _).bind fun _ => (Steady.ahead look).bind fun _ => .ite (.throw _) ?_
  refine (Steady.accept (by decide)).bind fun _ => .ite named ?_
  refine (Steady.accept (by decide)).bind fun _ => .ite named ?_
  exact (Steady.accept (by decide)).bind fun _ => .ite flagged (.pure _)

/-! ### Repetitions -/

theorem steady_repeatSign (f : Bool → Expr → Expr) : Steady (s.repeatSign f) :=
  (Steady.accept (by decide)).bind fun _ => .give _

end Reading

theorem steady_readCount : Steady (readCount flags) :=
  (Steady.many (by decide)).discard.bind fun _ => (Steady.many (by decide)).bind fun _ =>
    (Steady.many (by decide)).discard.bind fun _ => .give _

theorem steady_readBounds : Steady (readBounds flags) := by
  have close (least : Nat) (most : Option Nat) : Steady (closeBounds least most) :=
    (Steady.accept (by decide)).bind fun _ => .ite (.pure _) (.throw _)
  refine (Steady.skip flags).bind fun _ => (steady_readCount flags).bind fun least =>
    (Steady.accept (by decide)).bind fun _ => .ite ?_ (close _ _)
  exact (Steady.skip flags).bind fun _ => (Steady.accept (by decide)).bind fun _ =>
    .ite (.pure _) ((steady_readCount flags).bind fun _ => close _ _)

namespace Reading

variable (s : Reading)

theorem steady_repeatCounted : Steady s.repeatCounted := by
  refine (Steady.give _).discard.bind fun _ => (steady_readBounds _).bind fun bounds => ?_
  exact .ite (.throw _) ((Steady.skip _).bind fun _ => s.steady_repeatSign _)

/-- **An element of a pattern** is read beside a parenthesis, whatever it starts with. -/
theorem steady_step [Properties] (c : Char) : Steady (s.step c) :=
  .ite s.steady_openParenthesis <| .ite (.give _) <| .ite (.pure _) <|
    .ite ((steady_readClass _).map _) <| .ite (s.steady_repeatSign _) <|
    .ite (s.steady_repeatSign _) <| .ite (s.steady_repeatSign _) <| .ite s.steady_repeatCounted <|
    .ite (.give _) <| .ite (.pure _) <| .ite (.pure _) <|
    .ite ((steady_readEscape _).map _) (.pure _)

end Reading

end OptionBinding.Regex
