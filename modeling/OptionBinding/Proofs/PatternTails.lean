import Mathlib.Data.List.Infix
import Mathlib.Tactic.SplitIfs
import OptionBinding.Regex.Reader

/-!
# A parenthesis behind a pattern

What reading a pattern comes to if a closing parenthesis is written behind it. All that reads a part
of a pattern does one of three things (`Beside`). It reads the part and leaves the parenthesis to
what comes next; it reads the part and then leaves the parenthesis out, as a comment is open; or the
part is faulty, and if it is not with the parenthesis behind it, then only because the parenthesis
has been taken as a piece of it.

This is kept when one thing is read after another (`Steady.bind`), so it is told of each construct
in turn: of blanks and escapes here, and of classes and of the elements of a pattern in the modules
that follow. Dollar signs may stand behind the parenthesis.
-/

namespace OptionBinding.Regex

open Reader

/-- What stands behind the parenthesis: dollar signs or nothing. -/
def Tail (t : List Char) : Prop := ∀ c ∈ t, c = '$'

variable {α β : Type}

/-- **What reading a text comes to, and what it comes to with a parenthesis behind it.** -/
inductive Beside (x : Except Fault (α × List Char))
    (y : (t : List Char) → Except Fault (α × List Char)) : Prop
  | same {a : α} {r : List Char} (own : x = .ok (a, r))
      (behind : ∀ t, Tail t → y t = .ok (a, r ++ ')' :: t))
  | swallowed {a : α} (own : x = .ok (a, [])) (behind : ∀ t, Tail t → y t = .ok (a, []))
  | beyond {e : Fault} (own : x = .error e)
      (behind : ∀ t a r, Tail t → y t = .ok (a, r) → r <:+ t)

/-- **What reads a part of a pattern** leaves an end of the text, and reads beside a parenthesis. -/
structure Steady (f : Reader α) : Prop where
  suffix : ∀ {cs a r}, f cs = .ok (a, r) → r <:+ cs
  beside : ∀ cs, Beside (f cs) fun t => f (cs ++ ')' :: t)

/-- What reads another way if a parenthesis is behind: it does as what is steady does, on texts of
less than `n` characters. -/
structure Along (n : Nat) (f : Reader α) (f' : List Char → Reader α) : Prop where
  suffix : ∀ {cs a r}, f cs = .ok (a, r) → r <:+ cs
  suffix' : ∀ {t cs a r}, f' t cs = .ok (a, r) → r <:+ cs
  beside : ∀ {cs}, cs.length < n → Beside (f cs) fun t => f' t (cs ++ ')' :: t)
  ended : Beside (f []) fun t => f' t []

/-! ### One thing after another -/

theorem bind_ok_iff {f : Reader α} {g : α → Reader β} {cs : List Char} {b : β × List Char} :
    (f >>= g) cs = .ok b ↔ ∃ a r, f cs = .ok (a, r) ∧ g a r = .ok b := by
  have first : (f >>= g) cs = f cs >>= fun result => g result.1 result.2 := rfl
  rw [first]
  cases f cs with
  | error e => simp [bind, Except.bind]
  | ok result =>
    obtain ⟨a, r⟩ := result
    constructor
    · exact fun later => ⟨a, r, rfl, later⟩
    · rintro ⟨_, _, ⟨⟩, later⟩
      exact later

theorem bind_ok {f : Reader α} {g : α → Reader β} {cs r : List Char} {a : α}
    (read : f cs = .ok (a, r)) : (f >>= g) cs = g a r := by
  change f cs >>= (fun result => g result.1 result.2) = _
  rw [read]
  rfl

theorem bind_error {f : Reader α} {g : α → Reader β} {cs : List Char} {e : Fault}
    (fault : f cs = .error e) : (f >>= g) cs = .error e := by
  change f cs >>= (fun result => g result.1 result.2) = _
  rw [fault]
  rfl

theorem map_apply (k : α → β) (f : Reader α) (cs : List Char) :
    (k <$> f) cs = (f cs).map fun result => (k result.1, result.2) := by
  change f cs >>= (fun result => .ok (k result.1, result.2)) = _
  cases f cs <;> rfl

/-- Fuel that is enough for something can be spent. -/
theorem exists_add_one_of_lt {ι : Type} {need fuel : ι → Nat} (enough : ∀ i, need i < fuel i) :
    ∃ fuel' : ι → Nat, fuel = fun i => fuel' i + 1 :=
  ⟨fun i => fuel i - 1, funext fun i => (Nat.sub_add_cancel (Nat.one_le_of_lt (enough i))).symm⟩

namespace Beside

variable {x : Except Fault (α × List Char)} {y y' : List Char → Except Fault (α × List Char)}

theorem congr (h : Beside x y) (same : ∀ t, Tail t → y' t = y t) : Beside x y' := by
  cases h with
  | same own behind => exact .same own fun t tail => (same t tail).trans (behind t tail)
  | swallowed own behind => exact .swallowed own fun t tail => (same t tail).trans (behind t tail)
  | beyond own behind =>
    exact .beyond own fun t a r tail read => behind t a r tail ((same t tail).symm.trans read)

/-- What is faulty either way. -/
theorem faulty {e : Fault} (own : x = .error e) (behind : ∀ t, Tail t → ∃ e, y t = .error e) :
    Beside x y := by
  refine .beyond own fun t a r tail read => ?_
  obtain ⟨e', error⟩ := behind t tail
  cases read.symm.trans error

end Beside

namespace Along

variable {n : Nat} {f : Reader α} {f' : List Char → Reader α} {g : α → Reader β}
  {g' : List Char → α → Reader β}

/-- **One thing after another.** -/
theorem bind (h : Along n f f') (h' : ∀ a, Along n (g a) fun t => g' t a) :
    Along n (f >>= g) fun t => f' t >>= g' t := by
  have suffix' {t cs : List Char} {b r} (read : (f' t >>= g' t) cs = .ok (b, r)) : r <:+ cs := by
    obtain ⟨a, r, first, later⟩ := bind_ok_iff.mp read
    exact ((h' a).suffix' later).trans (h.suffix' first)
  have then_ {cs : List Char} {cs' : List Char → List Char}
      (first : Beside (f cs) fun t => f' t (cs' t))
      (on : ∀ a r, f cs = .ok (a, r) → (∀ t, Tail t → f' t (cs' t) = .ok (a, r ++ ')' :: t)) →
        Beside (g a r) fun t => g' t a (r ++ ')' :: t)) :
      Beside ((f >>= g) cs) fun t => (f' t >>= g' t) (cs' t) := by
    cases first with
    | @same a r own behind =>
      rw [bind_ok own]
      exact (on a r own behind).congr fun t tail => bind_ok (behind t tail)
    | @swallowed a own behind =>
      rw [bind_ok own]
      exact (h' a).ended.congr fun t tail => bind_ok (behind t tail)
    | beyond own behind =>
      refine .beyond (bind_error own) fun t b r' tail read => ?_
      obtain ⟨a, r, taken, later⟩ := bind_ok_iff.mp read
      exact ((h' a).suffix' later).trans (behind t a r tail taken)
  refine ⟨fun read => ?_, suffix', fun shorter => ?_, ?_⟩
  · obtain ⟨a, r, first, later⟩ := bind_ok_iff.mp read
    exact ((h' a).suffix later).trans (h.suffix first)
  · exact then_ (h.beside shorter) fun a r own _ =>
      (h' a).beside ((h.suffix own).length_le.trans_lt shorter)
  · refine then_ h.ended fun a r _ behind => ?_
    -- nothing is left at the end of the text
    have none := List.suffix_nil.mp (h.suffix' (behind [] fun _ mem => nomatch mem))
    exact absurd none (by simp)

/-- Of the end of the text only. -/
theorem of_end (h : Along n f f') : Along 0 f f' := ⟨h.suffix, h.suffix', nofun, h.ended⟩

/-- Taking a character leaves one less. -/
theorem next {k : Char → Reader α} {k' : List Char → Char → Reader α}
    (h : ∀ c, Along n (k c) fun t => k' t c) (e : Fault) :
    Along (n + 1) (Reader.next e >>= k) fun t => Reader.next e >>= k' t where
  suffix {cs a r} read := by
    cases cs with
    | nil => cases read
    | cons c rest => exact ((h c).suffix read).trans (List.suffix_cons _ _)
  suffix' {t cs a r} read := by
    cases cs with
    | nil => cases read
    | cons c rest => exact ((h c).suffix' read).trans (List.suffix_cons _ _)
  beside {cs} shorter := by
    cases cs with
    | nil => exact .beyond rfl fun t a r _ read => (h ')').suffix' read
    | cons c rest => exact (h c).beside (Nat.lt_of_succ_lt_succ shorter)
  ended := .faulty rfl fun _ _ => ⟨e, rfl⟩

theorem ite {k : Reader α} {k' : List Char → Reader α} {p : Prop} [Decidable p]
    (h : Along n f f') (h' : Along n k k') :
    Along n (if p then f else k) fun t => if p then f' t else k' t := by
  split_ifs
  · exact h
  · exact h'

end Along

namespace Steady

variable {f f' : Reader α} {g : α → Reader β}

/-- At the end of the text nothing is taken or all is. -/
theorem beside_nil (h : Steady f) : Beside (f []) fun _ => f [] := by
  cases read : f [] with
  | error e => exact .beyond rfl fun _ _ _ _ ok => by cases ok
  | ok result =>
    obtain ⟨a, r⟩ := result
    obtain rfl := List.suffix_nil.mp (h.suffix read)
    exact .swallowed rfl fun _ _ => rfl

theorem along (h : Steady f) (n : Nat) : Along n f fun _ => f :=
  ⟨h.suffix, h.suffix, fun _ => h.beside _, h.beside_nil⟩

theorem of_along (h : ∀ n, Along (n + 1) f fun _ => f) : Steady f :=
  ⟨(h 0).suffix, fun cs => (h cs.length).beside (Nat.lt_succ_self _)⟩

/-- **One thing after another.** -/
theorem bind (h : Steady f) (h' : ∀ a, Steady (g a)) : Steady (f >>= g) :=
  of_along fun _ => (h.along _).bind fun a => (h' a).along _

/-- Nothing is read. -/
theorem give (result : Except Fault α) : Steady (give result) where
  suffix {cs a r} read := by
    cases result with
    | error e => cases read
    | ok b =>
      obtain rfl := (Prod.mk.inj (Except.ok.inj read)).2
      exact List.suffix_refl _
  beside cs := by
    cases result with
    | error e => exact .beyond rfl fun _ _ _ _ ok => by cases ok
    | ok a => exact .same rfl fun _ _ => rfl

theorem pure (a : α) : Steady (Pure.pure a : Reader α) := give (.ok a)

theorem throw (e : Fault) : Steady (MonadExcept.throw e : Reader α) := give (.error e)

theorem map (h : Steady f) (k : α → β) : Steady (k <$> f) := h.bind fun a => pure (k a)

theorem discard (h : Steady f) : Steady (Functor.discard f) := h.map fun _ => ()

theorem ite {p : Prop} [Decidable p] (h : Steady f) (h' : Steady f') :
    Steady (if p then f else f') := by
  split_ifs
  · exact h
  · exact h'

/-- Goes by something that a parenthesis behind does not change. -/
theorem ahead {p : List Char → Bool} (kept : ∀ cs t, Tail t → p (cs ++ ')' :: t) = p cs) :
    Steady (ahead p) where
  suffix read := by
    obtain rfl := (Prod.mk.inj (Except.ok.inj read)).2
    exact List.suffix_refl _
  beside cs := .same rfl fun t tail => by rw [Reader.ahead, kept cs t tail]

theorem next (e : Fault) : Steady (next e) :=
  of_along fun _ => by simpa using Along.next (fun c => (pure c).along _) e

/-- Takes what is found in front, if a parenthesis behind does not change that. -/
theorem attempt {f : List Char → Option (α × List Char)}
    (suffix : ∀ {cs a r}, f cs = some (a, r) → r <:+ cs)
    (kept : ∀ cs t, Tail t →
      f (cs ++ ')' :: t) = (f cs).map fun found => (found.1, found.2 ++ ')' :: t)) :
    Steady (attempt f) where
  suffix {cs a r} read := by
    unfold Reader.attempt at read
    split at read
    · next found =>
      cases read
      exact suffix found
    · cases read
      exact List.suffix_refl _
  beside cs := by
    unfold Reader.attempt
    cases found : f cs with
    | none => exact .same rfl fun t tail => by rw [kept cs t tail, found]; rfl
    | some result => exact .same rfl fun t tail => by rw [kept cs t tail, found]; rfl

end Steady

/-! ### Texts that come next -/

/-- A parenthesis behind is no part of a text without one. -/
theorem isPrefixOf_append {text : List Char} (other : ')' ∉ text) (cs t : List Char) :
    text.isPrefixOf (cs ++ ')' :: t) = text.isPrefixOf cs := by
  induction text generalizing cs with
  | nil => rfl
  | cons x text ih =>
    obtain ⟨first, others⟩ := List.ne_and_not_mem_of_not_mem_cons other
    cases cs with
    | nil => simp [List.isPrefixOf, Ne.symm first]
    | cons c cs => simp only [List.cons_append, List.isPrefixOf, ih others]

theorem Steady.accept {text : List Char} (other : ')' ∉ text) : Steady (accept text) where
  suffix {cs a r} read := by
    unfold Reader.accept at read
    split_ifs at read
    · cases read
      exact List.drop_suffix _ _
    · cases read
      exact List.suffix_refl _
  beside cs := by
    simp only [Reader.accept, isPrefixOf_append other]
    split_ifs with found
    · have le := (List.isPrefixOf_iff_prefix.mp found).length_le
      exact .same rfl fun t _ => by rw [List.drop_append_of_le_length le]
    · exact .same rfl fun _ _ => rfl

/-! ### Blanks and comments -/

section

variable (extended : Bool) (p : Char → Bool) (inComment : Bool)

theorem spanVisible_suffix (cs : List Char) : (spanVisible extended p inComment cs).2 <:+ cs := by
  fun_induction spanVisible extended p inComment cs with
  | case1 => exact List.suffix_refl _
  | case2 c rest ih => exact ih.trans (List.suffix_cons _ _)
  | case3 c rest _ ih => exact ih.trans (List.suffix_cons _ _)
  | case4 c rest _ _ ih => exact ih.trans (List.suffix_cons _ _)
  | case5 c rest _ _ _ front back read ih =>
    rw [read] at ih
    exact ih.trans (List.suffix_cons _ _)
  | case6 => exact List.suffix_refl _

/-- What stands behind a text is reached, in a comment or not, or it is left as it is. -/
theorem spanVisible_append (cs : List Char) :
    (∀ more, spanVisible extended p inComment (cs ++ more) =
      ((spanVisible extended p inComment cs).1, (spanVisible extended p inComment cs).2 ++ more)) ∨
    (spanVisible extended p inComment cs).2 = [] ∧ ∃ inComment', ∀ more,
      spanVisible extended p inComment (cs ++ more) =
        ((spanVisible extended p inComment cs).1 ++ (spanVisible extended p inComment' more).1,
          (spanVisible extended p inComment' more).2) := by
  fun_induction spanVisible extended p inComment cs with
  | case1 inComment => exact .inr ⟨rfl, inComment, fun _ => rfl⟩
  | case2 c rest ih => simpa only [List.cons_append, spanVisible] using ih
  | case3 c rest comment ih => simpa only [List.cons_append, spanVisible, if_pos comment] using ih
  | case4 c rest noComment blank ih =>
    simpa only [List.cons_append, spanVisible, if_neg noComment, if_pos blank] using ih
  | case5 c rest noComment visible kind front back read ih =>
    simp only [List.cons_append, spanVisible, if_neg noComment, if_neg visible, if_pos kind]
    rw [read] at ih
    rcases ih with left | ⟨none, inComment', reached⟩
    · exact .inl fun more => by rw [left more]
    · exact .inr ⟨none, inComment', fun more => by rw [reached more]⟩
  | case6 c rest noComment visible other =>
    refine .inl fun more => ?_
    simp only [List.cons_append, spanVisible, if_neg noComment, if_neg visible, if_neg other]

variable {extended p inComment}

/-- Nothing is left of characters that are all of the kind. -/
theorem spanVisible_of_all {cs : List Char} (all : ∀ c ∈ cs, p c = true) :
    (spanVisible extended p inComment cs).2 = [] := by
  fun_induction spanVisible extended p inComment cs with
  | case1 => rfl
  | case2 c rest ih => exact ih (List.forall_mem_cons.mp all).2
  | case3 c rest _ ih => exact ih (List.forall_mem_cons.mp all).2
  | case4 c rest _ _ ih => exact ih (List.forall_mem_cons.mp all).2
  | case5 c rest _ _ _ front back read ih =>
    have none := ih (List.forall_mem_cons.mp all).2
    rwa [read] at none
  | case6 c rest _ _ other => exact absurd (List.forall_mem_cons.mp all).1 other

/-- A comment swallows what stands behind a pattern. -/
theorem spanVisible_tail {t : List Char} (tail : Tail t) :
    spanVisible extended p true (')' :: t) = ([], []) := by
  have dollars : spanVisible extended p true t = ([], []) := by
    induction t with
    | nil => rfl
    | cons c t ih =>
      obtain ⟨rfl, others⟩ := List.forall_mem_cons.mp tail
      exact ih others
  exact dollars

/-- A parenthesis that is not of the kind is left, unless a comment swallows it. -/
theorem spanVisible_parenthesis (other : p ')' = false) (cs : List Char) :
    (∀ t, Tail t → spanVisible extended p inComment (cs ++ ')' :: t) =
      ((spanVisible extended p inComment cs).1,
        (spanVisible extended p inComment cs).2 ++ ')' :: t)) ∨
    (spanVisible extended p inComment cs).2 = [] ∧ ∀ t, Tail t →
      spanVisible extended p inComment (cs ++ ')' :: t) =
        ((spanVisible extended p inComment cs).1, []) := by
  have visible : Text.isBlank ')' = false := by decide
  rcases spanVisible_append extended p inComment cs with left | ⟨none, inComment', reached⟩
  · exact .inl fun t _ => left _
  · cases inComment' with
    | true =>
      refine .inr ⟨none, fun t tail => ?_⟩
      rw [reached, spanVisible_tail tail, List.append_nil]
    | false =>
      refine .inl fun t _ => ?_
      have stop : spanVisible extended p false (')' :: t) = ([], ')' :: t) := by
        simp [spanVisible, visible, other]
      rw [reached, stop, none, List.append_nil]
      rfl

end

namespace Flags

variable (flags : Flags)

theorem skip_suffix (cs : List Char) : flags.skip cs <:+ cs := spanVisible_suffix _ _ _ cs

theorem skip_append (cs : List Char) :
    (∀ t, Tail t → flags.skip (cs ++ ')' :: t) = flags.skip cs ++ ')' :: t) ∨
      flags.skip cs = [] ∧ ∀ t, Tail t → flags.skip (cs ++ ')' :: t) = [] := by
  unfold skip
  rcases spanVisible_parenthesis (p := fun _ => false) rfl cs with left | ⟨none, swallowed⟩
  · exact .inl fun t tail => by rw [left t tail]
  · exact .inr ⟨none, fun t tail => by rw [swallowed t tail]⟩

theorem skip_nil : flags.skip [] = [] := rfl

end Flags

variable (flags : Flags)

namespace Steady

theorem skip : Steady (skip flags) where
  suffix read := by
    obtain rfl := (Prod.mk.inj (Except.ok.inj read)).2
    exact flags.skip_suffix _
  beside cs := by
    rcases flags.skip_append cs with left | ⟨none, swallowed⟩
    · exact .same rfl fun t tail => by rw [Reader.skip, left t tail]
    · exact .swallowed (by rw [Reader.skip, none]) fun t tail => by
        rw [Reader.skip, swallowed t tail]

/-- The characters of a kind in front, which a parenthesis is not of. -/
theorem many {extended : Bool} {p : Char → Bool} (other : p ')' = false) :
    Steady (many extended p) where
  suffix {cs a r} read := by
    have suffix : (spanVisible extended p false cs).2 <:+ cs := spanVisible_suffix _ _ _ cs
    rwa [Except.ok.inj read] at suffix
  beside cs := by
    rcases spanVisible_parenthesis other cs with left | ⟨none, swallowed⟩
    · exact .same rfl fun t tail => by rw [Reader.many, left t tail]
    · exact .swallowed (by rw [Reader.many, ← none]) fun t tail => by
        rw [Reader.many, swallowed t tail]

theorem upTo {extended : Bool} {stop : Char} {e : Fault} (parenthesis : stop ≠ ')')
    (dollar : stop ≠ '$') : Steady (upTo extended stop e) := by
  have going (front : List Char) : Steady (Functor.discard (Reader.next e) >>= fun _ =>
      (Pure.pure front : Reader (List Char))) := (next e).discard.bind fun _ => pure front
  refine ⟨fun read => ?_, fun cs => ?_⟩
  · obtain ⟨front, back, first, later⟩ := bind_ok_iff.mp read
    have suffix := spanVisible_suffix extended (· != stop) false
    obtain rfl := (Prod.mk.inj (Except.ok.inj first)).2
    exact ((going front).suffix later).trans (suffix _)
  · have read (cs : List Char) : Reader.upTo extended stop e cs =
        (Functor.discard (Reader.next e) >>= fun _ =>
          (Pure.pure (spanVisible extended (· != stop) false cs).1 : Reader (List Char)))
          (spanVisible extended (· != stop) false cs).2 := rfl
    simp only [read]
    rcases spanVisible_append extended (· != stop) false cs with left | ⟨none, inComment', reached⟩
    · simp only [left]
      exact (going _).beside _
    · have rest (t : List Char) (tail : Tail t) :
          (spanVisible extended (· != stop) inComment' (')' :: t)).2 = [] := by
        refine spanVisible_of_all (List.forall_mem_cons.mpr
          ⟨by simpa using Ne.symm parenthesis, fun c mem => ?_⟩)
        rw [tail c mem]
        simpa using Ne.symm dollar
      refine .faulty (e := e) (by rw [none]; rfl) fun t tail => ⟨e, ?_⟩
      rw [reached, rest t tail]
      rfl

end Steady

/-! ### Escapes -/

theorem steady_readDigits (count : Nat) : Steady (readDigits flags count) := by
  induction count with
  | zero => exact .pure _
  | succ count ih =>
    exact (Steady.skip flags).bind fun _ => (Steady.next _).bind fun _ => ih.bind fun _ => .pure _

theorem steady_readHex (count : Nat) : Steady (readHex flags count) := by
  have braced : Steady (upTo flags.extended '\x7d' .trailingBackslash) :=
    .upTo (by decide) (by decide)
  refine (Steady.skip flags).bind fun _ => (Steady.accept (by decide)).bind fun _ => .ite ?_ ?_
  · exact braced.bind fun _ => .give _
  · exact (steady_readDigits flags count).bind fun _ => (Steady.give _).bind fun _ =>
      .ite (.pure _) (.throw _)

section

variable [Properties]

theorem steady_readProperty (negated : Bool) : Steady (readProperty flags negated) := by
  have braced : Steady (upTo flags.extended '\x7d' .trailingBackslash) :=
    .upTo (by decide) (by decide)
  refine (Steady.skip flags).bind fun _ => (Steady.accept (by decide)).bind fun _ => .ite ?_ ?_
  · exact braced.bind fun _ => .give _
  · exact (Steady.next _).bind fun _ => .ite (.throw _) (.give _)

end

theorem conditionAhead_append (cs : List Char) {t : List Char} (tail : Tail t) :
    conditionAhead flags (cs ++ ')' :: t) = conditionAhead flags cs := by
  cases cs with
  | nil => rfl
  | cons c rest =>
    by_cases brace : c = '\x7b'
    · subst brace
      change (flags.skip (rest ++ ')' :: t)).head?.any isConditionChar =
        (flags.skip rest).head?.any isConditionChar
      rcases flags.skip_append rest with left | ⟨none, swallowed⟩
      · rw [left t tail]
        cases flags.skip rest <;> rfl
      · rw [none, swallowed t tail]
    · unfold conditionAhead
      split
      · next same => exact absurd (List.cons.inj same).1 brace
      · split
        · next same => exact absurd (List.cons.inj same).1 brace
        · rfl

theorem steady_readCondition : Steady (readCondition flags) := by
  refine (Steady.ahead fun cs t tail => conditionAhead_append flags cs tail).bind fun _ =>
    .ite ?_ (.pure _)
  exact (Steady.next _).discard.bind fun _ => (Steady.many (by decide)).bind fun name =>
    (Steady.accept (by decide)).bind fun _ => .ite (.give _) (.throw _)

theorem steady_readEscape [Properties] : Steady (readEscape flags) := by
  refine (Steady.next _).bind fun c => ?_
  split
  · exact (steady_readHex flags 2).map _
  · exact (steady_readHex flags 4).map _
  · exact (steady_readHex flags 8).map _
  · exact (steady_readProperty flags false).map _
  · exact (steady_readProperty flags true).map _
  · exact (steady_readCondition flags).map _
  · exact .give _

end OptionBinding.Regex
