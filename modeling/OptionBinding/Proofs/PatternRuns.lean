import OptionBinding.Proofs.ElementTails

/-!
# A parenthesis behind a pattern that is read as a whole

Groups around a pattern stay as they are while it is read, unless it closes one that it has not
opened (`Reading.step_within`). So what reading a pattern comes to tells what reading it within
groups comes to, with a parenthesis behind it (`Reading.ends_run`): either the reading comes to the
parenthesis in the same state, or a comment swallows it, or the groups around are never closed, or
the pattern closes one of them itself.
-/

namespace OptionBinding.Regex

open Reader

namespace Flags

variable (flags : Flags)

/-- What neither is blank nor starts a comment stands. -/
theorem skip_cons {c : Char} (visible : Text.isBlank c = false) (other : c ≠ '#')
    (rest : List Char) : flags.skip (c :: rest) = c :: rest := by
  simp [skip, spanVisible, visible, other]

end Flags

namespace Reading

variable {s s' : Reading} {around : List OpenGroup} {c : Char} {cs rest t : List Char}

/-- The reading within groups. -/
def within (s : Reading) (around : List OpenGroup) : Reading :=
  { s with opened := s.opened ++ around }

theorem within_nil (s : Reading) : s.within [] = s := by
  unfold within
  rw [List.append_nil]

/-! ### Groups around stay as they are -/

/-- What reads a pattern within groups reads as it does without them. -/
theorem bind_within {β : Type} {x : Reader β} {g g' : β → Reader Reading}
    (later : ∀ b, g' b = (·.within around) <$> g b) :
    x >>= g' = (·.within around) <$> (x >>= g) := by
  rw [map_bind, funext later]

theorem map_within {β : Type} {x : Reader β} {k k' : β → Reading}
    (later : ∀ b, k' b = (k b).within around) :
    k' <$> x = (·.within around) <$> (k <$> x) := by
  rw [Functor.map_map, funext later]

theorem give_within {x x' : Except Fault Reading} (within : x' = x.map (·.within around)) :
    give x' = (·.within around) <$> give x := by
  subst within
  cases x <;> rfl

theorem ite_within {p : Prop} [Decidable p] {f f' g g' : Reader Reading}
    (yes : p → f' = (·.within around) <$> f) (no : g' = (·.within around) <$> g) :
    (if p then f' else g') = (·.within around) <$> (if p then f else g) := by
  split_ifs with h
  · exact yes h
  · exact no

section

variable (s : Reading) (around : List OpenGroup)

theorem repeatLast_within (f : Expr → Expr) :
    (s.within around).repeatLast f = (s.repeatLast f).map (·.within around) := by
  change (s.level.modifyLast f).map _ = ((s.level.modifyLast f).map _).map _
  cases s.level.modifyLast f <;> rfl

theorem repeatSign_within (f : Bool → Expr → Expr) :
    (s.within around).repeatSign f = (·.within around) <$> s.repeatSign f :=
  bind_within fun _ => give_within (s.repeatLast_within around _)

theorem repeatCounted_within :
    (s.within around).repeatCounted = (·.within around) <$> s.repeatCounted := by
  have operand : Functor.discard (give ((s.within around).repeatLast id)) =
      Functor.discard (give (s.repeatLast id)) := by
    rw [repeatLast_within]
    cases s.repeatLast id <;> rfl
  unfold repeatCounted
  rw [operand]
  refine bind_within fun _ => bind_within fun bounds => ?_
  exact ite_within (fun _ => rfl) (bind_within fun _ => s.repeatSign_within around _)

theorem openNamed_within (name : List Char) :
    (s.within around).openNamed name = (s.openNamed name).map (·.within around) := by
  unfold openNamed
  dsimp only
  change (if _ then _ else if (s.names.lookup _).isSome = true then _ else _) = Except.map _ _
  split_ifs <;> rfl

theorem openParenthesis_within :
    (s.within around).openParenthesis = (·.within around) <$> s.openParenthesis := by
  have named : (upTo false '>' .invalidGroupName >>= fun name =>
      give ((s.within around).openNamed name)) = (·.within around) <$>
        (upTo false '>' .invalidGroupName >>= fun name => give (s.openNamed name)) :=
    bind_within fun name => give_within (s.openNamed_within around name)
  refine bind_within fun _ => bind_within fun _ => ite_within (fun _ => rfl) ?_
  refine bind_within fun _ => ite_within (fun _ => named) ?_
  refine bind_within fun _ => ite_within (fun _ => named) ?_
  refine bind_within fun _ => ite_within (fun _ => ?_) rfl
  exact bind_within fun _ => ite_within (fun _ => rfl) rfl

end

theorem closeGroup_within (some : s.opened ≠ []) (around : List OpenGroup) :
    ∃ s', s.closeGroup = .ok s' ∧ (s.within around).closeGroup = .ok (s'.within around) := by
  obtain ⟨groups, names, opened, level⟩ := s
  obtain ⟨g, others, rfl⟩ : ∃ g others, opened = g :: others := List.exists_cons_of_ne_nil some
  exact ⟨_, rfl, rfl⟩

variable [Properties]

/-- **What a step does to the groups around a pattern:** nothing, unless it closes one of them. -/
theorem step_within (inside : c = ')' → s.opened ≠ []) (around : List OpenGroup) :
    (s.within around).step c = (·.within around) <$> s.step c := by
  have sign := s.repeatSign_within around
  refine ite_within (fun _ => s.openParenthesis_within around) <| ite_within ?_ <|
    ite_within (fun _ => rfl) <| ite_within ?_ <| ite_within (fun _ => sign _) <|
    ite_within (fun _ => sign _) <| ite_within (fun _ => sign _) <|
    ite_within (fun _ => s.repeatCounted_within around) <| ite_within ?_ <|
    ite_within (fun _ => rfl) <| ite_within (fun _ => rfl) <| ite_within ?_ rfl
  · intro closing
    obtain ⟨s', closed, closed'⟩ := closeGroup_within (inside closing) around
    exact give_within (by rw [closed, closed']; rfl)
  · exact fun _ => map_within fun _ => rfl
  · intro _
    refine give_within ?_
    change s.level.flags.dot.map _ = (s.level.flags.dot.map _).map _
    cases s.level.flags.dot <;> rfl
  · exact fun _ => map_within fun escape => by cases escape <;> rfl

/-! ### The whole reading -/

/-- **What reading a pattern comes to, and what it comes to within groups with a parenthesis behind
it.** -/
inductive Ends (own : Except Fault Reading)
    (behind : List OpenGroup → List Char → Except Fault Reading) : Prop
  | apart {s : Reading} (own : own = .ok s)
      (behind : ∀ around t, Tail t → ∃ fuel, t.length + 1 < fuel ∧
        behind around t = (s.within around).run fuel (')' :: t))
  | swallowed {s : Reading} (own : own = .ok s)
      (behind : ∀ around t, Tail t → behind around t = .ok (s.within around))
  | unopened (own : own = .error .unopenedGroup)
  | faulty {e : Fault} (own : own = .error e)
      (behind : ∀ around t s, Tail t → behind around t = .ok s → around <:+ s.opened)

theorem run_nil (s : Reading) (fuel : Nat) : s.run fuel [] = .ok s := by
  cases fuel with
  | zero => rfl
  | succ fuel =>
    rw [run, s.level.flags.skip_nil]

theorem run_cons {fuel : Nat} (split : s.level.flags.skip cs = c :: rest) :
    s.run (fuel + 1) cs = s.step c rest >>= fun result => result.1.run fuel result.2 := by
  rw [run, split]
  dsimp only
  cases s.step c rest <;> rfl

/-- Dollar signs open and close no group. -/
theorem opened_run_tail {fuel : Nat} (tail : Tail t) (read : s.run fuel t = .ok s') :
    s'.opened = s.opened := by
  induction fuel generalizing s t with
  | zero =>
    cases read
    rfl
  | succ fuel ih =>
    cases t with
    | nil =>
      rw [run_nil] at read
      cases read
      rfl
    | cons c rest =>
      obtain ⟨rfl, others⟩ := List.forall_mem_cons.mp tail
      have step : s.step '$' rest =
        .ok (s.push (.assertion s.level.flags.lineEnd), rest) := rfl
      rw [run_cons (s.level.flags.skip_cons rfl (by decide) rest), step] at read
      exact ih (s := s.push _) (t := rest) others read

theorem Ends.congr {own : Except Fault Reading}
    {behind behind' : List OpenGroup → List Char → Except Fault Reading} (h : Ends own behind)
    (same : ∀ around t, Tail t → behind' around t = behind around t) : Ends own behind' := by
  cases h with
  | apart own behind =>
    refine .apart own fun around t tail => ?_
    rw [same around t tail]
    exact behind around t tail
  | swallowed own behind =>
    exact .swallowed own fun around t tail => (same around t tail).trans (behind around t tail)
  | unopened own => exact .unopened own
  | faulty own behind =>
    exact .faulty own fun around t s tail read =>
      behind around t s tail ((same around t tail).symm.trans read)

/-- A step that closes none of the groups around, if what follows is read alike. -/
theorem ends_step {fuel : Nat} {fuel' : List Char → Nat} (inside : c = ')' → s.opened ≠ [])
    (later : ∀ {s' : Reading} {r : List Char}, r.length ≤ rest.length →
      Ends (s'.run fuel r) fun around t => (s'.within around).run (fuel' t) (r ++ ')' :: t)) :
    Ends (s.step c rest >>= fun result => result.1.run fuel result.2) fun around t =>
      (s.within around).step c (rest ++ ')' :: t) >>= fun result =>
        result.1.run (fuel' t) result.2 := by
  cases (s.steady_step c).beside rest with
  | @same s' r own behind =>
    rw [own]
    refine (later ((s.steady_step c).suffix own).length_le).congr fun around t tail => ?_
    rw [step_within inside, map_apply, behind t tail]
    rfl
  | @swallowed s' own behind =>
    rw [own]
    refine .swallowed (s := s') (run_nil ..) fun around t tail => ?_
    rw [step_within inside, map_apply, behind t tail]
    exact run_nil ..
  | @beyond e own behind =>
    rw [own]
    refine .faulty (e := e) rfl fun around t s' tail read => ?_
    rw [step_within inside, map_apply] at read
    cases later : s.step c (rest ++ ')' :: t) with
    | error e' =>
      rw [later] at read
      cases read
    | ok result =>
      -- only dollar signs are left, so the groups around stay open
      rw [later] at read
      have dollars : Tail result.2 :=
        fun d mem => tail d ((behind t result.1 result.2 tail later).mem mem)
      rw [opened_run_tail (s := result.1.within around) dollars read]
      exact List.suffix_append _ _

/-- A parenthesis for which no group is open. -/
theorem step_unopened (none : s.opened = []) : s.step ')' rest = .error .unopenedGroup := by
  change s.closeGroup.map _ = _
  rw [closeGroup, none]
  rfl

/-- **A reading and one within groups, with a parenthesis behind,** step by step. -/
theorem ends_run {fuel : Nat} {fuel' : List Char → Nat} (enough : cs.length < fuel)
    (enough' : ∀ t, (cs ++ ')' :: t).length < fuel' t) :
    Ends (s.run fuel cs) fun around t => (s.within around).run (fuel' t) (cs ++ ')' :: t) := by
  induction fuel generalizing s cs fuel' with
  | zero => exact absurd enough (Nat.not_lt_zero _)
  | succ fuel ih =>
    obtain ⟨fuel', rfl⟩ := exists_add_one_of_lt enough'
    have room (t : List Char) : (cs ++ ')' :: t).length < fuel' t + 1 := enough' t
    rcases s.level.flags.skip_append cs with left | ⟨none, swallowed⟩
    · cases split : s.level.flags.skip cs with
      | nil =>
        -- the pattern is read, so the parenthesis comes next
        refine .apart (s := s) (by rw [run, split]) fun around t tail => ⟨fuel' t + 1, ?_, ?_⟩
        · have room := room t
          rw [List.length_append, List.length_cons] at room
          omega
        · have next : (s.within around).level.flags.skip (cs ++ ')' :: t) = ')' :: t :=
            (left t tail).trans (by rw [split]; rfl)
          have next' : (s.within around).level.flags.skip (')' :: t) = ')' :: t :=
            Flags.skip_cons _ rfl (by decide) t
          rw [run_cons next, run_cons next']
      | cons c rest =>
        have front := (s.level.flags.skip_suffix cs).length_le
        rw [split, List.length_cons] at front
        rw [run_cons split]
        by_cases inside : c = ')' → s.opened ≠ []
        · refine (ends_step inside fun le => ih (by omega) fun t => ?_).congr
            fun around t tail => run_cons ((left t tail).trans (by rw [split]; rfl))
          have room := room t
          rw [List.length_append] at room ⊢
          omega
        · obtain ⟨rfl, none⟩ : c = ')' ∧ s.opened = [] := by
            simpa only [not_forall, not_not, exists_prop] using inside
          rw [step_unopened none]
          exact .unopened rfl
    · refine .swallowed (s := s) (by rw [run, none]) fun around t tail => ?_
      have next : (s.within around).level.flags.skip (cs ++ ')' :: t) = [] := swallowed t tail
      rw [run, next]

end Reading

end OptionBinding.Regex
