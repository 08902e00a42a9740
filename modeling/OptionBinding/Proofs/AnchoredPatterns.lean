import OptionBinding.NamePattern
import OptionBinding.Proofs.PatternRuns
import OptionBinding.Proofs.PatternText

/-!
# A pattern between the start and the end of a text

What a name pattern is read as, and when it is. The text of a pattern stands in a group between two
anchors, so it is read within that group, with a parenthesis and a dollar sign behind it. Whether
this goes well is told by the pattern alone (`parse_anchoredText`): a parenthesis behind it has to
be one too many, its parts may nest two levels less than in other patterns, and the program between
the anchors has to keep within the bound.
-/

namespace OptionBinding.Regex

/-! ### The expression between the anchors -/

namespace Expr

theorem consFactor_ne_nil (e : Expr) (es : List Expr) : consFactor e es ≠ [] := by
  unfold consFactor
  split <;> exact List.cons_ne_nil _ _

/-- The expression between the start and the end of a text. -/
def anchored (e : Expr) : Expr := .concat [.assertion .textStart, e, .assertion .textEnd]

theorem branches_anchored (e : Expr) : e.anchored.branches = [e.anchored] := by
  have behind : (e.factors ++ [assertion .textEnd]).foldr consFactor [] ≠ [] := by
    cases e.factors <;> exact consFactor_ne_nil _ _
  obtain ⟨f, fs, split⟩ := List.exists_cons_of_ne_nil behind
  have row : e.anchored = ofFactors (.assertion .textStart ::
    (e.factors ++ [assertion .textEnd]).foldr consFactor []) := rfl
  rw [row, split]
  rfl

end Expr

/-! ### Reading between the anchors -/

/-- The group that a name pattern stands in. -/
def anchorGroup : OpenGroup := ⟨none, ⟨{}, [], [.expr (.assertion .textStart) 0]⟩⟩

namespace Reading

variable {s : Reading}

theorem finish_of_opened (opened : s.opened ≠ []) : s.finish = .error .unclosedGroup := by
  have open_ : (!s.opened.isEmpty) = true := by simpa using opened
  rw [finish, if_pos open_]

/-- The reading of a name pattern, from that of the pattern. -/
def anchored (s : Reading) : Reading :=
  { s with
    opened := []
    level := (anchorGroup.outer.push s.level.close.1 (s.level.close.2 + 1)).push
      (.assertion .textEnd) 0 }

theorem finish_anchored (s : Reading) : s.anchored.finish =
    if depthLimit < s.level.close.2 + 2 then .error .nestedTooDeeply
    else .ok (s.level.close.1.anchored, s.names) := by
  have close : s.anchored.level.close = (.alternation [s.level.close.1.anchored],
      rowDepth [0, s.level.close.2 + 1, 0]) := close_of_no_branches
  have row : rowDepth [0, s.level.close.2 + 1, 0] = s.level.close.2 + 2 := by
    change max (max 0 (s.level.close.2 + 1)) 0 + 1 = _
    omega
  have closed : s.anchored.opened = [] := rfl
  have names : s.anchored.names = s.names := rfl
  rw [finish, close, closed, names, row, Expr.alternation_singleton (Expr.branches_anchored _)]
  rfl

end Reading

variable [Engine]

/-- A pattern that has been read, if its program keeps within the bound. -/
def sized (source : String) (result : Expr × List (String × Nat)) : Except Fault Regex :=
  if Engine.fits source then .ok ⟨source, result.1, result.2⟩ else .error .tooLarge

theorem sized_ok_iff {source : String} {result : Expr × List (String × Nat)} {r : Regex} :
    sized source result = .ok r ↔
      Engine.fits source = true ∧ r = ⟨source, result.1, result.2⟩ := by
  unfold sized
  split_ifs with fits
  · simp [fits, eq_comm]
  · simp [fits]

theorem sized_error {source : String} {result : Expr × List (String × Nat)} {e : Fault}
    (fault : sized source result = .error e) : e = .tooLarge := by
  unfold sized at fault
  split_ifs at fault
  exact (Except.error.inj fault).symm

/-- How far the text of a pattern is read. -/
def reading (source : String) : Except Fault Reading :=
  Reading.run {} (source.toList.length + 1) source.toList

theorem parse_eq (source : String) :
    parse source = reading source >>= fun s => s.finish >>= sized source := by
  change (reading source >>= Reading.finish) >>= sized source = _
  cases reading source <;> rfl

/-- The reading of a pattern within groups, with a parenthesis behind it. -/
def readingWithin (source : String) (around : List OpenGroup) (t : List Char) :
    Except Fault Reading :=
  (Reading.within {} around).run (source.toList.length + 2 + 3 * t.length)
    (source.toList ++ ')' :: t)

theorem ends_reading (source : String) : Reading.Ends (reading source) (readingWithin source) :=
  Reading.ends_run (Nat.lt_succ_self _) fun t => by
    rw [List.length_append, List.length_cons]
    omega

theorem reading_closed (source : String) :
    reading (source ++ ")") = readingWithin source [] [] := by
  have text : (source ++ ")").toList = source.toList ++ [')'] := by simp
  rw [reading, text, List.length_append]
  rfl

theorem reading_anchoredText (source : String) :
    reading (NamePattern.anchoredText source) = readingWithin source [anchorGroup] ['$'] := by
  have text : (NamePattern.anchoredText source).toList =
      '^' :: '(' :: '?' :: ':' :: (source.toList ++ [')', '$']) := by
    simp [NamePattern.anchoredText]
  rw [reading, text]
  simp only [List.length_cons, List.length_append, List.length_nil]
  rfl

/-- How deep the parts of a pattern nest, where it can be read. -/
def depth (source : String) : Nat :=
  match reading source with
  | .ok s => s.level.close.2
  | .error _ => 0

variable {source : String} {s s' : Reading} {r : Regex} {e : Fault}

theorem parse_of_reading (own : reading source = .ok s) :
    parse source = s.finish >>= sized source := by
  rw [parse_eq, own]
  rfl

theorem parse_of_reading_error (own : reading source = .error e) : parse source = .error e := by
  rw [parse_eq, own]
  rfl

/-- A pattern that can be read has been finished. -/
theorem parse_ok (read : parse source = .ok r) : ∃ s, reading source = .ok s ∧ s.opened = [] ∧
    s.level.close.2 ≤ depthLimit ∧ r = ⟨source, s.level.close.1, s.names⟩ := by
  cases own : reading source with
  | error e => cases read.symm.trans (parse_of_reading_error own)
  | ok s =>
    rw [parse_of_reading own] at read
    cases finished : s.finish with
    | error e =>
      rw [finished] at read
      cases read
    | ok result =>
      rw [finished] at read
      obtain ⟨-, rfl⟩ := sized_ok_iff.mp read
      obtain ⟨closed, deep, rfl⟩ := Reading.finish_ok_iff.mp finished
      exact ⟨s, rfl, closed, deep, rfl⟩

/-- The step from the parenthesis behind a pattern. -/
theorem run_closing {fuel : Nat} {t : List Char} (s : Reading) :
    s.run (fuel + 1) (')' :: t) = s.closeGroup >>= fun s' => s'.run fuel t := by
  rw [Reading.run_cons (s.level.flags.skip_cons rfl (by decide) t)]
  change (s.closeGroup.map (·, t) >>= _) = _
  cases s.closeGroup <;> rfl

/-- A parenthesis that comes to a finished pattern is one too many. -/
theorem parse_closed_of_apart (none : s.opened = [])
    (behind : ∃ fuel, 1 < fuel ∧ readingWithin source [] [] = (s.within []).run fuel [')']) :
    parse (source ++ ")") = .error .unopenedGroup := by
  obtain ⟨fuel, enough, read⟩ := behind
  obtain ⟨fuel, rfl⟩ : ∃ n, fuel = n + 1 := Nat.exists_eq_succ_of_ne_zero (by omega)
  refine parse_of_reading_error ?_
  rw [reading_closed, read, s.within_nil, run_closing, Reading.closeGroup, none]
  rfl

/-- Behind a finished pattern, the parenthesis closes the group and the dollar sign is an anchor. -/
theorem reading_anchoredText_of_apart (none : s.opened = [])
    (behind : ∃ fuel, 2 < fuel ∧ readingWithin source [anchorGroup] ['$'] =
      (s.within [anchorGroup]).run fuel [')', '$']) :
    reading (NamePattern.anchoredText source) = .ok s.anchored := by
  obtain ⟨fuel, enough, read⟩ := behind
  obtain ⟨fuel, rfl⟩ : ∃ n, fuel = n + 3 := ⟨fuel - 3, by omega⟩
  obtain ⟨groups, names, opened, level⟩ := s
  obtain rfl : opened = [] := none
  rw [reading_anchoredText, read, run_closing]
  exact Reading.run_nil ..

/-- A pattern that leaves groups open leaves them open between the anchors. -/
theorem opened_of_apart (some : s.opened ≠ [])
    (behind : ∃ fuel, 2 < fuel ∧ readingWithin source [anchorGroup] ['$'] =
      (s.within [anchorGroup]).run fuel [')', '$'])
    (read : reading (NamePattern.anchoredText source) = .ok s') : s'.opened ≠ [] := by
  obtain ⟨fuel, enough, behind⟩ := behind
  obtain ⟨fuel, rfl⟩ : ∃ n, fuel = n + 1 := ⟨fuel - 1, by omega⟩
  obtain ⟨s₁, -, closed⟩ := Reading.closeGroup_within some [anchorGroup]
  rw [reading_anchoredText, behind, run_closing, closed] at read
  have opened : s'.opened = s₁.opened ++ [anchorGroup] :=
    Reading.opened_run_tail (s := s₁.within [anchorGroup]) (by simp [Tail]) read
  simp [opened]

/-! ### Which name patterns can be read -/

theorem parse_anchored_eq (source : String) : NamePattern.parse source =
    (parse (NamePattern.anchoredText source)).map (⟨source, ·⟩) := rfl

theorem not_parse_of_opened {p : NamePattern}
    (opened : ∀ s, reading (NamePattern.anchoredText source) = .ok s → s.opened ≠ []) :
    NamePattern.parse source ≠ .ok p := by
  intro read
  rw [parse_anchored_eq] at read
  cases own : reading (NamePattern.anchoredText source) with
  | error e =>
    rw [parse_of_reading_error own] at read
    cases read
  | ok s =>
    rw [parse_of_reading own, Reading.finish_of_opened (opened s own)] at read
    cases read

/-- **A name pattern from a pattern behind which a parenthesis is one too many:** the pattern
between anchors, unless it is nested too deeply or its program is too large there. -/
theorem parse_anchoredText (read : parse source = .ok r)
    (closed : parse (source ++ ")") = .error .unopenedGroup) :
    NamePattern.parse source =
      if depthLimit < depth source + 2 then .error .nestedTooDeeply
      else if Engine.fits (NamePattern.anchoredText source) then
        .ok ⟨source, NamePattern.anchoredText source, r.expr.anchored, r.names⟩
      else .error .tooLarge := by
  obtain ⟨s, own, none, deep, rfl⟩ := parse_ok read
  have depth_eq : depth source = s.level.close.2 := by rw [depth, own]
  cases ends_reading source with
  | apart own' behind =>
    obtain rfl := Except.ok.inj (own.symm.trans own')
    rw [parse_anchored_eq, parse_of_reading
      (reading_anchoredText_of_apart none (behind [anchorGroup] ['$'] (by simp [Tail]))),
      Reading.finish_anchored, depth_eq]
    split_ifs with tooDeep fits
    · rfl
    · change (sized _ _).map _ = _
      rw [sized, if_pos fits]
      rfl
    · change (sized _ _).map _ = _
      rw [sized, if_neg fits]
      rfl
  | swallowed own' behind =>
    -- the parenthesis is in a comment, so it would not be found to be one too many
    obtain rfl := Except.ok.inj (own.symm.trans own')
    have own₁ : reading (source ++ ")") = .ok s := by
      rw [reading_closed, behind [] [] (by simp [Tail]), s.within_nil]
    rw [parse_of_reading own₁, Reading.finish_ok_iff.mpr ⟨none, deep, rfl⟩] at closed
    cases sized_error closed
  | unopened own' => cases own.symm.trans own'
  | faulty own' => cases own.symm.trans own'

/-- Behind a pattern that is read as a name pattern too, a parenthesis is one too many. -/
theorem parse_closed {p : NamePattern} (read : parse source = .ok r)
    (anchored : NamePattern.parse source = .ok p) :
    parse (source ++ ")") = .error .unopenedGroup := by
  obtain ⟨s, own, none, -⟩ := parse_ok read
  cases ends_reading source with
  | apart own' behind =>
    obtain rfl := Except.ok.inj (own.symm.trans own')
    exact parse_closed_of_apart none (behind [] [] (by simp [Tail]))
  | @swallowed s' own' behind =>
    refine absurd anchored (not_parse_of_opened fun s₁ read => ?_)
    rw [reading_anchoredText, behind _ _ (by simp [Tail])] at read
    obtain rfl := Except.ok.inj read
    simp [Reading.within]
  | unopened own' => cases own.symm.trans own'
  | faulty own' => cases own.symm.trans own'

/-- **A faulty pattern is no name pattern,** unless its fault is to close a group that it has not
opened or to be too large. -/
theorem not_parse_of_fault {p : NamePattern} (fault : parse source = .error e)
    (opening : e ≠ .unopenedGroup) (size : e ≠ .tooLarge) : NamePattern.parse source ≠ .ok p := by
  cases ends_reading source with
  | @apart s own behind =>
    have behind := behind [anchorGroup] ['$'] (by simp [Tail])
    by_cases none : s.opened = []
    · intro read
      rw [parse_anchored_eq, parse_of_reading (reading_anchoredText_of_apart none behind),
        Reading.finish_anchored] at read
      split_ifs at read with deep
      · cases read
      · -- what is not too deep between the anchors is not too deep without them
        rw [parse_of_reading own, Reading.finish_ok_iff.mpr ⟨none, by omega, rfl⟩] at fault
        exact size (sized_error fault)
    · exact not_parse_of_opened fun s' => opened_of_apart none behind
  | @swallowed s own behind =>
    refine not_parse_of_opened fun s₁ read => ?_
    rw [reading_anchoredText, behind _ _ (by simp [Tail])] at read
    obtain rfl := Except.ok.inj read
    simp [Reading.within]
  | unopened own =>
    exact absurd (Except.error.inj (fault.symm.trans (parse_of_reading_error own))) opening
  | @faulty e' own behind =>
    refine not_parse_of_opened fun s₁ read => ?_
    rw [reading_anchoredText] at read
    have around := (behind _ _ s₁ (by simp [Tail]) read).mem List.mem_cons_self
    exact List.ne_nil_of_mem around

end OptionBinding.Regex
