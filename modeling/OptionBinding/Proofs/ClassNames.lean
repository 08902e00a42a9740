import Mathlib.Data.List.Infix
import OptionBinding.ClassName
import OptionBinding.Proofs.TokenForms
import OptionBinding.Proofs.UsageText

/-!
# What class names are made of

A class name is made of identifiers with a separator between them (`ClassName.Joins`). Which one it
is decided by looking for double colons, and the text is then cut at it from the left (`Cut`). No
character of an identifier stands in a separator or is white space, so a text that is put together
like this falls into the same identifiers again (`Joins.cut`, `Cut.unique`), and the separator that
is found from the back is the last one that is found from the front (`Joins.cutAtLast?_eq`). From
this follow the texts that are names and what is wrong with the others, and that a name is its
qualifier, the separator and its last segment, of which the qualifier is a name again
(`ClassName.parse_segments`).
-/

namespace OptionBinding

/-! ### Cutting at a separator -/

/-- A text is cut at the occurrences of a separator, from the left: in front of the first one no
other starts, and behind it the rest is cut. -/
inductive Cut (separator : List Char) : List Char → List (List Char) → Prop
  | whole {cs : List Char} (none : ¬ separator <:+: cs) : Cut separator cs [cs]
  | first {piece rest : List Char} {pieces : List (List Char)}
      (none : ¬ separator <:+: piece ++ separator.dropLast) (later : Cut separator rest pieces) :
      Cut separator (piece ++ (separator ++ rest)) (piece :: pieces)

section

variable {c d : Char} {cs rest separator : List Char} {pieces pieces' : List (List Char)}

theorem mem_intercalate (mem : c ∈ separator.intercalate pieces) :
    c ∈ separator ∨ ∃ piece ∈ pieces, c ∈ piece := by
  induction pieces with
  | nil => exact absurd mem List.not_mem_nil
  | cons piece pieces ih =>
    cases pieces with
    | nil =>
      rw [List.intercalate_singleton] at mem
      exact .inr ⟨piece, List.mem_cons_self, mem⟩
    | cons next pieces =>
      rw [List.intercalate_cons_cons, List.mem_append, List.mem_append] at mem
      rcases mem with (mem | mem) | mem
      · exact .inr ⟨piece, List.mem_cons_self, mem⟩
      · exact .inl mem
      · rcases ih mem with here | ⟨other, among, here⟩
        · exact .inl here
        · exact .inr ⟨other, List.mem_cons_of_mem _ among, here⟩

namespace Cut

theorem ne_nil (h : Cut separator cs pieces) : pieces ≠ [] := by
  cases h <;> exact List.cons_ne_nil _ _

/-- The pieces and the separator make up the text. -/
theorem intercalate (h : Cut separator cs pieces) : separator.intercalate pieces = cs := by
  induction h with
  | whole none => exact List.intercalate_singleton
  | @first piece rest pieces none later ih =>
    obtain ⟨next, more, rfl⟩ := List.exists_cons_of_ne_nil later.ne_nil
    rw [List.intercalate_cons_cons, ih, List.append_assoc]

/-- The first occurrence is found at one place only. -/
theorem length_le_of_append {piece piece' rest' : List Char}
    (none : ¬ separator <:+: piece' ++ separator.dropLast)
    (same : piece ++ (separator ++ rest) = piece' ++ (separator ++ rest')) :
    piece'.length ≤ piece.length := by
  by_contra shorter
  have left : piece ++ separator <+: piece' ++ (separator ++ rest') := by
    rw [← same, ← List.append_assoc]
    exact List.prefix_append _ _
  have right : piece' ++ separator.dropLast <+: piece' ++ (separator ++ rest') :=
    (List.prefix_append_right_inj _).mpr
      ((List.dropLast_prefix _).trans (List.prefix_append _ _))
  have fits : (piece ++ separator).length ≤ (piece' ++ separator.dropLast).length := by
    rw [List.length_append, List.length_append, List.length_dropLast]
    omega
  exact none ((List.infix_append' piece separator []).trans
    (by simpa using (List.prefix_of_prefix_length_le left right fits).isInfix))

/-- **There is one way to cut a text.** -/
theorem unique (h : Cut separator cs pieces) (h' : Cut separator cs pieces') :
    pieces = pieces' := by
  induction h generalizing pieces' with
  | @whole cs none =>
    cases h' with
    | whole => rfl
    | @first piece rest _ _ _ => exact absurd (List.infix_append' piece separator rest) none
  | @first piece rest pieces none later ih =>
    generalize split : piece ++ (separator ++ rest) = cs at h'
    cases h' with
    | whole other =>
      rw [← split] at other
      exact absurd (List.infix_append' piece separator rest) other
    | @first piece' rest' pieces' none' later' =>
      have le := length_le_of_append none' split
      have ge := length_le_of_append none split.symm
      obtain ⟨rfl, behind⟩ := List.append_inj split (Nat.le_antisymm ge le)
      obtain rfl : rest = rest' := List.append_cancel_left behind
      rw [ih later']

/-- Pieces that have no character of the separator in them are found again in the text that is made
up of them. -/
theorem of_intercalate (given : separator ≠ []) (some : pieces ≠ [])
    (apart : ∀ piece ∈ pieces, ∀ c ∈ separator, c ∉ piece) :
    Cut separator (separator.intercalate pieces) pieces := by
  have last := List.dropLast_append_getLast given
  have once : ∀ piece ∈ pieces, ¬ separator <:+: piece ++ separator.dropLast := by
    intro piece mem among
    -- The last character of the separator is in it once more than in what stands before it.
    have count := among.sublist.count_le (separator.getLast given)
    have own : separator.count (separator.getLast given) =
        separator.dropLast.count (separator.getLast given) + 1 := by
      have parts := congrArg (List.count (separator.getLast given)) last
      rw [List.count_append, List.count_singleton_self] at parts
      exact parts.symm
    have free := List.count_eq_zero.mpr (apart piece mem _ (List.getLast_mem given))
    rw [List.count_append, free, own] at count
    omega
  induction pieces with
  | nil => exact absurd rfl some
  | cons piece pieces ih =>
    obtain ⟨here, later⟩ := List.forall_mem_cons.mp once
    cases pieces with
    | nil =>
      rw [List.intercalate_singleton]
      exact .whole fun among => here (among.trans (List.prefix_append _ _).isInfix)
    | cons next pieces =>
      rw [List.intercalate_cons_cons, List.append_assoc]
      exact .first here (ih (List.cons_ne_nil _ _)
        (fun p mem => apart p (List.mem_cons_of_mem _ mem)) later)

end Cut

/-! ### The two separators -/

namespace ClassName

theorem hasPath_iff : hasPath cs = true ↔ [':', ':'] <:+: cs := by
  fun_induction hasPath cs with
  | case1 rest => exact iff_of_true rfl ⟨[], rest, rfl⟩
  | case2 c rest other ih =>
    rw [ih, List.infix_cons_iff, or_iff_right]
    rintro ⟨more, split⟩
    obtain ⟨first, second⟩ := List.cons.inj split
    exact other more first.symm second.symm
  | case3 => simp

theorem cut_pieces (cs : List Char) : Cut ['.'] cs (Text.pieces '.' cs) := by
  have some : Text.pieces '.' cs ≠ [] := by
    rw [Text.pieces_eq_splitOn]
    exact List.splitOn_ne_nil _ _
  have cut : Cut ['.'] (['.'].intercalate (Text.pieces '.' cs)) (Text.pieces '.' cs) :=
    Cut.of_intercalate (List.cons_ne_nil _ _) some
      (fun piece mem c among => List.mem_singleton.mp among ▸ Text.not_mem_pieces mem)
  have joined : ['.'].intercalate (Text.pieces '.' cs) = cs := by
    rw [Text.pieces_eq_splitOn, List.intercalate_splitOn]
  rwa [joined] at cut

/-- One more character in front belongs to the first piece, unless a separator starts with it. -/
theorem cut_consToFirst {ps : List (List Char)} (cut : Cut [':', ':'] (d :: rest) ps)
    (other : ¬ (c = ':' ∧ d = ':')) :
    Cut [':', ':'] (c :: d :: rest) (Text.consToFirst c ps) := by
  have front (l : List Char) : ¬ [':', ':'] <+: c :: d :: l := by
    rintro ⟨more, split⟩
    obtain ⟨first, behind⟩ := List.cons.inj split
    exact other ⟨first.symm, (List.cons.inj behind).1.symm⟩
  generalize split : d :: rest = text at cut
  cases cut with
  | whole none =>
    subst split
    refine .whole fun among => ?_
    rcases List.infix_cons_iff.mp among with here | later
    · exact front rest here
    · exact none later
  | @first piece rest' ps none later =>
    rw [← List.cons_append]
    refine Cut.first (fun among => ?_) later
    rcases List.infix_cons_iff.mp among with here | later
    · cases piece with
      | nil =>
        obtain ⟨rfl, -⟩ := List.cons.inj split
        exact front [] here
      | cons e piece =>
        obtain ⟨rfl, -⟩ := List.cons.inj split
        exact front _ here
    · exact none later

theorem cut_pathPieces (cs : List Char) : Cut [':', ':'] cs (pathPieces cs) := by
  fun_induction pathPieces cs with
  | case1 => exact .whole (by simp)
  | case2 c => exact .whole fun among => by simpa using among.length_le
  | case3 c d rest pair ih =>
    obtain ⟨rfl, rfl⟩ := pair
    have first : Cut [':', ':'] ([] ++ ([':', ':'] ++ rest)) ([] :: pathPieces rest) :=
      .first (fun among => by simpa using among.length_le) ih
    exact first
  | case4 c d rest other ih => exact cut_consToFirst ih other

/-- **A text is cut** at the separator that it is read with. -/
theorem cut_segmentsOf (cs : List Char) : Cut (separatorOf cs).text.toList cs (segmentsOf cs) := by
  unfold segmentsOf
  cases separatorOf cs with
  | dot => exact cut_pieces cs
  | path => exact cut_pathPieces cs

theorem separatorOf_eq_path_iff : separatorOf cs = .path ↔ [':', ':'] <:+: cs := by
  rw [← hasPath_iff, separatorOf]
  split_ifs with path
  · exact iff_of_true rfl path
  · exact iff_of_false nofun path

/-! ### Characters of identifiers -/

/-- The white space characters, by their numbers. -/
def blankNumbers : List Nat :=
  Text.blankRanges.flatMap fun (low, high) => (List.range (high + 1 - low)).map (low + ·)

theorem mem_blankNumbers (blank : Text.isBlank c = true) : c.toNat ∈ blankNumbers := by
  have ranges (table : Text.RangeTable) (inside : table.has c.toNat = true) :
      c.toNat ∈ table.flatMap fun (low, high) => (List.range (high + 1 - low)).map (low + ·) := by
    induction table with
    | nil => cases inside
    | cons range table ih =>
      obtain ⟨low, high⟩ := range
      unfold Text.RangeTable.has at inside
      split_ifs at inside with below
      rw [List.flatMap_cons, List.mem_append]
      rcases Bool.or_eq_true_iff.mp inside with within | later
      · have within := of_decide_eq_true within
        exact .inl (List.mem_map.mpr ⟨c.toNat - low, List.mem_range.mpr (by omega), by omega⟩)
      · exact .inr (ih later)
  exact ranges Text.blankRanges blank

/-- White space stands in no identifier. -/
theorem not_continues_of_blank (blank : Text.isBlank c = true) :
    continuesIdentifier c = false := by
  have none : ∀ n ∈ blankNumbers, Text.alphabeticRanges.has n = false ∧
      Text.numberRanges.has n = false ∧ n ≠ '_'.toNat ∧ n ≠ '$'.toNat := by decide +kernel
  obtain ⟨letter, number, low, dollar⟩ := none c.toNat (mem_blankNumbers blank)
  have low : c ≠ '_' := fun same => low (congrArg Char.toNat same)
  have dollar : c ≠ '$' := fun same => dollar (congrArg Char.toNat same)
  simp [continuesIdentifier, Text.isLetterOrNumber, Text.isLetter, Text.RangeTable.contains, letter,
    number, low, dollar]

theorem continues_of_mem (identifier : isIdentifier cs = true) (mem : c ∈ cs) :
    continuesIdentifier c = true := by
  cases cs with
  | nil => cases mem
  | cons first cs =>
    obtain ⟨starts, more⟩ := Bool.and_eq_true_iff.mp identifier
    rcases List.mem_cons.mp mem with rfl | mem
    · unfold startsIdentifier at starts
      unfold continuesIdentifier Text.isLetterOrNumber
      rw [Bool.or_assoc] at starts ⊢
      rcases Bool.or_eq_true_iff.mp starts with letter | sign
      · rw [letter]
        rfl
      · rw [sign, Bool.or_true]
    · exact List.all_eq_true.mp more c mem

theorem visible_of_mem (identifier : isIdentifier cs = true) (mem : c ∈ cs) :
    Text.isBlank c = false := by
  by_contra blank
  have stop := not_continues_of_blank (Bool.not_eq_false _ ▸ blank)
  rw [continues_of_mem identifier mem] at stop
  cases stop

theorem dot_not_mem (identifier : isIdentifier cs = true) : '.' ∉ cs := fun mem =>
  absurd (continues_of_mem identifier mem) (by decide)

theorem colon_not_mem (identifier : isIdentifier cs = true) : ':' ∉ cs := fun mem =>
  absurd (continues_of_mem identifier mem) (by decide)

/-! ### Names made of identifiers -/

/-- A text is made of identifiers with a separator between them. -/
structure Joins (text : String) (separator : Separator) (segments : List String) : Prop where
  nonempty : segments ≠ []
  identifiers : ∀ segment ∈ segments, isIdentifier segment.toList = true
  whole : text = separator.text.intercalate segments

theorem Separator.text_eq (separator : Separator) :
    separator.text.toList = ['.'] ∨ separator.text.toList = [':', ':'] := by
  cases separator
  · exact .inl (by decide +kernel)
  · exact .inr (by decide +kernel)

theorem Separator.text_ne_nil (separator : Separator) : separator.text.toList ≠ [] := by
  rcases separator.text_eq with eq | eq <;> rw [eq] <;> exact List.cons_ne_nil _ _

namespace Joins

variable {text : String} {separator : Separator} {segments : List String}

theorem toList (h : Joins text separator segments) :
    text.toList = separator.text.toList.intercalate (segments.map String.toList) := by
  rw [h.whole, String.toList_intercalate]

/-- A character of the text stands in the separator or in an identifier. -/
theorem mem_cases (h : Joins text separator segments) (mem : c ∈ text.toList) :
    c ∈ separator.text.toList ∨
      ∃ segment ∈ segments, isIdentifier segment.toList = true ∧ c ∈ segment.toList := by
  rw [h.toList] at mem
  rcases mem_intercalate mem with here | ⟨piece, among, here⟩
  · exact .inl here
  · obtain ⟨segment, own, rfl⟩ := List.mem_map.mp among
    exact .inr ⟨segment, own, h.identifiers segment own, here⟩

theorem visible (h : Joins text separator segments) (mem : c ∈ text.toList) :
    Text.isBlank c = false := by
  rcases h.mem_cases mem with here | ⟨segment, -, identifier, here⟩
  · rcases separator.text_eq with eq | eq
    · rw [eq, List.mem_singleton] at here
      rw [here]
      decide
    · rw [eq, List.mem_pair] at here
      rcases here with rfl | rfl <;> decide
  · exact visible_of_mem identifier here

theorem parenthesis_not_mem (h : Joins text separator segments) : '(' ∉ text.toList := by
  intro mem
  rcases h.mem_cases mem with here | ⟨segment, -, identifier, here⟩
  · rcases separator.text_eq with eq | eq <;> rw [eq] at here <;> revert here <;> decide
  · exact absurd (continues_of_mem identifier here) (by decide)

theorem trim_eq (h : Joins text separator segments) : Text.trim text = text :=
  Text.trim_of_visible fun _ mem => h.visible mem

theorem ne_empty (h : Joins text separator segments) : text ≠ "" := by
  obtain ⟨first, rest, rfl⟩ := List.exists_cons_of_ne_nil h.nonempty
  intro empty
  have chars := h.toList
  rw [empty, String.toList_empty, List.map_cons] at chars
  have identifier := h.identifiers first List.mem_cons_self
  cases rest with
  | nil =>
    rw [List.map_nil, List.intercalate_singleton] at chars
    rw [← chars] at identifier
    cases identifier
  | cons next rest =>
    rw [List.map_cons, List.intercalate_cons_cons, List.append_assoc] at chars
    obtain ⟨none, -⟩ := List.append_eq_nil_iff.mp chars.symm
    rw [none] at identifier
    cases identifier

/-- The two separators do not stand in one name. -/
theorem not_mixed (h : Joins text separator segments) :
    ¬ ([':', ':'] <:+: text.toList ∧ '.' ∈ text.toList) := by
  rintro ⟨path, dot⟩
  have colon : ':' ∈ text.toList := path.subset List.mem_cons_self
  have only {c : Char} (mem : c ∈ text.toList) (free : ∀ cs, isIdentifier cs = true → c ∉ cs) :
      c ∈ separator.text.toList := by
    rcases h.mem_cases mem with here | ⟨segment, -, identifier, here⟩
    · exact here
    · exact absurd here (free _ identifier)
  have dot := only dot fun _ => dot_not_mem
  have colon := only colon fun _ => colon_not_mem
  rcases separator.text_eq with eq | eq
  · rw [eq] at colon
    revert colon
    decide
  · rw [eq] at dot
    revert dot
    decide

/-- The separator that is looked for is the one between the identifiers, if there is any. -/
theorem separatorOf_cases (h : Joins text separator segments) :
    separatorOf text.toList = separator ∨ ∃ segment, segments = [segment] := by
  obtain ⟨first, rest, rfl⟩ := List.exists_cons_of_ne_nil h.nonempty
  cases rest with
  | nil => exact .inr ⟨first, rfl⟩
  | cons next rest =>
    refine .inl ?_
    have among : separator.text.toList <:+: text.toList := by
      rw [h.toList, List.map_cons, List.map_cons, List.intercalate_cons_cons, List.append_assoc]
      exact List.infix_append' _ _ _
    cases separator with
    | path =>
      have chars : Separator.path.text.toList = [':', ':'] := by decide +kernel
      exact separatorOf_eq_path_iff.mpr (chars ▸ among)
    | dot =>
      have chars : Separator.dot.text.toList = ['.'] := by decide +kernel
      rw [chars, List.singleton_infix_iff] at among
      cases found : separatorOf text.toList with
      | dot => rfl
      | path => exact absurd ⟨separatorOf_eq_path_iff.mp found, among⟩ h.not_mixed

/-- No character of a separator stands in an identifier. -/
theorem apart (h : Joins text separator segments) (other : Separator) {segment : String}
    (mem : segment ∈ segments) : ∀ c ∈ other.text.toList, c ∉ segment.toList := by
  intro c among
  have identifier := h.identifiers segment mem
  rcases other.text_eq with eq | eq
  · rw [eq, List.mem_singleton] at among
    exact among ▸ dot_not_mem identifier
  · rw [eq, List.mem_pair, or_self] at among
    exact among ▸ colon_not_mem identifier

/-- **A name falls into its identifiers** where it is cut. -/
theorem cut (h : Joins text separator segments) :
    Cut (separatorOf text.toList).text.toList text.toList (segments.map String.toList) := by
  have apart (other : Separator) : ∀ piece ∈ segments.map String.toList,
      ∀ c ∈ other.text.toList, c ∉ piece := by
    intro piece mem
    obtain ⟨segment, own, rfl⟩ := List.mem_map.mp mem
    exact h.apart other own
  have some : segments.map String.toList ≠ [] := by simpa using h.nonempty
  rcases h.separatorOf_cases with same | ⟨segment, rfl⟩
  · have cut := Cut.of_intercalate separator.text_ne_nil some (apart separator)
    rwa [← h.toList, ← same] at cut
  · have cut := Cut.of_intercalate (separatorOf text.toList).text_ne_nil some (apart _)
    have alone := h.toList
    rw [List.map_cons, List.map_nil, List.intercalate_singleton] at alone
    rw [List.map_cons, List.map_nil, List.intercalate_singleton, ← alone] at cut
    rwa [List.map_cons, List.map_nil, ← alone]

theorem segmentsOf_eq (h : Joins text separator segments) :
    segmentsOf text.toList = segments.map String.toList :=
  (cut_segmentsOf _).unique h.cut

end Joins

/-! ### Reading -/

variable {text name segment : String} {n : ClassName}

/-- The trimmed text and what reading does with it. -/
theorem parse_eq (text : String) : parse text =
    if Text.trim text = "" then .error .empty
    else if [':', ':'] <:+: (Text.trim text).toList ∧ '.' ∈ (Text.trim text).toList then
      .error (.mixedSeparators (Text.trim text))
    else
      match (segmentsOf (Text.trim text).toList).find? (!isIdentifier ·) with
      | some segment => .error (.invalidSegment (Text.trim text) (String.ofList segment))
      | none => .ok ⟨Text.trim text⟩ := by
  have chars : (Text.trim text).toList = Text.trimChars text.toList := String.toList_ofList
  have empty : (Text.trimChars text.toList).isEmpty = true ↔ Text.trim text = "" := by
    rw [List.isEmpty_iff, ← chars, String.toList_eq_nil_iff]
  have mixed : (hasPath (Text.trimChars text.toList) &&
      (Text.trimChars text.toList).contains '.') = true ↔
        [':', ':'] <:+: (Text.trim text).toList ∧ '.' ∈ (Text.trim text).toList := by
    rw [Bool.and_eq_true, hasPath_iff, List.contains_iff_mem, chars]
  simp only [parse, empty, mixed, chars]
  rfl

theorem find?_segment_eq_none_iff {segments : List (List Char)} :
    segments.find? (!isIdentifier ·) = none ↔
      ∀ segment ∈ segments, isIdentifier segment = true := by
  simp [List.find?_eq_none]

/-- **A class name is read** from the texts that are made of identifiers, white space around them
aside. -/
theorem parse_ok_iff : parse text = .ok n ↔
    n.text = Text.trim text ∧ ∃ separator segments, Joins n.text separator segments := by
  rw [parse_eq]
  constructor
  · intro read
    split_ifs at read with empty mixed
    split at read
    · cases read
    · next all =>
      obtain rfl := Except.ok.inj read
      have cut := cut_segmentsOf (Text.trim text).toList
      refine ⟨rfl, separatorOf (Text.trim text).toList,
        (segmentsOf (Text.trim text).toList).map String.ofList, ?_, ?_, ?_⟩
      · simpa using cut.ne_nil
      · intro segment mem
        obtain ⟨cs, own, rfl⟩ := List.mem_map.mp mem
        rw [String.toList_ofList]
        exact find?_segment_eq_none_iff.mp all cs own
      · rw [← String.toList_inj, String.toList_intercalate, List.map_map]
        have same : String.toList ∘ String.ofList = id := funext fun _ => String.toList_ofList
        rw [same, List.map_id, cut.intercalate]
  · rintro ⟨trimmed, separator, segments, joins⟩
    have all : (segmentsOf (Text.trim text).toList).find? (!isIdentifier ·) = none := by
      rw [← trimmed, joins.segmentsOf_eq, find?_segment_eq_none_iff]
      intro cs mem
      obtain ⟨segment, own, rfl⟩ := List.mem_map.mp mem
      exact joins.identifiers segment own
    rw [if_neg (trimmed ▸ joins.ne_empty), if_neg (trimmed ▸ joins.not_mixed), all, ← trimmed]

/-- What has been read is read again as it is. -/
theorem parse_text (read : parse text = .ok n) : parse n.text = .ok n := by
  obtain ⟨-, separator, segments, joins⟩ := parse_ok_iff.mp read
  exact parse_ok_iff.mpr ⟨joins.trim_eq.symm, separator, segments, joins⟩

theorem parse_empty_iff : parse text = .error .empty ↔ Text.trim text = "" := by
  rw [parse_eq]
  split_ifs with empty mixed
  · exact iff_of_true rfl empty
  · exact iff_of_false nofun empty
  · refine iff_of_false ?_ empty
    split <;> exact nofun

theorem parse_mixed_iff : parse text = .error (.mixedSeparators name) ↔
    name = Text.trim text ∧ [':', ':'] <:+: name.toList ∧ '.' ∈ name.toList := by
  rw [parse_eq]
  split_ifs with empty mixed
  · refine iff_of_false nofun ?_
    rintro ⟨rfl, -, dot⟩
    rw [empty] at dot
    cases dot
  · rw [Except.error.injEq, Fault.mixedSeparators.injEq, eq_comm, iff_self_and]
    rintro rfl
    exact mixed
  · refine iff_of_false ?_ ?_
    · split <;> exact nofun
    · rintro ⟨rfl, both⟩
      exact mixed both

/-- The first segment of a text that is no identifier. The text is cut at the double colons, if
there are any, and else at the dots. -/
def FirstInvalid (name segment : String) : Prop :=
  ∃ (separator : Separator) (before after : List (List Char)),
    (separator = .path ↔ [':', ':'] <:+: name.toList) ∧
      Cut separator.text.toList name.toList (before ++ segment.toList :: after) ∧
        (∀ piece ∈ before, isIdentifier piece = true) ∧ isIdentifier segment.toList = false

theorem eq_separatorOf {separator : Separator}
    (path : separator = .path ↔ [':', ':'] <:+: cs) : separator = separatorOf cs := by
  rw [← separatorOf_eq_path_iff] at path
  cases separator <;> cases found : separatorOf cs <;> simp_all

theorem firstInvalid_iff : FirstInvalid name segment ↔
    (segmentsOf name.toList).find? (!isIdentifier ·) = some segment.toList := by
  rw [List.find?_eq_some_iff_append]
  simp only [Bool.not_eq_true', Bool.not_not]
  constructor
  · rintro ⟨separator, before, after, path, cut, front, here⟩
    obtain rfl := eq_separatorOf path
    exact ⟨here, before, after, (cut_segmentsOf _).unique cut, front⟩
  · rintro ⟨here, before, after, split, front⟩
    exact ⟨_, before, after, separatorOf_eq_path_iff, split ▸ cut_segmentsOf _, front, here⟩

theorem parse_invalid_iff : parse text = .error (.invalidSegment name segment) ↔
    name = Text.trim text ∧ name ≠ "" ∧ ¬ ([':', ':'] <:+: name.toList ∧ '.' ∈ name.toList) ∧
      FirstInvalid name segment := by
  rw [parse_eq]
  split_ifs with empty mixed
  · refine iff_of_false nofun ?_
    rintro ⟨rfl, some, -⟩
    exact some empty
  · refine iff_of_false nofun ?_
    rintro ⟨rfl, -, one, -⟩
    exact one mixed
  · constructor
    · intro read
      split at read
      · next found =>
        obtain ⟨rfl, rfl⟩ := Fault.invalidSegment.inj (Except.error.inj read)
        refine ⟨rfl, empty, mixed, firstInvalid_iff.mpr ?_⟩
        rw [found, String.toList_ofList]
      · cases read
    · rintro ⟨rfl, -, -, first⟩
      rw [firstInvalid_iff.mp first]
      simp only [String.ofList_toList]

/-! ### Qualifier and simple name

They are found from the back: a text is cut at the last separator in it, while reading cuts it at
the first one. For three colons side by side that makes a difference, for a name it makes none. -/

theorem cutAtLast?_eq_none (none : ¬ separator <:+: cs) :
    cutAtLast? separator cs = .none := by
  induction cs with
  | nil => rfl
  | cons c rest ih =>
    obtain ⟨front, behind⟩ := not_or.mp (mt List.infix_cons_iff.mpr none)
    unfold cutAtLast?
    rw [ih behind, if_neg (mt List.isPrefixOf_iff_prefix.mp front)]

/-- A text is cut at a separator that has no character of it behind it. -/
theorem cutAtLast?_append {front last : List Char} (given : separator ≠ [])
    (free : ∀ c ∈ separator, c ∉ last) :
    cutAtLast? separator (front ++ (separator ++ last)) = some (front, last) := by
  induction front with
  | nil =>
    obtain ⟨first, more, rfl⟩ := List.exists_cons_of_ne_nil given
    -- What begins further on has one first character of the separator too few.
    have later : ¬ first :: more <:+: more ++ last := by
      intro among
      have count := among.sublist.count_le first
      rw [List.count_cons_self, List.count_append,
        List.count_eq_zero.mpr (free first List.mem_cons_self)] at count
      omega
    have here : (first :: more).isPrefixOf (first :: (more ++ last)) = true :=
      List.isPrefixOf_iff_prefix.mpr (List.prefix_append (first :: more) last)
    have behind : (first :: (more ++ last)).drop (first :: more).length = last := List.drop_left
    rw [List.nil_append, List.cons_append, cutAtLast?, cutAtLast?_eq_none later]
    simp only [here, behind, if_true]
  | cons c front ih => rw [List.cons_append, cutAtLast?, ih]

namespace Joins

variable {separator : Separator} {segments : List String}

/-- A name of one identifier is not cut. -/
theorem cutAtLast?_single (h : Joins n.text separator [segment]) :
    cutAtLast? n.separator.text.toList n.text.toList = none := by
  have alone : n.text = segment := h.whole.trans String.intercalate_singleton
  have first := List.head_mem n.separator.text_ne_nil
  exact cutAtLast?_eq_none fun among =>
    h.apart n.separator List.mem_cons_self _ first (alone ▸ among.subset first)

/-- The last identifier, the separator in front of it and the others make up a name. -/
theorem whole_eq (h : Joins text separator segments) (more : segments.dropLast ≠ []) :
    text = separator.text.intercalate segments.dropLast ++ separator.text ++
      segments.getLast h.nonempty := by
  calc text
    _ = separator.text.intercalate (segments.dropLast ++ [segments.getLast h.nonempty]) := by
        rw [List.dropLast_append_getLast h.nonempty, ← h.whole]
    _ = separator.text.intercalate segments.dropLast ++ separator.text ++
          segments.getLast h.nonempty := by
        rw [String.intercalate_append_of_ne_nil more (List.cons_ne_nil _ _),
          String.intercalate_singleton]

/-- **The separator that is found last** stands between the last identifier and the others. -/
theorem cutAtLast?_eq (h : Joins n.text separator segments) (more : segments.dropLast ≠ []) :
    cutAtLast? n.separator.text.toList n.text.toList =
      some ((separator.text.intercalate segments.dropLast).toList,
        (segments.getLast h.nonempty).toList) := by
  have same : n.separator = separator := by
    rcases h.separatorOf_cases with same | ⟨segment, rfl⟩
    · exact same
    · exact absurd rfl more
  have parts : n.text.toList = (separator.text.intercalate segments.dropLast).toList ++
      (separator.text.toList ++ (segments.getLast h.nonempty).toList) := by
    rw [← String.toList_append, ← String.toList_append, String.toList_inj, ← String.append_assoc]
    exact h.whole_eq more
  rw [same, parts]
  exact cutAtLast?_append separator.text_ne_nil
    (h.apart separator (List.getLast_mem h.nonempty))

theorem dropLast_eq_nil_iff (h : Joins text separator segments) :
    segments.dropLast = [] ↔ ∃ segment, segments = [segment] := by
  have positive := List.length_pos_of_ne_nil h.nonempty
  rw [← List.length_eq_one_iff, ← List.length_eq_zero_iff, List.length_dropLast]
  omega

theorem simpleName_eq (h : Joins n.text separator segments) :
    n.simpleName = segments.getLast h.nonempty := by
  by_cases more : segments.dropLast = []
  · obtain ⟨segment, rfl⟩ := h.dropLast_eq_nil_iff.mp more
    rw [simpleName, h.cutAtLast?_single]
    exact h.whole.trans String.intercalate_singleton
  · rw [simpleName, h.cutAtLast?_eq more]
    exact String.ofList_toList

theorem qualifier?_eq_some (h : Joins n.text separator segments) (more : segments.dropLast ≠ []) :
    n.qualifier? = some (separator.text.intercalate segments.dropLast) := by
  rw [qualifier?, h.cutAtLast?_eq more, Option.map_some]
  exact congrArg some String.ofList_toList

theorem qualifier?_eq_none_iff (h : Joins n.text separator segments) :
    n.qualifier? = none ↔ segments.length = 1 := by
  rw [List.length_eq_one_iff, ← h.dropLast_eq_nil_iff]
  constructor
  · intro none
    by_contra more
    rw [h.qualifier?_eq_some more] at none
    cases none
  · intro none
    obtain ⟨segment, rfl⟩ := h.dropLast_eq_nil_iff.mp none
    rw [qualifier?, h.cutAtLast?_single, Option.map_none]

/-- **A qualified name** is its qualifier, the separator and its simple name, and the qualifier is
made of the other identifiers. -/
theorem of_qualifier? {q : String} (h : Joins n.text separator segments)
    (qualified : n.qualifier? = some q) :
    q ++ separator.text ++ n.simpleName = n.text ∧ Joins q separator segments.dropLast := by
  have more : segments.dropLast ≠ [] := by
    intro none
    obtain ⟨segment, rfl⟩ := h.dropLast_eq_nil_iff.mp none
    rw [qualifier?, h.cutAtLast?_single] at qualified
    cases qualified
  obtain rfl := Option.some.inj ((h.qualifier?_eq_some more).symm.trans qualified)
  refine ⟨?_, more, fun segment mem => h.identifiers segment (List.mem_of_mem_dropLast mem), rfl⟩
  rw [h.simpleName_eq]
  exact (h.whole_eq more).symm

end Joins

/-- **Reading a class name** succeeds for what is made of identifiers with dots or double colons
between them, and else tells what is wrong: that nothing is there, that both separators are, or
which segment is the first that is no identifier. What has been read is read again as it is; its
simple name is an identifier; and unless it is made of one identifier only, it is its qualifier, the
separator and its simple name, and the qualifier is read again as it is too. -/
theorem parse_segments (text : String) :
    ((∃ n, parse text = .ok n) ↔
        ∃ separator segments, Joins (Text.trim text) separator segments) ∧
      (parse text = .error .empty ↔ Text.trim text = "") ∧
      (∀ name, parse text = .error (.mixedSeparators name) ↔
        name = Text.trim text ∧ [':', ':'] <:+: name.toList ∧ '.' ∈ name.toList) ∧
      (∀ name segment, parse text = .error (.invalidSegment name segment) ↔
        name = Text.trim text ∧ name ≠ "" ∧
          ¬ ([':', ':'] <:+: name.toList ∧ '.' ∈ name.toList) ∧ FirstInvalid name segment) ∧
      ∀ n, parse text = .ok n →
        n.text = Text.trim text ∧ parse n.text = .ok n ∧
          isIdentifier n.simpleName.toList = true ∧
          '.' ∉ n.simpleName.toList ∧ ':' ∉ n.simpleName.toList ∧
          ∃ separator segments, Joins n.text separator segments ∧
            (n.qualifier? = none ↔ segments.length = 1) ∧
            ∀ q, n.qualifier? = some q →
              q ++ separator.text ++ n.simpleName = n.text ∧ parse q = .ok ⟨q⟩ := by
  refine ⟨?_, parse_empty_iff, fun _ => parse_mixed_iff, fun _ _ => parse_invalid_iff, ?_⟩
  · constructor
    · rintro ⟨n, read⟩
      obtain ⟨trimmed, separator, segments, joins⟩ := parse_ok_iff.mp read
      exact ⟨separator, segments, trimmed ▸ joins⟩
    · rintro ⟨separator, segments, joins⟩
      exact ⟨⟨Text.trim text⟩, parse_ok_iff.mpr ⟨rfl, separator, segments, joins⟩⟩
  · intro n read
    obtain ⟨trimmed, separator, segments, joins⟩ := parse_ok_iff.mp read
    have identifier : isIdentifier n.simpleName.toList = true := by
      rw [joins.simpleName_eq]
      exact joins.identifiers _ (List.getLast_mem joins.nonempty)
    refine ⟨trimmed, parse_text read, identifier, dot_not_mem identifier,
      colon_not_mem identifier, separator, segments, joins, joins.qualifier?_eq_none_iff, ?_⟩
    intro q qualified
    obtain ⟨whole, outer⟩ := joins.of_qualifier? qualified
    exact ⟨whole, parse_ok_iff.mpr ⟨outer.trim_eq.symm, separator, _, outer⟩⟩

/-- A path with white space around it. -/
theorem parse_segments_path :
    parse "  chrono::offset::Utc\n" = .ok ⟨"chrono::offset::Utc"⟩ ∧
      (⟨"chrono::offset::Utc"⟩ : ClassName).qualifier? = some "chrono::offset" ∧
      parse "chrono::offset" = .ok ⟨"chrono::offset"⟩ := by
  have read : parse "  chrono::offset::Utc\n" = .ok ⟨"chrono::offset::Utc"⟩ := by decide +kernel
  have qualified : (⟨"chrono::offset::Utc"⟩ : ClassName).qualifier? = some "chrono::offset" := by
    decide +kernel
  obtain ⟨-, -, -, -, parsed⟩ := parse_segments "  chrono::offset::Utc\n"
  obtain ⟨-, -, -, -, -, separator, segments, -, -, split⟩ := parsed _ read
  exact ⟨read, qualified, (split _ qualified).2⟩

/-- Of three colons side by side the first two are the separator, and the third one belongs to the
segment behind them. -/
example : parse "a:::b" = .error (.invalidSegment "a:::b" ":b") := by decide +kernel

/-- From the back it is the last two. -/
example : (⟨"a:::b"⟩ : ClassName).simpleName = "b" := by decide +kernel

end ClassName

end

end OptionBinding
