import Mathlib.Data.List.Forall2
import OptionBinding.Usage

/-!
# The lines of a usage text

A usage text shows the options of a tree as rows (`Usage.rows`), the root option first and each
other one before the options nested in it. A row is indented by its depth, twice as far on each
level as on the one above it. Cut at its line feeds, the text consists of the lines of the rows and
nothing else (`Usage.render_rows`): one line for each line of a description, all of which start in
one column (`Usage.Row.Written`).

Descriptions may have line feeds in them, but no line of one has (`Text.not_mem_lines`). So the text
falls into its lines again as long as the labels of the options have none.
-/

namespace OptionBinding

/-! ### Cutting and joining -/

namespace Text

variable {separator : Char} {cs : List Char} {line text : String}

theorem pieces_eq_splitOn (separator : Char) (cs : List Char) :
    pieces separator cs = cs.splitOn separator := by
  have first : ∀ (c : Char) {ls : List (List Char)}, ls ≠ [] →
      consToFirst c ls = ls.modifyHead (List.cons c) := by
    intro c ls some
    cases ls with
    | nil => exact absurd rfl some
    | cons l ls => rfl
  rw [List.splitOn_eq_splitOnP]
  induction cs with
  | nil => rfl
  | cons c cs ih =>
    rw [pieces, List.splitOnP_cons_eq_if_modifyHead, ih, first c (List.splitOnP_ne_nil _ _)]
    by_cases same : c = separator <;> simp [same]

/-- Lines without line feeds in them are found again in the text that is made up of them. -/
theorem split_intercalate {lines : List String} (some : lines ≠ [])
    (oneLine : ∀ line ∈ lines, '\n' ∉ line.toList) :
    split '\n' ("\n".intercalate lines) = lines := by
  have separator : "\n".toList = ['\n'] := by decide +kernel
  rw [split, pieces_eq_splitOn, String.toList_intercalate, separator,
    List.splitOn_intercalate '\n' (by simpa using oneLine) (by simpa using some), List.map_map]
  simp [Function.comp_def]

theorem not_mem_pieces {piece : List Char} (mem : piece ∈ pieces separator cs) :
    separator ∉ piece := by
  induction cs generalizing piece with
  | nil => simp [pieces] at mem; simp [mem]
  | cons c cs ih =>
    rw [pieces] at mem
    split at mem
    · rcases List.mem_cons.mp mem with rfl | mem
      · exact List.not_mem_nil
      · exact ih mem
    · next other =>
      cases rest : pieces separator cs with
      | nil =>
        rw [rest] at mem
        obtain rfl := List.mem_singleton.mp mem
        simpa [eq_comm] using other
      | cons l ls =>
        rw [rest] at mem ih
        rcases List.mem_cons.mp mem with rfl | mem
        · rw [List.mem_cons, not_or]
          exact ⟨fun same => other same.symm, ih List.mem_cons_self⟩
        · exact ih (List.mem_cons_of_mem _ mem)

theorem withoutReturn_subset (line : List Char) : withoutReturn line ⊆ line := by
  unfold withoutReturn
  split
  · exact List.dropLast_subset line
  · exact List.Subset.refl line

theorem not_mem_linesOfPieces {ps : List (List Char)} (h : ∀ piece ∈ ps, '\n' ∉ piece) :
    ∀ line ∈ linesOfPieces ps, '\n' ∉ line := by
  fun_induction linesOfPieces ps with
  | case1 => simp
  | case2 => simp
  | case3 last => simpa using h
  | case4 piece rest other ih =>
    intro line mem
    rcases List.mem_cons.mp mem with rfl | mem
    · exact fun among => h piece List.mem_cons_self (withoutReturn_subset piece among)
    · exact ih (fun piece mem => h piece (List.mem_cons_of_mem _ mem)) line mem

/-- **There is no line feed in a line.** -/
theorem not_mem_lines (mem : line ∈ lines text) : '\n' ∉ line.toList := by
  obtain ⟨cs, among, rfl⟩ := List.mem_map.mp mem
  rw [String.toList_ofList]
  exact not_mem_linesOfPieces (fun piece mem => not_mem_pieces mem) cs among

end Text

namespace Usage

/-! ### Rows -/

/-- How far an option is indented, by its depth. The root option, at depth 0, is not. -/
def indentAt : (depth : Nat) → Nat
  | 0 => 0
  | depth + 1 => 4 * Nat.pow 2 depth

/-- What an option is written as: its signature, and what stands for its value. A repeated composite
with options of its own takes no value. -/
def label (i : FieldInfo) : String :=
  i.descriptor.signature ++
    if i.isGroup then ""
    else i.descriptor.delimiter ++ "<" ++ i.descriptor.placeholder.getD i.placeholder ++ ">"

/-- What is told of an option besides its description. -/
def tags (i : FieldInfo) : List String :=
  (if i.descriptor.required then ["[required]"] else []) ++
    (i.descriptor.defaultText.map fun text => "[default=" ++ text ++ "]").toList ++
      if i.isRepeatable then ["[repeatable]"] else []

/-- The description of an option and its tags, separated by single spaces. -/
def saying (i : FieldInfo) : String :=
  " ".intercalate ((nonempty? i.descriptor.description).toList ++ tags i)

/-- A row of a usage text: an option, how deep it is nested, and the lines that describe it. -/
structure Row where
  depth : Nat
  label : String
  description : List String

/-- The characters up to the end of the label. -/
def Row.width (r : Row) : Nat := indentAt r.depth + r.label.length

/-- **A row as it is written**, where descriptions start in the given column: the first line of the
description stands behind the label, and the other ones under it. -/
def Row.Written (column : Nat) (r : Row) (lines : List String) : Prop :=
  ∃ (gap : Nat) (first : String) (more : List String), r.description = first :: more ∧
    let front := spaces (2 + indentAt r.depth) ++ r.label ++ spaces gap ++ "        :  "
    front.length = column ∧ lines = (front ++ first) :: more.map (spaces column ++ ·)

/-- The lines that describe an option: those of a text, or an empty one if it has none. -/
def describing (text : String) : List String :=
  if Text.lines text = [] then [""] else Text.lines text

/-- The row of a root option. -/
def rootRow (root : Descriptor) : Row := ⟨0, root.signature, describing root.description⟩

/-- The row of a field at a depth. -/
def fieldRow (depth : Nat) (i : FieldInfo) : Row := ⟨depth, label i, describing (saying i)⟩

mutual

/-- A field and the fields inside it, with their depths, each before those inside it. -/
def preorderField (depth : Nat) : FieldInfo → List (Nat × FieldInfo)
  | .mk d o n p nested => (depth, .mk d o n p nested) :: preorderNested (depth + 1) nested

/-- The fields inside a field, if its values are composites. -/
def preorderNested (depth : Nat) : Option (List FieldInfo) → List (Nat × FieldInfo)
  | none => []
  | some infos => preorder depth infos

/-- Fields and the fields inside them. -/
def preorder (depth : Nat) : List FieldInfo → List (Nat × FieldInfo)
  | [] => []
  | i :: rest => preorderField depth i ++ preorder depth rest

end

/-- **The rows of a usage text**: the root option, if there is one, and the fields. -/
def rows (root : Option Descriptor) (infos : List FieldInfo) : List Row :=
  (root.map rootRow).toList ++ (preorder 1 infos).map fun (depth, i) => fieldRow depth i

/-- Nothing that the label of a field is made of has a line feed in it. -/
structure OneLine (i : FieldInfo) : Prop where
  lead : '\n' ∉ i.descriptor.lead.toList
  name : '\n' ∉ i.descriptor.name.toList
  delimiter : '\n' ∉ i.descriptor.delimiter.toList
  placeholder : '\n' ∉ (i.descriptor.placeholder.getD i.placeholder).toList

instance (i : FieldInfo) : Decidable (OneLine i) :=
  decidable_of_iff ('\n' ∉ i.descriptor.lead.toList ∧ '\n' ∉ i.descriptor.name.toList ∧
      '\n' ∉ i.descriptor.delimiter.toList ∧
      '\n' ∉ (i.descriptor.placeholder.getD i.placeholder).toList)
    ⟨fun ⟨lead, name, delimiter, placeholder⟩ => ⟨lead, name, delimiter, placeholder⟩,
      fun h => ⟨h.lead, h.name, h.delimiter, h.placeholder⟩⟩

variable {depth width : Nat} {i : FieldInfo} {root : Option Descriptor} {infos : List FieldInfo}
  {r : Row}

/-! ### Entries and rows -/

/-- The entry of a row. -/
def Row.entry (r : Row) : Entry := ⟨spaces (indentAt r.depth) ++ r.label, r.description⟩

theorem indentAt_succ (depth : Nat) : 2 * indentAt (depth + 1) = indentAt (depth + 2) := by
  simp only [indentAt, Nat.pow_eq, Nat.pow_succ]
  omega

theorem flag_eq (indent : Nat) (i : FieldInfo) : flag indent i = spaces indent ++ label i := by
  unfold flag label
  split <;> simp [String.append_assoc]

theorem shownLines_eq (text : String) : Text.shownLines text = describing text := by
  unfold Text.shownLines describing
  split
  · next none => rw [if_pos none]
  · next first rest shown =>
    rw [shown]
    exact (if_neg (List.cons_ne_nil _ _)).symm

theorem describing_ne_nil (text : String) : describing text ≠ [] := by
  unfold describing
  split_ifs with none
  · exact List.cons_ne_nil _ _
  · exact none

theorem not_mem_describing {line text : String} (mem : line ∈ describing text) :
    '\n' ∉ line.toList := by
  unfold describing at mem
  split_ifs at mem
  · obtain rfl := List.mem_singleton.mp mem
    decide +kernel
  · exact Text.not_mem_lines mem

theorem description_eq (i : FieldInfo) : description i = describing (saying i) := by
  rw [← shownLines_eq]
  unfold description saying tags nonempty?
  cases default : i.descriptor.defaultText <;>
    by_cases none : i.descriptor.description = "" <;> simp [default, none]

theorem fieldRow_entry (depth : Nat) (i : FieldInfo) :
    (fieldRow depth i).entry = ⟨flag (indentAt depth) i, description i⟩ := by
  rw [flag_eq, description_eq]
  rfl

mutual

theorem fieldEntries_eq (depth : Nat) : ∀ i : FieldInfo,
    fieldEntries (indentAt (depth + 1)) i =
      (preorderField (depth + 1) i).map fun x => (fieldRow x.1 x.2).entry
  | .mk d o n p nested => by
    rw [fieldEntries, preorderField, List.map_cons, fieldRow_entry, indentAt_succ,
      nestedEntries_eq (depth + 1) nested]

theorem nestedEntries_eq (depth : Nat) : ∀ nested : Option (List FieldInfo),
    nestedEntries (indentAt (depth + 1)) nested =
      (preorderNested (depth + 1) nested).map fun x => (fieldRow x.1 x.2).entry
  | none => rfl
  | some infos => entries_eq depth infos

/-- **The entries** of fields are those of their rows. -/
theorem entries_eq (depth : Nat) : ∀ infos : List FieldInfo,
    entries (indentAt (depth + 1)) infos =
      (preorder (depth + 1) infos).map fun x => (fieldRow x.1 x.2).entry
  | [] => rfl
  | i :: rest => by
    rw [entries, preorder, List.map_append, fieldEntries_eq depth i, entries_eq depth rest]

end

/-! ### Widths -/

theorem spaces_add (m n : Nat) : spaces (m + n) = spaces m ++ spaces n := by
  rw [spaces, List.replicate_add, String.ofList_append]
  rfl

@[simp] theorem length_spaces (n : Nat) : (spaces n).length = n := by
  simp [spaces]

theorem not_mem_spaces (n : Nat) : '\n' ∉ (spaces n).toList := by
  simp [spaces]

/-- **The widest row** decides on the column. -/
theorem flagWidth_rows {rs : List Row} (some : rs ≠ []) :
    (∃ r ∈ rs, r.width = flagWidth (rs.map Row.entry)) ∧
      ∀ r ∈ rs, r.width ≤ flagWidth (rs.map Row.entry) := by
  have widths : (rs.map Row.entry).map (·.flag.length) = rs.map Row.width := by
    simp [Row.entry, Row.width]
  rw [flagWidth, widths]
  have greatest : (0 :: rs.map Row.width).max? = .some ((rs.map Row.width).foldl max 0) :=
    List.max?_cons'
  obtain ⟨attained, all⟩ := List.max?_eq_some_iff.mp greatest
  have all := (List.forall_mem_cons.mp all).2
  refine ⟨?_, fun r mem => all _ (List.mem_map_of_mem mem)⟩
  rcases List.mem_cons.mp attained with none | mem
  · obtain ⟨r, rest, rfl⟩ := List.exists_cons_of_ne_nil some
    have le := all r.width (by simp)
    exact ⟨r, List.mem_cons_self, by omega⟩
  · exact List.mem_map.mp mem

/-! ### Lines -/

/-- The lines of an entry are its row, written. -/
theorem lines_written (fits : r.width ≤ width) (described : r.description ≠ []) :
    r.Written (2 + width + 11) (r.entry.lines width) := by
  obtain ⟨first, more, split⟩ := List.exists_cons_of_ne_nil described
  have edge : margin = spaces 2 := by decide +kernel
  have length : (spaces (indentAt r.depth) ++ r.label).length = r.width := by
    simp [Row.width]
  have eleven : "        :  ".length = 11 := by decide +kernel
  refine ⟨width - r.width, first, more, split, ?_, ?_⟩
  · rw [String.length_append, String.length_append, String.length_append, length_spaces,
      length_spaces, eleven]
    unfold Row.width at fits ⊢
    omega
  · rw [Entry.lines, Row.entry]
    simp only [split, padTo, length, edge, eleven, length_spaces, columnSeparator, spaces_add,
      String.append_assoc]

theorem label_oneLine (oneLine : OneLine i) : '\n' ∉ (label i).toList := by
  unfold label
  split <;> simp [Descriptor.signature, oneLine.lead, oneLine.name, oneLine.delimiter,
    oneLine.placeholder]

/-- No line of a written row has a line feed in it. -/
theorem Row.Written.not_mem {column : Nat} {lines : List String} (h : r.Written column lines)
    (oneLine : '\n' ∉ r.label.toList) (described : ∀ line ∈ r.description, '\n' ∉ line.toList) :
    ∀ line ∈ lines, '\n' ∉ line.toList := by
  obtain ⟨gap, first, more, split, -, rfl⟩ := h
  rw [split] at described
  intro line mem
  rcases List.mem_cons.mp mem with rfl | mem
  · simp [not_mem_spaces, oneLine, described first List.mem_cons_self]
  · obtain ⟨later, among, rfl⟩ := List.mem_map.mp mem
    simp [not_mem_spaces, described later (List.mem_cons_of_mem _ among)]

theorem forall₂_map {α β : Type} {R : α → β → Prop} {f : α → β} {xs : List α}
    (h : ∀ x ∈ xs, R x (f x)) : List.Forall₂ R xs (xs.map f) := by
  rw [List.forall₂_map_right_iff, List.forall₂_same]
  exact h

/-- **A usage text shows the whole tree of options once, in order and aligned.** Cut at its line
feeds it consists of the lines of its rows, those of each row together: the root option, then every
field, followed by the fields inside it. All descriptions start in one column, which the widest row
decides on. -/
theorem render_rows (root : Option Descriptor) (infos : List FieldInfo)
    (given : root ≠ none ∨ infos ≠ []) (rootLine : ∀ d ∈ root, '\n' ∉ d.signature.toList)
    (oneLine : ∀ x ∈ preorder 1 infos, OneLine x.2) :
    ∃ (w : Nat) (blocks : List (List String)),
      (∃ r ∈ rows root infos, r.width = w) ∧ (∀ r ∈ rows root infos, r.width ≤ w) ∧
        List.Forall₂ (Row.Written (2 + w + 11)) (rows root infos) blocks ∧
          Text.split '\n' (render root infos) = blocks.flatten := by
  have all : (root.map rootEntry).toList ++ entries firstIndent infos =
      (rows root infos).map Row.entry := by
    have first : firstIndent = indentAt 1 := rfl
    have none : spaces 0 = "" := by decide +kernel
    rw [first, entries_eq, rows, List.map_append, List.map_map]
    cases root <;>
      simp [rootEntry, rootRow, Row.entry, indentAt, none, shownLines_eq, Function.comp_def]
  have some : rows root infos ≠ [] := by
    rcases given with given | given
    · obtain ⟨d, rfl⟩ := Option.ne_none_iff_exists'.mp given
      simp [rows]
    · obtain ⟨⟨d, o, n, p, nested⟩, rest, rfl⟩ := List.exists_cons_of_ne_nil given
      simp [rows, preorder, preorderField]
  have told : ∀ r ∈ rows root infos, '\n' ∉ r.label.toList ∧ r.description ≠ [] ∧
      ∀ line ∈ r.description, '\n' ∉ line.toList := by
    intro r mem
    rcases List.mem_append.mp mem with mem | mem
    · obtain ⟨d, rooted, rfl⟩ := Option.map_eq_some_iff.mp (Option.mem_toList.mp mem)
      exact ⟨rootLine d rooted, describing_ne_nil _, fun line => not_mem_describing⟩
    · obtain ⟨⟨depth, i⟩, among, rfl⟩ := List.mem_map.mp mem
      exact ⟨label_oneLine (oneLine _ among), describing_ne_nil _,
        fun line => not_mem_describing⟩
  obtain ⟨attained, fits⟩ := flagWidth_rows some
  generalize width : flagWidth ((rows root infos).map Row.entry) = w at attained fits
  have written : ∀ r ∈ rows root infos, r.Written (2 + w + 11) (r.entry.lines w) :=
    fun r mem => lines_written (fits r mem) (told r mem).2.1
  have text : lines root infos = ((rows root infos).map fun r => r.entry.lines w).flatten := by
    rw [lines, all, width, List.flatMap_map, List.flatMap_def]
  refine ⟨w, _, attained, fits, forall₂_map written, ?_⟩
  rw [render, text]
  refine Text.split_intercalate (fun none => ?_) fun line mem => ?_
  · obtain ⟨r, mem, -⟩ := attained
    obtain ⟨gap, first, more, -, -, shown⟩ := written r mem
    have empty := List.flatten_eq_nil_iff.mp none _ (List.mem_map_of_mem mem)
    simp [empty] at shown
  · obtain ⟨block, among, mem⟩ := List.mem_flatten.mp mem
    obtain ⟨r, row, rfl⟩ := List.mem_map.mp among
    exact (written r row).not_mem (told r row).1 (told r row).2.2 line mem

/-- A tool with a description of two lines and a repeatable composite. -/
def toolRoot : Descriptor := { name := "Xtool", description := "Tool extension" }

/-- The options of the tool. -/
def toolInfos : List FieldInfo :=
  [.mk { name := "depth", defaultText := some "2",
         description := "Maximum depth\nCounted from the root" } .single "u32" "int" none,
   .mk { name := "rule", description := "A rewrite rule" } (.collection .sequence) "Rule" "value"
     (some
       [.mk { name := "regex", required := true } (.collection .sequence) "Regex" "regex" none,
        .mk { name := "target", placeholder := some "class" } .single "Text" "value" none]),
   .mk { name := "strict" } .flag "bool" "boolean" none]

theorem render_rows_tool :
    (some toolRoot ≠ none ∨ toolInfos ≠ []) ∧
      (∀ d ∈ some toolRoot, '\n' ∉ d.signature.toList) ∧
      (∀ x ∈ preorder 1 toolInfos, OneLine x.2) ∧
      ∃ (w : Nat) (blocks : List (List String)),
        (∃ r ∈ rows (some toolRoot) toolInfos, r.width = w) ∧
          (∀ r ∈ rows (some toolRoot) toolInfos, r.width ≤ w) ∧
          List.Forall₂ (Row.Written (2 + w + 11)) (rows (some toolRoot) toolInfos) blocks ∧
            Text.split '\n' (render (some toolRoot) toolInfos) = blocks.flatten := by
  have given : some toolRoot ≠ none ∨ toolInfos ≠ [] := .inl (by simp)
  have rootLine : ∀ d ∈ some toolRoot, '\n' ∉ d.signature.toList := by decide +kernel
  have oneLine : ∀ x ∈ preorder 1 toolInfos, OneLine x.2 := by decide +kernel
  exact ⟨given, rootLine, oneLine, render_rows _ _ given rootLine oneLine⟩

example : Text.split '\n' (render (some { name := "X", lead := "+" })
      [.mk { name := "a", defaultText := some "2", description := "A\nB" } .single "u8" "int"
        none]) =
    ["  +X                  :  ",
     "      -a=<int>        :  A",
     "                         B [default=2]"] := by
  decide +kernel

end Usage

end OptionBinding
