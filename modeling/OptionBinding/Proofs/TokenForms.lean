import Mathlib.Data.List.DropRight
import Mathlib.Data.List.TakeWhile
import OptionBinding.Proofs.PlainTypes

/-!
# The two forms of a token

An option is selected by its bare signature, or by its signature, its delimiter and a value. Types
pass their check if the name and the delimiter of each field are not empty; blanks are let through.
But white space around a token is taken away before it is compared with the signature, and white
space before the delimiter is passed over. So an option of a type that passes its check can be used
in both forms if and only if there is no white space around its signature and something else than
white space in its delimiter (`TypeTable.tokenForms_iff`).

The reason for the latter is that a delimiter of white space can be found in the value again
(`valueAfterBlanks?_least`). A delimiter with something else in it cannot (`eq_nil_of_visible`), nor
can one with a line feed (`eq_nil_of_lineFeed`), as values are in one line; an option with such a
delimiter reads all values if its bare signature does not select it (`Descriptor.readsValues_iff`).
-/

namespace OptionBinding

variable {c : Char} {delimiter l value : List Char}

/-! ### Values after white space -/

theorem valueAfter?_eq_some_iff :
    valueAfter? delimiter l = some value ↔ l = delimiter ++ value ∧ '\n' ∉ value := by
  unfold valueAfter?
  constructor
  · intro h
    split at h
    · next rest split =>
      split_ifs at h with lines
      obtain rfl : rest = value := Option.some.inj h
      exact ⟨(List.isPrefixOf?_eq_some_iff_append_eq.mp split).symm, lines⟩
    · cases h
  · rintro ⟨rfl, oneLine⟩
    have split : delimiter.isPrefixOf? (delimiter ++ value) = some value :=
      List.isPrefixOf?_eq_some_iff_append_eq.mpr rfl
    simp only [split, if_neg oneLine]

/-- White space, the delimiter and the value make up the text. -/
theorem valueAfterBlanks?_split (h : valueAfterBlanks? delimiter l = some value) :
    ∃ blanks : List Char, (∀ c ∈ blanks, Text.isBlank c = true) ∧
      l = blanks ++ (delimiter ++ value) ∧ '\n' ∉ value := by
  induction l with
  | nil => exact ⟨[], by simp, valueAfter?_eq_some_iff.mp h⟩
  | cons c l ih =>
    have plain : valueAfter? delimiter (c :: l) = some value → ∃ blanks : List Char,
        (∀ c ∈ blanks, Text.isBlank c = true) ∧ c :: l = blanks ++ (delimiter ++ value) ∧
          '\n' ∉ value := fun h => ⟨[], by simp, valueAfter?_eq_some_iff.mp h⟩
    rw [valueAfterBlanks?] at h
    split_ifs at h with blank
    · cases later : valueAfterBlanks? delimiter l with
      | none =>
        rw [later] at h
        exact plain h
      | some v =>
        rw [later] at h
        obtain rfl : v = value := Option.some.inj h
        obtain ⟨blanks, all, rfl, oneLine⟩ := ih later
        exact ⟨c :: blanks, by simpa [blank] using all, rfl, oneLine⟩
    · exact plain h

/-- **As much white space as possible** is passed over, so no other way to split the text leaves a
shorter value. -/
theorem valueAfterBlanks?_least {blanks : List Char}
    (all : ∀ c ∈ blanks, Text.isBlank c = true) (oneLine : '\n' ∉ value)
    (split : l = blanks ++ (delimiter ++ value)) :
    ∃ least, valueAfterBlanks? delimiter l = some least ∧ least.length ≤ value.length := by
  induction l generalizing blanks with
  | nil =>
    obtain ⟨rfl, rfl, rfl⟩ : blanks = [] ∧ delimiter = [] ∧ value = [] := by
      simpa using split.symm
    exact ⟨[], rfl, Nat.le_refl _⟩
  | cons c l ih =>
    rw [valueAfterBlanks?]
    cases blanks with
    | nil =>
      have here : valueAfter? delimiter (c :: l) = some value :=
        valueAfter?_eq_some_iff.mpr ⟨split, oneLine⟩
      split_ifs with blank
      · cases later : valueAfterBlanks? delimiter l with
        | none => exact ⟨value, here, Nat.le_refl _⟩
        | some v =>
          obtain ⟨more, -, rest, -⟩ := valueAfterBlanks?_split later
          have whole := congrArg List.length split
          have part := congrArg List.length rest
          simp only [List.length_cons, List.length_append, List.length_nil] at whole part
          exact ⟨v, rfl, by omega⟩
      · exact ⟨value, here, Nat.le_refl _⟩
    | cons c' blanks =>
      obtain ⟨rfl, rest⟩ := List.cons.inj split
      obtain ⟨v, found, le⟩ := ih (fun c mem => all c (List.mem_cons_of_mem _ mem)) rest
      rw [if_pos (all c List.mem_cons_self), found]
      exact ⟨v, rfl, le⟩

/-! ### Delimiters that are found only once -/

theorem takeWhile_append_of_mem {α : Type} {p : α → Bool} {x : α} {xs ys : List α} (mem : x ∈ xs)
    (stop : p x = false) : (xs ++ ys).takeWhile p = xs.takeWhile p := by
  rw [List.takeWhile_append, if_neg]
  intro whole
  have all := List.takeWhile_eq_self_iff.mp ((List.takeWhile_prefix p).eq_of_length whole)
  simp [all x mem] at stop

/-- A delimiter with something else than white space in it is passed over only once. -/
theorem eq_nil_of_visible {blanks rest : List Char} (all : ∀ c ∈ blanks, Text.isBlank c = true)
    (mem : c ∈ delimiter) (visible : Text.isBlank c = false)
    (same : delimiter ++ value = blanks ++ (delimiter ++ rest)) : blanks = [] := by
  have lead := congrArg (·.takeWhile Text.isBlank) same
  simp only [List.takeWhile_append_of_pos all, takeWhile_append_of_mem mem visible] at lead
  exact List.self_eq_append_left.mp lead

/-- From the back, the line feed in the delimiter that is met first is its last one. -/
theorem takeWhile_reverse_of_lineFeed (mem : '\n' ∈ delimiter) (oneLine : '\n' ∉ value)
    (before : List Char) :
    (before ++ (delimiter ++ value)).reverse.takeWhile (· != '\n') =
      value.reverse ++ delimiter.reverse.takeWhile (· != '\n') := by
  have kept : ∀ c ∈ value.reverse, (c != '\n') = true := by
    intro c mem
    rw [bne_iff_ne]
    rintro rfl
    exact oneLine (List.mem_reverse.mp mem)
  have stop : '\n' ∈ delimiter.reverse := List.mem_reverse.mpr mem
  rw [List.reverse_append, List.reverse_append, List.append_assoc,
    List.takeWhile_append_of_pos kept, takeWhile_append_of_mem stop (by simp)]

/-- So is a delimiter with a line feed in it, as there is none in the values. -/
theorem eq_nil_of_lineFeed {blanks rest : List Char} (mem : '\n' ∈ delimiter)
    (oneLine : '\n' ∉ value) (oneLine' : '\n' ∉ rest)
    (same : delimiter ++ value = blanks ++ (delimiter ++ rest)) : blanks = [] := by
  have left := takeWhile_reverse_of_lineFeed mem oneLine []
  have right := takeWhile_reverse_of_lineFeed mem oneLine' blanks
  rw [List.nil_append, same, right] at left
  have parts := congrArg List.length same
  have ends := congrArg List.length left
  simp only [List.length_append, List.length_reverse] at parts ends
  exact List.eq_nil_of_length_eq_zero (by omega)

/-! ### Trimming twice -/

namespace Text

variable {cs ds : List Char}

theorem trimChars_append_blanks (all : ∀ c ∈ ds, isBlank c = true) :
    trimChars (cs ++ ds) = trimChars cs := by
  unfold trimChars
  rw [List.dropWhile_append]
  split_ifs with blank
  · have none : cs.dropWhile isBlank = [] := by simpa using blank
    rw [none, List.dropWhile_eq_nil_iff.mpr all]
  · rw [List.reverse_append, List.dropWhile_append_of_pos (by simpa using all)]

theorem trimChars_trimChars (cs : List Char) : trimChars (trimChars cs) = trimChars cs := by
  have whole : trimChars cs = (cs.dropWhile isBlank).rdropWhile isBlank := rfl
  -- No white space is left in front, since a prefix of a list without it there has none either.
  have lead : (trimChars cs).dropWhile isBlank = trimChars cs := by
    cases trimmed : trimChars cs with
    | nil => rfl
    | cons c rest =>
      obtain ⟨more, split⟩ := List.rdropWhile_prefix isBlank (l := cs.dropWhile isBlank)
      rw [← whole, trimmed] at split
      have again := List.dropWhile_idempotent (p := isBlank) (l := cs)
      rw [← split, List.cons_append, List.dropWhile_cons] at again
      split_ifs at again with blank
      · have shorter := (List.dropWhile_suffix isBlank (l := rest ++ more)).length_le
        rw [again, List.length_cons] at shorter
        omega
      · exact List.dropWhile_cons_of_neg blank
  have last : (trimChars (trimChars cs)) = (trimChars cs).rdropWhile isBlank := by
    rw [← lead, trimChars, lead, List.rdropWhile, lead]
  rw [last, whole, List.rdropWhile_idempotent]

theorem trim_trim (text : String) : trim (trim text) = trim text := by
  simp only [trim, String.toList_ofList, trimChars_trimChars]

end Text

/-! ### What an option reads -/

namespace Descriptor

variable {d : Descriptor}

theorem captured?_givenToken_eq (text : String) :
    d.captured? (d.givenToken text) =
      (valueAfterBlanks? d.delimiter.toList (d.delimiter.toList ++ text.toList)).map
        String.ofList := by
  have split : d.signature.toList.isPrefixOf? (d.givenToken text).toList =
      some (d.delimiter.toList ++ text.toList) := by
    rw [List.isPrefixOf?_eq_some_iff_append_eq, toList_givenToken]
  simp only [captured?, split]

/-- If the delimiter cannot be found any later then what follows it is the value. -/
theorem captured?_givenToken_of_once {text : String} (oneLine : '\n' ∉ text.toList)
    (once : ∀ blanks rest : List Char, (∀ c ∈ blanks, Text.isBlank c = true) → '\n' ∉ rest →
      d.delimiter.toList ++ text.toList = blanks ++ (d.delimiter.toList ++ rest) → blanks = []) :
    d.captured? (d.givenToken text) = some text := by
  obtain ⟨value, found, -⟩ : ∃ value, valueAfterBlanks? d.delimiter.toList
      (d.delimiter.toList ++ text.toList) = some value ∧ value.length ≤ text.toList.length :=
    valueAfterBlanks?_least (List.forall_mem_nil _) oneLine rfl
  obtain ⟨blanks, all, split, oneLine'⟩ := valueAfterBlanks?_split found
  obtain rfl := once blanks value all oneLine' split
  obtain rfl : text.toList = value := List.append_cancel_left split
  rw [captured?_givenToken_eq, found, Option.map_some, String.ofList_toList]

/-- **Any value in one line** can be given to the option after its delimiter. -/
def ReadsValues (d : Descriptor) : Prop :=
  ∀ text : String, '\n' ∉ text.toList → d.recognise (d.givenToken text) = some (.delimited text)

theorem readsValues_of_visible {c : Char} (mem : c ∈ d.delimiter.toList)
    (visible : Text.isBlank c = false) : d.ReadsValues := by
  intro text oneLine
  refine recognise_delimited_iff.mpr ⟨fun same => ?_, ?_⟩
  · have chars := congrArg String.toList same
    rw [Text.trim, toList_givenToken, String.toList_ofList] at chars
    exact Text.trimChars_ne (List.mem_append_left _ mem) visible chars
  · exact captured?_givenToken_of_once oneLine fun _ _ all _ => eq_nil_of_visible all mem visible

theorem readsValues_of_lineFeed (untrimmed : Text.trim d.signature ≠ d.signature)
    (mem : '\n' ∈ d.delimiter.toList) : d.ReadsValues := by
  intro text oneLine
  refine recognise_delimited_iff.mpr ⟨fun same => untrimmed ?_, ?_⟩
  · rw [← same, Text.trim_trim]
  · exact captured?_givenToken_of_once oneLine fun _ _ _ => eq_nil_of_lineFeed mem oneLine

/-- Without a value the token is the signature with white space after it. -/
theorem not_readsValues_of_trimmed (trimmed : Text.trim d.signature = d.signature)
    (blank : ∀ c ∈ d.delimiter.toList, Text.isBlank c = true) : ¬ d.ReadsValues := by
  intro reads
  have given := reads "" (by simp)
  refine (recognise_delimited_iff.mp given).1 ?_
  rw [Text.trim, toList_givenToken, String.toList_empty, List.append_nil,
    Text.trimChars_append_blanks blank]
  exact trimmed

/-- A value that is the delimiter is passed over. -/
theorem not_readsValues_of_blank (given : d.delimiter ≠ "")
    (blank : ∀ c ∈ d.delimiter.toList, Text.isBlank c = true)
    (oneLine : '\n' ∉ d.delimiter.toList) : ¬ d.ReadsValues := by
  intro reads
  have captured := (recognise_delimited_iff.mp (reads d.delimiter oneLine)).2
  obtain ⟨value, found, none⟩ : ∃ value, valueAfterBlanks? d.delimiter.toList
      (d.delimiter.toList ++ d.delimiter.toList) = some value ∧
        value.length ≤ ([] : List Char).length :=
    valueAfterBlanks?_least blank List.not_mem_nil (by rw [List.append_nil])
  obtain rfl := List.eq_nil_of_length_eq_zero (Nat.le_zero.mp none)
  rw [captured?_givenToken_eq, found, Option.map_some, Option.some.injEq] at captured
  exact given captured.symm

/-- **Which options read values.** -/
theorem readsValues_iff (given : d.delimiter ≠ "") :
    d.ReadsValues ↔ (∃ c ∈ d.delimiter.toList, Text.isBlank c = false) ∨
      Text.trim d.signature ≠ d.signature ∧ '\n' ∈ d.delimiter.toList := by
  constructor
  · intro reads
    by_contra neither
    rw [not_or, not_and, not_exists] at neither
    have blank : ∀ c ∈ d.delimiter.toList, Text.isBlank c = true := fun c mem => by
      simpa [mem] using neither.1 c
    by_cases trimmed : Text.trim d.signature = d.signature
    · exact not_readsValues_of_trimmed trimmed blank reads
    · exact not_readsValues_of_blank given blank (neither.2 trimmed) reads
  · rintro (⟨c, mem, visible⟩ | ⟨untrimmed, mem⟩)
    · exact readsValues_of_visible mem visible
    · exact readsValues_of_lineFeed untrimmed mem

end Descriptor

/-! ### Options of accepted types -/

namespace TypeTable

variable {table : TypeTable} {t : TypeId} {f : Field}

/-- **When an option of a type that passes its check can be used bare**, when it can be used with
any value, and when in both forms. -/
theorem tokenForms_iff (sound : table.fault? t = none) (mem : f ∈ table.fields t) :
    (f.descriptor.recognise f.signature = some .exact ↔ Text.trim f.signature = f.signature) ∧
      (f.descriptor.ReadsValues ↔ (∃ c ∈ f.descriptor.delimiter.toList, Text.isBlank c = false) ∨
        Text.trim f.signature ≠ f.signature ∧ '\n' ∈ f.descriptor.delimiter.toList) ∧
      (f.descriptor.recognise f.signature = some .exact ∧ f.descriptor.ReadsValues ↔
        Text.trim f.signature = f.signature ∧
          ∃ c ∈ f.descriptor.delimiter.toList, Text.isBlank c = false) := by
  obtain ⟨before, passed⟩ := fault?_of_schemaFault? sound mem
  have given : f.descriptor.delimiter ≠ "" := (Field.fault?_eq_none_iff.mp passed).2.1
  have bare : f.descriptor.recognise f.signature = some .exact ↔
      Text.trim f.signature = f.signature := Descriptor.recognise_exact_iff
  have values := Descriptor.readsValues_iff given
  refine ⟨bare, values, ?_⟩
  rw [bare, values]
  refine and_congr_right fun trimmed => or_iff_left ?_
  rintro ⟨untrimmed, -⟩
  exact untrimmed trimmed

/-- A switch whose name ends in a blank, an option that takes its value after a blank, and one that
takes it after `=`. -/
def blankTable : TypeTable :=
  [{ fullName := "Blanks", shortName := "Blanks",
     fields :=
      [{ descriptor := { name := "on " }, shape := .flag },
       { descriptor := { name := "n", delimiter := " " }, shape := .single (.scalar .text) },
       { descriptor := { name := "m" }, shape := .single (.scalar .text) }] }]

theorem blankTable_sound : blankTable.fault? 0 = none := by decide +kernel

/-- The last of the options can be used in both forms. -/
theorem tokenForms_equals :
    blankTable.fault? 0 = none ∧ (blankTable.fields 0)[2] ∈ blankTable.fields 0 ∧
      (blankTable.fields 0)[2].descriptor.recognise (blankTable.fields 0)[2].signature =
        some .exact ∧
      (blankTable.fields 0)[2].descriptor.ReadsValues := by
  have mem : (blankTable.fields 0)[2] ∈ blankTable.fields 0 := List.getElem_mem _
  have trimmed : Text.trim (blankTable.fields 0)[2].signature =
      (blankTable.fields 0)[2].signature := by decide +kernel
  have delimited : ∃ c ∈ (blankTable.fields 0)[2].descriptor.delimiter.toList,
      Text.isBlank c = false := ⟨'=', by decide +kernel, by decide +kernel⟩
  exact ⟨blankTable_sound, mem,
    (tokenForms_iff blankTable_sound mem).2.2.mpr ⟨trimmed, delimited⟩⟩

/-- **The check lets blanks through.** The first option does not recognise its own signature; the
second one loses a blank at the front of a value, and the empty value altogether. -/
theorem tokenForms_blanks :
    blankTable.fault? 0 = none ∧
      (blankTable.fields 0)[0].descriptor.recognise (blankTable.fields 0)[0].signature = none ∧
      (blankTable.fields 0)[1].descriptor.recognise
        ((blankTable.fields 0)[1].descriptor.givenToken " a") = some (.delimited "a") ∧
      (blankTable.fields 0)[1].descriptor.recognise
        ((blankTable.fields 0)[1].descriptor.givenToken "") = some .exact := by
  decide +kernel

end TypeTable

end OptionBinding
