import Mathlib.Data.List.Basic
import OptionBinding.Descriptor

/-!
# Which tokens select an option

A token *selects* an option if it is the signature or gives the option a value
(`Descriptor.Recognises`). It does so if it is made of the signature, the delimiter and a value in
one line, and the delimiter does not start with white space (`recognise_givenToken`).

An option is *plain* if its delimiter is `=` and there is neither white space nor `=` in its
signature (`Descriptor.Plain`). Plain options are told apart by their signatures: of two of them,
the bare signature of one selects the other (`Plain.recognise_signature`), and a token that gives
one a value selects the other (`Plain.recognise_valueToken`), if and only if the signatures are the
same.
-/

namespace OptionBinding

namespace Text

variable {c : Char} {cs : List Char}

theorem mem_dropWhile_isBlank (mem : c ∈ cs) (visible : isBlank c = false) :
    c ∈ cs.dropWhile isBlank := by
  rw [← List.takeWhile_append_dropWhile (p := isBlank) (l := cs), List.mem_append] at mem
  rcases mem with mem | mem
  · have blank := List.all_takeWhile (p := isBlank) (l := cs)
    rw [List.all_eq_true] at blank
    simp [blank c mem] at visible
  · exact mem

/-- Trimming takes nothing away but white space. -/
theorem mem_trimChars (mem : c ∈ cs) (visible : isBlank c = false) : c ∈ trimChars cs := by
  unfold trimChars
  rw [List.mem_reverse]
  refine mem_dropWhile_isBlank ?_ visible
  rw [List.mem_reverse]
  exact mem_dropWhile_isBlank mem visible

theorem filter_dropWhile_isBlank (cs : List Char) :
    (cs.dropWhile isBlank).filter (!isBlank ·) = cs.filter (!isBlank ·) := by
  induction cs with
  | nil => rfl
  | cons c cs ih =>
    cases blank : isBlank c with
    | true => rw [List.dropWhile_cons_of_pos blank, ih, List.filter_cons_of_neg (by simp [blank])]
    | false => rw [List.dropWhile_cons_of_neg (by simp [blank])]

/-- Trimming keeps what is not white space. -/
theorem filter_trimChars (cs : List Char) :
    (trimChars cs).filter (!isBlank ·) = cs.filter (!isBlank ·) := by
  rw [trimChars, List.filter_reverse, filter_dropWhile_isBlank, List.filter_reverse,
    List.reverse_reverse, filter_dropWhile_isBlank]

/-- Trimming does not take away what has something else than white space in it. -/
theorem trimChars_ne {more : List Char} (mem : c ∈ more) (visible : isBlank c = false) :
    trimChars (cs ++ more) ≠ cs := by
  intro same
  have kept := congrArg List.length (filter_trimChars (cs ++ more))
  rw [same, List.filter_append, List.length_append] at kept
  have some' : 0 < (more.filter (!isBlank ·)).length :=
    List.length_pos_of_mem (List.mem_filter.mpr ⟨mem, by simp [visible]⟩)
  omega

theorem dropWhile_isBlank_of_visible (h : ∀ c ∈ cs, isBlank c = false) :
    cs.dropWhile isBlank = cs := by
  cases cs with
  | nil => rfl
  | cons c cs => rw [List.dropWhile_cons_of_neg (by simp [h c])]

theorem trim_of_visible {text : String} (h : ∀ c ∈ text.toList, isBlank c = false) :
    trim text = text := by
  unfold trim trimChars
  rw [dropWhile_isBlank_of_visible h, dropWhile_isBlank_of_visible (by simpa using h),
    List.reverse_reverse, String.ofList_toList]

end Text

/-! ### Values after a delimiter -/

variable {l : List Char}

theorem mem_of_valueAfter? {v : List Char} (h : valueAfter? ['='] l = some v) : '=' ∈ l := by
  cases l with
  | nil => simp [valueAfter?, List.isPrefixOf?] at h
  | cons c l =>
    by_cases same : '=' = c
    · exact same ▸ List.mem_cons_self
    · simp [valueAfter?, List.isPrefixOf?, same] at h

theorem mem_of_valueAfterBlanks? {v : List Char} (h : valueAfterBlanks? ['='] l = some v) :
    '=' ∈ l := by
  induction l generalizing v with
  | nil => exact mem_of_valueAfter? h
  | cons c l ih =>
    rw [valueAfterBlanks?] at h
    split at h
    · split at h
      · next w found => exact List.mem_cons_of_mem _ (ih found)
      · exact mem_of_valueAfter? h
    · exact mem_of_valueAfter? h

/-- A character that is neither white space nor `=` starts no value. -/
theorem valueAfterBlanks?_visible {c : Char} (other : c ≠ '=') (visible : Text.isBlank c = false) :
    valueAfterBlanks? ['='] (c :: l) = none := by
  simp [valueAfterBlanks?, visible, valueAfter?, List.isPrefixOf?, Ne.symm other]

/-- What is left of a text up to `=` after a part of it, which may be the whole. -/
theorem isPrefixOf?_delimiter {s w r : List Char} (plain : '=' ∉ s)
    (h : s.isPrefixOf? (w ++ '=' :: l) = some r) :
    (s = w ∧ r = '=' :: l) ∨ ∃ c ∈ w, ∃ r', r = c :: r' := by
  induction s generalizing w with
  | nil =>
    obtain rfl : _ = r := by simpa [List.isPrefixOf?] using h
    cases w with
    | nil => exact .inl ⟨rfl, rfl⟩
    | cons c w => exact .inr ⟨c, by simp, _, rfl⟩
  | cons a s ih =>
    rw [List.mem_cons, not_or] at plain
    cases w with
    | nil => simp [List.isPrefixOf?, Ne.symm plain.1] at h
    | cons c w =>
      by_cases same : a = c
      · subst same
        rcases ih plain.2 (by simpa [List.isPrefixOf?] using h) with ⟨rfl, rest⟩ | ⟨c, mem, rest⟩
        · exact .inl ⟨rfl, rest⟩
        · exact .inr ⟨c, by simp [mem], rest⟩
      · simp [List.isPrefixOf?, same] at h

/-- The value in a text that is the delimiter and the value, if the delimiter starts with something
else than white space. -/
theorem valueAfterBlanks?_append {c : Char} {delimiter : List Char}
    (visible : Text.isBlank c = false) (oneLine : '\n' ∉ l) :
    valueAfterBlanks? (c :: delimiter) (c :: delimiter ++ l) = some l := by
  have split : (c :: delimiter).isPrefixOf? (c :: (delimiter ++ l)) = some l :=
    List.isPrefixOf?_eq_some_iff_append_eq.mpr rfl
  simp [valueAfterBlanks?, visible, valueAfter?, split, oneLine]

/-! ### Options given after their delimiter -/

namespace Descriptor

variable {d : Descriptor} {text : String} {c : Char} {more : List Char}

/-- The token that gives an option a value after its delimiter. -/
def givenToken (d : Descriptor) (text : String) : String := d.signature ++ d.delimiter ++ text

theorem toList_givenToken (text : String) :
    (d.givenToken text).toList = d.signature.toList ++ (d.delimiter.toList ++ text.toList) := by
  simp [givenToken]

section

variable (delimiter : d.delimiter.toList = c :: more) (visible : Text.isBlank c = false)
include delimiter visible

theorem isExact_givenToken (text : String) : d.isExact (d.givenToken text) = false := by
  rw [isExact, beq_eq_false_iff_ne, Text.trim, toList_givenToken, delimiter]
  intro same
  have chars := congrArg String.toList same
  rw [String.toList_ofList] at chars
  exact Text.trimChars_ne List.mem_cons_self visible chars

theorem captured?_givenToken (oneLine : '\n' ∉ text.toList) :
    d.captured? (d.givenToken text) = some text := by
  have split : d.signature.toList.isPrefixOf? (d.givenToken text).toList =
      some (c :: more ++ text.toList) := by
    rw [List.isPrefixOf?_eq_some_iff_append_eq, toList_givenToken, delimiter]
  rw [captured?, split, delimiter]
  dsimp only
  rw [valueAfterBlanks?_append visible oneLine, Option.map_some, String.ofList_toList]

/-- **A token that gives an option a value selects it with this value.** -/
theorem recognise_givenToken (oneLine : '\n' ∉ text.toList) :
    d.recognise (d.givenToken text) = some (.delimited text) := by
  simp [recognise, isExact_givenToken delimiter visible,
    captured?_givenToken delimiter visible oneLine]

end

end Descriptor

/-! ### Plain options -/

namespace Descriptor

variable {d e : Descriptor}

/-- The delimiter is `=`, and there is neither white space nor `=` in the signature. -/
structure Plain (d : Descriptor) : Prop where
  delimiter : d.delimiter = "="
  visible : ∀ c ∈ d.signature.toList, Text.isBlank c = false
  undelimited : '=' ∉ d.signature.toList

/-- The token that gives an option a value after `=`. -/
def valueToken (d : Descriptor) (text : String) : String := d.signature ++ "=" ++ text

theorem toList_valueToken (text : String) :
    (d.valueToken text).toList = d.signature.toList ++ '=' :: text.toList := by
  have delimiter : "=".toList = ['='] := by decide
  simp [valueToken, delimiter]

theorem mem_of_captured? {token v : String} (delimiter : d.delimiter = "=")
    (h : d.captured? token = some v) : '=' ∈ token.toList := by
  unfold captured? at h
  split at h
  · next rest split =>
    obtain ⟨l, found, rfl⟩ := Option.map_eq_some_iff.mp h
    rw [delimiter] at found
    rw [← List.isPrefixOf?_eq_some_iff_append_eq.mp split]
    exact List.mem_append_right _ (mem_of_valueAfterBlanks? found)
  · simp at h

namespace Plain

theorem isExact_signature (other : e.Plain) :
    d.isExact e.signature = decide (d.signature = e.signature) := by
  rw [isExact, Text.trim_of_visible other.visible]
  by_cases same : d.signature = e.signature
  · simp [same]
  · simp [same, Ne.symm same]

variable (plain : d.Plain) (other : e.Plain)
include plain

theorem isExact_valueToken (text : String) : d.isExact (e.valueToken text) = false := by
  have delimited : '=' ∈ (Text.trim (e.valueToken text)).toList := by
    rw [Text.trim, String.toList_ofList]
    exact Text.mem_trimChars (by simp [toList_valueToken]) (by decide)
  rw [isExact, beq_eq_false_iff_ne]
  intro same
  exact plain.undelimited (same ▸ delimited)

include other

theorem captured?_signature : d.captured? e.signature = none := by
  cases captured : d.captured? e.signature with
  | none => rfl
  | some v => exact absurd (mem_of_captured? plain.delimiter captured) other.undelimited

/-- **A bare signature selects the options that have it.** -/
theorem recognise_signature :
    d.recognise e.signature = if d.signature = e.signature then some .exact else none := by
  rw [recognise, isExact_signature other, captured?_signature plain other]
  by_cases same : d.signature = e.signature <;> simp [same]

theorem captured?_valueToken {text : String} (oneLine : '\n' ∉ text.toList) :
    d.captured? (e.valueToken text) = if d.signature = e.signature then some text else none := by
  have delimiter : "=".toList = ['='] := by decide
  rw [captured?, toList_valueToken, plain.delimiter, delimiter]
  by_cases same : d.signature = e.signature
  · have whole : d.signature.toList.isPrefixOf? (e.signature.toList ++ '=' :: text.toList) =
        some ('=' :: text.toList) := by
      rw [List.isPrefixOf?_eq_some_iff_append_eq, same]
    have value : valueAfterBlanks? ['='] ('=' :: text.toList) = some text.toList :=
      valueAfterBlanks?_append (by decide) oneLine
    rw [if_pos same, whole]
    simp [value]
  · rw [if_neg same]
    split
    · next rest split =>
      rcases isPrefixOf?_delimiter plain.undelimited split with ⟨whole, -⟩ | ⟨c, mem, rest, rfl⟩
      · exact absurd (String.toList_inj.mp whole) same
      · have undelimited : c ≠ '=' := fun eq => other.undelimited (eq ▸ mem)
        rw [valueAfterBlanks?_visible undelimited (other.visible c mem)]
        rfl
    · rfl

/-- **A token that gives a value selects the options with its signature.** -/
theorem recognise_valueToken {text : String} (oneLine : '\n' ∉ text.toList) :
    d.recognise (e.valueToken text) =
      if d.signature = e.signature then some (.delimited text) else none := by
  rw [recognise, isExact_valueToken plain, captured?_valueToken plain other oneLine]
  by_cases same : d.signature = e.signature <;> simp [same]

omit other

theorem recognise_own_signature : d.recognise d.signature = some .exact :=
  (recognise_signature plain plain).trans (if_pos rfl)

theorem recognise_own_value {text : String} (oneLine : '\n' ∉ text.toList) :
    d.recognise (d.valueToken text) = some (.delimited text) :=
  (recognise_valueToken plain plain oneLine).trans (if_pos rfl)

end Plain

theorem isExact_of_recognise_none {token : String} (h : d.recognise token = none) :
    d.isExact token = false := by
  rw [Bool.eq_false_iff]
  intro exact'
  simp [recognise, exact'] at h

theorem captured?_of_recognise_none {token : String} (h : d.recognise token = none) :
    d.captured? token = none := by
  rw [recognise, isExact_of_recognise_none h] at h
  simpa using h

theorem recognise_exact_iff {token : String} :
    d.recognise token = some .exact ↔ Text.trim token = d.signature := by
  unfold recognise isExact
  by_cases same : Text.trim token = d.signature <;> simp [same]

theorem recognise_delimited_iff {token value : String} :
    d.recognise token = some (.delimited value) ↔
      Text.trim token ≠ d.signature ∧ d.captured? token = some value := by
  unfold recognise isExact
  by_cases same : Text.trim token = d.signature <;> simp [same]

/-- **The token selects the option**: it is the signature, white space around it aside, or it gives
the option a value. -/
def Recognises (d : Descriptor) (token : String) : Prop :=
  d.isExact token = true ∨ ∃ value, d.captured? token = some value

theorem recognise_eq_none_iff {token : String} :
    d.recognise token = none ↔ ¬ d.Recognises token := by
  unfold recognise Recognises
  cases exact' : d.isExact token <;> simp [Option.eq_none_iff_forall_ne_some]

theorem recognises_of_recognise {token : String} {form : TokenForm}
    (h : d.recognise token = some form) : d.Recognises token := by
  by_contra foreign
  rw [recognise_eq_none_iff.mpr foreign] at h
  simp at h

/-- The values of tokens that give an option values, up to a token that does not select it. -/
theorem Plain.capturedRun_valueTokens (plain : d.Plain) {texts rest : List String}
    (oneLine : ∀ text ∈ texts, '\n' ∉ text.toList)
    (after : ∀ token ∈ rest.head?, d.recognise token = none) :
    d.capturedRun (texts.map d.valueToken ++ rest) = texts := by
  induction texts with
  | nil =>
    cases rest with
    | nil => rfl
    | cons token rest => simp [capturedRun, captured?_of_recognise_none (after token rfl)]
  | cons text texts ih =>
    have captured := (plain.captured?_valueToken plain (oneLine text List.mem_cons_self)).trans
      (if_pos rfl)
    have later := ih fun text mem => oneLine text (List.mem_cons_of_mem _ mem)
    simp [capturedRun, captured, later]

end Descriptor

end OptionBinding
