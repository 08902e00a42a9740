import Mathlib.Data.List.Induction
import OptionBinding.Regex.Standard
import OptionBinding.Registry

/-!
# Registrations

A parser is registered under a key, a type or the name of an option. What a registry finds under a
key is the parser that was registered last under this key (`Registry.parserUnder?_iff`), whatever
was registered under others before, between or after. So the parser that counts for the options of a
name and a type can be told from the registrations alone (`Counts`), and registrations under
different keys can be exchanged.

The parsers that a registry has from the start count as registered before all others
(`Registry.start_afterAll`).
-/

namespace OptionBinding

/-- A registration of a parser, for all options of the type that it makes or for the options of a
name. -/
inductive Registration
  | forType (p : TextParser)
  | forOption (name : String) (p : TextParser)

namespace Registration

/-- What a parser can be registered under. -/
inductive Key
  | type (type : ValueType)
  | option (name : String)
  deriving DecidableEq, Repr

/-- The parser that is registered. -/
def parser : Registration → TextParser
  | forType p => p
  | forOption _ p => p

/-- What the parser is registered under. -/
def key : Registration → Key
  | forType p => .type p.output
  | forOption name _ => .option name

end Registration

open Registration (Key)

/-- **The parser was registered under the key last**: none was after it. -/
def LastUnder (key : Key) (history : List Registration) (p : TextParser) : Prop :=
  ∃ before g after, history = before ++ g :: after ∧ g.key = key ∧ g.parser = p ∧
    ∀ h ∈ after, h.key ≠ key

/-- **The parser that counts** for an option and a type: the last one for the option's name, if it
makes values of the type; otherwise the last one for the type. -/
inductive Counts (history : List Registration) (d : Descriptor) (type : ValueType)
    (p : TextParser) : Prop
  | named (last : LastUnder (.option d.name) history p) (makes : p.output = type)
  | typed (last : LastUnder (.type type) history p)
      (unnamed : ∀ q, LastUnder (.option d.name) history q → q.output ≠ type)

/-- The parsers that are built in, as registrations. -/
def builtinRegistrations [Regex.Engine] : List Registration :=
  builtinScalars.map (.forType ·.parser)

namespace Registry

/-- Makes a registration. -/
def register (r : Registry) : Registration → Registry
  | .forType p => r.registerType p
  | .forOption name p => r.registerOption name p

/-- The registry after registrations. -/
def afterAll (r : Registry) (history : List Registration) : Registry := history.foldl register r

/-- The parser under a key. -/
def parserUnder? (r : Registry) : Key → Option TextParser
  | .type type => r.typeParser? type
  | .option name => r.optionParser? name

/-- The registry that registrations start from, and the registrations that it stands for. -/
def start [Regex.Engine] (builtins : Bool) : Registry × List Registration :=
  if builtins then (.builtin, builtinRegistrations) else ({}, [])

end Registry

variable {history before after : List Registration} {g h : Registration} {key : Key}
  {p q : TextParser} {d : Descriptor} {type : ValueType}

/-! ### The last registration -/

theorem not_lastUnder_nil : ¬ LastUnder key [] p := by
  rintro ⟨before, g, after, split, -⟩
  simp at split

/-- Of one more registration only the key counts: it is the last under its own, and does not count
under another. -/
theorem lastUnder_concat : LastUnder key (history ++ [g]) p ↔
    g.key = key ∧ g.parser = p ∨ g.key ≠ key ∧ LastUnder key history p := by
  constructor
  · rintro ⟨before, h, after, split, under, made, none⟩
    rcases List.eq_nil_or_concat after with rfl | ⟨front, last, rfl⟩
    · obtain rfl : g = h := List.singleton_inj.mp (List.append_inj' split rfl).2
      exact .inl ⟨under, made⟩
    · rw [List.concat_eq_append, ← List.cons_append, ← List.append_assoc] at split
      obtain ⟨rfl, same⟩ := List.append_inj' split rfl
      obtain rfl : g = last := List.singleton_inj.mp same
      exact .inr ⟨none g (by simp), before, h, front, rfl, under, made,
        fun k mem => none k (by simp [mem])⟩
  · rintro (⟨under, made⟩ | ⟨other, before, h, after, rfl, under, made, none⟩)
    · exact ⟨history, g, [], rfl, under, made, by simp⟩
    · refine ⟨before, h, after ++ [g], by simp, under, made, fun k mem => ?_⟩
      rcases List.mem_append.mp mem with mem | mem
      · exact none k mem
      · exact List.mem_singleton.mp mem ▸ other

namespace Registry

/-! ### Keys -/

theorem find?_filter_ne {α β : Type} [DecidableEq β] (f : α → β) {a b : β} (other : a ≠ b)
    (xs : List α) : (xs.filter (f · != a)).find? (f · == b) = xs.find? (f · == b) := by
  rw [List.find?_filter]
  congr 1
  funext x
  by_cases same : f x = b
  · simp [same, Ne.symm other]
  · simp [same]

/-- **A registration** changes what is under its key, and nothing else. -/
theorem parserUnder?_register (r : Registry) (g : Registration) (key : Key) :
    (r.register g).parserUnder? key =
      if g.key = key then some g.parser else r.parserUnder? key := by
  cases g with
  | forType p =>
    cases key with
    | type type =>
      by_cases same : p.output = type
      · simp [register, registerType, parserUnder?, typeParser?, Registration.key,
          Registration.parser, same]
      · simp [register, registerType, parserUnder?, typeParser?, Registration.key, same,
          find?_filter_ne TextParser.output same]
    | option name => rfl
  | forOption name p =>
    cases key with
    | type type => rfl
    | option name' =>
      by_cases same : name = name'
      · simp [register, registerOption, parserUnder?, optionParser?, Registration.key,
          Registration.parser, same]
      · simp [register, registerOption, parserUnder?, optionParser?, Registration.key, same,
          find?_filter_ne Prod.fst same]

theorem afterAll_append (r : Registry) (first later : List Registration) :
    r.afterAll (first ++ later) = (r.afterAll first).afterAll later :=
  List.foldl_append

/-- **What a registry finds** is what was registered last. -/
theorem parserUnder?_iff :
    (({} : Registry).afterAll history).parserUnder? key = some p ↔ LastUnder key history p := by
  induction history using List.reverseRecOn with
  | nil =>
    have none : (({} : Registry).afterAll []).parserUnder? key = none := by cases key <;> rfl
    simp [none, not_lastUnder_nil]
  | append_singleton history g ih =>
    rw [afterAll_append, lastUnder_concat]
    change ((({} : Registry).afterAll history).register g).parserUnder? key = some p ↔ _
    rw [parserUnder?_register]
    by_cases same : g.key = key
    · simp [same]
    · simp [same, ih]

/-- The registry with the built-in parsers is the empty one after their registration. -/
theorem start_afterAll [Regex.Engine] (builtins : Bool) (history : List Registration) :
    (start builtins).1.afterAll history =
      ({} : Registry).afterAll ((start builtins).2 ++ history) := by
  rw [afterAll_append]
  cases builtins with
  | false => rfl
  | true =>
    have same : Registry.builtin = ({} : Registry).afterAll builtinRegistrations := by
      rw [builtin, afterAll, builtinRegistrations, List.foldl_map]
      rfl
    exact congrArg (afterAll · history) same

/-! ### Answers -/

theorem resolve?_eq (r : Registry) (d : Descriptor) (type : ValueType) :
    r.resolve? d type = ((r.parserUnder? (.option d.name)).filter (·.output == type)).or
      (r.parserUnder? (.type type)) := by
  unfold resolve? parserUnder?
  cases (r.optionParser? d.name).filter (·.output == type) <;> rfl

/-- **The parser that a registry uses** is the one that counts after the registrations. -/
theorem resolve?_iff :
    (({} : Registry).afterAll history).resolve? d type = some p ↔ Counts history d type p := by
  have named : ∀ {q}, _ ↔ LastUnder (.option d.name) history q := parserUnder?_iff
  rw [resolve?_eq, Option.or_eq_some_iff, Option.filter_eq_some_iff, Option.filter_eq_none_iff,
    named, parserUnder?_iff]
  constructor
  · rintro (⟨last, makes⟩ | ⟨unnamed, last⟩)
    · exact .named last (beq_iff_eq.mp makes)
    · exact .typed last fun q other => by simpa using unnamed q (named.mpr other)
  · rintro (⟨last, makes⟩ | ⟨last, unnamed⟩)
    · exact .inl ⟨last, beq_iff_eq.mpr makes⟩
    · exact .inr ⟨fun q under => by simpa using unnamed q (named.mp under), last⟩

/-- **A built-in parser counts** until another one is registered. -/
theorem resolve?_builtin [Regex.Engine] {type : ScalarType} (known : type ∈ builtinScalars)
    (d : Descriptor) : builtin.resolve? d (.single (.scalar type)) = some type.parser := by
  obtain ⟨earlier, later, split⟩ := List.append_of_mem known
  have once : (earlier ++ type :: later).Nodup := split ▸ by decide
  have last : LastUnder (.type (.single (.scalar type))) builtinRegistrations type.parser := by
    refine ⟨_, _, _, by rw [builtinRegistrations, split, List.map_append, List.map_cons], rfl, rfl,
      fun g mem same => ?_⟩
    obtain ⟨other, among, rfl⟩ := List.mem_map.mp mem
    obtain rfl : other = type := by simpa [Registration.key, ScalarType.parser] using same
    have absent := (List.nodup_cons.mp (List.perm_middle.nodup_iff.mp once)).1
    exact absent (List.mem_append_right _ among)
  have unnamed : ∀ q, ¬ LastUnder (.option d.name) builtinRegistrations q := by
    rintro q ⟨_, g, _, split, under, -⟩
    obtain ⟨other, -, rfl⟩ := List.mem_map.mp (split ▸ List.mem_append_right _ List.mem_cons_self)
    cases under
  have same := start_afterAll true []
  rw [List.append_nil] at same
  rw [show builtin = _ from same]
  exact resolve?_iff.mpr (.typed last fun q under => absurd under (unnamed q))

theorem resolve?_congr {r r' : Registry}
    (named : r.parserUnder? (.option d.name) = r'.parserUnder? (.option d.name))
    (typed : r.parserUnder? (.type type) = r'.parserUnder? (.type type)) :
    r.resolve? d type = r'.resolve? d type := by
  rw [resolve?_eq, resolve?_eq, named, typed]

/-- Registries that find the same under a key do so after the same registrations, too. -/
theorem afterAll_congr {r r' : Registry} (same : r.parserUnder? key = r'.parserUnder? key)
    (history : List Registration) :
    (r.afterAll history).parserUnder? key = (r'.afterAll history).parserUnder? key := by
  induction history generalizing r r' with
  | nil => exact same
  | cons g history ih => exact ih (by rw [parserUnder?_register, parserUnder?_register, same])

/-- Registrations under different keys can be exchanged. -/
theorem parserUnder?_exchange (r : Registry) (apart : g.key ≠ h.key) (key : Key) :
    ((r.register g).register h).parserUnder? key =
      ((r.register h).register g).parserUnder? key := by
  simp only [parserUnder?_register]
  by_cases first : g.key = key
  · have second : h.key ≠ key := fun same => apart (first.trans same.symm)
    simp [first, second]
  · simp [first]

/-- **The registries give the same answers**: they convert every text alike, and have parsers for
the same options and types. -/
def SameAnswers (r r' : Registry) (d : Descriptor) : Prop :=
  ∀ type, r.canParse d type = r'.canParse d type ∧
    ∀ table text, r.parse table d type text = r'.parse table d type text

theorem sameAnswers_of_resolve? {r r' : Registry}
    (same : ∀ type, r.resolve? d type = r'.resolve? d type) : r.SameAnswers r' d := by
  intro type
  unfold canParse parse
  rw [same type]
  exact ⟨rfl, fun _ _ => rfl⟩

/-- **Where a registration makes no difference**: before or after one under another key, and, if it
is for the options of a name, to the options of other names. -/
theorem sameAnswers_afterAll (r : Registry) (before after : List Registration) :
    (∀ g h : Registration, g.key ≠ h.key → ∀ d,
      (r.afterAll (before ++ g :: h :: after)).SameAnswers
        (r.afterAll (before ++ h :: g :: after)) d) ∧
      ∀ name p d, d.name ≠ name →
        (r.afterAll (before ++ .forOption name p :: after)).SameAnswers
          (r.afterAll (before ++ after)) d := by
  constructor
  · intro g h apart d
    rw [afterAll_append, afterAll_append]
    have same : ∀ key, ((r.afterAll before).afterAll (g :: h :: after)).parserUnder? key =
        ((r.afterAll before).afterAll (h :: g :: after)).parserUnder? key := fun key =>
      afterAll_congr (parserUnder?_exchange _ apart key) after
    exact sameAnswers_of_resolve? fun type => resolve?_congr (same _) (same _)
  · intro name p d other
    rw [afterAll_append, afterAll_append]
    have same : ∀ key, key ≠ .option name →
        ((r.afterAll before).afterAll (.forOption name p :: after)).parserUnder? key =
          ((r.afterAll before).afterAll after).parserUnder? key := by
      intro key elsewhere
      have kept := parserUnder?_register (r.afterAll before) (.forOption name p) key
      rw [if_neg fun eq => elsewhere eq.symm] at kept
      exact afterAll_congr kept after
    exact sameAnswers_of_resolve? fun type =>
      resolve?_congr (same _ fun eq => other (Key.option.inj eq)) (same _ (by simp))

theorem parse_of_resolve? {r : Registry} (resolved : r.resolve? d type = some p)
    (table : TypeTable) (text : String) :
    r.parse table d type text =
      (p.run d.name text).mapError (.conversion d.signature text) := by
  unfold parse
  rw [resolved]
  dsimp only
  cases p.run d.name text <;> rfl

/-- Only where no parser is found is that the error. -/
theorem parse_unresolved_iff {r : Registry} {table : TypeTable} {text option name : String} :
    r.parse table d type text = .error (.unresolvedParser option name) ↔
      r.canParse d type = false ∧ option = d.signature ∧ name = table.typeName type := by
  unfold canParse
  cases resolved : r.resolve? d type with
  | none => simp [parse, resolved, eq_comm]
  | some p =>
    rw [parse_of_resolve? resolved]
    cases p.run d.name text <;> simp [Except.mapError]

/-- **The last registration under each key decides.** A text is converted by the last parser for the
option's name, if it makes values of the type, and otherwise by the last one for the type, the
built-in parsers being the first. It is an error that there is no parser if and only if neither
exists. Registrations under different keys can be exchanged, and one for the options of a name makes
no difference to those of another name, whatever comes before and after. -/
theorem answers_last [Regex.Engine] (builtins : Bool) (history : List Registration)
    (d : Descriptor) (type : ValueType) :
    let r := (start builtins).1.afterAll history
    let known := (start builtins).2 ++ history
    (∀ p, Counts known d type p → ∀ table text, r.parse table d type text =
        (p.run d.name text).mapError (.conversion d.signature text)) ∧
      (r.canParse d type = false ↔ ∀ p, ¬ Counts known d type p) ∧
      (∀ table text option name,
        r.parse table d type text = .error (.unresolvedParser option name) ↔
          r.canParse d type = false ∧ option = d.signature ∧ name = table.typeName type) ∧
      ∀ before after : List Registration,
        (∀ g h : Registration, g.key ≠ h.key →
          ((start builtins).1.afterAll (before ++ g :: h :: after)).SameAnswers
            ((start builtins).1.afterAll (before ++ h :: g :: after)) d) ∧
          ∀ name p, d.name ≠ name →
            ((start builtins).1.afterAll (before ++ .forOption name p :: after)).SameAnswers
              ((start builtins).1.afterAll (before ++ after)) d := by
  intro r known
  have counts : ∀ {p}, r.resolve? d type = some p ↔ Counts known d type p := by
    intro p
    rw [show r = _ from start_afterAll builtins history]
    exact resolve?_iff
  refine ⟨fun p used => parse_of_resolve? (counts.mpr used), ?_,
    fun table text option name => parse_unresolved_iff, fun before after => ?_⟩
  · rw [canParse, Option.isSome_eq_false_iff, Option.isNone_iff_eq_none,
      Option.eq_none_iff_forall_ne_some]
    exact forall_congr' fun p => not_congr counts
  · obtain ⟨exchange, apart⟩ := sameAnswers_afterAll (start builtins).1 before after
    exact ⟨fun g h keys => exchange g h keys d, fun name p other => apart name p d other⟩

/-- A parser that makes one list of a text. -/
def listParser : TextParser where
  output := .collection .vector (.scalar .text)
  run _ text := .ok (.items [.scalar (.text text)])

/-- A parser that marks a text with the name of its option. -/
def markParser : TextParser where
  output := .single (.scalar .text)
  run option text := .ok (.scalar (.text (option ++ text)))

/-- An option's parser of another type does not hide the built-in one for texts, and the parser that
it replaced is not used. -/
theorem answers_last_replaced :
    Counts (builtinRegistrations ++ [.forOption "n" markParser, .forOption "n" listParser])
        { name := "n" } (.single (.scalar .text)) ScalarType.text.parser ∧
      (Registry.builtin.afterAll [.forOption "n" markParser, .forOption "n" listParser]).parse []
        { name := "n" } (.single (.scalar .text)) "a" = .ok (.scalar (.text "a")) := by
  have counts : Counts
      (builtinRegistrations ++ [.forOption "n" markParser, .forOption "n" listParser])
      { name := "n" } (.single (.scalar .text)) ScalarType.text.parser :=
    resolve?_iff.mp rfl
  exact ⟨counts, (answers_last true _ { name := "n" } _).1 _ counts [] "a"⟩

end Registry

end OptionBinding
