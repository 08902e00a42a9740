import Mathlib.Data.List.Forall2
import OptionBinding.Derivation.Expansion
import OptionBinding.Proofs.StringLiterals

/-!
# Options derived from declarations

A declaration expands to one option for each field that is not skipped, or is refused if a field has
a type of no kind. Faults are collected: a fault does not end the expansion, it only keeps it from
giving a result (`reported_deriveOptions`). So a declaration that is refused reports each field that
is refused, in order (`expand_error_iff`).

The settings of an option are those that its field asks for (`FieldInput.Describes`). How an
expansion is written is said field by field (`StructInput.WrittenAs`): the constructor follows from
the kind, the functions that read and change the field name it, and the description is the name with
the calls for what is given, those and no others, in one order for all options
(`DescriptorSettings.Calls`). Texts stand in literals that denote them. What an expansion is written
as is of this form (`writtenAs_of_expand`).

The kind of a field does not change with brackets or groups around its type
(`classify_of_encloses`). Whether the values of the field have options of their own is looked at
last, and only by fields that hold values or are switches (`classify_nested`).
-/

namespace OptionBinding.Derivation

/-! ### Kinds of fields -/

/-- Brackets and groups stand around a type. -/
inductive Encloses : TypeExpr → TypeExpr → Prop
  | self (t : TypeExpr) : Encloses t t
  | paren {outer t : TypeExpr} (inside : Encloses outer t) : Encloses (.paren outer) t
  | group {outer t : TypeExpr} (inside : Encloses outer t) : Encloses (.group outer) t

/-- What becomes of a kind if the values of the field have options of their own. -/
def FieldKind.ofNested : FieldKind → Except FieldFault FieldKind
  | .flag => .error .nestedFlag
  | .single => .ok .nested
  | .collection => .ok .nestedCollection
  | kind => .ok kind

variable {row : RowStyle} {nested forced : Bool} {outer t : TypeExpr}

/-- **Brackets and groups around a type** make no difference. -/
theorem classify_of_encloses (h : Encloses outer t) :
    classify row nested forced outer = classify row nested forced t := by
  induction h with
  | self => rfl
  | paren _ ih => rw [classify, ih]
  | group _ ih => rw [classify, ih]

theorem classifyPath_nested (segments : List String) (arguments : List TypeExpr) :
    classifyPath row t segments arguments true =
      (classifyPath row t segments arguments false).bind FieldKind.ofNested := by
  unfold classifyPath
  cases segments.getLast? with
  | none => rfl
  | some last =>
    simp only [if_true, Bool.false_eq_true, if_false]
    split_ifs <;> rfl

/-- A field that is a container by order, or else has a kind of its own. -/
theorem forced_nested (kind : Bool → Except FieldFault FieldKind)
    (own : kind true = (kind false).bind FieldKind.ofNested) :
    (if forced then .ok (repeatable true) else kind true) =
      (if forced then .ok (repeatable false) else kind false : Except FieldFault FieldKind).bind
        FieldKind.ofNested := by
  cases forced
  · exact own
  · rfl

/-- **Fields whose values have options of their own** have the kind that follows from the kind
without. -/
theorem classify_nested (row : RowStyle) (forced : Bool) : ∀ t : TypeExpr,
    classify row true forced t = (classify row false forced t).bind FieldKind.ofNested
  | .array _ _ => rfl
  | .slice _ => rfl
  | .group inner => classify_nested row forced inner
  | .paren inner => classify_nested row forced inner
  | .marked marks target => by
    unfold classify
    split_ifs <;> rfl
  | .tuple elements => forced_nested (fun _ => .error (.noOptionType _)) rfl
  | .other _ => forced_nested (fun _ => .error (.noOptionType _)) rfl
  | .path segments => forced_nested (classifyPath _ _ _ _) (classifyPath_nested segments [])
  | .generic segments arguments =>
    forced_nested (classifyPath _ _ _ _) (classifyPath_nested segments arguments)
  | .fullPath _ segments arguments =>
    forced_nested (classifyPath _ _ _ _) (classifyPath_nested segments arguments)

/-! ### Fields that are refused -/

variable {style : ExpansionStyle} {f : FieldInput} {fs : List FieldInput} {s : StructInput}
  {o : DerivedOption} {os : List DerivedOption} {faults : List FieldFault}

/-- The kind of a field by its type and its attributes. -/
def FieldInput.kind (style : ExpansionStyle) (f : FieldInput) : Except FieldFault FieldKind :=
  classify style.types f.attributes.nested f.attributes.collection f.type

/-- What a field is refused for, if it is an option and its type has no kind. -/
def FieldInput.fault? (style : ExpansionStyle) (f : FieldInput) : Option FieldFault :=
  if f.attributes.skip then none
  else
    match f.kind style with
    | .ok _ => none
    | .error fault => some fault

/-- The fields that become options. -/
def StructInput.kept (s : StructInput) : List FieldInput := s.fields.filter (!·.attributes.skip)

theorem option_eq (style : ExpansionStyle) (f : FieldInput) :
    f.option style = (f.kind style).map (⟨f.identifier, ·, f.settings⟩) := rfl

theorem option_ok_iff : f.option style = .ok o ↔
    f.kind style = .ok o.kind ∧ o.identifier = f.identifier ∧ o.descriptor = f.settings := by
  rw [option_eq]
  cases f.kind style with
  | error fault => exact iff_of_false nofun fun ⟨kind, _⟩ => nomatch kind
  | ok kind =>
    obtain ⟨identifier, kind', descriptor⟩ := o
    simp only [Except.map, Except.ok.injEq, DerivedOption.mk.injEq]
    tauto

theorem option_error_iff {fault : FieldFault} :
    f.option style = .error fault ↔ f.kind style = .error fault := by
  rw [option_eq]
  cases f.kind style <;> simp [Except.map]

theorem fault?_eq_some_iff {fault : FieldFault} : f.fault? style = some fault ↔
    f.attributes.skip = false ∧ f.kind style = .error fault := by
  unfold FieldInput.fault?
  cases f.attributes.skip <;> cases f.kind style <;> simp

theorem deriveOptions_ok_iff : deriveOptions style fs = .ok os ↔
    List.Forall₂ (fun f o => f.option style = .ok o) fs os := by
  induction fs generalizing os with
  | nil =>
    rw [deriveOptions, Except.ok.injEq, List.forall₂_nil_left_iff]
    exact eq_comm
  | cons f fs ih =>
    rw [deriveOptions, List.forall₂_cons_left_iff]
    cases first : f.option style with
    | error fault =>
      refine iff_of_false ?_ fun ⟨o, _, is, _⟩ => nomatch is
      cases deriveOptions style fs <;> nofun
    | ok o =>
      cases others : deriveOptions style fs with
      | error faults =>
        refine iff_of_false nofun fun ⟨_, os, _, more, _⟩ => ?_
        rw [ih.mpr more] at others
        cases others
      | ok os' =>
        rw [Except.ok.injEq]
        constructor
        · rintro rfl
          exact ⟨o, os', rfl, ih.mp others, rfl⟩
        · rintro ⟨_, os, is, more, rfl⟩
          obtain rfl := Except.ok.inj is
          obtain rfl := Except.ok.inj (others.symm.trans (ih.mpr more))
          rfl

/-- The faults that are reported. -/
def reported {α : Type} : Except (List FieldFault) α → List FieldFault
  | .ok _ => []
  | .error faults => faults

theorem fault?_of_ok (is : f.option style = .ok o) : f.fault? style = none := by
  rw [FieldInput.fault?, (option_ok_iff.mp is).1, ite_self]

theorem fault?_of_error {fault : FieldFault} (kept : f.attributes.skip = false)
    (is : f.option style = .error fault) : f.fault? style = some fault :=
  fault?_eq_some_iff.mpr ⟨kept, option_error_iff.mp is⟩

/-- All fields that are refused are reported, in order. -/
theorem reported_deriveOptions (kept : ∀ f ∈ fs, f.attributes.skip = false) :
    reported (deriveOptions style fs) = fs.filterMap (·.fault? style) := by
  induction fs with
  | nil => rfl
  | cons f fs ih =>
    obtain ⟨own, later⟩ := List.forall_mem_cons.mp kept
    have ih := ih later
    rw [deriveOptions]
    cases first : f.option style with
    | ok o =>
      rw [List.filterMap_cons_none (fault?_of_ok first), ← ih]
      cases deriveOptions style fs <;> rfl
    | error fault =>
      rw [List.filterMap_cons_some (fault?_of_error own first), ← ih]
      cases deriveOptions style fs <;> rfl

/-- Something is reported whenever no options are derived. -/
theorem deriveOptions_ne_nil (refused : deriveOptions style fs = .error faults) : faults ≠ [] := by
  induction fs generalizing faults with
  | nil => cases refused
  | cons f fs ih =>
    rw [deriveOptions] at refused
    cases first : f.option style with
    | ok o =>
      cases others : deriveOptions style fs with
      | ok os =>
        rw [first, others] at refused
        cases refused
      | error more =>
        rw [first, others] at refused
        obtain rfl := Except.error.inj refused
        exact ih others
    | error fault =>
      rw [first] at refused
      cases others : deriveOptions style fs <;> rw [others] at refused <;>
        exact Except.error.inj refused ▸ List.cons_ne_nil _ _

theorem mem_kept (mem : f ∈ s.kept) : f ∈ s.fields ∧ f.attributes.skip = false := by
  simpa [StructInput.kept] using mem

theorem filterMap_kept (style : ExpansionStyle) (s : StructInput) :
    s.kept.filterMap (·.fault? style) = s.fields.filterMap (·.fault? style) := by
  rw [StructInput.kept, List.filterMap_filter]
  refine List.filterMap_congr fun f _ => ?_
  cases skip : f.attributes.skip <;> simp [FieldInput.fault?, skip]

/-- **A declaration is refused** with the faults of all its fields. -/
theorem expand_error_iff : s.expand style = .error faults ↔
    faults ≠ [] ∧ faults = s.fields.filterMap (·.fault? style) := by
  have all : reported (deriveOptions style s.kept) = s.kept.filterMap (·.fault? style) :=
    reported_deriveOptions fun f mem => (mem_kept mem).2
  rw [filterMap_kept] at all
  have split : s.expand style = (deriveOptions style s.kept).map
      (⟨s.identifier, s.parameters, s.bounds, ·, s.root⟩) := rfl
  rw [split]
  cases options : deriveOptions style s.kept with
  | ok os =>
    rw [options] at all
    refine iff_of_false nofun fun ⟨given, same⟩ => given (same.trans all.symm)
  | error faults' =>
    rw [options] at all
    have given := deriveOptions_ne_nil options
    simp only [Except.map, Except.error.injEq, ← all, reported]
    constructor
    · rintro rfl
      exact ⟨given, rfl⟩
    · exact fun same => same.2.symm

theorem expand_ok_iff {e : Expansion} : s.expand style = .ok e ↔
    List.Forall₂ (fun f o => f.option style = .ok o) s.kept e.options ∧
      e.identifier = s.identifier ∧ e.parameters = s.parameters ∧ e.bounds = s.bounds ∧
      e.root = s.root := by
  have split : s.expand style = (deriveOptions style s.kept).map
      (⟨s.identifier, s.parameters, s.bounds, ·, s.root⟩) := rfl
  obtain ⟨identifier, parameters, bounds, options, root⟩ := e
  rw [split, ← deriveOptions_ok_iff]
  cases deriveOptions style s.kept with
  | error faults => exact iff_of_false nofun fun ⟨is, _⟩ => nomatch is
  | ok os =>
    simp only [Except.map, Except.ok.injEq, Expansion.mk.injEq]
    tauto

/-! ### What is set for an option -/

/-- The methods that set something for an option, in the order in which they are called. -/
def settingMethods : List String :=
  ["with_prefix", "with_delimiter", "with_required", "with_default", "with_placeholder",
    "with_description"]

namespace DescriptorSettings

variable {d : DescriptorSettings} {method : String}

/-- What a method is called with: a text, or the word for truth. -/
inductive Argument
  | text (text : String)
  | yes

/-- **How an argument is written.** -/
inductive Argument.WrittenAs : Argument → String → Prop
  | text {text literal : String} (quoted : Quotes literal text) : WrittenAs (.text text) literal
  | yes : WrittenAs .yes "true"

/-- **A method sets what is given**, with this argument. -/
inductive Sets (d : DescriptorSettings) : String → Argument → Prop
  | lead {text : String} (given : d.lead = some text) : Sets d "with_prefix" (.text text)
  | delimiter {text : String} (given : d.delimiter = some text) :
    Sets d "with_delimiter" (.text text)
  | required (given : d.required = true) : Sets d "with_required" .yes
  | defaultText {text : String} (given : d.defaultText = some text) :
    Sets d "with_default" (.text text)
  | placeholder {text : String} (given : d.placeholder = some text) :
    Sets d "with_placeholder" (.text text)
  | description {text : String} (given : d.description = some text) :
    Sets d "with_description" (.text text)

/-- **The calls for what is given**: all methods that set it and no others, in order. -/
structure Calls (d : DescriptorSettings) (calls : List (String × Argument)) : Prop where
  ordered : (calls.map Prod.fst).Sublist settingMethods
  exactly : ∀ method argument, (method, argument) ∈ calls ↔ d.Sets method argument

/-- **How calls are written**, one after another. -/
inductive CallsWrittenAs : List (String × Argument) → String → Prop
  | nil : CallsWrittenAs [] ""
  | cons {method text rest : String} {argument : Argument} {calls : List (String × Argument)}
      (written : argument.WrittenAs text) (more : CallsWrittenAs calls rest) :
      CallsWrittenAs ((method, argument) :: calls)
        (" . " ++ method ++ " (" ++ text ++ ")" ++ rest)

/-- **How an option's description is written**: its name, and the calls for what is given. -/
inductive WrittenAs (d : DescriptorSettings) : String → Prop
  | intro {calls : List (String × Argument)} {name setters : String} (named : Quotes name d.name)
      (called : d.Calls calls) (written : CallsWrittenAs calls setters) :
      WrittenAs d (":: argbind_core :: OptionDescriptor :: new (" ++ name ++ ")" ++ setters)

/-- Each method with its argument, if there is one. -/
def arguments (d : DescriptorSettings) : List (String × Option Argument) :=
  [("with_prefix", d.lead.map .text), ("with_delimiter", d.delimiter.map .text),
    ("with_required", if d.required then some .yes else none),
    ("with_default", d.defaultText.map .text), ("with_placeholder", d.placeholder.map .text),
    ("with_description", d.description.map .text)]

/-- The calls of the methods that have an argument. -/
def callsOf (arguments : List (String × Option Argument)) : List (String × Argument) :=
  arguments.filterMap fun entry => entry.2.map (entry.1, ·)

theorem mem_callsOf_iff {arguments : List (String × Option Argument)} :
    (method, argument) ∈ callsOf arguments ↔ (method, some argument) ∈ arguments := by
  rw [callsOf, List.mem_filterMap]
  constructor
  · rintro ⟨⟨method', argument'⟩, mem, same⟩
    obtain ⟨argument, rfl, pair⟩ := Option.map_eq_some_iff.mp same
    obtain ⟨rfl, rfl⟩ := Prod.mk.inj pair
    exact mem
  · exact fun mem => ⟨_, mem, rfl⟩

theorem callsOf_sublist (arguments : List (String × Option Argument)) :
    ((callsOf arguments).map Prod.fst).Sublist (arguments.map Prod.fst) := by
  induction arguments with
  | nil => exact .slnil
  | cons entry arguments ih =>
    obtain ⟨method, argument⟩ := entry
    cases argument with
    | none => exact ih.cons _
    | some argument => exact ih.cons_cons _

theorem calls_arguments (d : DescriptorSettings) : d.Calls (callsOf d.arguments) := by
  refine ⟨callsOf_sublist _, fun method argument => ?_⟩
  rw [mem_callsOf_iff]
  constructor
  · intro mem
    simp only [arguments, List.mem_cons, List.not_mem_nil, or_false, Prod.mk.injEq,
      eq_comm (a := some argument), Option.map_eq_some_iff, Option.ite_none_right_eq_some,
      Option.some.injEq] at mem
    rcases mem with ⟨rfl, text, given, rfl⟩ | ⟨rfl, text, given, rfl⟩ | ⟨rfl, given, rfl⟩ |
      ⟨rfl, text, given, rfl⟩ | ⟨rfl, text, given, rfl⟩ | ⟨rfl, text, given, rfl⟩
    · exact .lead given
    · exact .delimiter given
    · exact .required given
    · exact .defaultText given
    · exact .placeholder given
    · exact .description given
  · rintro (given | given | given | given | given | given) <;> simp [arguments, given]

variable {entries : List (String × Option Argument)} {rest : String}

/-- A setting and what follows it. -/
theorem callsWrittenAs_setting (style : ExpansionStyle) (method : String) (text : Option String)
    (more : CallsWrittenAs (callsOf entries) rest) :
    CallsWrittenAs (callsOf ((method, text.map .text) :: entries))
      (style.settingTokens method text ++ rest) := by
  cases text with
  | none => exact String.empty_append.symm ▸ more
  | some text => exact .cons (.text (quotes_literal style text)) more

/-- A switch and what follows it. -/
theorem callsWrittenAs_switch (given : Bool) (more : CallsWrittenAs (callsOf entries) rest) :
    CallsWrittenAs (callsOf (("with_required", if given then some .yes else none) :: entries))
      ((if given then " . with_required (true)" else "") ++ rest) := by
  cases given with
  | false => exact String.empty_append.symm ▸ more
  | true =>
    have call : " . with_required (true)" = " . " ++ "with_required" ++ " (" ++ "true" ++ ")" := by
      decide +kernel
    rw [if_pos rfl, if_pos rfl, call]
    exact .cons .yes more

/-- **A description is written** with the calls for what is given. -/
theorem writtenAs_tokens (style : ExpansionStyle) (d : DescriptorSettings) :
    d.WrittenAs (d.tokens style) := by
  have none : CallsWrittenAs (callsOf []) "" := .nil
  have setters := callsWrittenAs_setting style "with_prefix" d.lead <|
    callsWrittenAs_setting style "with_delimiter" d.delimiter <|
    callsWrittenAs_switch d.required <|
    callsWrittenAs_setting style "with_default" d.defaultText <|
    callsWrittenAs_setting style "with_placeholder" d.placeholder <|
    callsWrittenAs_setting style "with_description" d.description none
  have assoc (a b c d e f g : String) :
      a ++ (b ++ (c ++ (d ++ (e ++ (f ++ (g ++ "")))))) = a ++ b ++ c ++ d ++ e ++ f ++ g := by
    simp only [String.append_assoc, String.append_empty]
  have written := WrittenAs.intro (quotes_literal style d.name) d.calls_arguments setters
  rw [assoc] at written
  exact written

end DescriptorSettings

/-! ### Options and expansions as they are written -/

/-- **What an option of a kind is constructed with**: the constructor, and what follows the
description, that is the functions that read and change the field, or what is wrong with it. -/
inductive Constructs (identifier : String) : FieldKind → String → String → Prop
  | flag : Constructs identifier .flag "flag" ("| target | & mut target . " ++ identifier)
  | single : Constructs identifier .single "single"
    ("| target | & target . " ++ identifier ++ " , " ++
      ("| target | & mut target . " ++ identifier))
  | nested : Constructs identifier .nested "nested"
    ("| target | & target . " ++ identifier ++ " , " ++
      ("| target | & mut target . " ++ identifier))
  | collection : Constructs identifier .collection "collection"
    ("| target | & target . " ++ identifier ++ " , " ++
      ("| target | & mut target . " ++ identifier))
  | nestedCollection : Constructs identifier .nestedCollection "nested_collection"
    ("| target | & target . " ++ identifier ++ " , " ++
      ("| target | & mut target . " ++ identifier) ++ " ,")
  | map {reason : String} (quoted : Quotes reason "map-like fields cannot be options") :
    Constructs identifier .map "invalid" reason
  | unsupported {typeText literal : String} (quoted : Quotes literal typeText) :
    Constructs identifier (.unsupported typeText) "unsupported_collection" literal

/-- **The settings that a field asks for**: the name that is given or else the field's own in kebab
case, and what is given besides. -/
structure FieldInput.Describes (f : FieldInput) (d : DescriptorSettings) : Prop where
  name : f.attributes.name = some d.name ∨
    f.attributes.name = none ∧ d.name = kebabCase f.identifier
  lead : d.lead = f.attributes.lead
  delimiter : d.delimiter = f.attributes.delimiter
  required : d.required = f.attributes.required
  defaultText : d.defaultText = f.attributes.defaultText
  placeholder : d.placeholder = f.attributes.placeholder
  description : d.description = f.attributes.description

/-- **The settings that a declaration with a name asks for** its root option. -/
structure StructInput.DescribesRoot (s : StructInput) (d : DescriptorSettings) : Prop where
  name : s.attributes.name = some d.name
  lead : d.lead = s.attributes.lead
  delimiter : d.delimiter = s.attributes.delimiter
  required : d.required = false
  defaultText : d.defaultText = none
  placeholder : d.placeholder = none
  description : d.description = s.attributes.description

/-- **How a field's option is written**: with the constructor for its kind, and described by the
settings that the field asks for. -/
inductive FieldInput.WrittenAs (style : ExpansionStyle) (f : FieldInput) : String → Prop
  | intro {kind : FieldKind} {constructor arguments description : String}
      {settings : DescriptorSettings} (classified : f.kind style = .ok kind)
      (constructed : Constructs f.identifier kind constructor arguments)
      (asked : f.Describes settings) (described : settings.WrittenAs description) :
    WrittenAs style f (":: argbind_core :: OptionField :: < Self > :: " ++ constructor ++ " (" ++
      description ++ " , " ++ arguments ++ ")")

/-- **How the root option is written**: not at all without a name. -/
inductive StructInput.RootWrittenAs (s : StructInput) : String → Prop
  | none (unnamed : s.attributes.name = none) : RootWrittenAs s ""
  | some {description : String} {settings : DescriptorSettings} (asked : s.DescribesRoot settings)
      (described : settings.WrittenAs description) :
    RootWrittenAs s
      ("fn root () -> :: std :: option :: Option < :: argbind_core :: OptionDescriptor > \x7b " ++
        ":: std :: option :: Option :: Some (" ++ description ++ ") \x7d ")

/-- **How an expansion is written**: one option for each field that is not skipped, in order, and
the root option. -/
inductive StructInput.WrittenAs (style : ExpansionStyle) (s : StructInput) : String → Prop
  | intro {options : List String} {root : String}
      (each : List.Forall₂ (FieldInput.WrittenAs style) s.kept options)
      (top : s.RootWrittenAs root) :
    WrittenAs style s ("impl " ++ declaredParameters s.parameters ++
      ":: argbind_core :: Options for " ++ s.identifier ++ " " ++
      parameterArguments s.parameters ++ spaced s.bounds ++ "\x7b fn option_fields () " ++
      "-> :: std :: vec :: Vec < :: argbind_core :: OptionField < Self >> \x7b " ++
      ":: std :: vec ! [" ++ " , ".intercalate options ++ "] \x7d " ++ root ++ "\x7d")

theorem constructs_constructor (style : ExpansionStyle) (o : DerivedOption) :
    Constructs o.identifier o.kind (o.constructor style).1 (o.constructor style).2 := by
  obtain ⟨identifier, kind, descriptor⟩ := o
  cases kind with
  | flag => exact .flag
  | single => exact .single
  | nested => exact .nested
  | collection => exact .collection
  | nestedCollection => exact .nestedCollection
  | map => exact .map (quotes_literal style _)
  | unsupported typeText => exact .unsupported (quotes_literal style typeText)

theorem describes_settings (f : FieldInput) : f.Describes f.settings where
  name := by
    unfold FieldInput.settings
    cases f.attributes.name with
    | none => exact .inr ⟨rfl, rfl⟩
    | some name => exact .inl rfl
  lead := rfl
  delimiter := rfl
  required := rfl
  defaultText := rfl
  placeholder := rfl
  description := rfl

theorem describesRoot_of_mem {d : DescriptorSettings} (root : s.root = some d) :
    s.DescribesRoot d := by
  obtain ⟨name, named, rfl⟩ := Option.map_eq_some_iff.mp root
  exact ⟨named, rfl, rfl, rfl, rfl, rfl, rfl⟩

theorem root_eq_none_iff : s.root = none ↔ s.attributes.name = none := Option.map_eq_none_iff

theorem writtenAs_of_option (is : f.option style = .ok o) : f.WrittenAs style (o.tokens style) := by
  obtain ⟨classified, identifier, descriptor⟩ := option_ok_iff.mp is
  have constructed := constructs_constructor style o
  have described := o.descriptor.writtenAs_tokens style
  rw [identifier] at constructed
  exact .intro classified constructed (descriptor ▸ describes_settings f) described

theorem rootWrittenAs_root (style : ExpansionStyle) (s : StructInput) :
    s.RootWrittenAs (rootTokens style s.root) := by
  cases root : s.root with
  | none => exact .none (root_eq_none_iff.mp root)
  | some d => exact .some (describesRoot_of_mem root) (d.writtenAs_tokens style)

/-- **An expansion is written** as its declaration asks for. -/
theorem writtenAs_of_expand {e : Expansion} (is : s.expand style = .ok e) :
    s.WrittenAs style (e.tokens style) := by
  obtain ⟨each, identifier, parameters, bounds, root⟩ := expand_ok_iff.mp is
  have written : List.Forall₂ (FieldInput.WrittenAs style) s.kept
      (e.options.map (·.tokens style)) := by
    rw [List.forall₂_map_right_iff]
    exact each.imp fun _ _ => writtenAs_of_option
  have top := rootWrittenAs_root style s
  rw [← root] at top
  have whole := StructInput.WrittenAs.intro written top
  rw [← identifier, ← parameters, ← bounds] at whole
  exact whole

/-- **What a declaration expands to.** It is refused if and only if a field that is not skipped has
a type of no kind, and then with one fault for each of these fields, in order. Else there is one
option for each field that is not skipped, in order, of the kind of its type and with the settings
that the field asks for; and there is a root option if and only if the declaration has a name, with
the settings that the declaration asks for. All this is written down: the options with their names,
the calls for what is given and the functions that read and change their fields. Brackets and groups
around a type change nothing about its kind. The kind of a field whose values have options of their
own follows from the kind of the field without. -/
theorem StructInput.expand_options (style : ExpansionStyle) (s : StructInput) :
    ((∃ faults, s.expand style = .error faults) ↔
        ∃ f ∈ s.fields, f.attributes.skip = false ∧ ∃ fault, f.kind style = .error fault) ∧
      (∀ faults, s.expand style = .error faults →
        faults = s.fields.filterMap (·.fault? style)) ∧
      (∀ e, s.expand style = .ok e →
        List.Forall₂ (fun f o =>
            f.kind style = .ok o.kind ∧ o.identifier = f.identifier ∧ f.Describes o.descriptor)
          (s.fields.filter (!·.attributes.skip)) e.options ∧
        (e.root.isSome = true ↔ s.attributes.name.isSome = true) ∧
        (∀ d, e.root = some d → s.DescribesRoot d) ∧
        s.WrittenAs style (e.tokens style)) ∧
      (∀ row nested forced outer t, Encloses outer t →
        classify row nested forced outer = classify row nested forced t) ∧
      ∀ row forced t,
        classify row true forced t = (classify row false forced t).bind FieldKind.ofNested := by
  refine ⟨?_, fun faults refused => (expand_error_iff.mp refused).2, fun e is => ?_,
    fun _ _ _ _ _ => classify_of_encloses, classify_nested⟩
  · constructor
    · rintro ⟨faults, refused⟩
      obtain ⟨given, all⟩ := expand_error_iff.mp refused
      obtain ⟨fault, mem⟩ := List.exists_mem_of_ne_nil faults given
      rw [all, List.mem_filterMap] at mem
      obtain ⟨f, among, is⟩ := mem
      obtain ⟨kept, kind⟩ := fault?_eq_some_iff.mp is
      exact ⟨f, among, kept, fault, kind⟩
    · rintro ⟨f, among, kept, fault, kind⟩
      have mem : fault ∈ s.fields.filterMap (·.fault? style) :=
        List.mem_filterMap.mpr ⟨f, among, fault?_eq_some_iff.mpr ⟨kept, kind⟩⟩
      exact ⟨_, expand_error_iff.mpr ⟨List.ne_nil_of_mem mem, rfl⟩⟩
  · obtain ⟨each, -, -, -, root⟩ := expand_ok_iff.mp is
    refine ⟨each.imp fun f o option => ?_, ?_, fun d some => ?_, writtenAs_of_expand is⟩
    · obtain ⟨kind, identifier, descriptor⟩ := option_ok_iff.mp option
      exact ⟨kind, identifier, descriptor ▸ describes_settings f⟩
    · rw [root, StructInput.root, Option.isSome_map]
    · exact describesRoot_of_mem (root ▸ some)

/-- An optional byte. -/
def optionalByte : TypeExpr := .generic ["Option"] [.path ["u8"]]

/-- A declaration with a field that is skipped, one with a raw name and a type in brackets, and a
repeatable one. -/
def toolInput : StructInput where
  identifier := "Tool"
  parameters := []
  bounds := []
  attributes := { name := some "Xtool" }
  fields :=
    [⟨"cache", .path ["u32"], { skip := true }⟩,
     ⟨"r#type", .paren (.group optionalByte), { lead := some "--", required := true }⟩,
     ⟨"items", .generic ["std", "vec", "Vec"] [.path ["Item"]], { nested := true }⟩]

/-- The same with the field that was skipped, and one whose values cannot have options. -/
def faultyInput : StructInput :=
  { toolInput with fields :=
      [⟨"cache", .path ["u32"], {}⟩,
       ⟨"items", .generic ["Vec"] [.path ["Item"]], {}⟩,
       ⟨"quiet", .path ["bool"], { nested := true }⟩] }

/-- What the first declaration expands to. -/
def toolExpansion : Expansion where
  identifier := "Tool"
  parameters := []
  bounds := []
  options :=
    [⟨"r#type", .single, ⟨"type", some "--", none, true, none, none, none⟩⟩,
     ⟨"items", .nestedCollection, ⟨"items", none, none, false, none, none, none⟩⟩]
  root := some ⟨"Xtool", none, none, false, none, none, none⟩

theorem expand_options_tool :
    toolInput.expand .compiled = .ok toolExpansion ∧
      toolInput.WrittenAs .compiled (toolExpansion.tokens .compiled) ∧
      classify .narrow false false (.paren (.group optionalByte)) = .ok .single ∧
      faultyInput.expand .compiled = .error [.noOptionType "u32", .nestedFlag] := by
  have expanded : toolInput.expand .compiled = .ok toolExpansion := by decide +kernel
  obtain ⟨-, -, written, encloses, -⟩ := StructInput.expand_options .compiled toolInput
  have bare : classify .narrow false false optionalByte = .ok .single := by decide +kernel
  have inside : Encloses (.paren (.group optionalByte)) optionalByte := .paren (.group (.self _))
  have refused : ∃ faults, faultyInput.expand .compiled = .error faults := by
    obtain ⟨fails, -⟩ := StructInput.expand_options .compiled faultyInput
    refine fails.mpr ⟨⟨"cache", .path ["u32"], {}⟩, List.mem_cons_self, rfl, ?_⟩
    exact ⟨.noOptionType "u32", by decide +kernel⟩
  obtain ⟨faults, is⟩ := refused
  obtain ⟨-, all, -⟩ := StructInput.expand_options .compiled faultyInput
  have reports : faultyInput.fields.filterMap (·.fault? .compiled) =
      [.noOptionType "u32", .nestedFlag] := by
    decide +kernel
  exact ⟨expanded, (written _ expanded).2.2.2, (encloses _ _ _ _ _ inside).trans bare,
    is.trans (congrArg _ ((all _ is).trans reports))⟩

end OptionBinding.Derivation
