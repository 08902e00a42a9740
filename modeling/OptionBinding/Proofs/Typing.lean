import OptionBinding.Registry

/-!
# Values of their types

A parser states the type of the values it makes. A registry is typed (`Registry.Typed`) if every
parser in it keeps to that: scalars for a scalar type, composites with all their fields for a
composite type, collections of such values for a collection type. The built-in parsers do
(`Registry.typed_builtin`), and registering a parser that does keeps a registry typed
(`Registry.Typed.registerType`, `Registry.Typed.registerOption`). For a scalar type they make
scalars of the type itself (`Scalar.Is`, `Registry.keepsScalars_builtin`).
-/

namespace OptionBinding

/-! ### Values -/

namespace Value

/-- The composites that a value is or has as elements. -/
def composites : Value → List (List Value)
  | composite fields => [fields]
  | items elements => elements.flatMap fun
    | composite fields => [fields]
    | _ => []
  | _ => []

@[simp] theorem composites_unset : composites unset = [] := rfl

@[simp] theorem composites_scalar (s : Scalar) : (scalar s).composites = [] := rfl

@[simp] theorem composites_composite (fields : List Value) :
    (composite fields).composites = [fields] := rfl

@[simp] theorem mem_composites_items {elements : List Value} {fields : List Value} :
    fields ∈ (items elements).composites ↔ composite fields ∈ elements := by
  simp only [composites, List.mem_flatMap]
  constructor
  · rintro ⟨x, mem, at'⟩
    cases x with
    | composite us => simp at at'; exact at' ▸ mem
    | _ => simp at at'
  · exact fun mem => ⟨_, mem, by simp⟩

/-- The value has the form of an element of the type. -/
def Fits (table : TypeTable) : Element → Value → Prop
  | .scalar _, v => ∃ s, v = scalar s
  | .composite t, v => ∃ fields, v = composite fields ∧ fields.length = (table.fields t).length

/-- The value has the form of the type. -/
def HasType (table : TypeTable) : ValueType → Value → Prop
  | .single e, v => v.Fits table e
  | .collection _ e, v => ∃ elements, v = items elements ∧ ∀ x ∈ elements, x.Fits table e

theorem Fits.not_empty {table : TypeTable} {e : Element} {v : Value} (h : v.Fits table e) :
    v.isEmpty = false := by
  cases e with
  | scalar type =>
    obtain ⟨s, rfl⟩ := h
    rfl
  | composite t =>
    obtain ⟨fields, rfl, -⟩ := h
    rfl

end Value

/-! ### Containers -/

namespace Container

variable {c : Container} {x y : Value} {elements : List Value}

theorem mem_insertAscending (h : y ∈ insertAscending x elements) : y = x ∨ y ∈ elements := by
  induction elements with
  | nil => simpa [insertAscending] using h
  | cons z rest ih =>
    rw [insertAscending] at h
    split at h
    · simpa using h
    · split at h
      · exact .inr h
      · rcases List.mem_cons.mp h with rfl | h
        · simp
        · rcases ih h with rfl | h <;> simp [*]

theorem mem_insertDescending (h : y ∈ insertDescending x elements) : y = x ∨ y ∈ elements := by
  induction elements with
  | nil => simpa [insertDescending] using h
  | cons z rest ih =>
    rw [insertDescending] at h
    split at h
    · simpa using h
    · rcases List.mem_cons.mp h with rfl | h
      · simp
      · rcases ih h with rfl | h <;> simp [*]

theorem insertAscending_ne_nil : insertAscending x elements ≠ [] := by
  cases elements with
  | nil => simp [insertAscending]
  | cons z rest =>
    rw [insertAscending]
    split
    · simp
    · split <;> simp

theorem insertDescending_ne_nil : insertDescending x elements ≠ [] := by
  cases elements with
  | nil => simp [insertDescending]
  | cons z rest =>
    rw [insertDescending]
    split <;> simp

theorem mem_add (h : y ∈ c.add elements x) : y = x ∨ y ∈ elements := by
  cases c with
  | vector | linkedList | deque =>
    rcases List.mem_append.mp h with h | h
    · exact .inr h
    · exact .inl (by simpa using h)
  | heap => exact mem_insertDescending h
  | hashSet | treeSet => exact mem_insertAscending h

theorem add_ne_nil : c.add elements x ≠ [] := by
  cases c with
  | vector | linkedList | deque => simp [add]
  | heap => exact insertDescending_ne_nil
  | hashSet | treeSet => exact insertAscending_ne_nil

theorem mem_foldl_add {added : List Value} (h : y ∈ added.foldl c.add elements) :
    y ∈ added ∨ y ∈ elements := by
  induction added generalizing elements with
  | nil => exact .inr h
  | cons x added ih =>
    rcases ih h with h | h
    · exact .inl (by simp [h])
    · rcases mem_add h with rfl | h
      · exact .inl (by simp)
      · exact .inr h

theorem foldl_add_ne_nil (h : elements ≠ []) (added : List Value) :
    added.foldl c.add elements ≠ [] := by
  induction added generalizing elements with
  | nil => exact h
  | cons x added ih => exact ih add_ne_nil

/-- A container holds nothing but what was added. -/
theorem mem_ofElements_composites {fields : List Value}
    (h : fields ∈ (c.ofElements elements).composites) : .composite fields ∈ elements := by
  rcases mem_foldl_add (Value.mem_composites_items.mp h) with h | h
  · exact h
  · simp at h

/-- Something added is something held. -/
theorem ofElements_not_empty (h : elements ≠ []) : (c.ofElements elements).isEmpty = false := by
  obtain ⟨x, rest, rfl⟩ := List.exists_cons_of_ne_nil h
  simpa [ofElements, Value.isEmpty] using foldl_add_ne_nil (c := c) add_ne_nil rest

end Container

/-! ### Registries -/

/-- The parser makes values of its type. -/
def TextParser.Typed (table : TypeTable) (p : TextParser) : Prop :=
  ∀ (option text : String) (v : Value), p.run option text = .ok v → v.HasType table p.output

namespace Registry

variable {table : TypeTable} {r : Registry} {p q : TextParser} {d : Descriptor} {type : ValueType}

/-- The parsers in use. -/
def parsers (r : Registry) : List TextParser := r.byType ++ r.byOption.map (·.2)

/-- Every parser makes values of its type. -/
def Typed (table : TypeTable) (r : Registry) : Prop := ∀ p ∈ r.parsers, p.Typed table

theorem mem_of_resolve? (h : r.resolve? d type = some p) : p ∈ r.parsers ∧ p.output = type := by
  unfold resolve? at h
  split at h
  · next q found =>
    obtain rfl : q = p := by simpa using h
    obtain ⟨byOption, same⟩ := Option.filter_eq_some_iff.mp found
    obtain ⟨entry, at', rfl⟩ := Option.map_eq_some_iff.mp byOption
    refine ⟨?_, by simpa using same⟩
    exact List.mem_append_right _ (List.mem_map.mpr ⟨entry, List.mem_of_find?_eq_some at', rfl⟩)
  · refine ⟨List.mem_append_left _ (List.mem_of_find?_eq_some h), ?_⟩
    simpa using List.find?_some h

theorem parse_ok_iff {text : String} {v : Value} :
    r.parse table d type text = .ok v ↔
      ∃ p, r.resolve? d type = some p ∧ p.run d.name text = .ok v := by
  unfold parse
  cases resolved : r.resolve? d type with
  | none => simp
  | some p => cases made : p.run d.name text <;> simp [made]

theorem Typed.parse (typed : r.Typed table) {text : String} {v : Value}
    (h : r.parse table d type text = .ok v) : v.HasType table type := by
  obtain ⟨p, resolved, made⟩ := parse_ok_iff.mp h
  obtain ⟨mem, rfl⟩ := mem_of_resolve? resolved
  exact typed p mem _ _ _ made

theorem mem_parsers_registerType (h : q ∈ (r.registerType p).parsers) : q = p ∨ q ∈ r.parsers := by
  simp only [parsers, registerType, List.mem_append, List.mem_cons, List.mem_filter] at h ⊢
  rcases h with (h | ⟨mem, -⟩) | mem
  · exact .inl h
  · exact .inr (.inl mem)
  · exact .inr (.inr mem)

theorem mem_parsers_registerOption {name : String} (h : q ∈ (r.registerOption name p).parsers) :
    q = p ∨ q ∈ r.parsers := by
  simp only [parsers, registerOption, List.mem_append, List.map_cons, List.mem_cons, List.mem_map,
    List.mem_filter] at h ⊢
  rcases h with h | h | ⟨entry, ⟨mem, -⟩, rfl⟩
  · exact .inr (.inl h)
  · exact .inl h
  · exact .inr (.inr ⟨entry, mem, rfl⟩)

theorem Typed.registerType (typed : r.Typed table) (made : p.Typed table) :
    (r.registerType p).Typed table := by
  intro q mem
  rcases mem_parsers_registerType mem with rfl | mem
  · exact made
  · exact typed q mem

theorem Typed.registerOption (typed : r.Typed table) (made : p.Typed table) (name : String) :
    (r.registerOption name p).Typed table := by
  intro q mem
  rcases mem_parsers_registerOption mem with rfl | mem
  · exact made
  · exact typed q mem

section

variable [Regex.Engine]

theorem typed_scalarParser (s : ScalarType) : s.parser.Typed table := by
  intro option text v made
  simp only [ScalarType.parser] at made
  cases read : s.read text with
  | error e => simp [read, Except.map] at made
  | ok x => exact ⟨x, by simpa [read, Except.map, eq_comm] using made⟩

/-- The built-in registry has parsers of scalar types only. -/
theorem mem_parsers_builtin (h : p ∈ Registry.builtin.parsers) :
    ∃ type : ScalarType, p = type.parser := by
  have keeps : ∀ (types : List ScalarType) (r : Registry),
      (∀ q ∈ r.parsers, ∃ type : ScalarType, q = type.parser) →
        ∀ q ∈ (types.foldl (fun r type => r.registerType type.parser) r).parsers,
          ∃ type : ScalarType, q = type.parser := by
    intro types
    induction types with
    | nil => exact fun r scalars => scalars
    | cons type types ih =>
      refine fun r scalars => ih _ fun q mem => ?_
      rcases mem_parsers_registerType mem with rfl | mem
      · exact ⟨type, rfl⟩
      · exact scalars q mem
  exact keeps builtinScalars {} (by simp [parsers]) p h

theorem typed_builtin (table : TypeTable) : Registry.builtin.Typed table := by
  intro p mem
  obtain ⟨type, rfl⟩ := mem_parsers_builtin mem
  exact typed_scalarParser type

end

end Registry

/-! ### Scalars -/

/-- **The scalars of a type.** -/
inductive Scalar.Is : ScalarType → Scalar → Prop
  | bool (b : Bool) : Is .bool (.bool b)
  | char (c : Char) : Is .char (.char c)
  | text (s : String) : Is .text (.text s)
  | className (n : ClassName) : Is .className (.className n)
  | regex (r : Regex) : Is .regex (.regex r)
  | namePattern (p : NamePattern) : Is .namePattern (.namePattern p)
  | annotationLiteral (a : AnnotationLiteral) : Is .annotationLiteral (.annotationLiteral a)
  | integer (t : IntegerType) (n : Int) : Is (.integer t) (.integer n)
  | float (f : FloatFormat) (x : BinaryFloat) : Is (.float f) (.float f x)
  | foreign (fullName text : String) : Is (.foreign fullName) (.foreign text)

theorem exists_of_map_ok {ε α β : Type} {x : Except ε α} {f : α → β} {y : β}
    (h : x.map f = .ok y) : ∃ a, f a = y := by
  cases x with
  | error e => cases h
  | ok a => exact ⟨a, Except.ok.inj h⟩

theorem of_mapError_ok {ε ε' α : Type} {x : Except ε α} {g : ε → ε'} {a : α}
    (h : x.mapError g = .ok a) : x = .ok a := by
  cases x with
  | error e => cases h
  | ok a' => exact congrArg Except.ok (Except.ok.inj h)

/-- What is read as a scalar of a type is one. -/
theorem ScalarType.is_of_read [Regex.Engine] {type : ScalarType} {text : String} {s : Scalar}
    (h : type.read text = .ok s) : s.Is type := by
  unfold ScalarType.read at h
  cases type with
  | nothing => cases h
  | bool =>
    obtain ⟨b, rfl⟩ := exists_of_map_ok h
    exact .bool b
  | char =>
    dsimp only at h
    split at h
    · obtain rfl := Except.ok.inj h
      exact .char _
    · cases h
  | text =>
    obtain rfl := Except.ok.inj h
    exact .text _
  | className =>
    obtain ⟨n, rfl⟩ := exists_of_map_ok (of_mapError_ok h)
    exact .className n
  | regex =>
    obtain ⟨r, rfl⟩ := exists_of_map_ok (of_mapError_ok h)
    exact .regex r
  | namePattern =>
    obtain ⟨p, rfl⟩ := exists_of_map_ok (of_mapError_ok h)
    exact .namePattern p
  | annotationLiteral =>
    obtain ⟨a, rfl⟩ := exists_of_map_ok (of_mapError_ok h)
    exact .annotationLiteral a
  | integer t =>
    obtain ⟨n, rfl⟩ := exists_of_map_ok (of_mapError_ok h)
    exact .integer t n
  | float f =>
    obtain ⟨d, rfl⟩ := exists_of_map_ok (of_mapError_ok h)
    exact .float f _
  | foreign fullName =>
    obtain rfl := Except.ok.inj h
    exact .foreign _ _

/-- The parser makes scalars of its type, if it makes scalars. -/
def TextParser.KeepsScalars (p : TextParser) : Prop :=
  ∀ type, p.output = .single (.scalar type) → ∀ (option text : String) (v : Value),
    p.run option text = .ok v → ∃ s, v = .scalar s ∧ s.Is type

theorem ScalarType.parser_keepsScalars [Regex.Engine] (type : ScalarType) :
    type.parser.KeepsScalars := by
  intro type' same option text v made
  obtain rfl : type = type' := by simpa [ScalarType.parser] using same
  cases read : type.read text with
  | error e => simp [ScalarType.parser, read, Except.map] at made
  | ok s =>
    obtain rfl : .scalar s = v := by simpa [ScalarType.parser, read, Except.map] using made
    exact ⟨s, rfl, is_of_read read⟩

namespace Registry

variable {table : TypeTable} {r : Registry} {d : Descriptor}

/-- Every parser for a scalar type makes scalars of this type. -/
def KeepsScalars (r : Registry) : Prop := ∀ p ∈ r.parsers, p.KeepsScalars

theorem KeepsScalars.parse (keeps : r.KeepsScalars) {type : ScalarType} {text : String} {v : Value}
    (h : r.parse table d (.single (.scalar type)) text = .ok v) :
    ∃ s, v = .scalar s ∧ s.Is type := by
  obtain ⟨p, resolved, made⟩ := parse_ok_iff.mp h
  obtain ⟨mem, same⟩ := mem_of_resolve? resolved
  exact keeps p mem type same _ _ _ made

theorem keepsScalars_builtin [Regex.Engine] : Registry.builtin.KeepsScalars := by
  intro p mem
  obtain ⟨type, rfl⟩ := mem_parsers_builtin mem
  exact type.parser_keepsScalars

end Registry

end OptionBinding
