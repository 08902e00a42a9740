import OptionBinding.Proofs.DefaultChains
import OptionBinding.Proofs.ErrorCauses
import OptionBinding.Proofs.Limits
import OptionBinding.Regex.Standard

/-!
# Binding terminates

Completing goes from a type to the types of the composites that its defaults make
(`TypeTable.DefaultsTo`). If no type is led back to itself in this way then completing is no deeper
than there are types: the types that a type leads to are fewer at every step (`height_lt`), and
there is one less of them than there are types (`height_lt_length`). So completing within limits is
completing as soon as chains may be as long as there are types (`completes_of_acyclic`), and so is
all of binding (`bind_terminates`). No default is met again in the course of its own completing,
which would never end (`Run.Ends`): within limits all comes to an end
(`bindAndCompleteWithin_ends`).
-/

namespace OptionBinding

namespace TypeTable

variable {table : TypeTable} {t u : TypeId}

/-- A default of the first type makes a composite of the other one, or a collection of such. -/
def DefaultsTo (table : TypeTable) (t u : TypeId) : Prop :=
  ∃ f ∈ table.fields t, f.descriptor.defaultText.isSome = true ∧ f.shape.element = .composite u

/-- **No defaults lead from a type back to itself.** -/
def AcyclicDefaults (table : TypeTable) : Prop :=
  ∀ t, ¬ Relation.TransGen table.DefaultsTo t t

/-- The types of the composites that fields hold. -/
def heldTypes (table : TypeTable) : List TypeId :=
  table.allFields.filterMap fun f => match f.shape.element with
    | .composite u => some u
    | .scalar _ => none

/-- Only the types of the table have root options. -/
theorem lt_of_root? {root : Descriptor} (rooted : table.root? t = some root) :
    t < table.length := by
  obtain ⟨record, known, -⟩ := Option.bind_eq_some_iff.mp rooted
  exact (List.getElem?_eq_some_iff.mp known).1

theorem mem_heldTypes {f : Field} (mem : f ∈ table.fields t)
    (shape : f.shape.element = .composite u) : u ∈ table.heldTypes :=
  List.mem_filterMap.mpr ⟨f, mem_allFields mem, by rw [shape]⟩

theorem closed_of_heldTypes (known : ∀ u ∈ table.heldTypes, u < table.length) : table.Closed :=
  fun _ _ mem u shape => known u (mem_heldTypes mem shape)

theorem DefaultsTo.mem_heldTypes (h : table.DefaultsTo t u) : u ∈ table.heldTypes := by
  obtain ⟨f, mem, -, shape⟩ := h
  exact TypeTable.mem_heldTypes mem shape

theorem mem_heldTypes_of_transGen (h : Relation.TransGen table.DefaultsTo t u) :
    u ∈ table.heldTypes := by
  obtain ⟨w, -, last⟩ := Relation.TransGen.tail'_iff.mp h
  exact last.mem_heldTypes

open Classical in
/-- The number of types that the defaults of a type lead to. -/
noncomputable def height (table : TypeTable) (t : TypeId) : Nat :=
  (table.heldTypes.toFinset.filter fun u => Relation.TransGen table.DefaultsTo t u).card

theorem height_le_fieldCount (table : TypeTable) (t : TypeId) :
    table.height t ≤ table.fieldCount := by
  classical
  calc table.height t ≤ table.heldTypes.toFinset.card := Finset.card_filter_le _ _
    _ ≤ table.heldTypes.length := List.toFinset_card_le _
    _ ≤ table.allFields.length := List.length_filterMap_le _ _
    _ = table.fieldCount := table.length_allFields

section Acyclic

variable (acyclic : table.AcyclicDefaults)
include acyclic

/-- **A default leads to a type of less height.** -/
theorem height_lt (h : table.DefaultsTo t u) : table.height u < table.height t := by
  classical
  refine Finset.card_lt_card (Finset.ssubset_iff_of_subset ?_ |>.mpr ⟨u, ?_, ?_⟩)
  · intro w mem
    obtain ⟨held, leads⟩ := Finset.mem_filter.mp mem
    exact Finset.mem_filter.mpr ⟨held, .head h leads⟩
  · exact Finset.mem_filter.mpr ⟨List.mem_toFinset.mpr h.mem_heldTypes, .single h⟩
  · exact fun mem => acyclic u (Finset.mem_filter.mp mem).2

/-- **A type leads to other types of the table only.** -/
theorem height_lt_length (closed : table.Closed) (known : t < table.length) :
    table.height t < table.length := by
  classical
  have among : table.height t ≤ ((Finset.range table.length).erase t).card := by
    refine Finset.card_le_card fun u mem => ?_
    have leads := (Finset.mem_filter.mp mem).2
    obtain ⟨w, -, f, field, -, shape⟩ := Relation.TransGen.tail'_iff.mp leads
    refine Finset.mem_erase.mpr ⟨?_, Finset.mem_range.mpr (closed w f field u shape)⟩
    rintro rfl
    exact acyclic u leads
  rw [Finset.card_erase_of_mem (Finset.mem_range.mpr known), Finset.card_range] at among
  exact Nat.lt_of_le_pred (Nat.zero_lt_of_lt known) among

end Acyclic

end TypeTable

/-! ### Completing within limits -/

theorem fillFields_congr {owner : String} {value value' : Field → String → Run Value}
    {fs : List Field} {vs : List Value}
    (same : ∀ f ∈ fs, ∀ text, f.descriptor.defaultText = some text → value f text = value' f text) :
    fillFields owner value fs vs = fillFields owner value' fs vs := by
  induction fs generalizing vs with
  | nil => cases vs <;> rfl
  | cons f fs ih =>
    cases vs with
    | nil => rfl
    | cons v vs =>
      have later : fillFields owner value fs vs = fillFields owner value' fs vs :=
        ih fun g mem => same g (List.mem_cons_of_mem _ mem)
      cases default : f.descriptor.defaultText with
      | none => simp only [fillFields, default, later]
      | some text =>
        simp only [fillFields, default, later, same f List.mem_cons_self text default]

namespace Binder

variable {b : Binder} {l : Limits} {owner : String} {f : Field} {t : TypeId}
  {fields : List Value} {tokens : List String}

/-- Completing depends on how the composites are completed that defaults make, and on no others. -/
theorem completeWith_congr {F G : Finish}
    (same : ∀ f ∈ b.table.fields t, ∀ u fields, f.descriptor.defaultText.isSome = true →
      f.shape.element = .composite u → F u fields = G u fields) :
    b.completeWith F t fields = b.completeWith G t fields := by
  unfold completeWith
  dsimp only
  rw [fillFields_congr fun f mem text default => ?_]
  rw [readContents_congr fun u fields shape => same f mem u fields (by simp [default]) shape]

/-- **Completing by as many levels as there are types below** is completing by a chain as long. -/
theorem completeLevels_eq (acyclic : b.table.AcyclicDefaults) {levels depth : Nat}
    (enough : b.table.height t < levels) (long : b.table.height t ≤ depth) :
    b.completeLevels l levels t fields = b.completeWithin depth t fields := by
  induction levels generalizing depth t fields with
  | zero => omega
  | succ levels ih =>
    rw [completeWithin_eq, completeLevels]
    refine completeWith_congr fun f mem u fields default shape => ?_
    have lower := TypeTable.height_lt acyclic ⟨f, mem, default, shape⟩
    cases depth with
    | zero => omega
    | succ depth =>
      have below : b.completeLevels l levels u fields = b.completeWithin depth u fields :=
        ih (by omega) (by omega)
      rw [below]
      rfl

theorem completes_of_acyclic (acyclic : b.table.AcyclicDefaults) (closed : b.table.Closed)
    (chain : b.table.length ≤ l.chain) : b.Completes l := by
  intro t fields known
  have height := TypeTable.height_lt_length acyclic closed known
  exact completeLevels_eq acyclic (by omega) (b.table.height_le_fieldCount t)

end Binder

/-! ### Runs that end -/

namespace Run

variable {α β : Type}

/-- **The run ends**, with a result or with an error. -/
def Ends (x : Run α) : Prop := x.outcome ≠ .error .endless

namespace Ends

theorem pure (a : α) : (Pure.pure a : Run α).Ends := nofun

theorem tell (e : Event) : (Run.tell e).Ends := nofun

theorem fail (e : BindError) : (Run.fail e : Run α).Ends := nofun

theorem ofExcept (x : Except BindError α) : (Run.ofExcept x).Ends := Outcome.ended_ne_endless

theorem bind {x : Run α} {f : α → Run β} (first : x.Ends)
    (next : ∀ a, x.outcome = .ok a → (f a).Ends) : (x >>= f).Ends := by
  unfold Ends
  rw [outcome_bind]
  cases done : x.outcome with
  | error e =>
    rintro endless
    obtain rfl := Except.error.inj endless
    exact first done
  | ok a => exact next a done

end Ends

end Run

theorem Pass.whole_ends {p : Pass Unit} (ends : p.run.Ends) : p.whole.Ends := by
  unfold Run.Ends Pass.whole at *
  cases ended : p.run.outcome with
  | error e =>
    rintro endless
    obtain rfl := Except.error.inj endless
    exact ends ended
  | ok u => exact nofun

/-- Beyond the limits all comes to an end. -/
structure Limits.Ends (l : Limits) : Prop where
  deeper : ∀ t fields tokens, (l.deeper t fields tokens).run.Ends
  further : ∀ t signature tokens, (l.further t signature tokens).Ends
  longer : ∀ t fields, (l.longer t fields).run.Ends

/-- Limits beyond which nothing more is done. -/
def Limits.halting (nesting rounds chain : Nat) : Limits where
  nesting := nesting
  rounds := rounds
  chain := chain
  deeper _ fields _ := ⟨fields, pure 0⟩
  further _ _ _ := pure ([], 0)
  longer _ fields := ⟨fields, pure ()⟩

theorem Limits.halting_ends (nesting rounds chain : Nat) : (halting nesting rounds chain).Ends where
  deeper _ _ _ := .pure _
  further _ _ _ := .pure _
  longer _ _ := .pure _

namespace Binder

variable {b : Binder} {l : Limits} {owner : String} {f : Field} {t : TypeId}
  {fields : List Value} {tokens : List String} {text : String}

theorem schema_ends : (b.schema t).Ends := by
  unfold schema
  split
  · exact .pure _
  · split
    · exact .fail _
    · exact .tell _

section Texts

variable {finish : Finish} (finished : ∀ t fields, (finish t fields).Ends)
include finished

theorem readElement_ends {d : Descriptor} {e : Element} :
    (b.readElement finish d e text).Ends := by
  refine (Run.Ends.ofExcept _).bind fun v _ => ?_
  cases e with
  | scalar type => exact .pure _
  | composite u =>
    cases v with
    | composite fields => exact (finished u fields).bind fun _ _ => .pure _
    | _ => exact .pure _

theorem readElements_ends {d : Descriptor} {e : Element} {texts : List String} :
    (b.readElements finish d e texts).Ends := by
  induction texts with
  | nil => exact .pure _
  | cons text texts ih =>
    exact (readElement_ends finished).bind fun _ _ => ih.bind fun _ _ => .pure _

theorem readContents_ends {more : List String} :
    (b.readContents finish owner f text more).Ends := by
  unfold readContents
  split
  · exact (Run.Ends.ofExcept _).bind fun _ _ => .pure _
  · exact (readElement_ends finished).bind fun _ _ => .pure _
  · split
    · exact (Run.Ends.ofExcept _).bind fun _ _ => .pure _
    · exact (readElements_ends finished).bind fun _ _ => .pure _
  · exact .fail _
  · exact .fail _

end Texts

theorem completeWith_ends {finish : Finish} (finished : ∀ t fields, (finish t fields).Ends) :
    (b.completeWith finish t fields).run.Ends := by
  intro endless
  by_cases accepted : b.Accepts t
  · have fills := completeWith_fills finish accepted fields
    rw [endless] at fills
    obtain ⟨f, -, ⟨text, -, failed⟩ | ⟨-, -, same⟩⟩ := fills.error
    · exact ((readContents_ends finished).bind fun _ _ => .pure _) failed
    · cases same
  · unfold completeWith at endless
    cases checked : (b.schema t).outcome with
    | error e =>
      simp only [checked] at endless
      obtain rfl := Except.error.inj endless
      exact schema_ends checked
    | ok u => exact absurd (schema_ok_iff.mp checked) accepted

section Limits

variable (ends : l.Ends)
include ends

theorem completeLevels_ends {levels : Nat} : (b.completeLevels l levels t fields).run.Ends := by
  induction levels generalizing t fields with
  | zero => exact ends.longer t fields
  | succ levels ih => exact completeWith_ends fun _ _ => Pass.whole_ends ih

theorem finishLimited_ends : (b.finishLimited l t fields).Ends :=
  Pass.whole_ends (completeLevels_ends ends)

theorem constructBy_ends {inner : TypeId → List Value → List String → Pass Nat}
    (bound : ∀ t fields tokens, (inner t fields tokens).run.Ends) :
    (b.constructBy l inner t tokens).Ends := by
  refine (bound _ _ _).bind fun n _ => ?_
  split
  · exact .pure _
  · exact (finishLimited_ends ends).bind fun _ _ => .pure _

theorem compositesBy_ends {construct : TypeId → List String → Run (List Value × Nat)}
    (built : ∀ t tokens, (construct t tokens).Ends) {signature : String} {rounds : Nat} :
    (compositesBy l construct t signature rounds tokens).Ends := by
  induction rounds generalizing tokens with
  | zero => exact ends.further t signature tokens
  | succ rounds ih =>
    refine (built t tokens).bind fun r _ => ?_
    obtain ⟨fields, n⟩ := r
    dsimp only
    split
    · exact .pure _
    · split
      · exact .pure _
      · split
        · exact ih.bind fun _ _ => .pure _
        · exact .pure _

omit ends in
theorem bindFlagBy_ends {construct : TypeId → List String → Run (List Value × Nat)}
    {composites : TypeId → String → List String → Run (List Value × Nat)}
    (one : ∀ t tokens, (construct t tokens).Ends)
    (several : ∀ t signature tokens, (composites t signature tokens).Ends) :
    (bindFlagBy construct composites owner f tokens).Ends := by
  unfold bindFlagBy
  split
  · exact .pure _
  · split
    · exact .pure _
    · exact .fail _
  · refine (one _ _).bind fun r _ => ?_
    obtain ⟨fields, n⟩ := r
    dsimp only
    split
    · split
      · exact .fail _
      · exact .pure _
    · exact .pure _
  · exact .fail _
  · refine (several _ _ _).bind fun r _ => ?_
    obtain ⟨elements, n⟩ := r
    dsimp only
    split
    · exact .fail _
    · exact (Run.Ends.tell _).bind fun _ _ => .pure _
  · exact .fail _
  · exact .fail _

theorem claimBy_ends {inner : TypeId → List Value → List String → Pass Nat} {s : Selection}
    (bound : ∀ t fields tokens, (inner t fields tokens).run.Ends) :
    (b.claimBy l inner owner s tokens).Ends := by
  have built : ∀ t tokens, (b.constructBy l inner t tokens).Ends :=
    fun t tokens => constructBy_ends ends bound
  unfold claimBy
  cases s.form with
  | exact => exact bindFlagBy_ends built fun _ _ _ => compositesBy_ends ends built
  | delimited text =>
    exact (readContents_ends fun _ _ => finishLimited_ends ends).bind fun _ _ => .pure _

omit ends in
theorem scanBy_ends {claim : Selection → List String → Run Claim} {pending : List Pending}
    (claimed : ∀ s rest, (claim s rest).Ends) :
    (scanBy claim owner pending tokens).outcome ≠ .error .endless := by
  fun_induction scanBy claim owner pending tokens with
  | case1 pending => exact nofun
  | case2 pending token rest unclaimed => exact nofun
  | case3 pending token rest s selected r e broken =>
    intro endless
    obtain rfl := Except.error.inj endless
    exact claimed s rest broken
  | case4 pending token rest s selected r c done ih => exact ih

theorem bindFieldsLevels_ends {levels : Nat} :
    (b.bindFieldsLevels l levels t fields tokens).run.Ends := by
  induction levels generalizing t fields tokens with
  | zero => exact ends.deeper t fields tokens
  | succ levels ih =>
    intro endless
    rw [bindFieldsLevels] at endless
    cases checked : (b.schema t).outcome with
    | error e =>
      simp only [checked] at endless
      obtain rfl := Except.error.inj endless
      exact schema_ends checked
    | ok u =>
      simp only [checked] at endless
      cases scanned : (scanBy (b.claimBy l (b.bindFieldsLevels l levels) (b.table.recordName t))
          (b.table.recordName t) (b.table.pending t) tokens).outcome with
      | error e =>
        rw [scanned] at endless
        obtain rfl := Except.error.inj endless
        exact scanBy_ends (fun s rest => claimBy_ends ends fun t fields tokens => ih) scanned
      | ok u => simp [scanned, Except.map] at endless

/-- **Within limits all comes to an end.** -/
theorem bindAndCompleteWithin_ends :
    (b.bindAndCompleteWithin l t fields tokens).run.Ends := by
  intro endless
  unfold bindAndCompleteWithin bindFieldsWithin at endless
  dsimp only at endless
  cases bound : (b.bindFieldsLevels l l.nesting t fields tokens).run.outcome with
  | error e =>
    simp only [bound, Except.error.injEq] at endless
    exact bindFieldsLevels_ends ends (bound.trans (congrArg _ endless))
  | ok n =>
    simp only [bound] at endless
    cases completed : (b.completeLevels l l.chain t
        (b.bindFieldsLevels l l.nesting t fields tokens).fields).run.outcome with
    | error e =>
      rw [completed] at endless
      obtain rfl := Except.error.inj endless
      exact completeLevels_ends ends completed
    | ok u => simp [completed, Except.map] at endless

end Limits

/-! ### Binding terminates -/

section Acyclic

variable {args : List String} {start : Nat}
  (acyclic : b.table.AcyclicDefaults) (closed : b.table.Closed) (known : t < b.table.length)
include acyclic closed known

theorem bindAndCompleteWithin_eq_of_acyclic (nesting : tokens.length + 1 ≤ l.nesting)
    (rounds : tokens.length < 2 * l.rounds) (chain : b.table.length ≤ l.chain) :
    b.bindAndCompleteWithin l t fields tokens = b.bindAndComplete t fields tokens :=
  bindAndCompleteWithin_eq closed (completes_of_acyclic acyclic closed chain) known nesting rounds

theorem parseArgumentWithin_eq (nesting : (args.drop start).length + 1 ≤ l.nesting)
    (rounds : (args.drop start).length < 2 * l.rounds) (chain : b.table.length ≤ l.chain) :
    b.parseArgumentWithin l t fields args start = b.parseArgument t fields args start := by
  unfold parseArgumentWithin parseArgument
  cases b.table.root? t with
  | none => rfl
  | some root =>
    cases remaining : args.drop start with
    | nil => rfl
    | cons token rest =>
      rw [remaining, List.length_cons] at nesting rounds
      dsimp only
      rw [bindAndCompleteWithin_eq_of_acyclic acyclic closed known (by omega) (by omega) chain]

theorem bindAndComplete_ends : (b.bindAndComplete t fields tokens).run.Ends := by
  rw [← bindAndCompleteWithin_eq_of_acyclic acyclic closed known
    (l := .halting (tokens.length + 1) (tokens.length + 1) b.table.length) (Nat.le_refl _)
    (show tokens.length < 2 * (tokens.length + 1) by omega) (Nat.le_refl _)]
  exact bindAndCompleteWithin_ends (Limits.halting_ends _ _ _)

theorem parseArgument_ends :
    (b.parseArgument t fields args start).outcome ≠ .error .endless := by
  unfold parseArgument
  split
  · next root token rest _ _ =>
    split
    · unfold settle withRoot
      split
      · exact bindAndComplete_ends acyclic closed known
      · exact nofun
    · exact nofun
  · exact nofun

/-- **Binding terminates**, if no defaults lead from a type back to itself: it goes no further than
the limits, whatever happens beyond them, if matching may be nested once more than there are tokens
from `start` on, repeatable options may go through as many rounds as there are pairs of those
tokens, and chains of defaults may be as long as there are types. A round that is followed by
another one leaves less tokens to it; and no default comes to be met in the course of its own
completing. -/
theorem bind_terminates (fields : List Value) (nesting : (args.drop start).length + 1 ≤ l.nesting)
    (rounds : (args.drop start).length < 2 * l.rounds) (chain : b.table.length ≤ l.chain) :
    (b.bindWithin l t args start = b.bind t args start ∧
      b.bindIntoWithin l t fields args start = b.bindInto t fields args start ∧
      b.parseArgumentWithin l t fields args start = b.parseArgument t fields args start) ∧
    ((b.bind t args start).outcome ≠ .error .endless ∧
      (b.bindInto t fields args start).outcome ≠ .error .endless ∧
      (b.parseArgument t fields args start).outcome ≠ .error .endless) ∧
    ∀ u signature tokens more, b.Round u signature tokens more →
      more.length + 2 ≤ tokens.length := by
  have into : ∀ fields, b.bindIntoWithin l t fields args start = b.bindInto t fields args start :=
    fun fields => congrArg b.settle
      (bindAndCompleteWithin_eq_of_acyclic acyclic closed known nesting rounds chain)
  refine ⟨⟨into _, into fields, ?_⟩, ⟨?_, ?_, ?_⟩, fun u signature tokens more => Round.length_le⟩
  · exact parseArgumentWithin_eq acyclic closed known nesting rounds chain
  · exact bindAndComplete_ends acyclic closed known
  · exact bindAndComplete_ends acyclic closed known
  · exact parseArgument_ends acyclic closed known

end Acyclic

/-- The parser of leaves that may carry trees: the text is the leaf's name. -/
def graftParser : TextParser where
  output := .single (.composite 1)
  run _ text := .ok (.composite [.scalar (.text text), .unset])

/-- A binder for trees, which hold trees and, by default, a leaf; a tree may be grafted onto a
leaf. -/
def graftBinder : Binder where
  table :=
    [{ fullName := "Tree", shortName := "Tree",
       fields :=
        [{ descriptor := { name := "name" }, shape := .single (.scalar .text) },
         { descriptor := { name := "bough" }, shape := .collection .vector (.composite 0) },
         { descriptor := { name := "leaf", defaultText := some "a" },
           shape := .single (.composite 1) }] },
     { fullName := "Leaf", shortName := "Leaf",
       fields :=
        [{ descriptor := { name := "name" }, shape := .single (.scalar .text) },
         { descriptor := { name := "graft" }, shape := .single (.composite 0) }] }]
  registry := { byType := [ScalarType.text.parser, graftParser] }

theorem graftBinder_defaultsTo {t u : TypeId} (h : graftBinder.table.DefaultsTo t u) :
    t = 0 ∧ u = 1 := by
  obtain ⟨f, mem, default, shape⟩ := h
  match t with
  | 0 =>
    have leaf : ∀ f ∈ graftBinder.table.fields 0, f.descriptor.defaultText.isSome = true →
        f.shape.element = .composite 1 := by decide
    exact ⟨rfl, Element.composite.inj (shape.symm.trans (leaf f mem default))⟩
  | 1 =>
    have none : ∀ f ∈ graftBinder.table.fields 1, f.descriptor.defaultText.isSome = false := by
      decide
    cases (none f mem).symm.trans default
  | t + 2 => cases mem

theorem graftBinder_acyclic : graftBinder.table.AcyclicDefaults := by
  intro t cycle
  obtain ⟨u, first, -⟩ := Relation.TransGen.head'_iff.mp cycle
  obtain ⟨w, -, last⟩ := Relation.TransGen.tail'_iff.mp cycle
  cases (graftBinder_defaultsTo first).1.symm.trans (graftBinder_defaultsTo last).2

theorem graftBinder_closed : graftBinder.table.Closed :=
  TypeTable.closed_of_heldTypes (by decide)

/-- The tokens of two boughs, one of them on the other. -/
def boughs : List String := ["-bough", "-bough", "-name=a", "-name=b"]

/-- Trees nest themselves, and so do trees and leaves, but only trees have leaves by default: five
matchings nested in each other, three rounds and chains of two types are as good as no limits. -/
theorem bind_terminates_graft :
    graftBinder.bindWithin (.halting 5 3 2) 0 boughs 0 = graftBinder.bind 0 boughs 0 ∧
      graftBinder.bindIntoWithin (.halting 5 3 2) 0 [] boughs 0 =
        graftBinder.bindInto 0 [] boughs 0 ∧
      graftBinder.parseArgumentWithin (.halting 5 3 2) 0 [] boughs 0 =
        graftBinder.parseArgument 0 [] boughs 0 :=
  (bind_terminates graftBinder_acyclic graftBinder_closed (by decide) [] (by decide) (by decide)
    (by decide)).1

end Binder

end OptionBinding
