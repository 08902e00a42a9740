import OptionBinding.Proofs.Provenance
import OptionBinding.Proofs.Segments
import OptionBinding.Regex.Standard

/-!
# Collections that come from one text

A parser for a whole collection makes all of its elements of one text, the text of a token or a
default. The elements of other collections are completed one by one before they are stored. Those of
a whole collection are not: the field holds what its parser made, as it stands, and if its default
is an empty collection the field stays empty although it may be required (`CollectionAs`). This is
so where tokens are bound (`Binds.collectionBound`), with the text of a token or the default as the
source (`tokenSources`), and wherever else a composite is completed
(`completeWithin_collectionAs`), with the default as the source (`defaultSources`).

So the elements of whole collections are settled, and required collections have elements, if and
only if the parsers see to it (`bind_collections`). They need not (`bind_collections_lax`).
-/

namespace OptionBinding

theorem Value.composites_of_empty {v : Value} (empty : v.isEmpty = true) : v.composites = [] := by
  cases v with
  | unset => rfl
  | scalar | composite => simp [isEmpty] at empty
  | items elements =>
    obtain rfl : elements = [] := by simpa [isEmpty] using empty
    rfl

/-- **Where the collections of a composite come from**: the texts of which parsers make whole
collections for its fields, and the fields that hold nothing when the defaults are applied. -/
structure CollectionSources where
  whole : Pending → Container → Element → String → Prop
  bare : Pending → Prop

variable {b : Binder} {t : TypeId} {tokens : List String}

namespace Binder

/-- **The texts from which a field takes a whole collection**: the text of the token that selects
it, if its parser makes elements of it, or its default text, if the tokens give the field no
element. -/
inductive WholeFrom (b : Binder) (t : TypeId) (tokens : List String) (p : Pending) (c : Container)
    (e : Element) : String → Prop
  | token {s : Selection} {rest : List String} {claim : Claim} {text : String} {v : Value}
      (taken : b.Takes (b.table.recordName t) (b.table.pending t) tokens s rest claim)
      (chosen : s.chosen = p) (form : s.form = .delimited text)
      (resolves : b.registry.canParse p.field.descriptor (.collection c e) = true)
      (update : claim.update = some v) (given : v.isEmpty = false) : WholeFrom b t tokens p c e text
  | default {text : String} (bare : ∀ v, b.Gives t tokens p v → v.isEmpty = true)
      (default : p.field.descriptor.defaultText = some text)
      (resolves : b.registry.canParse p.field.descriptor (.collection c e) = true) :
      WholeFrom b t tokens p c e text

/-- The sources of a composite that is bound to tokens. -/
def tokenSources (b : Binder) (t : TypeId) (tokens : List String) : CollectionSources where
  whole := b.WholeFrom t tokens
  bare p := ∀ v, b.Gives t tokens p v → v.isEmpty = true

/-- The sources of a composite that is completed: the defaults of the fields that are empty before
it is. -/
def defaultSources (b : Binder) (before : List Value) : CollectionSources where
  whole p c e text := (Value.fieldAt before p.index).isEmpty = true ∧
    p.field.descriptor.defaultText = some text ∧
    b.registry.canParse p.field.descriptor (.collection c e) = true
  bare p := (Value.fieldAt before p.index).isEmpty = true

/-- **What a collection field holds**, by its sources. -/
structure CollectionAs (b : Binder) (sources : CollectionSources) (p : Pending) (c : Container)
    (e : Element) (v : Value) : Prop where
  /-- A whole collection is held as its parser made it. -/
  whole : ∀ text, sources.whole p c e text →
    b.registry.parse b.table p.field.descriptor (.collection c e) text = .ok v
  /-- A required collection is empty only by its default. -/
  empty : p.field.descriptor.required = true →
    (v.isEmpty = true ↔ sources.bare p ∧ b.DefaultsToNothing p.field)

/-- **What a collection field holds after binding.** -/
structure CollectionBound (b : Binder) (t : TypeId) (tokens : List String) (p : Pending)
    (c : Container) (e : Element) (v : Value) : Prop
    extends b.CollectionAs (b.tokenSources t tokens) p c e v where
  /-- The composites of any collection that is not a whole one have been completed. -/
  single : (∀ text, ¬ b.WholeFrom t tokens p c e text) → v.CompletedAs b e

/-- Where a parser for the whole collection resolves, the contents are what it makes of the text. -/
theorem Reads.parse_of_resolves {finish : Finish} {f : Field} {text : String} {more : List String}
    {v : Value} {n : Nat} {c : Container} {e : Element} (h : b.Reads finish f text more (v, n))
    (shape : f.shape = .collection c e)
    (resolves : b.registry.canParse f.descriptor (.collection c e) = true) :
    b.registry.parse b.table f.descriptor (.collection c e) text = .ok v := by
  cases h with
  | flag shape' | single shape' => simp [shape] at shape'
  | whole shape' resolves' parsed =>
    rw [shape] at shape'
    obtain ⟨rfl, rfl⟩ := FieldShape.collection.inj shape'
    exact parsed
  | elements shape' unresolved read =>
    rw [shape] at shape'
    obtain ⟨rfl, rfl⟩ := FieldShape.collection.inj shape'
    simp [resolves] at unresolved

variable {p : Pending} {c : Container} {e : Element} {v w : Value} {text : String}

/-! ### Collections after completing -/

/-- A collection that is filled is held as it was, or as its default text makes it. -/
theorem collectionAs_of_filled {before : List Value} {owner : String} {finish : Finish}
    (typed : b.registry.Typed b.table) (finishes : b.FinishSound finish)
    (shape : p.field.shape = .collection c e)
    (h : FilledAs (b.valueOf finish owner) p.field (Value.fieldAt before p.index) v) :
    b.CollectionAs (b.defaultSources before) p c e v := by
  generalize held : Value.fieldAt before p.index = w at h
  cases h with
  | given given =>
    refine ⟨?_, fun _ => ⟨fun empty => ?_, ?_⟩⟩
    · rintro text ⟨empty, -, -⟩
      simp [held, given] at empty
    · simp [given] at empty
    · rintro ⟨empty, -⟩
      exact held ▸ empty
  | made empty default made =>
    obtain ⟨k, read⟩ := valueOf_ok_iff.mp made
    have bare : (Value.fieldAt before p.index).isEmpty = true := held ▸ empty
    refine ⟨?_, fun _ => ⟨fun nothing => ⟨bare, ?_⟩, ?_⟩⟩
    · rintro text' ⟨-, default', resolves⟩
      obtain rfl : _ = text' := Option.some.inj (default.symm.trans default')
      exact read.parse_of_resolves shape resolves
    · rcases read.completed typed finishes with ⟨given, -⟩ | ⟨c', e', shape', resolves, parsed⟩
      · simp [nothing] at given
      · exact ⟨c', e', _, v, shape', default, resolves, parsed, nothing⟩
    · rintro ⟨-, c', e', text', v', shape', default', resolves, parsed, nothing⟩
      obtain rfl : _ = text' := Option.some.inj (default.symm.trans default')
      obtain rfl : v = v' :=
        Except.ok.inj ((read.parse_of_resolves shape' resolves).symm.trans parsed)
      exact nothing
  | left empty undefaulted optional =>
    refine ⟨?_, fun required => by simp [optional] at required⟩
    rintro text ⟨-, default, -⟩
    simp [undefaulted] at default

/-- **A collection field of a composite that has been completed.** -/
theorem completeWithin_collectionAs (typed : b.registry.Typed b.table) {depth : Nat}
    {before : List Value} (length_eq : before.length = (b.table.fields t).length)
    (ended : (b.completeWithin depth t before).run.outcome = .ok ())
    (field : (b.table.fields t)[p.index]? = some p.field)
    (shape : p.field.shape = .collection c e) :
    b.CollectionAs (b.defaultSources before) p c e
      (Value.fieldAt (b.completeWithin depth t before).fields p.index) := by
  rw [completeWithin_eq] at ended ⊢
  by_cases accepted : b.Accepts t
  · have fills := completeWith_fills (b.finishWithin depth) accepted before
    rw [ended] at fills
    have bound : p.index < before.length := by
      rw [length_eq]
      exact (List.getElem?_eq_some_iff.mp field).1
    obtain ⟨v, after, filled⟩ := fills.filledAs field (List.getElem?_eq_getElem bound)
    have held : Value.fieldAt before p.index = before[p.index] := by
      simp [Value.fieldAt, bound]
    rw [← held] at filled
    simp only [Value.fieldAt, after, Option.getD_some]
    exact collectionAs_of_filled typed (finishWithin_sound typed depth) shape filled
  · exact absurd ended (completeWith_of_not _ accepted before).2

/-! ### What the tokens give -/

section Giving

variable {segments : List Segment}

theorem FindsFor.eq_of_gives (found : b.FindsFor t tokens segments)
    (held : (Segment.applyAll (b.table.fresh t) segments)[p.index]? = some w)
    (given : b.Gives t tokens p v) : v = w := by
  rw [found.contents_of_gives given] at held
  exact Option.some.inj held

/-- A collection that holds an element after the scan has got it from the tokens. -/
theorem FindsFor.gives_of_not_empty (found : b.FindsFor t tokens segments)
    (field : (b.table.fields t)[p.index]? = some p.field) (shape : p.field.shape = .collection c e)
    (held : (Segment.applyAll (b.table.fresh t) segments)[p.index]? = some w)
    (given : w.isEmpty = false) : b.Gives t tokens p w := by
  by_cases gives : ∃ v, b.Gives t tokens p v
  · obtain ⟨v, gives⟩ := gives
    rwa [found.eq_of_gives held gives] at gives
  · rw [found.contents_of_not field (not_exists.mp gives), Option.some.injEq, shape] at held
    simp [← held, FieldShape.fresh, Value.isEmpty] at given

/-- The collections that are empty after the scan are those to which the tokens give no element. -/
theorem FindsFor.bare_iff (found : b.FindsFor t tokens segments)
    (field : (b.table.fields t)[p.index]? = some p.field) (shape : p.field.shape = .collection c e)
    (held : (Segment.applyAll (b.table.fresh t) segments)[p.index]? = some w) :
    (∀ v, b.Gives t tokens p v → v.isEmpty = true) ↔ w.isEmpty = true := by
  constructor
  · intro bare
    cases given : w.isEmpty with
    | true => rfl
    | false =>
      have gives := found.gives_of_not_empty field shape held given
      exact given.symm.trans (bare w gives)
  · intro empty v gives
    rw [found.eq_of_gives held gives]
    exact empty

/-- What a token gives a whole collection is what its parser made. -/
theorem parse_of_takes {s : Selection} {rest : List String} {claim : Claim} {owner : String}
    {pending : List Pending} (taken : b.Takes owner pending tokens s rest claim)
    (form : s.form = .delimited text) (shape : s.chosen.field.shape = .collection c e)
    (resolves : b.registry.canParse s.chosen.field.descriptor (.collection c e) = true)
    (update : claim.update = some v) :
    b.registry.parse b.table s.chosen.field.descriptor (.collection c e) text = .ok v := by
  obtain ⟨v', n, read, rfl⟩ := (claim_delimited_iff form).mp taken.claimed
  obtain rfl : v' = v := by simpa using update
  exact read.parse_of_resolves shape resolves

/-- What the tokens give a collection has been completed, unless it is a whole collection. -/
theorem completed_of_gives (typed : b.registry.Typed b.table)
    (shape : p.field.shape = .collection c e) (given : b.Gives t tokens p v)
    (elements : v.isEmpty = false) (single : ∀ text, ¬ b.WholeFrom t tokens p c e text) :
    v.CompletedAs b e := by
  obtain ⟨s, rest, claim, taken, rfl, update⟩ := given
  cases form : s.form with
  | exact =>
    have claimed := (claim_exact_iff form).mp taken.claimed
    have completed := completedBelow typed _ _ _ _ _ (Nat.lt_succ_self _) claimed update
    rwa [shape] at completed
  | delimited text =>
    obtain ⟨v', n, read, rfl⟩ := (claim_delimited_iff form).mp taken.claimed
    obtain rfl : v' = v := by simpa using update
    rcases read.completed typed (finish_sound typed) with
      ⟨-, completed⟩ | ⟨c', e', shape', resolves, parsed⟩
    · rwa [shape] at completed
    · rw [shape] at shape'
      obtain ⟨rfl, rfl⟩ := FieldShape.collection.inj shape'
      exact absurd (.token taken rfl form resolves rfl elements) (single text)

end Giving

/-! ### Collections after binding -/

/-- **A collection field after binding.** -/
theorem Binds.collectionBound (typed : b.registry.Typed b.table) {fields : List Value} {n : Nat}
    (h : b.Binds t (b.table.fresh t) tokens (fields, n))
    (field : (b.table.fields t)[p.index]? = some p.field)
    (shape : p.field.shape = .collection c e) :
    b.CollectionBound t tokens p c e (Value.fieldAt fields p.index) := by
  cases h with
  | @intro segments accepted found completed =>
  have fills := complete_fills accepted (Segment.applyAll (b.table.fresh t) segments)
  rw [completed] at fills
  obtain ⟨w, before⟩ : ∃ w, (Segment.applyAll (b.table.fresh t) segments)[p.index]? = some w := by
    have bound : p.index < (b.table.fields t).length := (List.getElem?_eq_some_iff.mp field).1
    exact ⟨_, List.getElem?_eq_getElem (by simpa [TypeTable.fresh] using bound)⟩
  obtain ⟨v, after, filled⟩ := fills.filledAs field before
  simp only [Value.fieldAt, after, Option.getD_some]
  have held : Value.fieldAt (Segment.applyAll (b.table.fresh t) segments) p.index = w := by
    simp [Value.fieldAt, before]
  have bare : (∀ v, b.Gives t tokens p v → v.isEmpty = true) ↔
      (Value.fieldAt (Segment.applyAll (b.table.fresh t) segments) p.index).isEmpty = true := by
    rw [held]
    exact found.bare_iff field shape before
  have finishes := finishWithin_sound typed b.table.fieldCount
  have completedAs := collectionAs_of_filled typed finishes shape (held ▸ filled)
  refine ⟨⟨?_, fun required => ?_⟩, fun single => ?_⟩
  · rintro text (⟨taken, rfl, form, resolves, update, given⟩ | ⟨nothing, default, resolves⟩)
    · obtain rfl := found.eq_of_gives before ⟨_, _, _, taken, rfl, update⟩
      have parsed := parse_of_takes taken form shape resolves update
      cases filled with
      | given => exact parsed
      | made empty | left empty => simp [given] at empty
    · exact completedAs.whole text ⟨bare.mp nothing, default, resolves⟩
  · rw [completedAs.empty required]
    exact and_congr_left fun _ => bare.symm
  · cases filled with
    | given given =>
      exact completed_of_gives typed shape (found.gives_of_not_empty field shape before given) given
        single
    | made empty default made =>
      obtain ⟨k, read⟩ := valueOf_ok_iff.mp made
      rcases read.completed typed finishes with ⟨-, completed⟩ | ⟨c', e', shape', resolves, -⟩
      · rwa [shape] at completed
      · obtain ⟨rfl, rfl⟩ := FieldShape.collection.inj (shape.symm.trans shape')
        exact absurd (.default (bare.mpr (held ▸ empty)) default resolves) (single _)
    | left empty =>
      intro u element us mem
      simp [Value.composites_of_empty empty] at mem

/-- A composite that is constructed from tokens is bound like a configuration. -/
theorem binds_of_construct {fields : List Value} {n : Nat}
    (h : (b.construct t tokens).outcome = .ok (fields, n)) (taken : n ≠ 0) :
    b.Binds t (b.table.fresh t) tokens (fields, n) := by
  cases construct_ok_iff.mp h with
  | nothing => exact absurd rfl taken
  | completed accepted found taken finished =>
    obtain ⟨ended, rfl⟩ := finish_ok_iff.mp finished
    exact .intro accepted found ended

/-! ### What parsers have to see to -/

/-- The composites of the whole collections among the fields are settled, and no required
collection is empty. -/
def WholeSettled (b : Binder) (t : TypeId) (sources : CollectionSources) (fields : List Value) :
    Prop :=
  ∀ (p : Pending) (c : Container) (e : Element), (b.table.fields t)[p.index]? = some p.field →
    p.field.shape = .collection c e →
      (∀ text, sources.whole p c e text → ∀ u, e = .composite u →
        ∀ us ∈ (Value.fieldAt fields p.index).composites, Composite.Settled b.table ⟨u, us⟩) ∧
      (p.field.descriptor.required = true → (Value.fieldAt fields p.index).isEmpty = false)

/-- The parsers of whole collections make settled composites, and something of the default of a
required collection that holds nothing else. -/
def ParsersSettle (b : Binder) (t : TypeId) (sources : CollectionSources) : Prop :=
  ∀ (p : Pending) (c : Container) (e : Element), (b.table.fields t)[p.index]? = some p.field →
    p.field.shape = .collection c e →
      (∀ text v, sources.whole p c e text →
        b.registry.parse b.table p.field.descriptor (.collection c e) text = .ok v →
          ∀ u, e = .composite u → ∀ us ∈ v.composites, Composite.Settled b.table ⟨u, us⟩) ∧
      (p.field.descriptor.required = true → sources.bare p → ¬ b.DefaultsToNothing p.field)

theorem wholeSettled_iff {sources : CollectionSources} {fields : List Value}
    (as : ∀ (p : Pending) (c : Container) (e : Element),
      (b.table.fields t)[p.index]? = some p.field → p.field.shape = .collection c e →
        b.CollectionAs sources p c e (Value.fieldAt fields p.index)) :
    b.WholeSettled t sources fields ↔ b.ParsersSettle t sources := by
  constructor
  · intro settled p c e field shape
    have as := as p c e field shape
    obtain ⟨whole, required⟩ := settled p c e field shape
    refine ⟨fun text v takes parsed => ?_, fun must bare nothing => ?_⟩
    · obtain rfl := Except.ok.inj ((as.whole text takes).symm.trans parsed)
      exact whole text takes
    · have empty := (as.empty must).mpr ⟨bare, nothing⟩
      simp [required must] at empty
  · intro settle p c e field shape
    have as := as p c e field shape
    obtain ⟨whole, required⟩ := settle p c e field shape
    refine ⟨fun text takes => whole text _ takes (as.whole text takes), fun must => ?_⟩
    rw [Bool.eq_false_iff]
    intro empty
    obtain ⟨bare, nothing⟩ := (as.empty must).mp empty
    exact required must bare nothing

theorem Binds.wholeSettled_iff (typed : b.registry.Typed b.table) {fields : List Value} {n : Nat}
    (h : b.Binds t (b.table.fresh t) tokens (fields, n)) :
    b.WholeSettled t (b.tokenSources t tokens) fields ↔
      b.ParsersSettle t (b.tokenSources t tokens) :=
  Binder.wholeSettled_iff fun _ _ _ field shape =>
    (h.collectionBound typed field shape).toCollectionAs

/-- **Binding vouches for whole collections as far as their parsers do.** After binding that
succeeds every collection field is as its text or its elements make it. The composites of whole
collections are settled, and required collections have elements, if and only if the parsers see to
it: in the configuration, in every composite that a bare flag makes, and in every composite that is
completed after it was made of a text. Every composite in the configuration has been completed, or a
parser made it as it stands. -/
theorem bind_collections (typed : b.registry.Typed b.table) {args : List String} {start n : Nat}
    (h : (b.bind t args start).outcome = .ok n) :
    (∀ (p : Pending) (c : Container) (e : Element), (b.table.fields t)[p.index]? = some p.field →
        p.field.shape = .collection c e → b.CollectionBound t (args.drop start) p c e
          (Value.fieldAt (b.bind t args start).fields p.index)) ∧
      (b.WholeSettled t (b.tokenSources t (args.drop start)) (b.bind t args start).fields ↔
        b.ParsersSettle t (b.tokenSources t (args.drop start))) ∧
      (∀ (u : TypeId) (tokens : List String) (fields : List Value) (k : Nat),
        (b.construct u tokens).outcome = .ok (fields, k) → k ≠ 0 →
          (b.WholeSettled u (b.tokenSources u tokens) fields ↔
            b.ParsersSettle u (b.tokenSources u tokens))) ∧
      (∀ (u : TypeId) (depth : Nat) (before : List Value),
        before.length = (b.table.fields u).length →
          (b.completeWithin depth u before).run.outcome = .ok () →
            (b.WholeSettled u (b.defaultSources before) (b.completeWithin depth u before).fields ↔
              b.ParsersSettle u (b.defaultSources before))) ∧
      ∀ y : Composite,
        Relation.ReflTransGen (Composite.Holds b.table) ⟨t, (b.bind t args start).fields⟩ y →
          y.Completed b ∨ y.Made b := by
  have bound : b.Binds t (b.table.fresh t) (args.drop start) ((b.bind t args start).fields, n) :=
    (bind_ok_iff args start).mp ⟨h, rfl⟩
  refine ⟨fun p c e => bound.collectionBound typed, bound.wholeSettled_iff typed, ?_, ?_, ?_⟩
  · intro u tokens fields k built taken
    exact (binds_of_construct built taken).wholeSettled_iff typed
  · intro u depth before length_eq ended
    exact wholeSettled_iff fun p c e => completeWithin_collectionAs typed length_eq ended
  · obtain ⟨kept, completed⟩ :=
      bindAndComplete_sound typed (Composite.kept_fresh b t) (args.drop start)
    exact kept.sound_of_completed (completed n h)

/-! ### Parsers that do not see to it -/

/-- Each letter of a text, commas aside, names an entry, which gets no mark. -/
def entriesParser : TextParser where
  output := .collection .vector (.composite 1)
  run _ text := .ok (.items ((text.toList.filter (· != ',')).map fun name =>
    .composite [.scalar (.char name), .unset]))

/-- A binder for entries with a name and a mark that has a default. -/
def entriesBinder : Binder where
  table :=
    [{ fullName := "Entries", shortName := "Entries",
       fields :=
        [{ descriptor := { name := "item" }, shape := .collection .vector (.composite 1) }] },
     { fullName := "Entry", shortName := "Entry",
       fields :=
        [{ descriptor := { name := "name" }, shape := .single (.scalar .char) },
         { descriptor := { name := "mark", defaultText := some "d" },
           shape := .single (.scalar .text) }] }]
  registry := { byType := [entriesParser, ScalarType.char.parser, ScalarType.text.parser] }

theorem entriesBinder_typed : entriesBinder.registry.Typed entriesBinder.table := by
  intro p mem
  have cases : p = entriesParser ∨ p = ScalarType.char.parser ∨ p = ScalarType.text.parser := by
    simpa [Registry.parsers, entriesBinder] using mem
  rcases cases with rfl | rfl | rfl
  · rintro option text v ⟨rfl⟩
    refine ⟨_, rfl, fun x mem => ?_⟩
    obtain ⟨name, -, rfl⟩ := List.mem_map.mp mem
    exact ⟨_, rfl, rfl⟩
  · exact Registry.typed_scalarParser _
  · exact Registry.typed_scalarParser _

/-- Two entries without marks. -/
def bareEntries : Value :=
  .items [.composite [.scalar (.char 'a'), .unset], .composite [.scalar (.char 'b'), .unset]]

/-- The selection of the items by their text. -/
def itemSelection : Selection :=
  ⟨⟨0, { descriptor := { name := "item" }, shape := .collection .vector (.composite 1) }⟩,
    .delimited "a,b", []⟩

theorem select_item : select "-item=a,b" (entriesBinder.table.pending 0) = some itemSelection := by
  decide +kernel

theorem claim_item :
    (entriesBinder.claim "Entries" itemSelection []).outcome = .ok ⟨some bareEntries, 0⟩ := by
  have letters : "a,b".toList.filter (· != ',') = ['a', 'b'] := by decide +kernel
  have made : entriesParser.run "item" "a,b" = .ok bareEntries := by
    simp only [entriesParser, letters]
    rfl
  exact (claim_delimited_iff rfl).mpr ⟨_, _, .whole rfl rfl
    (Registry.parse_ok_iff.mpr ⟨entriesParser, rfl, made⟩), rfl⟩

theorem wholeFrom_item : entriesBinder.WholeFrom 0 ["-item=a,b"] itemSelection.chosen .vector
    (.composite 1) "a,b" :=
  .token (.here select_item claim_item) rfl rfl rfl rfl rfl

theorem bind_items : (entriesBinder.bind 0 ["-item=a,b"] 0).outcome = .ok 1 ∧
    (entriesBinder.bind 0 ["-item=a,b"] 0).fields = [bareEntries] := by
  have found : entriesBinder.FindsFor 0 ["-item=a,b"] [⟨0, 1, some bareEntries⟩] :=
    .take select_item claim_item (.stop (by simp))
  have binds : entriesBinder.Binds 0 (entriesBinder.table.fresh 0) ["-item=a,b"]
      ([bareEntries], 1) := .intro (.inr rfl) found rfl
  exact (bind_ok_iff ["-item=a,b"] 0).mpr binds

/-- The entries are held as their parser made them. -/
theorem bind_collections_items :
    (entriesBinder.bind 0 ["-item=a,b"] 0).outcome = .ok 1 ∧
      entriesBinder.registry.parse entriesBinder.table { name := "item" }
          (.collection .vector (.composite 1)) "a,b" =
        .ok (Value.fieldAt (entriesBinder.bind 0 ["-item=a,b"] 0).fields 0) :=
  have collections := bind_collections entriesBinder_typed bind_items.1
  ⟨bind_items.1, (collections.1 itemSelection.chosen _ _ rfl rfl).whole "a,b" wholeFrom_item⟩

/-- **Binding does not complete the elements of a whole collection.** It succeeds, and the first
entry has no mark, although marks have a default. -/
theorem bind_collections_lax :
    entriesBinder.registry.Typed entriesBinder.table ∧
      (entriesBinder.bind 0 ["-item=a,b"] 0).outcome = .ok 1 ∧
      entriesBinder.WholeFrom 0 ["-item=a,b"] itemSelection.chosen .vector (.composite 1) "a,b" ∧
      Value.fieldAt (entriesBinder.bind 0 ["-item=a,b"] 0).fields 0 = bareEntries ∧
      [.scalar (.char 'a'), .unset] ∈ bareEntries.composites ∧
      ¬ Composite.Settled entriesBinder.table ⟨1, [.scalar (.char 'a'), .unset]⟩ := by
  refine ⟨entriesBinder_typed, bind_items.1, wholeFrom_item, ?_, ?_, fun settled => ?_⟩
  · rw [bind_items.2]
    rfl
  · simp [bareEntries]
  · have mark := settled 1 (entriesBinder.table.fields 1)[1] rfl (.inr rfl)
    simp [Value.fieldAt, Value.isEmpty] at mark

end Binder

end OptionBinding
