import OptionBinding.Proofs.DefaultsPass
import OptionBinding.Proofs.ErrorCauses
import OptionBinding.Proofs.WholeCollections

/-!
# Values that are given and defaults

Nothing records which options a command line gives: the pass that applies the defaults goes by
whether a field is empty. So it leaves alone what a token gives, unless this is empty, which only a
parser for the whole collection can make it (`Reads.isEmpty_iff`). An empty collection counts as no
value. It gives way to a default that makes something else, and is missing where the option is
required (`GivesWay`), if the pass comes to its field (`complete_keeps_iff`). In all other cases the
field holds after the call what the token gave it (`bind_keeps_given`).
-/

namespace OptionBinding

namespace Binder

variable {b : Binder} {t : TypeId} {f : Field} {v v' : Value} {owner text : String}
  {e : NoResult BindError}

/-- **Contents that give way**: nothing is held, and the default of the field makes something else,
or there has to be something and there is no default. -/
structure GivesWay (b : Binder) (f : Field) (v : Value) : Prop where
  empty : v.isEmpty = true
  cause : (∃ text, f.descriptor.defaultText = some text ∧ ¬ b.DefaultMakes f text v) ∨
    f.descriptor.mustBeGiven = true

/-- **The pass comes to a field**: it does not fail at an earlier one. -/
def ComesTo (b : Binder) (t : TypeId) (fields : List Value) (i : Nat) : Prop :=
  ∀ k e, b.StopsAt t fields k e → i ≤ k

/-- **What fails after matching**: the pass over the fields, at a place. -/
structure FailsAfter (b : Binder) (t : TypeId) (fields : List Value) (tokens : List String)
    (k : Nat) (e : NoResult BindError) : Prop where
  matched : ∃ n, (b.bindFields t fields tokens).run.outcome = .ok n
  stops : b.StopsAt t (b.bindFields t fields tokens).fields k e

/-- **A value that a token gave and a default displaces**, or that does not do for a required
option: matching succeeds, and the pass after it comes to the field. -/
structure Displaced (b : Binder) (t : TypeId) (fields : List Value) (tokens : List String)
    (p : Pending) (v : Value) : Prop where
  matched : ∃ n, (b.bindFields t fields tokens).run.outcome = .ok n
  comes : b.ComesTo t (b.bindFields t fields tokens).fields p.index
  givesWay : b.GivesWay p.field v

theorem FallsShort.givesWay (h : b.FallsShort owner f v e) : b.GivesWay f v := by
  cases h with
  | missing empty undefaulted required =>
    exact ⟨empty, .inr (by simp [Descriptor.mustBeGiven, undefaulted, required])⟩
  | unmade empty default unmade failed => exact ⟨empty, .inl ⟨_, default, unmade v⟩⟩

theorem bindAndComplete_of_error {fields : List Value} {tokens : List String}
    (failed : (b.bindFields t fields tokens).run.outcome = .error e) :
    b.bindAndComplete t fields tokens = b.bindFields t fields tokens := by
  unfold bindAndComplete
  simp only [failed]

theorem bindAndComplete_fields {fields : List Value} {tokens : List String} {n : Nat}
    (matched : (b.bindFields t fields tokens).run.outcome = .ok n) :
    (b.bindAndComplete t fields tokens).fields =
      (b.complete t (b.bindFields t fields tokens).fields).fields := by
  unfold bindAndComplete
  simp only [matched]

section Typed

variable (typed : b.registry.Typed b.table)
include typed

/-- **What a text makes of a field is empty** only as a whole collection without elements. -/
theorem Reads.isEmpty_iff {more : List String} {n : Nat}
    (h : b.Reads b.finish f text more (v, n)) :
    v.isEmpty = true ↔ ∃ c element, f.shape = .collection c element ∧
      b.registry.canParse f.descriptor (.collection c element) = true ∧
      b.registry.parse b.table f.descriptor (.collection c element) text = .ok (.items []) := by
  constructor
  · intro empty
    rcases h.completed typed (finish_sound typed) with ⟨given, -⟩ |
      ⟨c, element, shape, resolves, parsed⟩
    · simp [given] at empty
    · obtain ⟨elements, rfl, -⟩ := typed.parse parsed
      obtain rfl : elements = [] := by simpa [Value.isEmpty] using empty
      exact ⟨c, element, shape, resolves, parsed⟩
  · rintro ⟨c, element, shape, resolves, parsed⟩
    obtain rfl := Except.ok.inj ((h.parse_of_resolves shape resolves).symm.trans parsed)
    rfl

variable (known : f ∈ b.table.fields t)
include known

theorem DefaultMakes.unique (default : f.descriptor.defaultText = some text)
    (h : b.DefaultMakes f text v) (h' : b.DefaultMakes f text v') : v = v' := by
  have value : ∀ {w : Value}, b.DefaultMakes f text w →
      (b.valueOf b.finishDefault (b.table.recordName t) f text).outcome = .ok w :=
    (valueOf_ok_iff_makes typed known default).mpr
  exact Except.ok.inj ((value h).symm.trans (value h'))

/-- A field that the pass has dealt with holds what it held, unless that gives way. -/
theorem DefaultedAs.eq_iff (h : b.DefaultedAs f v v') : v' = v ↔ ¬ b.GivesWay f v := by
  cases h with
  | given given =>
    refine iff_of_true rfl fun way => ?_
    have empty := way.empty
    simp [given] at empty
  | @made _ text empty default makes =>
    constructor
    · rintro rfl ⟨-, ⟨text', default', other⟩ | must⟩
      · obtain rfl := Option.some.inj (default.symm.trans default')
        exact other makes
      · simp [Descriptor.mustBeGiven, default] at must
    · intro stays
      by_cases same : b.DefaultMakes f text v
      · exact makes.unique typed known default same
      · exact absurd ⟨empty, .inl ⟨text, default, same⟩⟩ stays
  | left empty undefaulted optional =>
    refine iff_of_true rfl fun way => ?_
    rcases way.cause with ⟨text, default, -⟩ | must
    · simp [undefaulted] at default
    · simp [Descriptor.mustBeGiven, optional] at must

end Typed

section Passing

variable (typed : b.registry.Typed b.table) (accepted : b.Accepts t) {fields : List Value} {i : Nat}
include typed accepted

/-- **The pass keeps the contents of a field**, and does not fail there, unless it comes to the
field and the contents give way. -/
theorem complete_keeps_iff (field : (b.table.fields t)[i]? = some f) (held : fields[i]? = some v) :
    ((b.complete t fields).fields[i]? = some v ∧ ∀ e, ¬ b.StopsAt t fields i e) ↔
      ¬ (b.ComesTo t fields i ∧ b.GivesWay f v) := by
  have known := List.mem_of_getElem? field
  have dealt : ∀ k, i < k → b.DefaultedBefore t k fields (b.complete t fields).fields →
      ((b.complete t fields).fields[i]? = some v ↔ ¬ b.GivesWay f v) := by
    intro k lower before
    obtain ⟨v', after, as⟩ := before i lower f v field held
    rw [after, Option.some.injEq]
    exact as.eq_iff typed known
  cases ended : (b.complete t fields).run.outcome with
  | ok u =>
    have stops : ∀ k e, ¬ b.StopsAt t fields k e := fun k e stops => by
      simp [(complete_error_iff typed accepted).mpr ⟨k, stops⟩] at ended
    have comes : b.ComesTo t fields i := fun k e h => absurd h (stops k e)
    have bound := (List.getElem?_eq_some_iff.mp field).1
    simp [stops, comes, dealt _ bound (complete_ok typed accepted ended)]
  | error e =>
    obtain ⟨k, stops, before, later⟩ := complete_error typed accepted ended
    rcases Nat.lt_trichotomy k i with lower | rfl | higher
    · -- The pass does not come to the field.
      refine iff_of_true ⟨(later i lower.le).trans held, fun e' stops' => ?_⟩ fun h => ?_
      · exact lower.ne (stops.unique stops').1
      · exact absurd (h.1 k e stops) lower.not_ge
    · -- It fails at the field.
      obtain ⟨g, w, field', held', short⟩ := stops.here
      obtain rfl := Option.some.inj (field.symm.trans field')
      obtain rfl := Option.some.inj (held.symm.trans held')
      refine iff_of_false (fun kept => kept.2 e stops) (not_not_intro ⟨fun k' e' stops' => ?_, ?_⟩)
      · exact (stops.unique stops').1.le
      · exact short.givesWay
    · -- It fails at a later field.
      have comes : b.ComesTo t fields i := fun k' e' stops' =>
        (stops.unique stops').1 ▸ higher.le
      have elsewhere : ∀ e', ¬ b.StopsAt t fields i e' := fun e' stops' =>
        higher.ne' (stops.unique stops').1
      simp [elsewhere, comes, dealt k higher before]

/-- Binding fails after matching if and only if the pass stops at some field. -/
theorem failsAfter_iff {tokens : List String} :
    (∃ k, b.FailsAfter t fields tokens k e) ↔
      (∃ n, (b.bindFields t fields tokens).run.outcome = .ok n) ∧
        (b.bindAndComplete t fields tokens).run.outcome = .error e := by
  constructor
  · rintro ⟨k, ⟨n, bound⟩, stops⟩
    have ended := (complete_error_iff typed accepted).mpr ⟨k, stops⟩
    exact ⟨⟨n, bound⟩, bindAndComplete_error_iff.mpr (.inr ⟨n, bound, ended⟩)⟩
  · rintro ⟨⟨n, bound⟩, failed⟩
    rcases bindAndComplete_error_iff.mp failed with unbound | ⟨-, -, ended⟩
    · simp [bound] at unbound
    · obtain ⟨k, stops⟩ := (complete_error_iff typed accepted).mp ended
      exact ⟨k, ⟨n, bound⟩, stops⟩

/-- **Binding keeps what matching leaves in a field**, and does not fail there after matching,
unless it is displaced. -/
theorem bindAndComplete_keeps_iff {tokens : List String} {p : Pending}
    (mem : p ∈ b.table.pending t)
    (held : (b.bindFields t fields tokens).fields[p.index]? = some v) :
    ((b.bindAndComplete t fields tokens).fields[p.index]? = some v ∧
        ∀ e, ¬ b.FailsAfter t fields tokens p.index e) ↔
      ¬ b.Displaced t fields tokens p v := by
  have field := TypeTable.mem_pending.mp mem
  cases bound : (b.bindFields t fields tokens).run.outcome with
  | error e =>
    have unmatched : ¬ ∃ n, (b.bindFields t fields tokens).run.outcome = .ok n := by simp [bound]
    rw [bindAndComplete_of_error bound]
    exact iff_of_true ⟨held, fun e' fails => unmatched fails.matched⟩ fun h => unmatched h.matched
  | ok n =>
    rw [bindAndComplete_fields bound]
    refine Iff.trans ?_ ((complete_keeps_iff typed accepted field held).trans ?_)
    · refine and_congr_right fun _ => forall_congr' fun e => not_congr ?_
      exact ⟨fun fails => fails.stops, fun stops => ⟨⟨n, bound⟩, stops⟩⟩
    · exact not_congr ⟨fun h => ⟨⟨n, bound⟩, h.1, h.2⟩, fun h => ⟨h.comes, h.givesWay⟩⟩

end Passing

/-- **What a token gives stays, if it is something.** The value of an option that a token gives with
a value is made of the text of that token, and of those that follow it, and it is empty only if a
parser made the empty collection of the text. The field holds it after the call, and the pass that
applies the defaults does not fail at the field, unless the value is displaced: it is empty,
matching succeeds and the pass comes to the field, and either its default makes something else or it
is required and has none. -/
theorem bind_keeps_given (typed : b.registry.Typed b.table) (accepted : b.Accepts t)
    {args : List String} {start : Nat} {s : Selection} {rest : List String} {c : Claim}
    (taken : b.Takes (b.table.recordName t) (b.table.pending t) (args.drop start) s rest c)
    (form : s.form = .delimited text) :
    ∃ v, c.update = some v ∧
      b.Reads b.finish s.chosen.field text (s.chosen.field.descriptor.capturedRun rest)
        (v, c.extra) ∧
      (v.isEmpty = true ↔ ∃ k element, s.chosen.field.shape = .collection k element ∧
        b.registry.canParse s.chosen.field.descriptor (.collection k element) = true ∧
        b.registry.parse b.table s.chosen.field.descriptor (.collection k element) text =
          .ok (.items [])) ∧
      (((b.bind t args start).fields[s.chosen.index]? = some v ∧
          ∀ e, ¬ b.FailsAfter t (b.table.fresh t) (args.drop start) s.chosen.index e) ↔
        ¬ b.Displaced t (b.table.fresh t) (args.drop start) s.chosen v) := by
  obtain ⟨v, n, read, rfl⟩ := (claim_delimited_iff form).mp taken.claimed
  refine ⟨v, rfl, read, read.isEmpty_iff typed, ?_⟩
  have held := bindFields_of_takes accepted taken (b.table.fresh t)
  have field := TypeTable.mem_pending.mp taken.chosen_mem
  have fresh : (b.table.fresh t)[s.chosen.index]? = some s.chosen.field.shape.fresh := by
    simp [TypeTable.fresh, field]
  rw [fresh, Option.map_some, Option.getD_some] at held
  exact bindAndComplete_keeps_iff typed accepted taken.chosen_mem held

/-- The letters of a text, commas aside. -/
def letters (text : String) : List Value :=
  (text.toList.filter (· != ',')).map fun c => .scalar (.char c)

/-- Makes the letters of a text at once. -/
def lettersParser : TextParser where
  output := .collection .vector (.scalar .char)
  run _ text := .ok (.items (letters text))

/-- A list of letters that has a default. -/
def marksField : Field where
  descriptor := { name := "n", defaultText := some "a" }
  shape := .collection .vector (.scalar .char)

/-- A list of letters that is required. -/
def codesField : Field where
  descriptor := { name := "n", required := true }
  shape := .collection .vector (.scalar .char)

/-- A binder for lists of letters. -/
def listBinder : Binder where
  table :=
    [{ fullName := "Marks", shortName := "Marks", fields := [marksField] },
     { fullName := "Codes", shortName := "Codes", fields := [codesField] }]
  registry := { byType := [lettersParser] }

theorem listBinder_typed : listBinder.registry.Typed listBinder.table := by
  intro p mem
  obtain rfl : p = lettersParser := by simpa [Registry.parsers, listBinder] using mem
  rintro option text v ⟨rfl⟩
  refine ⟨_, rfl, fun x mem => ?_⟩
  obtain ⟨c, -, rfl⟩ := List.mem_map.mp mem
  exact ⟨_, rfl⟩

/-- The letters are all that the option takes. -/
theorem listBinder_takes {token : String} {s : Selection}
    (selected : select token (listBinder.table.pending t) = some s)
    (form : s.form = .delimited text)
    (shape : s.chosen.field.shape = .collection .vector (.scalar .char)) :
    listBinder.Takes owner (listBinder.table.pending t) [token] s []
      ⟨some (.items (letters text)), 0⟩ := by
  have parsed : listBinder.registry.parse listBinder.table s.chosen.field.descriptor
      (.collection .vector (.scalar .char)) text = .ok (.items (letters text)) :=
    Registry.parse_ok_iff.mpr ⟨lettersParser, rfl, rfl⟩
  exact .here selected ((claim_delimited_iff form).mpr ⟨_, 0, .whole shape rfl parsed, rfl⟩)

/-- A mark that is given is held after the call. -/
theorem bind_keeps_given_mark :
    listBinder.registry.Typed listBinder.table ∧ listBinder.Accepts 0 ∧
      listBinder.Takes "Marks" (listBinder.table.pending 0) (["-n=b"].drop 0)
        ⟨⟨0, marksField⟩, .delimited "b", []⟩ [] ⟨some (.items [.scalar (.char 'b')]), 0⟩ ∧
      (listBinder.bind 0 ["-n=b"] 0).fields[0]? = some (.items [.scalar (.char 'b')]) := by
  have accepted : listBinder.Accepts 0 := .inr rfl
  have selected : select "-n=b" (listBinder.table.pending 0) =
      some ⟨⟨0, marksField⟩, .delimited "b", []⟩ := by decide +kernel
  have taken : listBinder.Takes "Marks" (listBinder.table.pending 0) (["-n=b"].drop 0)
      ⟨⟨0, marksField⟩, .delimited "b", []⟩ [] ⟨some (.items [.scalar (.char 'b')]), 0⟩ :=
    listBinder_takes selected rfl rfl
  obtain ⟨v, update, -, -, kept⟩ := bind_keeps_given listBinder_typed accepted taken rfl
  obtain rfl : _ = v := Option.some.inj update
  refine ⟨listBinder_typed, accepted, taken, (kept.mpr fun displaced => ?_).1⟩
  have empty := displaced.givesWay.empty
  simp [Value.isEmpty] at empty

/-- **An empty list that is given counts as none.** The call puts the default in its place, and
where the list is required reports that it is missing. -/
theorem bind_empty_displaced :
    listBinder.registry.Typed listBinder.table ∧
      listBinder.Takes "Marks" (listBinder.table.pending 0) (["-n=,"].drop 0)
        ⟨⟨0, marksField⟩, .delimited ",", []⟩ [] ⟨some (.items []), 0⟩ ∧
      (listBinder.bind 0 ["-n=,"] 0).outcome = .ok 1 ∧
      (listBinder.bind 0 ["-n=,"] 0).fields = [.items [.scalar (.char 'a')]] ∧
      listBinder.Takes "Codes" (listBinder.table.pending 1) (["-n=,"].drop 0)
        ⟨⟨0, codesField⟩, .delimited ",", []⟩ [] ⟨some (.items []), 0⟩ ∧
      (listBinder.bind 1 ["-n=,"] 0).outcome =
        .error (.failed (.requiredOptionMissing "-n" "Codes")) := by
  have marks : select "-n=," (listBinder.table.pending 0) =
      some ⟨⟨0, marksField⟩, .delimited ",", []⟩ := by decide +kernel
  have codes : select "-n=," (listBinder.table.pending 1) =
      some ⟨⟨0, codesField⟩, .delimited ",", []⟩ := by decide +kernel
  have noMarks : listBinder.Takes "Marks" (listBinder.table.pending 0) (["-n=,"].drop 0)
      ⟨⟨0, marksField⟩, .delimited ",", []⟩ [] ⟨some (.items []), 0⟩ :=
    listBinder_takes marks rfl rfl
  have noCodes : listBinder.Takes "Codes" (listBinder.table.pending 1) (["-n=,"].drop 0)
      ⟨⟨0, codesField⟩, .delimited ",", []⟩ [] ⟨some (.items []), 0⟩ :=
    listBinder_takes codes rfl rfl
  have replaced : listBinder.Binds 0 (listBinder.table.fresh 0) (["-n=,"].drop 0)
      ([.items [.scalar (.char 'a')]], 1) :=
    .intro (.inr rfl) (.take marks noMarks.claimed (.stop (by simp))) rfl
  have found : listBinder.FindsFor 1 (["-n=,"].drop 0) [⟨0, 1, some (.items [])⟩] :=
    .take codes noCodes.claimed (.stop (by simp))
  have accepted : listBinder.Accepts 1 := .inr rfl
  have missing : (listBinder.bind 1 ["-n=,"] 0).outcome =
      .error (.failed (.requiredOptionMissing "-n" "Codes")) := by
    refine bindAndComplete_error_iff.mpr (.inr ⟨1, ?_, ?_⟩)
    · exact bindFields_ok_iff.mpr ⟨accepted, _, found, rfl⟩
    · rw [bindFields_fields accepted, found.segments_eq]
      rfl
  obtain ⟨ended, fields⟩ := (bind_ok_iff ["-n=,"] 0).mpr replaced
  exact ⟨listBinder_typed, noMarks, ended, fields, noCodes, missing⟩

end Binder

end OptionBinding
