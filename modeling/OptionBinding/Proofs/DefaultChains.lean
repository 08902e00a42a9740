import Mathlib.Data.Finset.Card
import OptionBinding.Proofs.Filling

/-!
# Chains of defaults

A default may make a composite, which is completed by the defaults of its own empty fields, and so
on. `completeWithin` allows so many defaults one below the other, and does not end where more would
be needed. If it ends, it ends the same with more of them allowed (`completeWithin_endsAs`). And
what it makes does not depend on this bound as soon as the bound is the number of fields in all
types: a longer chain ends only where a shorter one does (`completeWithin_endsAs_complete`). So
completing does not end if and only if no bound is enough for it (`complete_endless_iff`).

The fields whose default ends (`ending`) become more with the length of the chains. Those whose
default ends by chains of length `k + 1` depend only on those whose default ends by chains of length
`k` (`completeWithin_of_ending`). So if there is a length at which none comes to them, none ever
does. There are no more than there are fields, so that length is among the first ones (`ending_eq`).
-/

namespace OptionBinding

/-! ### Runs that end -/

/-- If the first run ends, it ends as the second one. -/
def Run.EndsAs {α : Type} (x y : Run α) : Prop := x.outcome ≠ .error .endless → y = x

/-- If the first pass ends, it ends as the second one. -/
def Pass.EndsAs {α : Type} (p q : Pass α) : Prop := p.run.outcome ≠ .error .endless → q = p

/-- Where the first way to complete composites ends, it ends as the second one. -/
def Finish.EndsAs (F G : Finish) : Prop := ∀ t fields, (F t fields).EndsAs (G t fields)

theorem Run.EndsAs.refl {α : Type} (x : Run α) : x.EndsAs x := fun _ => rfl

theorem Run.EndsAs.bind {α β : Type} {x y : Run α} {f g : α → Run β} (first : x.EndsAs y)
    (next : ∀ a, x.outcome = .ok a → (f a).EndsAs (g a)) : (x >>= f).EndsAs (y >>= g) := by
  intro ends
  rw [outcome_bind] at ends
  have split (x : Run α) (f : α → Run β) : x >>= f = andThen x f := rfl
  cases done : x.outcome with
  | error e =>
    rw [done] at ends
    have same : y = x := first (done ▸ fun endless => ends (congrArg _ (Except.error.inj endless)))
    rw [same, split, split, andThen, andThen, done]
  | ok a =>
    rw [done] at ends
    have same : y = x := first (done ▸ nofun)
    have later : g a = f a := next a done ends
    rw [same, split, split, andThen, andThen, done]
    simp only [later]

theorem Pass.EndsAs.whole {p q : Pass Unit} (h : p.EndsAs q) : p.whole.EndsAs q.whole := by
  intro ends
  refine congrArg Pass.whole (h fun endless => ends ?_)
  rw [Pass.whole, endless]
  rfl

namespace Binder

variable {b : Binder} {owner : String} {f : Field} {t : TypeId} {fields : List Value}
  {v w : Value} {text : String} {more : List String} {F G : Finish}

section EndsAs

variable (ends : F.EndsAs G)
include ends

theorem readElement_endsAs {d : Descriptor} {e : Element} :
    (b.readElement F d e text).EndsAs (b.readElement G d e text) := by
  refine .bind (.refl _) fun v _ => ?_
  cases e with
  | scalar type => exact .refl _
  | composite t =>
    cases v with
    | composite fields => exact .bind (ends t fields) fun _ _ => .refl _
    | _ => exact .refl _

theorem readElements_endsAs {d : Descriptor} {e : Element} {texts : List String} :
    (b.readElements F d e texts).EndsAs (b.readElements G d e texts) := by
  induction texts with
  | nil => exact .refl _
  | cons text texts ih =>
    exact .bind (readElement_endsAs ends) fun _ _ => .bind ih fun _ _ => .refl _

theorem readContents_endsAs :
    (b.readContents F owner f text more).EndsAs (b.readContents G owner f text more) := by
  unfold readContents
  split
  · exact .refl _
  · exact .bind (readElement_endsAs ends) fun _ _ => .refl _
  · split
    · exact .refl _
    · exact .bind (readElements_endsAs ends) fun _ _ => .refl _
  · exact .refl _
  · exact .refl _

theorem valueOf_endsAs : (b.valueOf F owner f text).EndsAs (b.valueOf G owner f text) :=
  .bind (readContents_endsAs ends) fun _ _ => .refl _

end EndsAs

end Binder

/-- Filling ends as it does with other values where the values that it needs end as those. -/
theorem fillFields_endsAs {owner : String} {value value' : Field → String → Run Value}
    {fs : List Field} {vs : List Value}
    (same : ∀ f ∈ fs, ∀ text, f.descriptor.defaultText = some text →
      (value f text).EndsAs (value' f text)) :
    (fillFields owner value fs vs).EndsAs (fillFields owner value' fs vs) := by
  induction fs generalizing vs with
  | nil => cases vs <;> exact fun _ => rfl
  | cons f fs ih =>
    cases vs with
    | nil => exact fun _ => rfl
    | cons v vs =>
      have ih : (fillFields owner value fs vs).EndsAs (fillFields owner value' fs vs) :=
        ih fun g mem => same g (List.mem_cons_of_mem _ mem)
      intro ends
      unfold fillFields at ends ⊢
      cases given : v.isEmpty with
      | false =>
        simp only [given, Bool.not_false, if_true] at ends ⊢
        rw [ih ends]
      | true =>
        simp only [given, Bool.not_true, Bool.false_eq_true, if_false] at ends ⊢
        cases default : f.descriptor.defaultText with
        | none =>
          simp only [default] at ends ⊢
          split_ifs at ends ⊢ with required
          · rfl
          · rw [ih ends]
        | some text =>
          simp only [default, Run.outcome_tell_bind] at ends ⊢
          have own := same f List.mem_cons_self text default
          cases made : (value f text).outcome with
          | error e =>
            rw [made] at ends
            have alike : value' f text = value f text := own fun endless => by
              obtain rfl := Except.error.inj (made.symm.trans endless)
              exact ends rfl
            rw [alike, made]
          | ok v =>
            rw [made] at ends
            have alike : value' f text = value f text := own (by simp [made])
            rw [alike, made]
            simp only at ends ⊢
            rw [ih ends]

namespace Binder

variable {b : Binder} {owner owner' : String} {f : Field} {t : TypeId} {fields : List Value}
  {v w : Value} {text : String} {F G : Finish}

theorem completeWith_endsAs
    (same : ∀ f ∈ b.table.fields t, ∀ text, f.descriptor.defaultText = some text →
      (b.valueOf F (b.table.recordName t) f text).EndsAs
        (b.valueOf G (b.table.recordName t) f text)) :
    (b.completeWith F t fields).EndsAs (b.completeWith G t fields) := by
  intro ends
  unfold completeWith at ends ⊢
  cases checked : (b.schema t).outcome with
  | error e => simp only [checked]
  | ok u =>
    simp only [checked] at ends ⊢
    have filled : (fillFields _ (b.valueOf F _) (b.table.fields t) fields).EndsAs
        (fillFields (b.table.recordName t) (b.valueOf G _) (b.table.fields t) fields) :=
      fillFields_endsAs same
    have filled := filled ends
    unfold valueOf at filled
    rw [filled]

/-- **Completing that ends** is not changed by more defaults one below the other. -/
theorem completeWithin_endsAs {m n : Nat} (le : m ≤ n) :
    (b.completeWithin m t fields).EndsAs (b.completeWithin n t fields) := by
  induction m generalizing n t fields with
  | zero =>
    rw [completeWithin_eq, completeWithin_eq]
    exact completeWith_endsAs fun f _ text _ =>
      valueOf_endsAs fun _ _ ends => absurd rfl ends
  | succ m ih =>
    obtain ⟨n, rfl⟩ : ∃ k, n = k + 1 := ⟨n - 1, by omega⟩
    rw [completeWithin_eq, completeWithin_eq]
    exact completeWith_endsAs fun f _ text _ =>
      valueOf_endsAs fun t fields => (ih (Nat.le_of_succ_le_succ le)).whole

theorem finishWithin_endsAs {m n : Nat} (le : m ≤ n) :
    (b.finishWithin m).EndsAs (b.finishWithin n) := by
  intro t fields
  cases m with
  | zero => exact fun ends => absurd rfl ends
  | succ m =>
    obtain ⟨n, rfl⟩ : ∃ k, n = k + 1 := ⟨n - 1, by omega⟩
    exact (completeWithin_endsAs (Nat.le_of_succ_le_succ le)).whole

end Binder

namespace TypeTable

/-- The fields of all types. -/
def allFields (table : TypeTable) : List Field := table.flatMap (·.fields)

theorem mem_allFields {table : TypeTable} {t : TypeId} {f : Field} (mem : f ∈ table.fields t) :
    f ∈ table.allFields := by
  unfold fields at mem
  cases known : table[t]? with
  | none => simp [known] at mem
  | some record =>
    rw [known] at mem
    exact List.mem_flatMap.mpr ⟨record, List.mem_of_getElem? known, mem⟩

theorem length_allFields (table : TypeTable) : table.allFields.length = table.fieldCount := by
  induction table with
  | nil => rfl
  | cons record table ih =>
    unfold allFields fieldCount at ih ⊢
    rw [List.flatMap_cons, List.length_append, ih, List.map_cons, List.foldr_cons]

end TypeTable

namespace Binder

variable {b : Binder} {owner owner' : String} {f : Field} {t : TypeId} {fields : List Value}
  {v : Value} {text : String}

/-! ### The fields whose default ends -/

theorem valueOf_endless_iff {F : Finish} (owner owner' : String) :
    (b.valueOf F owner f text).outcome = .error .endless ↔
      (b.valueOf F owner' f text).outcome = .error .endless := by
  have other : ((b.valueOf F owner f text).outcome = (b.valueOf F owner' f text).outcome) ∨
      (∃ e, (b.valueOf F owner f text).outcome = .error (.failed e)) ∧
        ∃ e, (b.valueOf F owner' f text).outcome = .error (.failed e) := by
    unfold valueOf readContents
    split
    · exact .inl rfl
    · exact .inl rfl
    · exact .inl rfl
    · exact .inr ⟨⟨_, rfl⟩, ⟨_, rfl⟩⟩
    · exact .inr ⟨⟨_, rfl⟩, ⟨_, rfl⟩⟩
  rcases other with same | ⟨⟨e, failed⟩, e', failed'⟩
  · rw [same]
  · rw [failed, failed']
    exact iff_of_false nofun nofun

/-- The default of a field ends, by chains of at most `depth` defaults below it. -/
def DefaultEnds (b : Binder) (depth : Nat) (f : Field) : Prop :=
  ∃ text, f.descriptor.defaultText = some text ∧
    (b.valueOf (b.finishWithin depth) "" f text).outcome ≠ .error .endless

theorem defaultEnds_iff {depth : Nat} (owner : String)
    (default : f.descriptor.defaultText = some text) :
    b.DefaultEnds depth f ↔
      (b.valueOf (b.finishWithin depth) owner f text).outcome ≠ .error .endless := by
  rw [ne_eq, valueOf_endless_iff owner ""]
  constructor
  · rintro ⟨text', default', ends⟩
    obtain rfl := Option.some.inj (default.symm.trans default')
    exact ends
  · exact fun ends => ⟨text, default, ends⟩

theorem DefaultEnds.mono {m n : Nat} (le : m ≤ n) (h : b.DefaultEnds m f) : b.DefaultEnds n f := by
  obtain ⟨text, default, ends⟩ := h
  refine ⟨text, default, ?_⟩
  rwa [valueOf_endsAs (finishWithin_endsAs le) ends]

open Classical in
/-- The fields whose default ends by chains of at most `depth` defaults below it. -/
noncomputable def ending (b : Binder) (depth : Nat) : Finset Field :=
  b.table.allFields.toFinset.filter fun f => b.DefaultEnds depth f

theorem mem_ending {depth : Nat} :
    f ∈ b.ending depth ↔ f ∈ b.table.allFields ∧ b.DefaultEnds depth f := by
  simp [ending]

theorem ending_monotone (b : Binder) : Monotone b.ending := by
  intro m n le f mem
  obtain ⟨known, ends⟩ := mem_ending.mp mem
  exact mem_ending.mpr ⟨known, ends.mono le⟩

theorem card_ending_le (b : Binder) (depth : Nat) : (b.ending depth).card ≤ b.table.fieldCount := by
  classical
  rw [← b.table.length_allFields]
  exact (Finset.card_filter_le _ _).trans (List.toFinset_card_le _)

/-- **Where no more defaults end, completing does not end more often.** -/
theorem completeWithin_of_ending {m n : Nat} (le : n ≤ m) (same : b.ending m = b.ending n) :
    (b.completeWithin m t fields).EndsAs (b.completeWithin n t fields) := by
  rw [completeWithin_eq, completeWithin_eq]
  refine completeWith_endsAs fun f mem text default ends => ?_
  have known := TypeTable.mem_allFields mem
  have mem : f ∈ b.ending n := same ▸ mem_ending.mpr ⟨known, (defaultEnds_iff _ default).mpr ends⟩
  have shorter := (defaultEnds_iff (b.table.recordName t) default).mp (mem_ending.mp mem).2
  exact (valueOf_endsAs (finishWithin_endsAs le) shorter).symm

theorem ending_succ_eq {k : Nat} (same : b.ending k = b.ending (k + 1)) :
    b.ending (k + 1) = b.ending (k + 2) := by
  refine (b.ending_monotone (Nat.le_succ _)).antisymm fun f mem => ?_
  obtain ⟨known, text, default, ends⟩ := mem_ending.mp mem
  refine mem_ending.mpr ⟨known, text, default, ?_⟩
  have back : (b.finishWithin (k + 2)).EndsAs (b.finishWithin (k + 1)) := fun t fields =>
    (completeWithin_of_ending (Nat.le_succ k) same.symm).whole
  rwa [valueOf_endsAs back ends]

/-- **Beyond the number of fields no default comes to those that end.** -/
theorem ending_eq {k : Nat} (enough : b.table.fieldCount ≤ k) :
    b.ending k = b.ending b.table.fieldCount := by
  have eq_of_card : ∀ {m n : Nat}, m ≤ n → (b.ending m).card = (b.ending n).card →
      b.ending m = b.ending n :=
    fun le card => Finset.eq_of_subset_of_card_le (b.ending_monotone le) card.ge
  have card : (b.ending k).card = (b.ending b.table.fieldCount).card := by
    refine Nat.stabilises_of_monotone (f := fun k => (b.ending k).card)
      (fun m n le => Finset.card_le_card (b.ending_monotone le)) b.card_ending_le
      (fun m same => ?_) enough
    exact congrArg Finset.card (ending_succ_eq (eq_of_card (Nat.le_succ m) same))
  exact (eq_of_card enough card.symm).symm

/-! ### As many defaults as there are fields -/

/-- **Completing ends with as many defaults one below the other as there are fields**, if it ends
with any number of them. -/
theorem completeWithin_endsAs_complete (depth : Nat) :
    (b.completeWithin depth t fields).EndsAs (b.complete t fields) := by
  rcases Nat.le_total depth b.table.fieldCount with le | enough
  · exact completeWithin_endsAs le
  · exact completeWithin_of_ending enough (ending_eq enough)

/-- **Completing that does not end** does not end with any number of defaults one below the
other. -/
theorem complete_endless_iff : (b.complete t fields).run.outcome = .error .endless ↔
    ∀ depth, (b.completeWithin depth t fields).run.outcome = .error .endless := by
  constructor
  · intro endless depth
    by_contra ends
    rw [completeWithin_endsAs_complete depth ends] at endless
    exact ends endless
  · exact fun all => all b.table.fieldCount

/-! ### What defaults give -/

/-- **What the default of a field gives**, by chains of at most `depth` defaults below it. -/
def DefaultGives (b : Binder) (depth : Nat) (f : Field) (v : Value) : Prop :=
  ∃ text, f.descriptor.defaultText = some text ∧
    (b.valueOf (b.finishWithin depth) "" f text).outcome = .ok v

theorem valueOf_ok_owner {F : Finish} (owner owner' : String) :
    (b.valueOf F owner f text).outcome = .ok v ↔ (b.valueOf F owner' f text).outcome = .ok v := by
  rw [valueOf_ok_iff, valueOf_ok_iff]

theorem defaultGives_iff {depth : Nat} (owner : String)
    (default : f.descriptor.defaultText = some text) :
    b.DefaultGives depth f v ↔ (b.valueOf (b.finishWithin depth) owner f text).outcome = .ok v := by
  rw [valueOf_ok_owner owner ""]
  constructor
  · rintro ⟨text', default', given⟩
    obtain rfl := Option.some.inj (default.symm.trans default')
    exact given
  · exact fun given => ⟨text, default, given⟩

theorem DefaultGives.unique {depth : Nat} {w : Value} (h : b.DefaultGives depth f v)
    (h' : b.DefaultGives depth f w) : v = w := by
  obtain ⟨text, default, given⟩ := h
  exact Except.ok.inj (given.symm.trans ((defaultGives_iff "" default).mp h'))

/-- **A default gives what is read from its text alone**, completed like any composite: one more
default below it makes no difference. -/
theorem defaultGives_iff_finish (default : f.descriptor.defaultText = some text)
    (known : f ∈ b.table.allFields) :
    b.DefaultGives b.table.fieldCount f v ↔ ∃ n, b.Reads b.finish f text [] (v, n) := by
  have whole : b.finishWithin (b.table.fieldCount + 1) = b.finish := rfl
  have reads : b.DefaultGives b.table.fieldCount f v ↔
      (b.valueOf (b.finishWithin b.table.fieldCount) "" f text).outcome = .ok v :=
    defaultGives_iff "" default
  have read : (b.valueOf (b.finishWithin (b.table.fieldCount + 1)) "" f text).outcome = .ok v ↔ _ :=
    valueOf_ok_iff
  rw [reads, ← whole, ← read]
  constructor
  · intro given
    rwa [valueOf_endsAs (finishWithin_endsAs (Nat.le_succ _)) (given ▸ nofun)]
  · intro given
    have ends : b.DefaultEnds (b.table.fieldCount + 1) f := ⟨text, default, given ▸ nofun⟩
    have mem : f ∈ b.ending b.table.fieldCount :=
      ending_eq (Nat.le_succ _) ▸ mem_ending.mpr ⟨known, ends⟩
    have shorter := (defaultEnds_iff "" default).mp (mem_ending.mp mem).2
    rwa [valueOf_endsAs (finishWithin_endsAs (Nat.le_succ _)) shorter] at given

end Binder

end OptionBinding
