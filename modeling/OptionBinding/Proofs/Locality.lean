import OptionBinding.Proofs.Steps

/-!
# Locality

Binding looks at the tokens it takes and at the one after them. Let a step take the tokens `taken`
of `taken ++ rest`. Then it does the same on `taken ++ rest'`, provided `rest'` continues like
`rest` (`Continues`): it starts with the same token, or it is empty. A missing token is never worse
than one that was not taken.

The statement of one step is `LocalAt`. It goes from shorter lists to longer ones: of the bare flags
on lists shorter than `n` (`LocalBelow`) to the scans (`Finds.local`) and composites
(`Constructs.local`, `Repeats.local`) on lists of length at most `n`, and from these to the bare
flags on them (`FlagClaim.local`).
-/

namespace OptionBinding

/-- Tokens that end, or go on with the first one of `rest`. -/
def Continues (rest rest' : List String) : Prop := rest' = [] ∨ rest'.head? = rest.head?

namespace Continues

variable {rest rest' : List String}

theorem append_left (h : Continues rest rest') (taken : List String) :
    Continues (taken ++ rest) (taken ++ rest') := by
  cases taken with
  | nil => exact h
  | cons token taken => exact .inr rfl

theorem head_mem (h : Continues rest rest') {token : String} (mem : token ∈ rest'.head?) :
    token ∈ rest.head? := by
  rcases h with rfl | h
  · simp at mem
  · rwa [← h]

end Continues

/-- What holds of tokens, `R`, depends on the first `width` of them and the one after these. -/
def LocalAt (R : List String → Prop) (width : Nat) (tokens : List String) : Prop :=
  ∃ taken rest, tokens = taken ++ rest ∧ taken.length = width ∧
    ∀ rest', Continues rest rest' → R (taken ++ rest')

namespace LocalAt

variable {R S : List String → Prop} {width : Nat} {tokens : List String}

theorem width_le (h : LocalAt R width tokens) : width ≤ tokens.length := by
  obtain ⟨taken, rest, rfl, rfl, -⟩ := h
  simp

theorem imp (h : LocalAt R width tokens) (f : ∀ ts, R ts → S ts) : LocalAt S width tokens := by
  obtain ⟨taken, rest, split, width, h⟩ := h
  exact ⟨taken, rest, split, width, fun rest' goesOn => f _ (h rest' goesOn)⟩

/-- What holds of all tokens takes none. -/
theorem zero (h : ∀ ts, R ts) : LocalAt R 0 tokens := ⟨[], tokens, rfl, rfl, fun _ _ => h _⟩

end LocalAt

/-! ### Texts -/

namespace Descriptor

variable {d : Descriptor}

theorem capturedRun_of_head {tokens : List String}
    (h : ∀ token ∈ tokens.head?, d.captured? token = none) : d.capturedRun tokens = [] := by
  cases tokens with
  | nil => rfl
  | cons token rest => simp [capturedRun, h token rfl]

/-- The run of values is decided by the tokens that give them and the one after these. -/
theorem capturedRun_local (tokens : List String) :
    LocalAt (fun ts => d.capturedRun ts = d.capturedRun tokens) (d.capturedRun tokens).length
      tokens := by
  induction tokens with
  | nil =>
    refine ⟨[], [], rfl, rfl, fun rest' goesOn => capturedRun_of_head fun token mem => ?_⟩
    simpa using goesOn.head_mem mem
  | cons token rest ih =>
    cases captured : d.captured? token with
    | none =>
      have stop : d.capturedRun (token :: rest) = [] :=
        capturedRun_of_head (by simpa using captured)
      rw [stop]
      refine ⟨[], token :: rest, rfl, rfl, fun rest' goesOn => capturedRun_of_head ?_⟩
      intro token' mem
      obtain rfl : token = token' := by simpa using goesOn.head_mem mem
      exact captured
    | some value =>
      have goes : ∀ ts, d.capturedRun (token :: ts) = value :: d.capturedRun ts := fun ts => by
        simp [capturedRun, captured]
      obtain ⟨taken, after, rfl, len, same⟩ := ih
      rw [goes]
      refine ⟨token :: taken, after, rfl, by simp [len], fun rest' goesOn => ?_⟩
      dsimp only at same ⊢
      rw [List.cons_append, goes, same rest' goesOn]

end Descriptor

namespace Binder

variable {b : Binder} {owner : String} {f : Field} {t : TypeId} {tokens rest : List String}

theorem bindText_local {text : String} {c : Claim}
    (h : (b.bindText owner f text rest).outcome = .ok c) :
    LocalAt (fun ts => (b.bindText owner f text ts).outcome = .ok c) c.extra rest := by
  obtain ⟨v, n, read, rfl⟩ := bindText_ok_iff.mp h
  cases read with
  | flag shape parsed =>
    exact .zero fun ts => bindText_ok_iff.mpr ⟨_, _, .flag shape parsed, rfl⟩
  | single shape read =>
    exact .zero fun ts => bindText_ok_iff.mpr ⟨_, _, .single shape read, rfl⟩
  | whole shape resolves parsed =>
    exact .zero fun ts => bindText_ok_iff.mpr ⟨_, _, .whole shape resolves parsed, rfl⟩
  | elements shape unresolved read =>
    refine (f.descriptor.capturedRun_local rest).imp fun ts same => ?_
    rw [← same] at read ⊢
    exact bindText_ok_iff.mpr ⟨_, _, .elements shape unresolved read, rfl⟩

/-! ### Scans and composites -/

/-- Bare flags are local on lists of less than `n` tokens. -/
def LocalBelow (b : Binder) (n : Nat) : Prop :=
  ∀ (owner : String) (f : Field) (rest : List String) (c : Claim), rest.length < n →
    (b.bindFlag owner f rest).outcome = .ok c →
      LocalAt (fun ts => (b.bindFlag owner f ts).outcome = .ok c) c.extra rest

section Below

variable {n : Nat} (below : b.LocalBelow n)
include below

theorem claim_local {s : Selection} {c : Claim} (short : rest.length < n)
    (h : (b.claim owner s rest).outcome = .ok c) :
    LocalAt (fun ts => (b.claim owner s ts).outcome = .ok c) c.extra rest := by
  unfold claim at *
  cases form : s.form with
  | exact =>
    rw [form] at h
    exact below _ _ _ _ short h
  | delimited text =>
    rw [form] at h
    exact bindText_local h

/-- **Scans are local.** -/
theorem Finds.local {pending : List Pending} {segments : List Segment} (short : tokens.length ≤ n)
    (h : b.Finds owner pending tokens segments) :
    LocalAt (fun ts => b.Finds owner pending ts segments) (Segment.totalWidth segments) tokens := by
  induction h with
  | @stop pending tokens unclaimed =>
    exact ⟨[], tokens, rfl, rfl, fun rest' goesOn => .stop fun token mem =>
      unclaimed token (goesOn.head_mem mem)⟩
  | @take pending token rest s c segments selected claimed others ih =>
    have shorter : rest.length < n := by
      simp only [List.length_cons] at short
      omega
    obtain ⟨taken, after, rfl, len, same⟩ := claim_local below shorter claimed
    have dropped : ∀ ts, (taken ++ ts).drop c.extra = ts := fun ts => by
      rw [← len, List.drop_left]
    rw [dropped] at others ih
    obtain ⟨taken', after', rfl, len', same'⟩ := ih (by simp at short; omega)
    refine ⟨token :: (taken ++ taken'), after', by simp, ?_, fun rest' goesOn => ?_⟩
    · simp only [List.length_cons, List.length_append, len, len', Segment.totalWidth_cons,
        Claim.segment]
      omega
    · rw [List.cons_append, List.append_assoc]
      refine .take selected (same _ (goesOn.append_left taken')) ?_
      rw [dropped]
      exact same' rest' goesOn

theorem Constructs.local {r : List Value × Nat} (short : tokens.length ≤ n)
    (h : b.Constructs t tokens r) : LocalAt (fun ts => b.Constructs t ts r) r.2 tokens := by
  cases h with
  | nothing accepted found => exact (found.local below short).imp fun ts => .nothing accepted
  | completed accepted found taken finished =>
    exact (found.local below short).imp fun ts found => .completed accepted found taken finished

theorem construct_local {r : List Value × Nat} (short : tokens.length ≤ n)
    (h : (b.construct t tokens).outcome = .ok r) :
    LocalAt (fun ts => (b.construct t ts).outcome = .ok r) r.2 tokens :=
  ((construct_ok_iff.mp h).local below short).imp fun _ => construct_ok_iff.mpr

/-- **Repeated composites are local.** -/
theorem Repeats.local {signature : String} {r : List Value × Nat} (short : tokens.length ≤ n)
    (h : b.Repeats t signature tokens r) :
    LocalAt (fun ts => b.Repeats t signature ts r) r.2 tokens := by
  induction h with
  | nothing built => exact (construct_local below short built).imp fun ts => .nothing
  | last built taken ended =>
    obtain ⟨first, after, rfl, len, same⟩ := construct_local below short built
    dsimp only at len
    refine ⟨first, after, rfl, len, fun rest' goesOn => .last (same rest' goesOn) taken ?_⟩
    intro next mem
    refine ended next ?_
    rw [← len, List.drop_left] at mem ⊢
    exact goesOn.head_mem mem
  | @next tokens more fields elements restated n' k built taken after again others ih =>
    obtain ⟨first, after', rfl, len, same⟩ := construct_local below short built
    dsimp only at len
    rw [← len, List.drop_left] at after
    subst after
    obtain ⟨second, rest, rfl, len', same'⟩ := ih (by simp at short; omega)
    refine ⟨first ++ restated :: second, rest, by simp, by simp; omega, fun rest' goesOn => ?_⟩
    rw [List.append_assoc, List.cons_append]
    refine .next (same _ (.inr rfl)) taken ?_ again (same' rest' goesOn)
    rw [← len, List.drop_left]

theorem FlagClaim.local {c : Claim} (short : rest.length ≤ n) (h : b.FlagClaim f rest c) :
    LocalAt (fun ts => b.FlagClaim f ts c) c.extra rest := by
  cases h with
  | switched shape => exact .zero fun ts => .switched shape
  | nothing shape built optional =>
    exact (construct_local below short built).imp fun ts built => .nothing shape built optional
  | composite shape built taken =>
    exact (construct_local below short built).imp fun ts built => .composite shape built taken
  | composites shape built given =>
    refine ((composites_ok_iff.mp built).local below short).imp fun ts built => ?_
    exact .composites shape (composites_ok_iff.mpr built) given

end Below

/-- **Bare flags are local**, on lists of any length. -/
theorem localBelow (b : Binder) (n : Nat) : b.LocalBelow n := by
  induction n with
  | zero => exact fun _ _ _ _ short => absurd short (Nat.not_lt_zero _)
  | succ n ih =>
    intro owner f rest c short h
    exact ((bindFlag_ok_iff.mp h).local ih (Nat.le_of_lt_succ short)).imp fun _ =>
      bindFlag_ok_iff.mpr

/-! ### Calls -/

theorem Binds.local {fields : List Value} {r : List Value × Nat} (h : b.Binds t fields tokens r) :
    LocalAt (fun ts => b.Binds t fields ts r) r.2 tokens := by
  cases h with
  | intro accepted found completed =>
    exact (found.local (b.localBelow _) (Nat.le_refl _)).imp fun ts found =>
      .intro accepted found completed

/-- **Binding is local.** It takes at most the tokens there are, and what it makes of them is the
same wherever these tokens stand, if the list ends after them or goes on with the same token. -/
theorem bind_local {args : List String} {start n : Nat}
    (h : (b.bind t args start).outcome = .ok n) :
    n ≤ args.length - start ∧
      ∀ (args' : List String) (start' : Nat),
        (args'.drop start').take n = (args.drop start).take n →
        args'[start' + n]? = none ∨ args'[start' + n]? = args[start + n]? →
        (b.bind t args' start').outcome = .ok n ∧
          (b.bind t args' start').fields = (b.bind t args start).fields := by
  have bound : b.Binds t _ (args.drop start) ((b.bind t args start).fields, n) :=
    (bind_ok_iff args start).mp ⟨h, rfl⟩
  obtain ⟨taken, rest, split, len, same⟩ := bound.local
  dsimp only at len same
  have enough : n ≤ args.length - start := by
    rw [← List.length_drop]
    exact bound.local.width_le
  refine ⟨enough, fun args' start' carried after => ?_⟩
  have begins : (args'.drop start').take n = taken := by
    rw [carried, split, ← len, List.take_left]
  have goesOn : Continues rest ((args'.drop start').drop n) := by
    rcases after with ends | after
    · exact .inl (by simpa [List.drop_drop] using ends)
    · have rest_eq : rest = (args.drop start).drop n := by rw [split, ← len, List.drop_left]
      exact .inr (by simpa [rest_eq, List.head?_drop, List.drop_drop] using after)
  have again := same _ goesOn
  rw [← begins, List.take_append_drop] at again
  exact (bind_ok_iff args' start').mpr again

/-- A binder for any number of items, each with a switch. -/
def itemBinder : Binder where
  table :=
    [{ fullName := "Items", shortName := "Items",
       fields :=
        [{ descriptor := { name := "item" }, shape := .collection .vector (.composite 1) }] },
     { fullName := "Item", shortName := "Item",
       fields := [{ descriptor := { name := "on" }, shape := .flag }] }]
  registry := {}

theorem itemBinder_construct (rest : List String) :
    (itemBinder.construct 1 ("-on" :: rest)).outcome = .ok ([.scalar (.bool true)], 1) := by
  have selected : select "-on" (itemBinder.table.pending 1) =
      some ⟨⟨0, (itemBinder.table.fields 1)[0]⟩, .exact, []⟩ := by decide +kernel
  have found : itemBinder.FindsFor 1 ("-on" :: rest) [⟨0, 1, some (.scalar (.bool true))⟩] :=
    .take selected (bindFlag_ok_iff.mpr (.switched (.inl rfl))) (.stop fun _ _ => rfl)
  exact construct_ok_iff.mpr (.completed (.inr rfl) found (by simp) rfl)

theorem itemBinder_bind : (itemBinder.bind 0 ["-item", "-on", "-item", "-on", "-end"] 0).outcome =
    .ok 4 := by
  have selected : select "-item" (itemBinder.table.pending 0) =
      some ⟨⟨0, (itemBinder.table.fields 0)[0]⟩, .exact, []⟩ := by decide +kernel
  have last : itemBinder.Repeats 1 "-item" ["-on", "-end"]
      ([.composite [.scalar (.bool true)]], 1) :=
    .last (itemBinder_construct _) (by simp) (by decide +kernel)
  have both := Repeats.next (itemBinder_construct ["-item", "-on", "-end"]) (by simp) rfl
    (by decide +kernel) last
  have claimed : itemBinder.FlagClaim (itemBinder.table.fields 0)[0] _ _ :=
    .composites rfl (composites_ok_iff.mpr both) rfl
  have found : itemBinder.FindsFor 0 ["-item", "-on", "-item", "-on", "-end"] _ :=
    .take selected (bindFlag_ok_iff.mpr claimed) (.stop fun _ _ => rfl)
  exact ((bind_ok_iff ["-item", "-on", "-item", "-on", "-end"] 0).mpr
    (.intro (.inr rfl) found rfl)).1

/-- Two items are bound alike, whether another option follows them or one precedes them. -/
theorem bind_local_items :
    (itemBinder.bind 0 ["-item", "-on", "-item", "-on", "-end"] 0).outcome = .ok 4 ∧
      (itemBinder.bind 0 ["-all", "-item", "-on", "-item", "-on"] 1).outcome = .ok 4 ∧
      (itemBinder.bind 0 ["-all", "-item", "-on", "-item", "-on"] 1).fields =
        (itemBinder.bind 0 ["-item", "-on", "-item", "-on", "-end"] 0).fields :=
  ⟨itemBinder_bind, (bind_local itemBinder_bind).2 _ 1 rfl (.inl rfl)⟩

end Binder

end OptionBinding
