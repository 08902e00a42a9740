import OptionBinding.Bundled.Plugins
import OptionBinding.Proofs.HostAccounts
import OptionBinding.Regex.Standard

/-!
# Command lines in two parts

If no option of any plugin recognises the first token of `b` then a host takes the tokens `a ++ b`
as it takes `a` first and then `b` (`Host.parseArguments_append`): what follows `a` makes no
difference to the plugins while tokens of `a` are left (`parseFrom_append`), and after that the
place at which `b` starts makes none (`parseFrom_shift`).

A root option of the bundled plugins is such a token for all of them, as their options have other
signatures, and values come after a delimiter that is in no root option
(`Bundled.plugin_ignores`). So their command lines may be put together at root options
(`Bundled.parseArguments_compose`).
-/

namespace OptionBinding

/-- No option of the plugin, or of a composite in it, recognises the first of the tokens. -/
def Plugin.Ignores (p : Plugin) (more : List String) : Prop :=
  match p with
  | .extension e => e.binder.Foreign e.type more
  | .switch _ => True

namespace Plugin

variable {p : Plugin} {args more : List String} {index : Nat}

/-- Offers do not change the options of a plugin. -/
theorem Ignores.parseArgument (h : p.Ignores more) (args : List String) (index : Nat) :
    (p.parseArgument args index).holder.Ignores more := by
  cases p with
  | extension e =>
    have later := e.parseArgument_later args index
    obtain ⟨types, binder, -⟩ := later.binder
    unfold Ignores Plugin.parseArgument at *
    dsimp only
    rw [binder, later.type]
    exact h
  | switch s => trivial

/-- **A plugin that ignores what follows the tokens** does with them what it does without it. -/
theorem parseArgument_append (h : p.Ignores more) (within : index < args.length) :
    (p.parseArgument (args ++ more) index).holder = (p.parseArgument args index).holder ∧
      (p.parseArgument (args ++ more) index).outcome = (p.parseArgument args index).outcome := by
  cases p with
  | extension e =>
    obtain ⟨holder, outcome⟩ := Extension.parseArgument_append h within
    exact ⟨congrArg extension holder, outcome⟩
  | switch s =>
    have same : s.parseArgument (args ++ more) index = s.parseArgument args index := by
      unfold Switch.parseArgument
      rw [List.drop_append_of_le_length (Nat.le_of_lt within), List.drop_eq_getElem_cons within]
      rfl
    rw [parseArgument, parseArgument, same]
    exact ⟨rfl, rfl⟩

end Plugin

namespace Host

variable {args args' : List String} {index index' : Nat} {entries : List Hosted}

/-- An offer is what it is to each of the plugins. -/
theorem offer_congr
    (same : ∀ x ∈ entries,
      (x.plugin.parseArgument args index).holder = (x.plugin.parseArgument args' index').holder ∧
        (x.plugin.parseArgument args index).outcome =
          (x.plugin.parseArgument args' index').outcome) :
    (offer args index entries).holder = (offer args' index' entries).holder ∧
      (offer args index entries).outcome = (offer args' index' entries).outcome := by
  induction entries with
  | nil => exact ⟨rfl, rfl⟩
  | cons x entries ih =>
    obtain ⟨holder, outcome⟩ := same x List.mem_cons_self
    obtain ⟨others, ended⟩ := ih fun y mem => same y (List.mem_cons_of_mem _ mem)
    simp only [offer, holder, outcome]
    cases (x.plugin.parseArgument args' index').outcome with
    | error e => exact ⟨rfl, rfl⟩
    | ok n =>
      cases n with
      | zero => exact ⟨congrArg (_ :: ·) others, ended⟩
      | succ n => exact ⟨rfl, rfl⟩

/-- Entries whose plugins ignore the tokens keep doing so. -/
theorem offer_ignores {more : List String} (ignores : ∀ x ∈ entries, x.plugin.Ignores more) :
    ∀ x ∈ (offer args index entries).holder, x.plugin.Ignores more := by
  induction entries with
  | nil => exact ignores
  | cons x entries ih =>
    have first := (ignores x List.mem_cons_self).parseArgument args index
    have others := fun y mem => ignores y (List.mem_cons_of_mem x mem)
    rw [offer]
    dsimp only
    split
    · exact List.forall_mem_cons.mpr ⟨first, others⟩
    · exact List.forall_mem_cons.mpr ⟨first, ih others⟩
    · exact List.forall_mem_cons.mpr ⟨first, others⟩

theorem offer_shift (a b : List String) (index : Nat) (entries : List Hosted) :
    (offer (a ++ b) (a.length + index) entries).holder = (offer b index entries).holder ∧
      (offer (a ++ b) (a.length + index) entries).outcome = (offer b index entries).outcome := by
  refine offer_congr fun x _ => ?_
  have left : (a ++ b).drop (a.length + index) = b.drop index := by
    rw [← List.drop_drop, List.drop_left]
  rw [← x.plugin.parseArgument_drop (a ++ b), left, x.plugin.parseArgument_drop]
  exact ⟨rfl, rfl⟩

/-- **The place of the tokens in a longer list makes no difference**, and the claims before them are
counted in. -/
theorem parseFrom_shift (h : Host) (a b : List String) (index claims n : Nat) :
    (h.parseFrom (a ++ b) (a.length + index) (n + claims)).holder =
        (h.parseFrom b index claims).holder ∧
      (h.parseFrom (a ++ b) (a.length + index) (n + claims)).outcome =
        (h.parseFrom b index claims).outcome.map (n + ·) := by
  obtain ⟨holder, outcome⟩ := offer_shift a b index h.entries
  fun_induction parseFrom h b index claims with
  | case1 h index claims within o e failed =>
    obtain ⟨left, ended⟩ := parseFrom_failed (n + claims) (by simpa using within)
      (outcome.trans failed)
    rw [left, ended, holder]
    exact ⟨rfl, rfl⟩
  | case2 h index claims within o unclaimed =>
    have same : (a ++ b)[a.length + index]? = b[index]? := by
      rw [List.getElem?_append_right (Nat.le_add_right _ _), Nat.add_sub_cancel_left]
    obtain ⟨left, ended⟩ := parseFrom_unclaimed (n + claims) (by simpa using within)
      (outcome.trans unclaimed)
    rw [left, ended, holder, same]
    exact ⟨rfl, rfl⟩
  | case3 h index claims within o k claimed further ih =>
    obtain ⟨left, ended⟩ := parseFrom_claimed (n + claims) (by simpa using within)
      (outcome.trans claimed)
    rw [left, ended, holder, Nat.add_assoc, Nat.add_assoc]
    exact ih (offer_shift a b _ _).1 (offer_shift a b _ _).2
  | case4 h index claims ended =>
    have all : (a ++ b).length ≤ a.length + index := by simpa using Nat.le_of_not_lt ended
    obtain ⟨left, ended⟩ := parseFrom_ended (h := h) (n + claims) all
    rw [left, ended]
    exact ⟨rfl, rfl⟩

theorem offer_append {h : Host} {a b : List String} {index : Nat}
    (ignores : ∀ x ∈ h.entries, x.plugin.Ignores b) (within : index < a.length) :
    (offer (a ++ b) index h.entries).holder = (offer a index h.entries).holder ∧
      (offer (a ++ b) index h.entries).outcome = (offer a index h.entries).outcome :=
  offer_congr fun x mem => Plugin.parseArgument_append (ignores x mem) within

/-- **While tokens of `a` are left, what follows them makes no difference** to plugins that ignore
it. Once they are all claimed the host goes on with what follows. -/
theorem parseFrom_append {h : Host} {a b : List String} {index : Nat} (claims : Nat)
    (ignores : ∀ x ∈ h.entries, x.plugin.Ignores b) (within : index ≤ a.length) :
    (∀ n, (h.parseFrom a index claims).outcome = .ok n →
      (h.parseFrom (a ++ b) index claims).holder =
          ((h.parseFrom a index claims).holder.parseFrom (a ++ b) a.length n).holder ∧
        (h.parseFrom (a ++ b) index claims).outcome =
          ((h.parseFrom a index claims).holder.parseFrom (a ++ b) a.length n).outcome) ∧
    ∀ e, (h.parseFrom a index claims).outcome = .error e →
      (h.parseFrom (a ++ b) index claims).holder = (h.parseFrom a index claims).holder ∧
        (h.parseFrom (a ++ b) index claims).outcome = .error e := by
  have longer : a.length ≤ (a ++ b).length := by simp
  fun_induction parseFrom h a index claims with
  | case1 h index claims before o e failed =>
    obtain ⟨holder, outcome⟩ := offer_append ignores before
    obtain ⟨left, ended⟩ := parseFrom_failed claims (Nat.lt_of_lt_of_le before longer)
      (outcome.trans failed)
    refine ⟨fun n done => (by cases done), fun e' failed' => ?_⟩
    obtain rfl := Except.error.inj failed'
    exact ⟨left.trans (congrArg _ holder), ended⟩
  | case2 h index claims before o unclaimed =>
    obtain ⟨holder, outcome⟩ := offer_append ignores before
    have same : (a ++ b)[index]? = a[index]? := List.getElem?_append_left before
    obtain ⟨left, ended⟩ := parseFrom_unclaimed claims (Nat.lt_of_lt_of_le before longer)
      (outcome.trans unclaimed)
    rw [same] at ended
    refine ⟨fun n done => (by cases done), fun e' failed' => ?_⟩
    obtain rfl := Except.error.inj failed'
    exact ⟨left.trans (congrArg _ holder), ended⟩
  | case3 h index claims before o k claimed further ih =>
    obtain ⟨holder, outcome⟩ := offer_append ignores before
    obtain ⟨left, ended⟩ := parseFrom_claimed claims (Nat.lt_of_lt_of_le before longer)
      (outcome.trans claimed)
    rw [left, ended, holder]
    have enough := offer_le claimed
    rw [List.length_drop] at enough
    exact ih (offer_ignores ignores) (by omega)
  | case4 h index claims ended =>
    obtain rfl : index = a.length := Nat.le_antisymm within (Nat.le_of_not_lt ended)
    refine ⟨fun n done => ?_, fun e failed => by cases failed⟩
    obtain rfl := Except.ok.inj done
    exact ⟨rfl, rfl⟩

/-- **A command line in two parts.** If the plugins ignore the second part then a host takes both
at once as it takes one after the other, and if it fails at the first then it fails as it does
there. -/
theorem parseArguments_append {h : Host} {b : List String} (a : List String)
    (ignores : ∀ x ∈ h.entries, x.plugin.Ignores b) :
    (∀ n, (h.parseArguments a).outcome = .ok n →
      (h.parseArguments (a ++ b)).holder = ((h.parseArguments a).holder.parseArguments b).holder ∧
        (h.parseArguments (a ++ b)).outcome =
          ((h.parseArguments a).holder.parseArguments b).outcome.map (n + ·)) ∧
    ∀ e, (h.parseArguments a).outcome = .error e →
      (h.parseArguments (a ++ b)).holder = (h.parseArguments a).holder ∧
        (h.parseArguments (a ++ b)).outcome = .error e := by
  obtain ⟨done, failed⟩ := parseFrom_append 0 ignores (Nat.zero_le a.length)
  refine ⟨fun n ended => ?_, failed⟩
  obtain ⟨holder, outcome⟩ := done n ended
  obtain ⟨holder', outcome'⟩ := parseFrom_shift (h.parseFrom a 0 0).holder a b 0 0 n
  exact ⟨holder.trans holder', outcome.trans outcome'⟩

end Host

/-! ### States of plugins -/

/-- **The states of a plugin**: what it was created with stays, but it may hold any configuration,
and may remember any types. -/
inductive Plugin.State : Plugin → Plugin → Prop
  | extension {e : Extension} (config : List Value) (claimed : Nat) (types : List TypeId) :
      State (.extension e)
        (.extension
          { e with config, claimed, binder := e.binder.remembering types, rooted := e.rooted })
  | switch {s : Switch} (enabled : Bool) : State (.switch s) (.switch { s with enabled })

theorem Plugin.State.ignores {p p' : Plugin} (h : State p p') {more : List String}
    (ignores : p.Ignores more) : p'.Ignores more := by
  cases h with
  | extension config claimed types => exact ignores
  | switch enabled => trivial

/-- **The states of a host**: its plugins are in any states, and active or not. -/
def Host.State (created h : Host) : Prop :=
  List.Forall₂ (fun x y => Plugin.State x.plugin y.plugin) created.entries h.entries

theorem Plugin.State.refl (p : Plugin) : p.State p := by
  cases p with
  | extension e => exact .extension e.config e.claimed e.binder.checked
  | switch s => exact .switch s.enabled

theorem Host.State.refl (h : Host) : h.State h :=
  List.forall₂_same.mpr fun x _ => Plugin.State.refl x.plugin

theorem Host.State.ignores {created h : Host} (state : created.State h) {more : List String}
    (ignores : ∀ x ∈ created.entries, x.plugin.Ignores more) :
    ∀ x ∈ h.entries, x.plugin.Ignores more := by
  unfold State at state
  generalize created.entries = before, h.entries = after at state ignores
  induction state with
  | nil => exact List.forall_mem_nil _
  | cons first _ ih =>
    obtain ⟨known, others⟩ := List.forall_mem_cons.mp ignores
    exact List.forall_mem_cons.mpr ⟨first.ignores known, ih others⟩

/-! ### The bundled plugins -/

namespace Bundled

/-- The root options of the bundled plugins. -/
def rootSignatures : List String :=
  ["-Xnamespace", "-Xname-convert", "-Xjsr310", "-Xannotate", "-Xdisable-getters",
   "-Xdisable-setters"]

/-- The options of a table that cannot be mistaken for root options of the bundled plugins. -/
def Apart (table : TypeTable) : Prop :=
  ∀ f ∈ table.allFields, f.descriptor.delimiter = "=" ∧ f.signature ∉ rootSignatures

instance (table : TypeTable) : Decidable (Apart table) := by
  unfold Apart
  infer_instance

/-- **The options of such a table do not recognise the root options**, as these are not signatures
of theirs and have no delimiter in them. -/
theorem Apart.foreign {b : Binder} {t : TypeId} {more : List String} (apart : Apart b.table)
    (root : ∀ token ∈ more.head?, Text.trim token ∈ rootSignatures) : b.Foreign t more := by
  intro token head u _ f mem
  obtain ⟨delimiter, other⟩ := apart f (TypeTable.mem_allFields mem)
  have root := root token head
  have inexact : f.descriptor.isExact token = false := by
    refine beq_false_of_ne fun same => other ?_
    rw [same] at root
    exact root
  have uncaptured : f.descriptor.captured? token = none := by
    rw [Option.eq_none_iff_forall_ne_some]
    intro v captured
    have undelimited : ∀ s ∈ rootSignatures, '=' ∉ s.toList := by decide
    refine undelimited _ root ?_
    rw [Text.trim, String.toList_ofList]
    exact Text.mem_trimChars (Descriptor.mem_of_captured? delimiter captured) (by decide)
  rw [Descriptor.recognise, inexact, uncaptured]
  rfl

theorem mapM_ok {α β : Type} {f : α → Except ExtensionError β} {l : List α} {ys : List β}
    (h : l.mapM f = .ok ys) : ∀ y ∈ ys, ∃ x ∈ l, f x = .ok y := by
  induction l generalizing ys with
  | nil =>
    obtain rfl := Except.ok.inj h
    exact List.forall_mem_nil _
  | cons x l ih =>
    rw [List.mapM_cons] at h
    cases first : f x with
    | error e => simp [first, bind, Except.bind] at h
    | ok y =>
      cases others : l.mapM f with
      | error e => simp [first, others, bind, Except.bind] at h
      | ok ys' =>
        rw [first, others] at h
        obtain rfl : y :: ys' = ys := Except.ok.inj h
        refine List.forall_mem_cons.mpr ⟨⟨x, List.mem_cons_self, first⟩, fun z mem => ?_⟩
        obtain ⟨x', known, made⟩ := ih others z mem
        exact ⟨x', List.mem_cons_of_mem _ known, made⟩

/-- **The bundled plugins ignore their root options** wherever options of theirs may stand. -/
theorem plugin_ignores [Regex.Engine] {name : Name} {p : Plugin} (known : plugin name = .ok p)
    {more : List String} (root : ∀ token ∈ more.head?, Text.trim token ∈ rootSignatures) :
    p.Ignores more := by
  cases name with
  | namespaces =>
    obtain rfl := Except.ok.inj known
    exact Apart.foreign (show Apart Namespaces.table by decide +kernel) root
  | nameConversion =>
    obtain rfl := Except.ok.inj known
    exact Apart.foreign (show Apart NameConversion.table by decide +kernel) root
  | dateTimeTypes =>
    obtain rfl := Except.ok.inj known
    exact Apart.foreign (show Apart DateTimeTypes.table by decide +kernel) root
  | annotations =>
    obtain rfl := Except.ok.inj known
    exact Apart.foreign (show Apart Annotations.table by decide +kernel) root
  | getters =>
    obtain rfl := Except.ok.inj known
    exact Apart.foreign (show Apart gettersTable by decide +kernel) root
  | setters =>
    obtain rfl := Except.ok.inj known
    trivial

theorem host_ignores [Regex.Engine] {created : Host} (bundled : host = .ok created)
    {more : List String} (root : ∀ token ∈ more.head?, Text.trim token ∈ rootSignatures) :
    ∀ x ∈ created.entries, x.plugin.Ignores more := by
  unfold host at bundled
  cases made : names.mapM plugin with
  | error e => simp [made, Except.map] at bundled
  | ok ps =>
    rw [made] at bundled
    obtain rfl := Except.ok.inj bundled
    intro x mem
    obtain ⟨p, known, rfl⟩ := List.mem_map.mp mem
    obtain ⟨name, -, made⟩ := mapM_ok made p known
    exact plugin_ignores made root

/-- **Command lines of the bundled plugins may be put together at root options.** In any state the
host takes `a ++ b` as it takes `a` and then `b`, with the claims of both, if `b` is empty or starts
with a root option; and if it fails at `a` then it fails at `a ++ b` in the same way. -/
theorem parseArguments_compose [Regex.Engine] {created h : Host} (bundled : host = .ok created)
    (state : created.State h) (a b : List String)
    (root : ∀ token ∈ b.head?, Text.trim token ∈ rootSignatures) :
    (∀ n, (h.parseArguments a).outcome = .ok n →
      (h.parseArguments (a ++ b)).holder = ((h.parseArguments a).holder.parseArguments b).holder ∧
        (h.parseArguments (a ++ b)).outcome =
          ((h.parseArguments a).holder.parseArguments b).outcome.map (n + ·)) ∧
    ∀ e, (h.parseArguments a).outcome = .error e →
      (h.parseArguments (a ++ b)).holder = (h.parseArguments a).holder ∧
        (h.parseArguments (a ++ b)).outcome = .error e :=
  Host.parseArguments_append a (state.ignores (host_ignores bundled root))

/-- The host of the bundled plugins, as it is created. -/
def standard : Host := host.toOption.getD {}

theorem host_eq_standard : host = .ok standard := rfl

theorem getters_claim {p : Plugin} (known : plugin .getters = .ok p) :
    (p.parseArgument ["-Xdisable-getters"] 0).outcome = .ok 1 := by
  obtain rfl := Except.ok.inj known
  have split : ["-Xdisable-getters"].drop 0 = "-Xdisable-getters" :: [] := rfl
  exact (Extension.parseArgument_of_binds split (by decide +kernel)
    (.intro (.inr rfl) (.stop (by simp)) rfl) rfl).1

theorem standard_getters : (standard.parseArguments ["-Xdisable-getters"]).outcome = .ok 1 := by
  have split : ["-Xdisable-getters"].drop 0 = "-Xdisable-getters" :: [] := rfl
  obtain ⟨x, at', -, outcome⟩ := Host.offer_of_answering split
    (show Host.answering? standard.entries "-Xdisable-getters" = some 4 by decide +kernel)
  obtain rfl := Option.some.inj at'
  have claimed := Host.parseFrom_claimed 0 (by decide) (outcome.trans (getters_claim rfl))
  exact claimed.2.trans (Host.parseFrom_ended 1 (by decide)).2

theorem standard_other : (standard.parseArguments ["-other"]).outcome =
    .error (.failed (.unrecognizedParameter "-other")) := by
  have split : ["-other"].drop 0 = "-other" :: [] := rfl
  have unanswered : Host.answering? standard.entries "-other" = none := by decide +kernel
  have unclaimed := (Host.offer_of_unopened split (Host.answering?_eq_none_iff.mp unanswered)).2
  exact (Host.parseFrom_unclaimed 0 (by decide) unclaimed).2

/-- The switch for getters, and after it the one for setters, which does not help where the first
token is not recognised. -/
theorem parseArguments_compose_switches :
    (standard.parseArguments ["-Xdisable-getters"]).outcome = .ok 1 ∧
      (standard.parseArguments ["-Xdisable-getters", "-Xdisable-setters"]).holder =
        ((standard.parseArguments ["-Xdisable-getters"]).holder.parseArguments
          ["-Xdisable-setters"]).holder ∧
      (standard.parseArguments ["-other", "-Xdisable-setters"]).outcome =
        .error (.failed (.unrecognizedParameter "-other")) := by
  have root : ∀ token ∈ ["-Xdisable-setters"].head?, Text.trim token ∈ rootSignatures := by
    decide +kernel
  have composed := fun a =>
    parseArguments_compose host_eq_standard (.refl standard) a ["-Xdisable-setters"] root
  exact ⟨standard_getters, ((composed _).1 1 standard_getters).1,
    ((composed _).2 _ standard_other).2⟩

end Bundled

end OptionBinding
