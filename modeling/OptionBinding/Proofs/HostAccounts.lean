import OptionBinding.Hosting.Host
import OptionBinding.Proofs.PriorContents
import OptionBinding.Proofs.Termination
import OptionBinding.Regex.Standard

/-!
# How a host accounts for its tokens

A host offers what is left of its tokens to its plugins, and the first of them whose root option
stands there answers (`Host.answering?`); the others stay as they are (`offer_of_opened`). So the
tokens are divided into turns, each claimed by one plugin (`Host.Turns`), until none are left, no
plugin answers, or the one that answers fails (`Host.Ends`). From this follows what the host tells
of the whole list, which plugins are active afterwards, and which are as before (`Host.Accounts`).

A turn does not end if the configuration of the plugin that answers does not, as one whose default
makes another one of its type (`parseArguments_endless`). If no defaults lead from a type back to
itself then the host comes to an end with every list of tokens.

If no two plugins have the same root option then it is one and the same plugin that answers in
whatever order they are asked, and the host comes to the same end (`parseFrom_perm`).
-/

namespace OptionBinding

/-- The entry after its plugin has answered. -/
def Hosted.answered (x : Hosted) (args : List String) (index : Nat) : Hosted :=
  let o := x.plugin.parseArgument args index
  match o.outcome with
  | .ok _ => ⟨o.holder, true⟩
  | .error _ => { x with plugin := o.holder }

@[simp] theorem Hosted.answered_signature (x : Hosted) (args : List String) (index : Nat) :
    (x.answered args index).plugin.signature = x.plugin.signature := by
  unfold answered
  dsimp only
  split <;> exact x.plugin.parseArgument_signature args index

theorem Hosted.answered_drop (x : Hosted) (args : List String) (index : Nat) :
    x.answered (args.drop index) 0 = x.answered args index := by
  simp only [answered, x.plugin.parseArgument_drop]

/-- A run of tokens that the plugin at a place claims. -/
structure Turn where
  place : Nat
  tokens : List String

/-- The tokens of turns, one after another. -/
def Turn.allTokens (turns : List Turn) : List String := turns.flatMap (·.tokens)

/-- The tokens at which plugins were asked: the first one of each turn, and of what is left. -/
def Turn.asked (turns : List Turn) (rest : List String) : List String :=
  turns.filterMap (·.tokens.head?) ++ rest.head?.toList

namespace Host

variable {args : List String} {index : Nat} {token : String} {rest : List String}
  {entries entries' before : List Hosted} {x : Hosted}

/-! ### One offer -/

theorem offer_of_unopened (split : args.drop index = token :: rest)
    (unopened : ∀ y ∈ entries, ¬ y.plugin.Opens token) :
    (offer args index entries).holder = entries ∧ (offer args index entries).outcome = .ok 0 := by
  induction entries with
  | nil => exact ⟨rfl, rfl⟩
  | cons y entries ih =>
    have stays : y.plugin.parseArgument args index = ⟨y.plugin, .ok 0, []⟩ :=
      Plugin.parseArgument_of_unopened (by simpa [split] using unopened y List.mem_cons_self)
    obtain ⟨holder, outcome⟩ := ih fun z mem => unopened z (List.mem_cons_of_mem _ mem)
    simp only [offer, stays, holder, outcome]
    exact ⟨trivial, trivial⟩

/-- **The first plugin whose root option stands there answers**, and the others stay as they are. -/
theorem offer_of_opened (later : List Hosted) (split : args.drop index = token :: rest)
    (unopened : ∀ y ∈ before, ¬ y.plugin.Opens token) (opened : x.plugin.Opens token) :
    (offer args index (before ++ x :: later)).holder = before ++ x.answered args index :: later ∧
      (offer args index (before ++ x :: later)).outcome =
        (x.plugin.parseArgument args index).outcome := by
  induction before with
  | nil =>
    have some := Plugin.parseArgument_ne_zero split opened
    simp only [List.nil_append, offer, Hosted.answered]
    cases outcome : (x.plugin.parseArgument args index).outcome with
    | error e => exact ⟨rfl, rfl⟩
    | ok n =>
      cases n with
      | zero => exact absurd outcome some
      | succ n => exact ⟨rfl, rfl⟩
  | cons y before ih =>
    have stays : y.plugin.parseArgument args index = ⟨y.plugin, .ok 0, []⟩ :=
      Plugin.parseArgument_of_unopened (by simpa [split] using unopened y List.mem_cons_self)
    obtain ⟨holder, outcome⟩ := ih fun z mem => unopened z (List.mem_cons_of_mem _ mem)
    simp only [List.cons_append, offer, stays, holder, outcome]
    exact ⟨trivial, trivial⟩

/-! ### Who answers -/

/-- The root options of entries. -/
def signatures (entries : List Hosted) : List String := entries.map (·.plugin.signature)

/-- **The place of the earliest plugin whose root option a token is.** -/
def answering? (entries : List Hosted) (token : String) : Option Nat :=
  (signatures entries).idxOf? (Text.trim token)

theorem answering?_eq_none_iff :
    answering? entries token = none ↔ ∀ y ∈ entries, ¬ y.plugin.Opens token := by
  unfold answering? signatures Plugin.Opens
  rw [List.idxOf?_eq_none_iff]
  simp [eq_comm]

theorem answering?_eq_some_iff {place : Nat} :
    answering? entries token = some place ↔ ∃ before x later, entries = before ++ x :: later ∧
      before.length = place ∧ x.plugin.Opens token ∧ ∀ y ∈ before, ¬ y.plugin.Opens token := by
  constructor
  · intro answers
    obtain ⟨within, opened, first⟩ := List.idxOf?_eq_some_iff.mp answers
    unfold signatures at within opened first
    rw [List.length_map] at within
    refine ⟨entries.take place, entries[place], entries.drop (place + 1), ?_, ?_, ?_, ?_⟩
    · rw [List.getElem_cons_drop, List.take_append_drop]
    · exact List.length_take_of_le (Nat.le_of_lt within)
    · simpa [Plugin.Opens, eq_comm] using opened
    · intro y mem
      obtain ⟨j, before, rfl⟩ := List.mem_take_iff_getElem.mp mem
      simpa [Plugin.Opens, eq_comm] using first j (by omega)
  · rintro ⟨before, x, later, rfl, rfl, opened, first⟩
    refine List.idxOf?_eq_some_iff.mpr ⟨by simp [signatures], ?_, fun j earlier => ?_⟩
    · simpa [signatures] using Eq.symm opened
    · have unopened := first before[j] (List.getElem_mem earlier)
      simpa [signatures, List.getElem_append_left, earlier, eq_comm, Plugin.Opens] using unopened

/-- **What an offer leaves**, if a plugin answers. -/
theorem offer_of_answering {place : Nat} (split : args.drop index = token :: rest)
    (answers : answering? entries token = some place) :
    ∃ x, entries[place]? = some x ∧
      (offer args index entries).holder = entries.set place (x.answered args index) ∧
      (offer args index entries).outcome = (x.plugin.parseArgument args index).outcome := by
  obtain ⟨before, x, later, rfl, rfl, opened, first⟩ := answering?_eq_some_iff.mp answers
  obtain ⟨holder, outcome⟩ := offer_of_opened later split first opened
  refine ⟨x, by simp, ?_, outcome⟩
  rw [holder, List.set_append_right _ _ (Nat.le_refl _), Nat.sub_self, List.set_cons_zero]

/-- An offer that claims nothing leaves everything as it is, and no plugin answers it. -/
theorem offer_of_zero (split : args.drop index = token :: rest)
    (unclaimed : (offer args index entries).outcome = .ok 0) :
    answering? entries token = none ∧ (offer args index entries).holder = entries := by
  cases answers : answering? entries token with
  | none => exact ⟨rfl, (offer_of_unopened split (answering?_eq_none_iff.mp answers)).1⟩
  | some place =>
    obtain ⟨before, x, later, rfl, -, opened, first⟩ := answering?_eq_some_iff.mp answers
    have outcome := (offer_of_opened later split first opened).2
    exact absurd (outcome.symm.trans unclaimed) (Plugin.parseArgument_ne_zero split opened)

/-- **Otherwise the plugin at some place has answered.** -/
theorem offer_of_ne_zero (split : args.drop index = token :: rest)
    (claimed : (offer args index entries).outcome ≠ .ok 0) :
    ∃ place x, answering? entries token = some place ∧ entries[place]? = some x ∧
      (offer args index entries).holder = entries.set place (x.answered (args.drop index) 0) ∧
      (offer args index entries).outcome =
        (x.plugin.parseArgument (args.drop index) 0).outcome := by
  cases answers : answering? entries token with
  | none => exact absurd (offer_of_unopened split (answering?_eq_none_iff.mp answers)).2 claimed
  | some place =>
    obtain ⟨x, at', holder, outcome⟩ := offer_of_answering split answers
    refine ⟨place, x, rfl, at', ?_, ?_⟩
    · rw [x.answered_drop, holder]
    · rw [x.plugin.parseArgument_drop, outcome]

/-- **No offer claims more tokens than are left.** -/
theorem offer_le {n : Nat} (h : (offer args index entries).outcome = .ok n) :
    n ≤ (args.drop index).length := by
  induction entries with
  | nil =>
    obtain rfl := Except.ok.inj h
    exact Nat.zero_le _
  | cons x entries ih =>
    rw [offer] at h
    dsimp only at h
    split at h
    · cases h
    · exact ih h
    · next k claimed =>
      obtain rfl := Except.ok.inj h
      exact Plugin.parseArgument_le claimed

/-! ### One step of the loop -/

variable {h : Host} (claims : Nat)

theorem parseFrom_ended (ended : args.length ≤ index) :
    (h.parseFrom args index claims).holder = h ∧
      (h.parseFrom args index claims).outcome = .ok claims := by
  rw [parseFrom, if_neg (Nat.not_lt_of_le ended)]
  exact ⟨rfl, rfl⟩

theorem parseFrom_failed {e : NoResult ExtensionError} (within : index < args.length)
    (failed : (offer args index h.entries).outcome = .error e) :
    (h.parseFrom args index claims).holder = ⟨(offer args index h.entries).holder⟩ ∧
      (h.parseFrom args index claims).outcome = .error e := by
  rw [parseFrom, if_pos within]
  simp only [failed]
  exact ⟨trivial, trivial⟩

theorem parseFrom_unclaimed (within : index < args.length)
    (unclaimed : (offer args index h.entries).outcome = .ok 0) :
    (h.parseFrom args index claims).holder = ⟨(offer args index h.entries).holder⟩ ∧
      (h.parseFrom args index claims).outcome =
        .error (.failed (.unrecognizedParameter (args[index]?.getD ""))) := by
  rw [parseFrom, if_pos within]
  simp only [unclaimed]
  exact ⟨trivial, trivial⟩

theorem parseFrom_claimed {n : Nat} (within : index < args.length)
    (claimed : (offer args index h.entries).outcome = .ok (n + 1)) :
    (h.parseFrom args index claims).holder =
        (parseFrom ⟨(offer args index h.entries).holder⟩ args (index + (n + 1))
          (claims + 1)).holder ∧
      (h.parseFrom args index claims).outcome =
        (parseFrom ⟨(offer args index h.entries).holder⟩ args (index + (n + 1))
          (claims + 1)).outcome := by
  rw [parseFrom.eq_def h, if_pos within]
  simp only [claimed]
  exact ⟨trivial, trivial⟩

/-! ### Turn by turn -/

/-- **Turns of a host**, after which the tokens `rest` are left: in each of them a plugin answers
the tokens that are left by then, and claims those of the turn. -/
inductive Turns (rest : List String) : List Hosted → List Turn → List Hosted → Prop
  | none {entries : List Hosted} : Turns rest entries [] entries
  | next {entries after : List Hosted} {turn : Turn} {turns : List Turn} {token : String}
      {more left : List String} {x : Hosted} (opened : turn.tokens = token :: more)
      (answers : answering? entries token = some turn.place) (at' : entries[turn.place]? = some x)
      (left_eq : left = turn.tokens ++ (Turn.allTokens turns ++ rest))
      (claimed : (x.plugin.parseArgument left 0).outcome = .ok turn.tokens.length)
      (others : Turns rest (entries.set turn.place (x.answered left 0)) turns after) :
      Turns rest entries (turn :: turns) after

/-- **How a host ends** when the tokens `rest` are left: all of them were claimed, no plugin answers
the next one, or the one that answers comes to no result. -/
inductive Ends (after : List Hosted) (rest : List String) (claims : Nat) :
    List Hosted → Outcome ExtensionError Nat → Prop
  | done (all : rest = []) : Ends after rest claims after (.ok claims)
  | unrecognized {token : String} {more : List String} (left : rest = token :: more)
      (unanswered : answering? after token = none) :
      Ends after rest claims after (.error (.failed (.unrecognizedParameter token)))
  | failed {token : String} {more : List String} {place : Nat} {x : Hosted}
      {e : NoResult ExtensionError}
      (left : rest = token :: more) (answers : answering? after token = some place)
      (at' : after[place]? = some x) (failed : (x.plugin.parseArgument rest 0).outcome = .error e) :
      Ends after rest claims (after.set place (x.answered rest 0)) (.error e)

theorem signatures_answered {place : Nat} (at' : entries[place]? = some x) :
    signatures (entries.set place (x.answered args index)) = signatures entries := by
  unfold signatures
  rw [List.map_set, Hosted.answered_signature]
  refine List.ext_getElem? fun i => ?_
  by_cases same : place = i
  · subst same
    rw [List.getElem?_set_self', List.getElem?_map, at']
    rfl
  · rw [List.getElem?_set_ne same]

/-- **The turns of a host**, and how it ends. -/
theorem parseFrom_turns (h : Host) (args : List String) (index claims : Nat) :
    ∃ turns rest after, args.drop index = Turn.allTokens turns ++ rest ∧
      Turns rest h.entries turns after ∧
      Ends after rest (claims + turns.length) (h.parseFrom args index claims).holder.entries
        (h.parseFrom args index claims).outcome := by
  fun_induction parseFrom h args index claims with
  | case1 h index claims within o e failed =>
    have split := List.drop_eq_getElem_cons within
    obtain ⟨place, x, answers, at', holder, outcome⟩ :=
      offer_of_ne_zero split (by rw [failed]; exact fun one => by cases one)
    refine ⟨[], args.drop index, h.entries, rfl, .none, ?_⟩
    show Ends h.entries _ _ o.holder _
    rw [holder]
    exact .failed split answers at' (outcome.symm.trans failed)
  | case2 h index claims within o unclaimed =>
    have split := List.drop_eq_getElem_cons within
    obtain ⟨unanswered, holder⟩ := offer_of_zero split unclaimed
    refine ⟨[], args.drop index, h.entries, rfl, .none, ?_⟩
    show Ends h.entries _ _ o.holder _
    rw [holder, List.getElem?_eq_getElem within]
    exact .unrecognized split unanswered
  | case3 h index claims within o n claimed further ih =>
    have split := List.drop_eq_getElem_cons within
    obtain ⟨place, x, answers, at', holder, outcome⟩ :=
      offer_of_ne_zero split (by rw [claimed]; exact fun one => by cases one)
    obtain ⟨turns, rest, after, left, others, ends⟩ := ih
    have run : args.drop index =
        (args.drop index).take (n + 1) ++ (Turn.allTokens turns ++ rest) := by
      rw [← left, ← List.drop_drop, List.take_append_drop]
    refine ⟨⟨place, (args.drop index).take (n + 1)⟩ :: turns, rest, after, ?_, ?_, ?_⟩
    · rw [Turn.allTokens, List.flatMap_cons, List.append_assoc]
      exact run
    · have opened : (args.drop index).take (n + 1) =
          args[index] :: (args.drop (index + 1)).take n := by
        rw [split, List.take_succ_cons]
      refine .next opened answers at' run ?_ (holder ▸ others)
      rw [List.length_take_of_le (offer_le claimed)]
      exact outcome.symm.trans claimed
    · rw [List.length_cons, Nat.add_comm turns.length 1, ← Nat.add_assoc]
      exact ends
  | case4 h index claims ended =>
    refine ⟨[], [], h.entries, ?_, .none, .done rfl⟩
    exact List.drop_eq_nil_of_le (Nat.le_of_not_lt ended)

/-! ### What turns leave -/

theorem answering?_congr (same : signatures entries = signatures entries') (token : String) :
    answering? entries token = answering? entries' token := by
  unfold answering?
  rw [same]

theorem answered_active {place : Nat} (at' : entries[place]? = some x) {n : Nat}
    (claimed : (x.plugin.parseArgument args index).outcome = .ok n) (i : Nat) :
    (entries.set place (x.answered args index))[i]?.map (·.active) = some true ↔
      entries[i]?.map (·.active) = some true ∨ place = i := by
  have now : (x.answered args index).active = true := by
    simp only [Hosted.answered, claimed]
  by_cases same : place = i
  · subst same
    simp [List.getElem?_set_self', at', now]
  · simp [List.getElem?_set_ne same, same]

variable {turns : List Turn} {after : List Hosted}

namespace Turns

/-- The plugins keep their places and their root options. -/
theorem signatures_eq (h : Turns rest entries turns after) :
    signatures after = signatures entries := by
  induction h with
  | none => rfl
  | next _ _ at' _ _ _ ih => rw [ih, signatures_answered at']

theorem opened (h : Turns rest entries turns after) :
    ∀ turn ∈ turns, ∃ token more, turn.tokens = token :: more ∧
      answering? entries token = some turn.place := by
  induction h with
  | none => simp
  | @next entries after turn turns token more left x opened answers at' _ _ _ ih =>
    intro turn' mem
    rcases List.mem_cons.mp mem with rfl | mem
    · exact ⟨token, more, opened, answers⟩
    · obtain ⟨token', more', opened', answers'⟩ := ih turn' mem
      refine ⟨token', more', opened', ?_⟩
      rw [← answers', answering?_congr (signatures_answered at')]

/-- **Every turn takes a token at least.** -/
theorem length_le (h : Turns rest entries turns after) :
    turns.length ≤ (Turn.allTokens turns).length := by
  induction h with
  | none => exact Nat.le_refl _
  | next opened _ _ _ _ _ ih =>
    rw [Turn.allTokens, List.flatMap_cons, List.length_append, opened]
    simp only [List.length_cons]
    unfold Turn.allTokens at ih
    omega

theorem getElem?_of_ne (h : Turns rest entries turns after) {i : Nat}
    (other : ∀ turn ∈ turns, turn.place ≠ i) : after[i]? = entries[i]? := by
  induction h with
  | none => rfl
  | next _ _ _ _ _ _ ih =>
    rw [ih fun turn mem => other turn (List.mem_cons_of_mem _ mem)]
    exact List.getElem?_set_ne (other _ List.mem_cons_self)

/-- **The plugins that have had a turn become active**, and no others. -/
theorem active_iff (h : Turns rest entries turns after) (i : Nat) :
    after[i]?.map (·.active) = some true ↔
      entries[i]?.map (·.active) = some true ∨ ∃ turn ∈ turns, turn.place = i := by
  induction h with
  | none => simp
  | next _ _ at' _ claimed _ ih =>
    rw [ih, answered_active at' claimed, or_assoc]
    simp

end Turns

/-- **How a host accounts for a list of tokens.** -/
structure Accounts (entries : List Hosted) (args : List String) (turns : List Turn)
    (rest : List String) (holder : List Hosted) (outcome : Outcome ExtensionError Nat) : Prop where
  /-- The tokens are those of the turns, and what is left. -/
  split : args = Turn.allTokens turns ++ rest
  /-- In each turn a plugin claims its tokens, of all that are left by then; and the host ends. -/
  course : ∃ after, Turns rest entries turns after ∧ Ends after rest turns.length holder outcome
  /-- A turn starts with the root option of its plugin, which is the earliest with that one. -/
  opened : ∀ turn ∈ turns, ∃ token more, turn.tokens = token :: more ∧
    answering? entries token = some turn.place
  /-- There are no more turns than tokens. -/
  finite : turns.length ≤ args.length
  /-- The claims that are counted are the turns, and nothing is left then. -/
  counted : ∀ n, outcome = .ok n → n = turns.length ∧ rest = []
  /-- The token that is not recognised is the first one left, and no plugin's root option. -/
  unrecognized : ∀ token, outcome = .error (.failed (.unrecognizedParameter token)) →
    (∃ more, rest = token :: more) ∧ ∀ x ∈ entries, ¬ x.plugin.Opens token
  /-- The plugins that have had a turn are active afterwards, and those that were so before. -/
  active : ∀ i : Nat, holder[i]?.map (·.active) = some true ↔
    entries[i]?.map (·.active) = some true ∨ ∃ turn ∈ turns, turn.place = i
  /-- A plugin that was not asked for its root option stays as it is. -/
  untouched : ∀ i : Nat, (∀ token ∈ Turn.asked turns rest, answering? entries token ≠ some i) →
    holder[i]? = entries[i]?

theorem Accounts.of_turns {holder : List Hosted} {outcome : Outcome ExtensionError Nat}
    (split : args = Turn.allTokens turns ++ rest) (course : Turns rest entries turns after)
    (ends : Ends after rest turns.length holder outcome) :
    Accounts entries args turns rest holder outcome where
  split := split
  course := ⟨after, course, ends⟩
  opened := course.opened
  finite := by
    have enough := course.length_le
    rw [split, List.length_append]
    omega
  counted := by
    rintro n rfl
    cases ends with
    | done all => exact ⟨rfl, all⟩
  unrecognized := by
    rintro token rfl
    cases ends with
    | unrecognized left unanswered =>
      rw [answering?_congr course.signatures_eq] at unanswered
      exact ⟨⟨_, left⟩, answering?_eq_none_iff.mp unanswered⟩
    | failed left answers at' failed =>
      obtain ⟨e, -, ⟨cause, -, same⟩ | ⟨reason, same⟩⟩ := Plugin.parseArgument_error failed
      · cases cause <;> cases same
      · cases same
  active := by
    intro i
    rw [← course.active_iff i]
    cases ends with
    | done => rfl
    | unrecognized => rfl
    | @failed token more place x e left answers at' failed =>
      have same : (x.answered rest 0).active = x.active := by
        simp only [Hosted.answered, failed]
      by_cases here : place = i
      · subst here
        simp [List.getElem?_set_self', at', same]
      · rw [List.getElem?_set_ne here]
  untouched := by
    intro i unasked
    have turned : after[i]? = entries[i]? := by
      refine course.getElem?_of_ne fun turn mem same => ?_
      obtain ⟨token, more, opened, answers⟩ := course.opened turn mem
      refine unasked token ?_ (same ▸ answers)
      refine List.mem_append_left _ (List.mem_filterMap.mpr ⟨turn, mem, ?_⟩)
      rw [opened, List.head?_cons]
    rw [← turned]
    cases ends with
    | done => rfl
    | unrecognized => rfl
    | @failed token more place x e left answers at' failed =>
      refine List.getElem?_set_ne fun same => ?_
      rw [answering?_congr course.signatures_eq] at answers
      refine unasked token ?_ (same ▸ answers)
      rw [Turn.asked, left]
      exact List.mem_append_right _ List.mem_cons_self

/-! ### Orders of plugins -/

/-- **With distinct root options the order in which plugins are asked does not matter.** -/
theorem offer_perm (split : args.drop index = token :: rest) (perm : entries.Perm entries')
    (distinct : (signatures entries).Nodup) :
    (offer args index entries').outcome = (offer args index entries).outcome ∧
      (offer args index entries').holder.Perm (offer args index entries).holder := by
  cases answers : answering? entries token with
  | none =>
    have unopened := answering?_eq_none_iff.mp answers
    obtain ⟨holder, outcome⟩ := offer_of_unopened split unopened
    obtain ⟨holder', outcome'⟩ := offer_of_unopened split fun y mem =>
      unopened y (perm.mem_iff.mpr mem)
    rw [holder, holder', outcome, outcome']
    exact ⟨rfl, perm.symm⟩
  | some place =>
    obtain ⟨before, x, later, here, -, opened, first⟩ := answering?_eq_some_iff.mp answers
    have mem : x ∈ entries' := perm.mem_iff.mp (here ▸ List.mem_append_right _ List.mem_cons_self)
    cases answers' : answering? entries' token with
    | none => exact absurd opened (answering?_eq_none_iff.mp answers' x mem)
    | some place' =>
      obtain ⟨before', x', later', there, -, opened', first'⟩ := answering?_eq_some_iff.mp answers'
      -- Both plugins have the token as their root option, so they are one.
      have mem' : x' ∈ entries' := there ▸ List.mem_append_right _ List.mem_cons_self
      have distinct' : (entries'.map (·.plugin.signature)).Nodup :=
        (perm.map _).nodup_iff.mp distinct
      obtain rfl : x = x' :=
        List.inj_on_of_nodup_map distinct' mem mem' (Eq.trans (Eq.symm opened) opened')
      have others : (before' ++ later').Perm (before ++ later) := by
        rw [here, there] at perm
        exact ((List.perm_middle.symm.trans perm).trans List.perm_middle).cons_inv.symm
      obtain ⟨holder, outcome⟩ := offer_of_opened later split first opened
      obtain ⟨holder', outcome'⟩ := offer_of_opened later' split first' opened
      rw [here, there, holder, holder', outcome, outcome']
      exact ⟨rfl, (List.perm_middle.trans (others.cons _)).trans List.perm_middle.symm⟩

theorem offer_signatures (args : List String) (index : Nat) (entries : List Hosted) :
    signatures (offer args index entries).holder = signatures entries := by
  induction entries with
  | nil => rfl
  | cons y entries ih =>
    have kept := y.plugin.parseArgument_signature args index
    unfold signatures at ih ⊢
    rw [offer]
    dsimp only
    split
    · rw [List.map_cons, List.map_cons, kept]
    · rw [List.map_cons, List.map_cons, kept, ih]
    · rw [List.map_cons, List.map_cons, kept]

theorem parseFrom_perm (h h' : Host) (args : List String) (index claims : Nat)
    (perm : h.entries.Perm h'.entries) (distinct : (signatures h.entries).Nodup) :
    (h'.parseFrom args index claims).outcome = (h.parseFrom args index claims).outcome ∧
      (h'.parseFrom args index claims).holder.entries.Perm
        (h.parseFrom args index claims).holder.entries := by
  induction left : args.length - index using Nat.strongRecOn generalizing h h' index claims with
  | ind m ih =>
  rw [parseFrom.eq_def h', parseFrom.eq_def h]
  by_cases within : index < args.length
  · obtain ⟨outcome, holder⟩ := offer_perm (List.drop_eq_getElem_cons within) perm distinct
    simp only [if_pos within, outcome]
    cases claimed : (offer args index h.entries).outcome with
    | error e => exact ⟨rfl, holder⟩
    | ok n =>
      cases n with
      | zero => exact ⟨rfl, holder⟩
      | succ n =>
        refine ih _ ?_ ⟨_⟩ ⟨_⟩ _ _ holder.symm ?_ rfl
        · omega
        · rw [offer_signatures]
          exact distinct
  · simp only [if_neg within]
    exact ⟨trivial, perm.symm⟩

end Host

/-! ### Defaults that end -/

/-- The defaults of the plugin's types lead from no type back to itself, and to no unknown type. -/
def Plugin.DefaultsEnd : Plugin → Prop
  | .extension e => e.table.AcyclicDefaults ∧ e.table.Closed
  | .switch _ => True

theorem Plugin.DefaultsEnd.parseArgument {p : Plugin} (h : p.DefaultsEnd) (args : List String)
    (index : Nat) : (p.parseArgument args index).holder.DefaultsEnd := by
  cases p with
  | extension e =>
    obtain ⟨types, same, -⟩ := (e.parseArgument_later args index).binder
    have table : (e.parseArgument args index).holder.table = e.table := by
      rw [Extension.table, same]
      rfl
    unfold DefaultsEnd Plugin.parseArgument at *
    dsimp only
    rw [table]
    exact h
  | switch s => trivial

theorem Plugin.DefaultsEnd.ends {p : Plugin} (h : p.DefaultsEnd) {args : List String}
    {index : Nat} : (p.parseArgument args index).outcome ≠ .error .endless := by
  intro endless
  obtain ⟨e, rfl, ⟨cause, stopped, same⟩ | ⟨reason, same⟩⟩ := Plugin.parseArgument_error endless
  · cases cause with
    | failed cause => cases same
    | endless =>
      exact Binder.parseArgument_ends h.1 h.2 (TypeTable.lt_of_root? e.rooted) stopped
  · cases same

theorem Hosted.answered_defaultsEnd {x : Hosted} (h : x.plugin.DefaultsEnd) (args : List String)
    (index : Nat) : (x.answered args index).plugin.DefaultsEnd := by
  unfold answered
  dsimp only
  split <;> exact h.parseArgument args index

namespace Host

theorem Turns.defaultsEnd {entries after : List Hosted} {turns : List Turn} {rest : List String}
    (h : Turns rest entries turns after) (known : ∀ x ∈ entries, x.plugin.DefaultsEnd) :
    ∀ x ∈ after, x.plugin.DefaultsEnd := by
  induction h with
  | none => exact known
  | @next entries after turn turns token more left x opened answers at' _ _ _ ih =>
    refine ih fun y mem => ?_
    rcases List.mem_or_eq_of_mem_set mem with mem | rfl
    · exact known y mem
    · exact Hosted.answered_defaultsEnd (known x (List.mem_of_getElem? at')) left 0

theorem Ends.ne_endless {after holder : List Hosted} {rest : List String} {claims : Nat}
    {outcome : Outcome ExtensionError Nat} (h : Ends after rest claims holder outcome)
    (known : ∀ x ∈ after, x.plugin.DefaultsEnd) : outcome ≠ .error .endless := by
  rintro rfl
  cases h with
  | failed left answers at' endless => exact (known _ (List.mem_of_getElem? at')).ends endless

/-- **How a host accounts for a list of tokens**, whatever plugins it holds. The tokens divide into
turns, each claimed by the plugin that answers its first token, and what is left; that tells whether
the host succeeds, and how it fails; the plugins that have had a turn are active, and those that
were not asked for their root option are as before (`Accounts`). There are at most as many turns as
tokens, and if no defaults lead from a type back to itself then the host comes to an end. With
distinct root options none of this depends on the order of the plugins. -/
theorem parseArguments_accounts (h : Host) (args : List String) :
    (∃ turns rest, Accounts h.entries args turns rest (h.parseArguments args).holder.entries
      (h.parseArguments args).outcome) ∧
    ((∀ x ∈ h.entries, x.plugin.DefaultsEnd) →
      (h.parseArguments args).outcome ≠ .error .endless) ∧
    ((signatures h.entries).Nodup → ∀ h' : Host, h.entries.Perm h'.entries →
      (h'.parseArguments args).outcome = (h.parseArguments args).outcome ∧
        (h'.parseArguments args).holder.entries.Perm (h.parseArguments args).holder.entries) := by
  obtain ⟨turns, rest, after, split, course, ends⟩ := h.parseFrom_turns args 0 0
  rw [List.drop_zero] at split
  rw [Nat.zero_add] at ends
  refine ⟨⟨turns, rest, .of_turns split course ends⟩, fun known => ?_, ?_⟩
  · exact ends.ne_endless (course.defaultsEnd known)
  · exact fun distinct h' perm => parseFrom_perm h h' args 0 0 perm distinct

/-- A switch beside the extension for labels. -/
def quiet : Switch where
  name := "quiet"
  typeName := "Quiet"
  description := "Tell nothing"

/-- A host of labels and a switch. -/
def labelHost : Host := .ofPlugins [.extension Extension.labels, .switch quiet]

/-- The same plugins, added the other way round. -/
def quietHost : Host := .ofPlugins [.switch quiet, .extension Extension.labels]

theorem labelHost_defaultsEnd : ∀ x ∈ labelHost.entries, x.plugin.DefaultsEnd := by
  intro x mem
  rcases List.mem_pair.mp mem with rfl | rfl
  · refine ⟨fun t cycle => ?_, TypeTable.closed_of_heldTypes (by decide)⟩
    have held := TypeTable.mem_heldTypes_of_transGen cycle
    exact absurd held (by simp [show Extension.labels.table.heldTypes = [] by decide])
  · trivial

theorem labelHost_outcome :
    (labelHost.parseArguments ["-labels", "-tag=a"]).outcome = .ok 1 := by
  have split : ["-labels", "-tag=a"].drop 0 = "-labels" :: ["-tag=a"] := rfl
  have claimed := (Extension.labels_claim "-tag=a" "a" (.refl _) rfl (by decide +kernel)).1
  obtain ⟨x, at', -, outcome⟩ := offer_of_answering split
    (show answering? labelHost.entries "-labels" = some 0 by decide +kernel)
  obtain rfl := Option.some.inj at'
  rw [parseArguments, parseFrom.eq_def]
  simp only [outcome.trans claimed]
  rw [parseFrom.eq_def]
  rfl

/-- The switch may be asked before the labels, or after them. -/
theorem parseArguments_accounts_labels :
    (quietHost.parseArguments ["-labels", "-tag=a"]).outcome = .ok 1 ∧
      ∀ tokens, (labelHost.parseArguments tokens).outcome ≠ .error .endless := by
  obtain ⟨-, -, orders⟩ := parseArguments_accounts labelHost ["-labels", "-tag=a"]
  refine ⟨?_, fun tokens => (parseArguments_accounts labelHost tokens).2.1 labelHost_defaultsEnd⟩
  exact (orders (by decide +kernel) quietHost (.swap _ _ [])).1.trans labelHost_outcome

/-- Makes a link without anything in it, of any text. -/
def linkParser : TextParser where
  output := .single (.composite 0)
  run _ _ := .ok (.composite [.unset, .unset])

/-- A binder for links, each of which has another one below it by default. -/
def linkBinder : Binder where
  table :=
    [{ fullName := "Link", shortName := "Link", root := some { name := "a" },
       fields :=
        [{ descriptor := { name := "n" }, shape := .single (.scalar .text) },
         { descriptor := { name := "c", defaultText := some "x" },
           shape := .single (.composite 0) }] }]
  registry := { byType := [ScalarType.text.parser, linkParser] }

/-- An extension for links. -/
def links : Extension where
  type := 0
  root := { name := "a" }
  binder := linkBinder
  review _ _ := none
  revise config _ := config
  config := [.unset, .unset]
  rooted := rfl

/-- A host of links. -/
def linkHost : Host := .ofPlugins [.extension links]

/-- A link ends only if the one below it does. -/
theorem linkBinder_completeWith {F : Finish}
    (below : (F 0 [.unset, .unset]).outcome = .error .endless) :
    (linkBinder.completeWith F 0 [.unset, .unset]).run.outcome = .error .endless := by
  have parsed : (linkBinder.parse (linkBinder.table.fields 0)[1].descriptor
      (.single (.composite 0)) "x").outcome = .ok (.composite [.unset, .unset]) := rfl
  have default : (linkBinder.valueOf F "Link" (linkBinder.table.fields 0)[1] "x").outcome =
      .error .endless := by
    have shape : (linkBinder.table.fields 0)[1].shape = .single (.composite 0) := rfl
    have finished : (finishValue F (.composite 0) (.composite [.unset, .unset])).outcome =
        .error .endless := by
      rw [finishValue, Run.outcome_bind, below]
      rfl
    simp only [Binder.valueOf, Binder.readContents, shape, Binder.readElement, Run.outcome_bind,
      parsed]
    show ((finishValue F (.composite 0) (.composite [.unset, .unset])).outcome >>= _) >>= _ = _
    rw [finished]
    rfl
  have fills : Fills "Link" (linkBinder.valueOf F "Link") (linkBinder.table.fields 0)
      [.unset, .unset] [.unset, .unset] (.error .endless) :=
    .next (.left rfl rfl rfl) (.failed rfl rfl default)
  exact ((Binder.completeWith_fills (b := linkBinder) (t := 0) F (.inr rfl) _).unique fills).2

/-- **No number of links is enough.** -/
theorem linkBinder_endless (depth : Nat) :
    (linkBinder.completeWithin depth 0 [.unset, .unset]).run.outcome = .error .endless := by
  induction depth with
  | zero => exact linkBinder_completeWith rfl
  | succ depth ih =>
    refine linkBinder_completeWith ?_
    rw [Pass.whole, ih]
    rfl

/-- **A host that comes to no end**: the root option of an extension is all that is given, its
configuration has a default, and this is completed by another one, and so on. -/
theorem parseArguments_endless :
    (linkHost.parseArguments ["-a"]).outcome = .error .endless ∧
      ∀ depth, (linkBinder.completeWithin depth 0 [.unset, .unset]).run.outcome =
        .error .endless := by
  have completed : (links.binder.complete links.type links.config).run.outcome =
      .error .endless := linkBinder_endless _
  have accepted : links.binder.Accepts links.type := .inr rfl
  have found : links.binder.FindsFor links.type [] [] := .stop (by simp)
  have bound : (links.binder.bindAndComplete links.type links.config []).run.outcome =
      .error .endless := by
    refine Binder.bindAndComplete_error_iff.mpr (.inr ⟨0, ?_, ?_⟩)
    · exact Binder.bindFields_ok_iff.mpr ⟨accepted, _, found, rfl⟩
    · rw [Binder.bindFields_fields accepted, found.segments_eq]
      exact completed
  have split : ["-a"].drop 0 = "-a" :: [] := rfl
  have opened : Text.trim "-a" = ({ name := "a" } : Descriptor).signature := by decide +kernel
  have call := Binder.parseArgument_of_opened links.config links.rooted split opened
  have endless : (links.binder.parseArgument links.type links.config ["-a"] 0).outcome =
      .error .endless := by
    rw [call, Binder.withRoot, bound]
    exact bound
  obtain ⟨x, at', -, outcome⟩ := offer_of_answering split
    (show answering? linkHost.entries "-a" = some 0 by decide +kernel)
  obtain rfl := Option.some.inj at'
  have stopped := outcome.trans (links.parseArgument_of_error endless)
  exact ⟨(parseFrom_failed 0 (by decide) stopped).2, linkBinder_endless⟩

end Host

end OptionBinding
