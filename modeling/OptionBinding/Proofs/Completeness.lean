import OptionBinding.Proofs.Provenance
import OptionBinding.Regex.Standard

/-!
# Bound configurations are complete

A registry is *flat* (`Registry.Flat`) if no parser makes a whole collection or a composite that
holds another one. With such a registry nothing in a configuration escapes completing: no composite
is one that a parser made as it stands (`not_made`), so every sound composite is settled
(`Registry.Flat.settled`). Hence what binding leaves below a configuration is settled, however it
ends, and after binding that succeeds so is the configuration itself (`bind_settled`).
-/

namespace OptionBinding

/-- No parser makes a whole collection, and none makes a composite that holds a composite. -/
structure Registry.Flat (r : Registry) : Prop where
  single : ∀ p ∈ r.parsers, ∀ (c : Container) (e : Element), p.output ≠ .collection c e
  flat : ∀ p ∈ r.parsers, ∀ (option text : String) (us : List Value),
    p.run option text = .ok (.composite us) → ∀ v ∈ us, v.composites = []

variable {b : Binder} {t : TypeId}

namespace Registry.Flat

variable (flat : b.registry.Flat)
include flat

theorem parse_collection {d : Descriptor} {c : Container} {e : Element} {text : String}
    {v : Value} : b.registry.parse b.table d (.collection c e) text ≠ .ok v := by
  intro parsed
  obtain ⟨p, resolved, -⟩ := parse_ok_iff.mp parsed
  obtain ⟨mem, output⟩ := mem_of_resolve? resolved
  exact flat.single p mem c e output

theorem not_made {x : Composite} : ¬ x.Made b := by
  intro made
  induction made with
  | element parsed mem => exact flat.parse_collection parsed
  | inside parsed held =>
    obtain ⟨p, resolved, made⟩ := parse_ok_iff.mp parsed
    obtain ⟨i, f, v, -, at', -, mem⟩ := held
    rw [flat.flat p (mem_of_resolve? resolved).1 _ _ _ made v (List.mem_of_getElem? at')] at mem
    simp at mem
  | deeper made held ih => exact ih

theorem settled_of_filled {x : Composite} (h : x.Filled b) : x.Settled b.table := by
  intro i f field settles
  rcases h i f field settles with given | ⟨c, e, text, v, shape, default, resolves, parsed, empty⟩
  · exact given
  · exact absurd parsed flat.parse_collection

theorem settled {x : Composite} (h : x.Completed b ∨ x.Made b) : x.Settled b.table := by
  rcases h with completed | made
  · exact flat.settled_of_filled completed.filled
  · exact absurd made flat.not_made

end Registry.Flat

namespace Binder

theorem parseArgument_kept {fields : List Value} (typed : b.registry.Typed b.table)
    (kept : Composite.Kept b ⟨t, fields⟩) (args : List String) (index : Nat) :
    Composite.Kept b ⟨t, (b.parseArgument t fields args index).fields⟩ := by
  unfold parseArgument
  split
  · next root token rest _ _ =>
    split
    · have bound := (bindAndComplete_sound typed kept rest).1
      simp only [settle, withRoot]
      split <;> exact bound
    · exact kept
  · exact kept

/-- **A bound configuration is complete at every depth.** If binding succeeds, no field that is
required or has a default is empty, in the configuration or in any composite reached from it. The
same holds of every composite below the configuration however binding ends, and however the parsing
of an argument does. -/
theorem bind_settled (typed : b.registry.Typed b.table) (flat : b.registry.Flat)
    (args : List String) (start : Nat) :
    ((∃ n, (b.bind t args start).outcome = .ok n) → ∀ y : Composite,
        Relation.ReflTransGen (Composite.Holds b.table) ⟨t, (b.bind t args start).fields⟩ y →
          y.Settled b.table) ∧
      (∀ y : Composite, Relation.TransGen (Composite.Holds b.table)
          ⟨t, (b.bindInto t (b.table.fresh t) args start).fields⟩ y → y.Settled b.table) ∧
      (∀ y : Composite, Relation.TransGen (Composite.Holds b.table)
          ⟨t, (b.parseArgument t (b.table.fresh t) args start).fields⟩ y → y.Settled b.table) := by
  have fresh := Composite.kept_fresh b t
  have bound := bindAndComplete_sound typed fresh (args.drop start)
  refine ⟨?_, ?_, ?_⟩
  · rintro ⟨n, ended⟩ y reaches
    exact flat.settled (bound.1.sound_of_completed (bound.2 n ended) y reaches)
  · intro y below
    exact flat.settled (bound.1.sound_below below)
  · intro y below
    exact flat.settled ((parseArgument_kept typed fresh args start).sound_below below)

/-- A text stands for the node of that name, not marked yet. -/
def nodeParser : TextParser where
  output := .single (.composite 0)
  run _ text := .ok (.composite [.scalar (.text text), .unset, .items []])

/-- A binder for nodes with a name, a mark that has a default, and nodes below them. -/
def nodeBinder : Binder where
  table :=
    [{ fullName := "Node", shortName := "Node",
       fields :=
        [{ descriptor := { name := "name", required := true }, shape := .single (.scalar .text) },
         { descriptor := { name := "mark", defaultText := some "m" },
           shape := .single (.scalar .text) },
         { descriptor := { name := "kid" }, shape := .collection .vector (.composite 0) }] }]
  registry := { byType := [ScalarType.text.parser, nodeParser] }

theorem mem_nodeBinder_parsers {p : TextParser} :
    p ∈ nodeBinder.registry.parsers ↔ p = ScalarType.text.parser ∨ p = nodeParser := by
  simp [Registry.parsers, nodeBinder]

theorem nodeBinder_typed : nodeBinder.registry.Typed nodeBinder.table := by
  intro p mem
  rcases mem_nodeBinder_parsers.mp mem with rfl | rfl
  · exact Registry.typed_scalarParser _
  · rintro option text v ⟨rfl⟩
    exact ⟨_, rfl, rfl⟩

theorem nodeBinder_flat : nodeBinder.registry.Flat where
  single := by
    intro p mem
    rcases mem_nodeBinder_parsers.mp mem with rfl | rfl <;>
      simp [ScalarType.parser, nodeParser]
  flat := by
    intro p mem option text us made
    rcases mem_nodeBinder_parsers.mp mem with rfl | rfl
    · simp [ScalarType.parser, ScalarType.read, Except.map] at made
    · obtain rfl : _ = us := by simpa [nodeParser] using made
      simp [Value.composites]

/-- The node `b`, marked. -/
def markedNode : List Value := [.scalar (.text "b"), .scalar (.text "m"), .items []]

/-- The node that stands for the text of a token has got its mark. -/
theorem bind_settled_node :
    (nodeBinder.bind 0 ["-kid=b", "-name=r"] 0).outcome = .ok 2 ∧
      (nodeBinder.bind 0 ["-kid=b", "-name=r"] 0).fields =
        [.scalar (.text "r"), .scalar (.text "m"), .items [.composite markedNode]] ∧
      Composite.Settled nodeBinder.table ⟨0, markedNode⟩ := by
  have after : ((nodeBinder.table.fields 0)[2]).descriptor.capturedRun ["-name=r"] = [] := by
    decide +kernel
  have kid : (nodeBinder.bindText "Node" (nodeBinder.table.fields 0)[2] "b" ["-name=r"]).outcome =
      .ok ⟨some (.items [.composite markedNode]), 0⟩ := by
    rw [bindText, after]
    rfl
  have found : nodeBinder.FindsFor 0 ["-kid=b", "-name=r"]
      [⟨2, 1, some (.items [.composite markedNode])⟩, ⟨0, 1, some (.scalar (.text "r"))⟩] := by
    refine .take (s := ⟨⟨2, (nodeBinder.table.fields 0)[2]⟩, .delimited "b",
      (nodeBinder.table.pending 0).take 2⟩) (by decide +kernel) kid ?_
    exact .take (c := ⟨some (.scalar (.text "r")), 0⟩)
      (s := ⟨⟨0, (nodeBinder.table.fields 0)[0]⟩, .delimited "r",
        ((nodeBinder.table.pending 0).take 2).drop 1⟩) (by decide +kernel) rfl (.stop (by simp))
  have binds : nodeBinder.Binds 0 (nodeBinder.table.fresh 0) ["-kid=b", "-name=r"]
      ([.scalar (.text "r"), .scalar (.text "m"), .items [.composite markedNode]], 2) :=
    .intro (.inr rfl) found rfl
  obtain ⟨ended, fields⟩ := (bind_ok_iff ["-kid=b", "-name=r"] 0).mpr binds
  refine ⟨ended, fields, ?_⟩
  refine (bind_settled nodeBinder_typed nodeBinder_flat _ 0).1 ⟨2, ended⟩ _ (.single ?_)
  rw [fields]
  exact ⟨2, (nodeBinder.table.fields 0)[2], _, rfl, rfl, rfl, by simp⟩

end Binder

end OptionBinding
