import OptionBinding.Proofs.RoundTrip

/-!
# What containers hold

A container is filled with elements one by one (`Container.ofElements`). What it holds afterwards
depends on the container (`Container.Collects`): sequences and deques hold the elements in the order
in which they were added, a heap holds each as often as it was added and hands out the greatest
first, and a set holds one of each, in ascending order (`Container.ofElements_collects`).

Elements are ordered by their keys. A set tells its elements apart by their keys, so it keeps all of
them if no two have the same key. Scalars of one type that can be compared do not
(`Scalar.eq_of_orderKey`).
-/

namespace OptionBinding

/-! ### Keys of scalars -/

/-- The types whose values can be compared with each other, as the elements of a set have to be.
There is no order of patterns and annotations, and a number that is none does not equal itself. -/
def ScalarType.comparable : ScalarType → Bool
  | regex | namePattern | annotationLiteral | float _ => false
  | _ => true

namespace Scalar

theorem eq_of_codePoints {s s' : String} (same : codePoints s = codePoints s') : s = s' := by
  have letters : s.toList = s'.toList := by
    refine (List.map_inj_right fun c c' same => ?_).mp same
    exact Char.toNat_inj.mp (Int.ofNat.inj same)
  exact String.toList_inj.mp letters

/-- **Comparable scalars of one type have different keys.** -/
theorem eq_of_orderKey {type : ScalarType} {s s' : Scalar} (comparable : type.comparable = true)
    (is : s.Is type) (is' : s'.Is type) (same : s.orderKey = s'.orderKey) : s = s' := by
  cases is with
  | bool b =>
    cases is' with
    | bool b' => cases b <;> cases b' <;> simp_all [orderKey]
  | char c =>
    cases is' with
    | char c' =>
      have numbers : c.toNat = c'.toNat := Int.ofNat.inj (List.cons.inj same).1
      rw [Char.toNat_inj.mp numbers]
  | text s =>
    cases is' with
    | text s' => rw [eq_of_codePoints same]
  | className n =>
    cases is' with
    | className n' => rw [show n = n' from congrArg ClassName.mk (eq_of_codePoints same)]
  | integer t n =>
    cases is' with
    | integer _ n' => rw [(List.cons.inj same).1]
  | foreign fullName text =>
    cases is' with
    | foreign _ text' => rw [eq_of_codePoints same]
  | regex | namePattern | annotationLiteral | float => simp [ScalarType.comparable] at comparable

end Scalar

/-- No two of the values have the same key. -/
def Value.ToldApart (values : List Value) : Prop :=
  ∀ x ∈ values, ∀ y ∈ values, x.orderKey = y.orderKey → x = y

namespace Container

variable {c : Container} {x y : Value} {elements added : List Value}

/-! ### Sets -/

theorem mem_insertAscending_of_mem (mem : y ∈ elements) : y ∈ insertAscending x elements := by
  induction elements with
  | nil => cases mem
  | cons z rest ih =>
    rw [insertAscending]
    split
    · exact List.mem_cons_of_mem _ mem
    · split
      · exact mem
      · exact (List.mem_cons.mp mem).elim (· ▸ List.mem_cons_self) fun mem =>
          List.mem_cons_of_mem _ (ih mem)

theorem exists_mem_insertAscending (x : Value) (elements : List Value) :
    ∃ y ∈ insertAscending x elements, y.orderKey = x.orderKey := by
  induction elements with
  | nil => exact ⟨x, List.mem_cons_self, rfl⟩
  | cons z rest ih =>
    rw [insertAscending]
    split
    · exact ⟨x, List.mem_cons_self, rfl⟩
    · split
      · next same => exact ⟨z, List.mem_cons_self, same.symm⟩
      · obtain ⟨y, mem, same⟩ := ih
        exact ⟨y, List.mem_cons_of_mem _ mem, same⟩

/-- An element is added to a set where its key belongs. -/
theorem pairwise_insertAscending
    (ascending : elements.Pairwise fun x y => x.orderKey < y.orderKey) :
    (insertAscending x elements).Pairwise fun x y => x.orderKey < y.orderKey := by
  induction elements with
  | nil => exact List.pairwise_singleton _ _
  | cons z rest ih =>
    obtain ⟨least, ascending'⟩ := List.pairwise_cons.mp ascending
    rw [insertAscending]
    split
    · next before =>
      refine List.pairwise_cons.mpr ⟨fun y mem => ?_, ascending⟩
      rcases List.mem_cons.mp mem with rfl | mem
      · exact before
      · exact List.lt_trans before (least y mem)
    · next notBefore =>
      split
      · exact ascending
      · next other =>
        refine List.pairwise_cons.mpr ⟨fun y mem => ?_, ih ascending'⟩
        rcases mem_insertAscending mem with rfl | mem
        · exact Classical.not_not.mp fun notAfter =>
            other (List.le_antisymm notAfter notBefore)
        · exact least y mem

/-! ### Heaps -/

theorem insertDescending_perm : (insertDescending x elements).Perm (x :: elements) := by
  induction elements with
  | nil => exact .refl _
  | cons z rest ih =>
    rw [insertDescending]
    split
    · exact .refl _
    · exact (ih.cons z).trans (.swap x z rest)

/-- An element is added to a heap before those that are smaller. -/
theorem pairwise_insertDescending
    (descending : elements.Pairwise fun x y => ¬ x.orderKey < y.orderKey) :
    (insertDescending x elements).Pairwise fun x y => ¬ x.orderKey < y.orderKey := by
  induction elements with
  | nil => exact List.pairwise_singleton _ _
  | cons z rest ih =>
    obtain ⟨greatest, descending'⟩ := List.pairwise_cons.mp descending
    rw [insertDescending]
    split
    · next smaller =>
      have below : ¬ x.orderKey < z.orderKey := fun above =>
        List.lt_irrefl _ (List.lt_trans smaller above)
      refine List.pairwise_cons.mpr ⟨fun y mem => ?_, descending⟩
      rcases List.mem_cons.mp mem with rfl | mem
      · exact below
      · exact fun above => greatest y mem (List.lt_trans smaller above)
    · next notSmaller =>
      refine List.pairwise_cons.mpr ⟨fun y mem => ?_, ih descending'⟩
      rcases mem_insertDescending mem with rfl | mem
      · exact notSmaller
      · exact greatest y mem

theorem foldl_insertDescending_perm (added elements : List Value) :
    (added.foldl heap.add elements).Perm (added ++ elements) := by
  induction added generalizing elements with
  | nil => exact .refl _
  | cons x added ih =>
    exact ((ih _).trans (insertDescending_perm.append_left added)).trans List.perm_middle

/-! ### Filling -/

/-- Every value that is added to a set leaves its key there. -/
theorem exists_mem_foldl_insertAscending (kind : c = hashSet ∨ c = treeSet)
    (elements : List Value) (mem : x ∈ added) :
    ∃ y ∈ added.foldl c.add elements, y.orderKey = x.orderKey := by
  have add : c.add = fun elements x => insertAscending x elements := by
    rcases kind with rfl | rfl <;> rfl
  rw [add]
  induction added generalizing elements with
  | nil => cases mem
  | cons z added ih =>
    rcases List.mem_cons.mp mem with rfl | mem
    · obtain ⟨y, held, same⟩ := exists_mem_insertAscending x elements
      refine ⟨y, ?_, same⟩
      exact List.foldlRecOn added _ held fun _ kept _ _ => mem_insertAscending_of_mem kept
    · exact ih _ mem

/-- **What a container holds** that has been filled with values. -/
def Collects (c : Container) (values elements : List Value) : Prop :=
  match c with
  | vector | linkedList | deque => elements = values
  | heap => elements.Perm values ∧ elements.Pairwise fun x y => ¬ x.orderKey < y.orderKey
  | hashSet | treeSet =>
    (∀ x, x ∈ elements ↔ x ∈ values) ∧ elements.Pairwise fun x y => x.orderKey < y.orderKey

theorem heap_collects (values : List Value) : heap.Collects values (values.foldl heap.add []) := by
  refine ⟨by simpa using foldl_insertDescending_perm values [], ?_⟩
  exact List.foldlRecOn values _ .nil fun _ descending _ _ => pairwise_insertDescending descending

theorem set_collects (kind : c = hashSet ∨ c = treeSet) {values : List Value}
    (told : Value.ToldApart values) : c.Collects values (values.foldl c.add []) := by
  have mem : ∀ x, x ∈ values.foldl c.add [] ↔ x ∈ values := by
    refine fun x => ⟨fun held => ?_, fun given => ?_⟩
    · simpa using mem_foldl_add held
    · obtain ⟨y, held, same⟩ := exists_mem_foldl_insertAscending kind [] given
      rwa [← told y (by simpa using mem_foldl_add held) x given same]
  have ascending :
      (values.foldl c.add []).Pairwise fun x y => x.orderKey < y.orderKey := by
    refine List.foldlRecOn values _ .nil fun _ ascending x _ => ?_
    rcases kind with rfl | rfl <;> exact pairwise_insertAscending ascending
  rcases kind with rfl | rfl <;> exact ⟨mem, ascending⟩

/-- **Containers hold what is added to them.** -/
theorem ofElements_collects (c : Container) {values : List Value}
    (told : c.kind = .set → Value.ToldApart values) :
    ∃ elements, c.ofElements values = .items elements ∧ c.Collects values elements := by
  cases c with
  | vector => exact ⟨values, Ordered.ofElements (.inl rfl) values, rfl⟩
  | linkedList => exact ⟨values, Ordered.ofElements (.inr (.inl rfl)) values, rfl⟩
  | deque => exact ⟨values, Ordered.ofElements (.inr (.inr rfl)) values, rfl⟩
  | heap => exact ⟨_, rfl, heap_collects values⟩
  | hashSet => exact ⟨_, rfl, set_collects (.inl rfl) (told rfl)⟩
  | treeSet => exact ⟨_, rfl, set_collects (.inr rfl) (told rfl)⟩

end Container

end OptionBinding
