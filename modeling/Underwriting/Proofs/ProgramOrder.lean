import Mathlib.Data.List.Nodup
import Underwriting.Identifier

/-! # Lists in the order of their programs

Programs, tasks and results are brought into the order of their program numbers by a stable sort.
Sorting keeps the records of one number in the order in which they came, and leaves a list alone
whose numbers ascend already. A strictly ascending list has at most one record of each number, so
it is determined by the record that it holds for each.
-/

namespace Underwriting

namespace ProgramId

theorem atMost_iff {first second : ProgramId} :
    first.atMost second = true ↔ first.value ≤ second.value := by
  simp only [atMost, decide_eq_true_eq, UInt64.le_iff_toNat_le]

theorem eq_of_value {first second : ProgramId} (same : first.value = second.value) :
    first = second := by
  cases first
  cases second
  exact congrArg ProgramId.mk same

theorem atMost_trans (first second third : ProgramId) (left : first.atMost second = true)
    (right : second.atMost third = true) : first.atMost third = true := by
  rw [atMost_iff] at left right ⊢
  exact UInt64.le_trans left right

theorem atMost_total (first second : ProgramId) :
    (first.atMost second || second.atMost first) = true := by
  rw [Bool.or_eq_true, atMost_iff, atMost_iff]
  exact UInt64.le_total _ _

theorem lt_of_atMost_of_ne {first second : ProgramId} (ordered : first.atMost second = true)
    (different : first ≠ second) : first.value < second.value := by
  rw [atMost_iff] at ordered
  exact UInt64.lt_of_le_of_ne ordered fun same => different (eq_of_value same)

/-- Numbers in strictly ascending order. -/
def Ascending (ids : List ProgramId) : Prop :=
  ids.Pairwise fun first second => first.value < second.value

theorem Ascending.nodup {ids : List ProgramId} (ascending : Ascending ids) : ids.Nodup := by
  refine List.Pairwise.imp ?_ ascending
  rintro first second smaller rfl
  exact UInt64.lt_irrefl _ smaller

end ProgramId

section Sorting

variable {α : Type} (key : α → ProgramId)

/-- Records in the order of their programs; those of one program keep their order. -/
def sortByProgram (items : List α) : List α :=
  items.mergeSort fun first second => (key first).atMost (key second)

theorem sortByProgram_perm (items : List α) : (sortByProgram key items).Perm items :=
  List.mergeSort_perm items _

theorem sortByProgram_pairwise (items : List α) :
    (sortByProgram key items).Pairwise fun first second =>
      (key first).atMost (key second) = true := by
  apply List.pairwise_mergeSort
  · intro first second third
    exact ProgramId.atMost_trans _ _ _
  · intro first second
    exact ProgramId.atMost_total _ _

/-- Sorting is stable: the records of one program are those that came, in the same order. -/
theorem filter_sortByProgram (items : List α) (id : ProgramId) :
    (sortByProgram key items).filter (key · = id) = items.filter (key · = id) := by
  have level : (items.filter (key · = id)).Pairwise fun first second =>
      (key first).atMost (key second) = true := by
    refine List.pairwise_filter.mpr (List.pairwise_of_forall ?_)
    intro first second ofFirst ofSecond
    simp only [decide_eq_true_eq] at ofFirst ofSecond
    rw [ofFirst, ofSecond, ProgramId.atMost_iff]
    exact UInt64.le_refl _
  have kept : (items.filter (key · = id)).Sublist (sortByProgram key items) := by
    refine List.sublist_mergeSort ?_ ?_ level List.filter_sublist
    · intro first second third
      exact ProgramId.atMost_trans _ _ _
    · intro first second
      exact ProgramId.atMost_total _ _
  have selected := kept.filter (key · = id)
  rw [List.filter_filter] at selected
  simp only [Bool.and_self] at selected
  exact (selected.eq_of_length ((sortByProgram_perm key items).filter _).length_eq.symm).symm

/-- A list in ascending order is sorted already. -/
theorem sortByProgram_of_ascending {items : List α}
    (ascending : ProgramId.Ascending (items.map key)) : sortByProgram key items = items := by
  refine List.mergeSort_of_pairwise ((List.pairwise_map.mp ascending).imp ?_)
  intro first second smaller
  exact ProgramId.atMost_iff.mpr (UInt64.le_of_lt smaller)

/-- Where numbers do not repeat, the records are those that are found under their numbers. -/
theorem find?_eq_some_iff_of_nodup {items : List α} (distinct : (items.map key).Nodup)
    {id : ProgramId} {item : α} :
    items.find? (key · = id) = some item ↔ item ∈ items ∧ key item = id := by
  constructor
  · intro found
    exact ⟨List.mem_of_find?_eq_some found, by simpa using List.find?_some found⟩
  · rintro ⟨member, rfl⟩
    have present : (items.find? (key · = key item)).isSome = true :=
      List.find?_isSome.mpr ⟨item, member, decide_eq_true rfl⟩
    obtain ⟨other, found⟩ := Option.isSome_iff_exists.mp present
    have same : key other = key item := by simpa using List.find?_some found
    rw [found]
    exact congrArg some
      (List.inj_on_of_nodup_map distinct (List.mem_of_find?_eq_some found) member same)

/-- Where numbers do not repeat, they ascend strictly once the records are sorted. -/
theorem ascending_sortByProgram {items : List α} (distinct : (items.map key).Nodup) :
    ProgramId.Ascending ((sortByProgram key items).map key) := by
  have apart : ((sortByProgram key items).map key).Nodup :=
    ((sortByProgram_perm key items).map key).nodup_iff.mpr distinct
  refine List.pairwise_map.mpr ?_
  refine ((sortByProgram_pairwise key items).and (List.pairwise_map.mp apart)).imp ?_
  rintro first second ⟨ordered, different⟩
  exact ProgramId.lt_of_atMost_of_ne ordered different

/-- In ascending order each record is the only one of its number. -/
theorem filter_eq_singleton_of_ascending {items : List α}
    (ascending : ProgramId.Ascending (items.map key)) {item : α} (member : item ∈ items) :
    items.filter (key · = key item) = [item] := by
  have distinct := List.pairwise_map.mp ascending.nodup
  obtain ⟨before, after, rfl⟩ := List.append_of_mem member
  obtain ⟨-, behind, ahead⟩ := List.pairwise_append.mp distinct
  have others : before.filter (key · = key item) = [] ∧ after.filter (key · = key item) = [] := by
    simp only [List.filter_eq_nil_iff, decide_eq_true_eq]
    refine ⟨fun other earlier => ahead other earlier item List.mem_cons_self, ?_⟩
    exact fun other later same => (List.pairwise_cons.mp behind).1 other later same.symm
  simp only [List.filter_append, List.filter_cons, decide_true, ↓reduceIte, others, List.nil_append]

end Sorting

end Underwriting
