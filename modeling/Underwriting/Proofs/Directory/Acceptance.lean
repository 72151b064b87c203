import Underwriting.Proofs.ProgramOrder
import Underwriting.Service.Plan

/-! # The programs that accept an application

The programs of a plan are determined by the list that the directory gives, in whatever order and
with whatever repetitions: their numbers ascend strictly, and a number is held by the first listed
program of that number that accepts the amount and the term, if there is one.
-/

namespace Underwriting

/-- The program that a list offers under a number: the first of that number that accepts. -/
def offered? (programs : List LenderProgram) (amount : Binary64) (termMonths : UInt32)
    (id : ProgramId) : Option LenderProgram :=
  programs.find? fun program => decide (program.id = id) && program.accepts amount termMonths

theorem offered?_isSome_iff {programs : List LenderProgram} {amount : Binary64}
    {termMonths : UInt32} {id : ProgramId} :
    (offered? programs amount termMonths id).isSome = true ↔
      ∃ program ∈ programs, program.id = id ∧ program.accepts amount termMonths = true := by
  simp only [offered?, List.find?_isSome, Bool.and_eq_true, decide_eq_true_eq]

section Neighbours

private theorem firstOfEach_subset (kept : LenderProgram) (rest : List LenderProgram) :
    ∀ program ∈ firstOfEach kept rest, program ∈ kept :: rest := by
  induction rest generalizing kept with
  | nil => exact fun _ member => member
  | cons next rest ih =>
    intro program member
    simp only [firstOfEach] at member
    split at member
    · rcases List.mem_cons.mp (ih kept program member) with rfl | later
      · exact List.mem_cons_self
      · exact List.mem_cons_of_mem _ (List.mem_cons_of_mem _ later)
    · rcases List.mem_cons.mp member with rfl | later
      · exact List.mem_cons_self
      · exact List.mem_cons_of_mem _ (ih next program later)

/-- Of neighbours with one number the first is kept, so each number keeps its first program. -/
private theorem find?_firstOfEach (kept : LenderProgram) (rest : List LenderProgram)
    (id : ProgramId) :
    (firstOfEach kept rest).find? (·.id = id) = (kept :: rest).find? (·.id = id) := by
  induction rest generalizing kept with
  | nil => rfl
  | cons next rest ih =>
    simp only [firstOfEach]
    split
    · rename_i same
      rw [ih kept]
      by_cases wanted : kept.id = id
      · simp only [List.find?_cons, wanted, decide_true]
      · simp only [List.find?_cons, same, wanted, decide_false]
    · rw [List.find?_cons, List.find?_cons, ih next]

private theorem ascending_firstOfEach (kept : LenderProgram) (rest : List LenderProgram)
    (ordered : (kept :: rest).Pairwise fun first second => first.id.atMost second.id = true) :
    ProgramId.Ascending ((firstOfEach kept rest).map (·.id)) := by
  induction rest generalizing kept with
  | nil => exact List.pairwise_singleton _ _
  | cons next rest ih =>
    obtain ⟨below, tail⟩ := List.pairwise_cons.mp ordered
    simp only [firstOfEach]
    split
    · refine ih kept (List.pairwise_cons.mpr ⟨?_, (List.pairwise_cons.mp tail).2⟩)
      exact fun program member => below program (List.mem_cons_of_mem _ member)
    · rename_i different
      refine List.pairwise_cons.mpr ⟨?_, ih next tail⟩
      intro id member
      obtain ⟨program, present, rfl⟩ := List.mem_map.mp member
      have first : kept.id.value < next.id.value :=
        ProgramId.lt_of_atMost_of_ne (below next List.mem_cons_self) fun same => different same.symm
      rcases List.mem_cons.mp (firstOfEach_subset next rest program present) with rfl | later
      · exact first
      · have second := ProgramId.atMost_iff.mp ((List.pairwise_cons.mp tail).1 program later)
        exact UInt64.lt_of_lt_of_le first second

private theorem firstOfEach_of_ascending (kept : LenderProgram) (rest : List LenderProgram)
    (ascending : ProgramId.Ascending ((kept :: rest).map (·.id))) :
    firstOfEach kept rest = kept :: rest := by
  induction rest generalizing kept with
  | nil => rfl
  | cons next rest ih =>
    obtain ⟨below, tail⟩ := List.pairwise_cons.mp ascending
    have different : next.id ≠ kept.id := fun same =>
      UInt64.lt_irrefl _ (same ▸ below next.id List.mem_cons_self)
    rw [firstOfEach, if_neg different, ih next tail]

end Neighbours

section Accepting

variable (programs : List LenderProgram) (amount : Binary64) (termMonths : UInt32)

private theorem acceptingPrograms_eq :
    acceptingPrograms programs amount termMonths =
      match sortByProgram (·.id)
          (programs.filter fun program => program.accepts amount termMonths) with
      | [] => []
      | first :: rest => firstOfEach first rest := rfl

/-- The numbers of the accepting programs ascend strictly. -/
theorem ascending_acceptingPrograms :
    ProgramId.Ascending ((acceptingPrograms programs amount termMonths).map (·.id)) := by
  rw [acceptingPrograms_eq]
  have ordered := sortByProgram_pairwise (·.id)
    (programs.filter fun program => program.accepts amount termMonths)
  split
  · exact List.Pairwise.nil
  · rename_i first rest sorted
    rw [sorted] at ordered
    exact ascending_firstOfEach first rest ordered

/-- Under each number stands the first listed program that accepts. -/
theorem find?_acceptingPrograms (id : ProgramId) :
    (acceptingPrograms programs amount termMonths).find? (·.id = id) =
      offered? programs amount termMonths id := by
  have stable := filter_sortByProgram (·.id)
    (programs.filter fun program => program.accepts amount termMonths) id
  rw [List.filter_filter] at stable
  have first := congrArg List.head? stable
  rw [List.head?_filter, List.head?_filter] at first
  rw [offered?, ← first, acceptingPrograms_eq]
  split
  · rename_i sorted
    rw [sorted]
  · rename_i head rest sorted
    rw [sorted]
    exact find?_firstOfEach head rest id

theorem mem_acceptingPrograms_iff {program : LenderProgram} :
    program ∈ acceptingPrograms programs amount termMonths ↔
      offered? programs amount termMonths program.id = some program := by
  rw [← find?_acceptingPrograms]
  have found : (acceptingPrograms programs amount termMonths).find? (·.id = program.id) =
      some program ↔
        program ∈ acceptingPrograms programs amount termMonths ∧ program.id = program.id :=
    find?_eq_some_iff_of_nodup LenderProgram.id
      (ascending_acceptingPrograms programs amount termMonths).nodup
  exact (found.trans (and_iff_left rfl)).symm

/-- No program is left exactly if none of the listed ones accepts. -/
theorem acceptingPrograms_eq_nil_iff :
    acceptingPrograms programs amount termMonths = [] ↔
      ∀ program ∈ programs, program.accepts amount termMonths = false := by
  constructor
  · intro none program member
    have missing := find?_acceptingPrograms programs amount termMonths program.id
    rw [none, List.find?_nil] at missing
    have refused := List.find?_eq_none.mp missing.symm program member
    simpa using refused
  · intro refused
    refine List.eq_nil_iff_forall_not_mem.mpr fun program member => ?_
    have found := (mem_acceptingPrograms_iff programs amount termMonths).mp member
    have accepted := List.find?_some found
    rw [refused program (List.mem_of_find?_eq_some found), Bool.and_false] at accepted
    exact Bool.false_ne_true accepted

variable {programs amount termMonths}

/-- Programs in strictly ascending order that all accept are left as they are. -/
theorem acceptingPrograms_of_ascending (ascending : ProgramId.Ascending (programs.map (·.id)))
    (accepted : ∀ program ∈ programs, program.accepts amount termMonths = true) :
    acceptingPrograms programs amount termMonths = programs := by
  rw [acceptingPrograms_eq, List.filter_eq_self.mpr accepted,
    sortByProgram_of_ascending LenderProgram.id ascending]
  cases programs with
  | nil => rfl
  | cons first rest => exact firstOfEach_of_ascending first rest ascending

end Accepting

end Underwriting
