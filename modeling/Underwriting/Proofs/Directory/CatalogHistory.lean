import Underwriting.Proofs.ProgramOrder
import Underwriting.Proofs.Service.History

/-! # What the catalog holds after edits

Every edit files something in a slot: a lender, a program or an application under its number, a
policy under the number of its program. What the catalog holds in a slot is what the latest edit of
the slot filed there, and nothing if no edit of the history names the slot. The programs stand in a
list, but never two under one number, so the list is determined by its slots as well.
-/

namespace Underwriting

/-- A place of the catalog at which one thing is filed. -/
inductive CatalogSlot
  | lender (id : LenderId)
  | program (id : ProgramId)
  | policy (program : ProgramId)
  | application (loan : LoanId)
deriving DecidableEq

namespace CatalogEdit

/-- The slot that an edit files something in. -/
def slot : CatalogEdit → CatalogSlot
  | .addLender lender => .lender lender.id
  | .addProgram program => .program program.id
  | .activatePolicy policy => .policy policy.program
  | .fileApplication loan _ => .application loan

/-- What an edit files: what it was given, except that a policy becomes active. -/
def filed : CatalogEdit → CatalogEdit
  | .activatePolicy policy => .activatePolicy { policy with isActive := true }
  | edit => edit

/-- An edit of a history after which no other names its slot. -/
def IsLatest (history : List CatalogEdit) (edit : CatalogEdit) : Prop :=
  ∃ before later : List CatalogEdit,
    history = before ++ edit :: later ∧ ∀ other ∈ later, other.slot ≠ edit.slot

/-- A slot has a latest edit unless no edit names it. -/
theorem latest_cases (history : List CatalogEdit) (slot : CatalogSlot) :
    (∃ edit, IsLatest history edit ∧ edit.slot = slot) ∨ ∀ edit ∈ history, edit.slot ≠ slot := by
  induction history with
  | nil => exact .inr fun edit member => by cases member
  | cons first rest ih =>
    rcases ih with ⟨edit, ⟨before, later, split, last⟩, own⟩ | absent
    · exact .inl ⟨edit, ⟨first :: before, later, by rw [split, List.cons_append], last⟩, own⟩
    · by_cases same : first.slot = slot
      · subst same
        exact .inl ⟨first, ⟨[], rest, rfl, absent⟩, rfl⟩
      · exact .inr (List.forall_mem_cons.mpr ⟨same, absent⟩)

end CatalogEdit

namespace Catalog

/-- What the catalog holds in a slot, as the edit that would file it. -/
def held? (catalog : Catalog) : CatalogSlot → Option CatalogEdit
  | .lender id => (catalog.lenders.find? id).map .addLender
  | .program id => (catalog.programs.find? (·.id = id)).map .addProgram
  | .policy program => (catalog.policies.find? program).map .activatePolicy
  | .application loan => (catalog.applications.find? loan).map (.fileApplication loan)

@[simp] theorem held?_empty (slot : CatalogSlot) : empty.held? slot = none := by
  cases slot <;> rfl

section Edits

variable (catalog : Catalog)

private theorem find?_programs_addProgram (program : LenderProgram) (id : ProgramId) :
    (catalog.addProgram program).programs.find? (·.id = id) =
      if id = program.id then some program else catalog.programs.find? (·.id = id) := by
  rw [addProgram, List.find?_append]
  by_cases same : id = program.id
  · subst same
    have displaced : (catalog.programs.filter fun existing => existing.id ≠ program.id).find?
        (·.id = program.id) = none := by
      refine List.find?_eq_none.mpr fun existing member => ?_
      simpa using (List.mem_filter.mp member).2
    rw [displaced, if_pos rfl, Option.none_or, List.find?_cons, decide_eq_true rfl]
  · have kept : (catalog.programs.filter fun existing => existing.id ≠ program.id).find?
        (·.id = id) = catalog.programs.find? (·.id = id) := by
      rw [List.find?_filter]
      congr 1
      funext existing
      by_cases own : existing.id = id
      · simp [own, same]
      · simp [own]
    have other : [program].find? (·.id = id) = none := by
      rw [List.find?_cons, decide_eq_false (Ne.symm same), List.find?_nil]
    rw [kept, other, Option.or_none, if_neg same]

/-- An edit files its own in its slot and leaves all others alone. -/
theorem held?_edit (change : CatalogEdit) (slot : CatalogSlot) :
    (catalog.edit change).held? slot =
      if slot = change.slot then some change.filed else catalog.held? slot := by
  cases change with
  | addLender lender =>
    cases slot with
    | lender id =>
      simp only [edit, addLender, held?, Register.find?_put, CatalogEdit.slot, CatalogEdit.filed,
        CatalogSlot.lender.injEq, apply_ite (Option.map _), Option.map_some]
    | program | policy | application => rfl
  | addProgram program =>
    cases slot with
    | program id =>
      simp only [edit, held?, find?_programs_addProgram, CatalogEdit.slot, CatalogEdit.filed,
        CatalogSlot.program.injEq, apply_ite (Option.map _), Option.map_some]
    | lender | policy | application => rfl
  | activatePolicy policy =>
    cases slot with
    | policy program =>
      simp only [edit, activatePolicy, held?, Register.find?_put, CatalogEdit.slot,
        CatalogEdit.filed, CatalogSlot.policy.injEq, apply_ite (Option.map _), Option.map_some]
    | lender | program | application => rfl
  | fileApplication loan application =>
    cases slot with
    | application other =>
      simp only [edit, fileApplication, held?, Register.find?_put, CatalogEdit.slot,
        CatalogEdit.filed, CatalogSlot.application.injEq, apply_ite (Option.map _),
        Option.map_some]
      split
      · rename_i same
        rw [same]
      · rfl
    | lender | program | policy => rfl

/-- Edits of other slots leave a slot alone. -/
theorem held?_foldl_edit (later : List CatalogEdit) {slot : CatalogSlot}
    (elsewhere : ∀ other ∈ later, other.slot ≠ slot) :
    (later.foldl edit catalog).held? slot = catalog.held? slot := by
  induction later generalizing catalog with
  | nil => rfl
  | cons change rest ih =>
    obtain ⟨other, others⟩ := List.forall_mem_cons.mp elsewhere
    rw [List.foldl_cons, ih _ others, held?_edit, if_neg (Ne.symm other)]

/-- The latest edit of a slot decides what it holds. -/
theorem held?_foldl_edit_of_isLatest {history : List CatalogEdit} {change : CatalogEdit}
    (latest : change.IsLatest history) :
    (history.foldl edit catalog).held? change.slot = some change.filed := by
  obtain ⟨before, later, rfl, last⟩ := latest
  rw [List.foldl_append, List.foldl_cons, held?_foldl_edit _ later last, held?_edit, if_pos rfl]

end Edits

/-- The catalog that edits make of an empty one. -/
def ofEdits (history : List CatalogEdit) : Catalog := history.foldl edit empty

variable {history : List CatalogEdit}

/-- A slot holds what its latest edit filed. -/
theorem held?_ofEdits_eq_some_iff (history : List CatalogEdit) (slot : CatalogSlot)
    (filed : CatalogEdit) :
    (ofEdits history).held? slot = some filed ↔
      ∃ change : CatalogEdit, change.IsLatest history ∧ change.slot = slot ∧
        change.filed = filed := by
  constructor
  · intro held
    rcases CatalogEdit.latest_cases history slot with ⟨change, latest, rfl⟩ | absent
    · rw [ofEdits, held?_foldl_edit_of_isLatest empty latest, Option.some.injEq] at held
      exact ⟨change, latest, rfl, held⟩
    · rw [ofEdits, held?_foldl_edit empty history absent, held?_empty] at held
      cases held
  · rintro ⟨change, latest, rfl, rfl⟩
    exact held?_foldl_edit_of_isLatest empty latest

/-- A slot holds nothing exactly if no edit names it. -/
theorem held?_ofEdits_eq_none_iff (history : List CatalogEdit) (slot : CatalogSlot) :
    (ofEdits history).held? slot = none ↔ ∀ change ∈ history, change.slot ≠ slot := by
  constructor
  · intro nothing
    rcases CatalogEdit.latest_cases history slot with ⟨change, latest, rfl⟩ | absent
    · rw [ofEdits, held?_foldl_edit_of_isLatest empty latest] at nothing
      cases nothing
    · exact absent
  · intro absent
    rw [ofEdits, held?_foldl_edit empty history absent, held?_empty]

/-- The list of programs has no number twice. -/
def HasDistinctPrograms (catalog : Catalog) : Prop := (catalog.programs.map (·.id)).Nodup

theorem HasDistinctPrograms.edit {catalog : Catalog} (distinct : catalog.HasDistinctPrograms)
    (change : CatalogEdit) : (catalog.edit change).HasDistinctPrograms := by
  cases change with
  | addProgram program =>
    have kept := (List.filter_sublist (p := fun existing => existing.id ≠ program.id)
      (l := catalog.programs)).map (·.id)
    simp only [HasDistinctPrograms, Catalog.edit, addProgram, List.map_append, List.map_cons,
      List.map_nil]
    refine List.nodup_append.mpr ⟨kept.nodup distinct, List.pairwise_singleton _ _, ?_⟩
    intro id held other new
    obtain ⟨existing, member, rfl⟩ := List.mem_map.mp held
    rw [List.mem_singleton.mp new]
    simpa using (List.mem_filter.mp member).2
  | addLender | activatePolicy | fileApplication => exact distinct

theorem hasDistinctPrograms_foldl_edit {catalog : Catalog} (distinct : catalog.HasDistinctPrograms)
    (later : List CatalogEdit) : (later.foldl edit catalog).HasDistinctPrograms := by
  induction later generalizing catalog with
  | nil => exact distinct
  | cons change rest ih => exact ih (distinct.edit change)

theorem hasDistinctPrograms_empty : empty.HasDistinctPrograms := List.nodup_nil

theorem hasDistinctPrograms_ofEdits (history : List CatalogEdit) :
    (ofEdits history).HasDistinctPrograms :=
  hasDistinctPrograms_foldl_edit hasDistinctPrograms_empty history

/-- Except for policies, a slot holds an edit exactly if that is the latest edit of the slot. -/
theorem held?_ofEdits_iff_isLatest (history : List CatalogEdit) (slot : CatalogSlot)
    (change : CatalogEdit) (noPolicy : ∀ policy, change ≠ .activatePolicy policy) :
    (ofEdits history).held? slot = some change ↔ change.IsLatest history ∧ change.slot = slot := by
  have asGiven (other : CatalogEdit) : other.filed = change ↔ other = change := by
    cases other with
    | activatePolicy policy =>
      exact iff_of_false (fun same => noPolicy _ same.symm) (fun same => noPolicy _ same.symm)
    | addLender | addProgram | fileApplication => exact Iff.rfl
  rw [held?_ofEdits_eq_some_iff]
  constructor
  · rintro ⟨other, latest, own, same⟩
    rw [asGiven] at same
    subst same
    exact ⟨latest, own⟩
  · rintro ⟨latest, own⟩
    exact ⟨change, latest, own, (asGiven change).mpr rfl⟩

/-- The programs are the latest registrations of their numbers. -/
theorem mem_programs_ofEdits_iff {program : LenderProgram} :
    program ∈ (ofEdits history).programs ↔
      (CatalogEdit.addProgram program).IsLatest history := by
  have listed : (ofEdits history).programs.find? (·.id = program.id) = some program ↔
      program ∈ (ofEdits history).programs ∧ program.id = program.id :=
    find?_eq_some_iff_of_nodup LenderProgram.id (hasDistinctPrograms_ofEdits history)
  have held := held?_ofEdits_iff_isLatest history (.program program.id) (.addProgram program)
    fun _ => CatalogEdit.noConfusion
  simp only [held?, Option.map_eq_some_iff, CatalogEdit.addProgram.injEq, exists_eq_right, listed,
    CatalogEdit.slot, and_true] at held
  exact held

/-- A lender is active if the latest registration of its number says so. -/
theorem hasActiveLender_ofEdits_iff {program : LenderProgram} :
    (ofEdits history).hasActiveLender program = true ↔
      ∃ lender : Lender, (CatalogEdit.addLender lender).IsLatest history ∧
        lender.id = program.lender ∧ lender.active = true := by
  have held (lender : Lender) := held?_ofEdits_iff_isLatest history (.lender program.lender)
    (.addLender lender) fun _ => CatalogEdit.noConfusion
  simp only [held?, Option.map_eq_some_iff, CatalogEdit.addLender.injEq, exists_eq_right,
    CatalogEdit.slot, CatalogSlot.lender.injEq] at held
  simp only [hasActiveLender, ← and_assoc, ← held]
  cases (ofEdits history).lenders.find? program.lender with
  | none => simp
  | some lender => simp

/-- The programs that are on offer are those of active lenders that accept. -/
theorem mem_eligiblePrograms {catalog : Catalog} {amount : Binary64} {termMonths : UInt32}
    {program : LenderProgram} :
    program ∈ catalog.eligiblePrograms amount termMonths ↔
      program ∈ catalog.programs ∧ catalog.hasActiveLender program = true ∧
        program.accepts amount termMonths = true := by
  rw [eligiblePrograms, List.mem_mergeSort, List.mem_filter, Bool.and_eq_true]

/-- The programs on offer are the latest registrations that accept and whose lender is active. -/
theorem mem_eligiblePrograms_ofEdits_iff {amount : Binary64} {termMonths : UInt32}
    {program : LenderProgram} :
    program ∈ (ofEdits history).eligiblePrograms amount termMonths ↔
      (CatalogEdit.addProgram program).IsLatest history ∧
        program.accepts amount termMonths = true ∧
        ∃ lender : Lender, (CatalogEdit.addLender lender).IsLatest history ∧
          lender.id = program.lender ∧ lender.active = true := by
  rw [mem_eligiblePrograms, mem_programs_ofEdits_iff, hasActiveLender_ofEdits_iff]
  exact and_congr_right fun _ => and_comm

/-- The programs on offer stand in strictly ascending order. -/
theorem HasDistinctPrograms.ascending_eligiblePrograms {catalog : Catalog}
    (distinct : catalog.HasDistinctPrograms) (amount : Binary64) (termMonths : UInt32) :
    ProgramId.Ascending ((catalog.eligiblePrograms amount termMonths).map (·.id)) := by
  refine ascending_sortByProgram LenderProgram.id ?_
  exact (List.filter_sublist.map _).nodup distinct

/-- The policy of a program is the one activated last, and it is active however it was authored. -/
theorem find?_policies_ofEdits_iff {program : ProgramId} {policy : Policy} :
    (ofEdits history).policies.find? program = some policy ↔
      ∃ authored : Policy, (CatalogEdit.activatePolicy authored).IsLatest history ∧
        authored.program = program ∧ policy = { authored with isActive := true } := by
  have held := held?_ofEdits_eq_some_iff history (.policy program) (.activatePolicy policy)
  simp only [held?, Option.map_eq_some_iff, CatalogEdit.activatePolicy.injEq,
    exists_eq_right] at held
  rw [held]
  constructor
  · rintro ⟨change, latest, own, same⟩
    cases change with
    | activatePolicy authored =>
      exact ⟨authored, latest, CatalogSlot.policy.inj own,
        (CatalogEdit.activatePolicy.inj same).symm⟩
    | addLender | addProgram | fileApplication => cases same
  · rintro ⟨authored, latest, rfl, rfl⟩
    exact ⟨_, latest, rfl, rfl⟩

/-- Every policy that was activated is active. -/
theorem activePolicy?_ofEdits (program : ProgramId) :
    (ofEdits history).activePolicy? program = (ofEdits history).policies.find? program := by
  rw [activePolicy?]
  cases found : (ofEdits history).policies.find? program with
  | none => rfl
  | some policy =>
    obtain ⟨authored, -, -, rfl⟩ := find?_policies_ofEdits_iff.mp found
    rfl

/-- A program has no active policy exactly if none was ever activated for it. -/
theorem activePolicy?_ofEdits_eq_none_iff {program : ProgramId} :
    (ofEdits history).activePolicy? program = none ↔
      ∀ policy : Policy, .activatePolicy policy ∈ history → policy.program ≠ program := by
  have held := held?_ofEdits_eq_none_iff history (.policy program)
  rw [held?, Option.map_eq_none_iff] at held
  rw [activePolicy?_ofEdits, held]
  constructor
  · intro absent policy member same
    exact absent _ member (congrArg CatalogSlot.policy same)
  · intro absent change member same
    cases change with
    | activatePolicy policy => exact absent policy member (CatalogSlot.policy.inj same)
    | addLender | addProgram | fileApplication => cases same

/-- An application is the last one filed under its number. -/
theorem find?_applications_ofEdits_iff {loan : LoanId} {application : Application} :
    (ofEdits history).applications.find? loan = some application ↔
      (CatalogEdit.fileApplication loan application).IsLatest history := by
  have held := held?_ofEdits_iff_isLatest history (.application loan)
    (.fileApplication loan application) fun _ => CatalogEdit.noConfusion
  simp only [held?, Option.map_eq_some_iff, CatalogEdit.fileApplication.injEq, true_and,
    exists_eq_right, CatalogEdit.slot, and_true] at held
  exact held

theorem find?_applications_ofEdits_eq_none_iff {loan : LoanId} :
    (ofEdits history).applications.find? loan = none ↔
      ∀ application, .fileApplication loan application ∉ history := by
  have held := held?_ofEdits_eq_none_iff history (.application loan)
  rw [held?, Option.map_eq_none_iff] at held
  rw [held]
  constructor
  · intro absent application member
    exact absent _ member rfl
  · intro absent change member same
    cases change with
    | fileApplication other application =>
      exact absent application (CatalogSlot.application.inj same ▸ member)
    | addLender | addProgram | activatePolicy => cases same

end Catalog

end Underwriting
