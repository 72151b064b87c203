import Underwriting.Proofs.Documents.Plain
import Underwriting.Proofs.Json.ReadBack
import Underwriting.Proofs.Timestamp.ReadBack

/-! # Documents are read back

A plain value is read back from its document, field by field. What the writer leaves out is what the
reader puts in for it: nothing for a part that is not there, and no groups for a group without any.
A group is read with more levels than its document is deep, which is enough for the groups in it.
-/

namespace Underwriting

open Fields (reads_required reads_withDefault reads_default reads_optional reads_orNull)

section Members

@[simp] theorem Json.lookup_optionalMember (name other : String) (value? : Option Json) :
    (optionalMember other value?).lookup name = if name == other then value? else none := by
  cases value? with
  | none => simp only [optionalMember, List.lookup_nil, ite_self]
  | some value =>
    cases same : name == other with
    | false => simp only [optionalMember, List.lookup_cons, List.lookup_nil, same,
        Bool.false_eq_true, ↓reduceIte]
    | true => simp only [optionalMember, List.lookup_cons, same, ↓reduceIte]

/-- Texts, truth values and whole numbers are not null. -/
private theorem value_of_some {α : Type} {inner : Decoder α} {encode : α → Json}
    (notNull : ∀ value, encode value ≠ .null)
    (read : ∀ value, inner.value (encode value) = .ok value) {value? : Option α} :
    ∀ value ∈ value?, encode value ≠ .null ∧ inner.value (encode value) = .ok value :=
  fun value _ => ⟨notNull value, read value⟩

end Members

section Depth

namespace Json

/-- An item lies less deep than its array. -/
theorem depth_lt_array {items : List Json} {item : Json} (member : item ∈ items) :
    item.toSource.depth < (array items).toSource.depth := by
  refine Nat.lt_succ_of_le ?_
  induction items with
  | nil => cases member
  | cons first rest ih =>
    simp only [itemsToSource, Source.itemsDepth]
    rcases List.mem_cons.mp member with rfl | later
    · exact Nat.le_max_left _ _
    · exact Nat.le_trans (ih later) (Nat.le_max_right _ _)

/-- The value of a member lies less deep than its object. -/
theorem depth_lt_object {members : List (String × Json)} {name : String} {value : Json}
    (member : (name, value) ∈ members) :
    value.toSource.depth < (object members).toSource.depth := by
  refine Nat.lt_succ_of_le ?_
  induction members with
  | nil => cases member
  | cons first rest ih =>
    obtain ⟨other, held⟩ := first
    simp only [membersToSource, Source.membersDepth]
    rcases List.mem_cons.mp member with same | later
    · cases same
      exact Nat.le_max_left _ _
    · exact Nat.le_trans (ih later) (Nat.le_max_right _ _)

end Json

end Depth

section Identifiers

theorem LoanId.decode_encode (id : LoanId) : decode.value id.encode = .ok id :=
  Decoder.value_map LoanId.mk (Decoder.value_word64 id.value)

theorem LenderId.decode_encode (id : LenderId) : decode.value id.encode = .ok id :=
  Decoder.value_map LenderId.mk (Decoder.value_word64 id.value)

theorem ProgramId.decode_encode (id : ProgramId) : decode.value id.encode = .ok id :=
  Decoder.value_map ProgramId.mk (Decoder.value_word64 id.value)

theorem RunId.decode_encode (id : RunId) : decode.value id.encode = .ok id :=
  Decoder.value_map RunId.mk (Decoder.value_word64 id.value)

end Identifiers

section Policies

theorem RuleDefinition.decode_encode {definition : RuleDefinition} (plain : definition.IsPlain) :
    decode.value definition.encode = .ok definition := by
  obtain ⟨id, ruleType, field?, params, severity, message⟩ := definition
  have severityRead : (Decoder.choice Severity.spellings).value (.string severity.label) =
      .ok severity := Decoder.value_choice (by cases severity <;> rfl)
  refine Fields.value_decoder (by simp) ?_
  refine .seq ?_ (reads_withDefault rfl (Decoder.value_text message))
  refine .seq ?_ (reads_required rfl severityRead)
  refine .seq ?_ (reads_withDefault rfl (Decoder.value_members plain))
  refine .seq ?_ (reads_orNull rfl
    (value_of_some (fun _ => Json.noConfusion) Decoder.value_text))
  refine .seq ?_ (reads_required rfl (Decoder.value_text ruleType))
  exact .map _ (reads_required rfl (Decoder.value_text id))

namespace RuleTree

theorem encodeAll_eq_map (groups : List (RuleTree RuleDefinition)) :
    encodeAll groups = groups.map encode := by
  induction groups with
  | nil => rfl
  | cons group rest ih => simp only [encodeAll, ih, List.map_cons]

/-- A group is read back with more levels than it is deep if its inner groups are read back with as
many as are left. -/
theorem value_encodeGroup {logic : GroupLogic} {rules : List RuleDefinition}
    {groups : List (RuleTree RuleDefinition)} {levels : Nat}
    (plain : ∀ definition ∈ rules, definition.IsPlain)
    (groupsRead : ∀ group ∈ groups, (decodeWithin levels).value (encode group) = .ok group) :
    (decodeWithin (levels + 1)).value (encode ⟨logic, rules, groups⟩) =
      .ok ⟨logic, rules, groups⟩ := by
  have logicRead : (Decoder.choice GroupLogic.spellings).value (.string logic.label) = .ok logic :=
    Decoder.value_choice (by cases logic <;> rfl)
  have rulesRead := Decoder.value_list fun definition member =>
    RuleDefinition.decode_encode (plain definition member)
  have listRead := Decoder.value_list groupsRead
  rw [← encodeAll_eq_map] at listRead
  rw [encode, encodeGroup]
  cases groups with
  | nil =>
    refine Fields.value_decoder (by simp [Json.optionalMember, encodeAll]) ?_
    refine .seq ?_ (reads_default _ [] rfl)
    refine .seq ?_ (reads_withDefault rfl rulesRead)
    exact .map _ (reads_withDefault rfl logicRead)
  | cons group rest =>
    refine Fields.value_decoder (by simp [Json.optionalMember, encodeAll]) ?_
    refine .seq ?_ (reads_withDefault rfl listRead)
    refine .seq ?_ (reads_withDefault rfl rulesRead)
    exact .map _ (reads_withDefault rfl logicRead)

theorem depth_lt_encode (logic : GroupLogic) (rules : List RuleDefinition)
    {groups : List (RuleTree RuleDefinition)} {group : RuleTree RuleDefinition}
    (member : group ∈ groups) :
    (encode group).toSource.depth + 1 < (encode ⟨logic, rules, groups⟩).toSource.depth := by
  have listed : encode group ∈ encodeAll groups := by
    rw [encodeAll_eq_map]
    exact List.mem_map_of_mem member
  have present : ("groups", Json.array (encodeAll groups)) ∈
      [("logic", .string logic.label), ("rules", .array (rules.map RuleDefinition.encode))] ++
        Json.optionalMember "groups"
          (if (encodeAll groups).isEmpty then none else some (.array (encodeAll groups))) := by
    rw [if_neg (by simpa using List.ne_nil_of_mem listed)]
    exact List.mem_append_right _ List.mem_cons_self
  have inside := Json.depth_lt_array listed
  have outside := Json.depth_lt_object present
  rw [encode, encodeGroup]
  omega

mutual

/-- A tree is read back with more levels than its document is deep. -/
theorem decodeWithin_encode : (tree : RuleTree RuleDefinition) → tree.IsPlain → (levels : Nat) →
    (encode tree).toSource.depth < levels → (decodeWithin levels).value (encode tree) = .ok tree
  | ⟨logic, rules, groups⟩, plain, levels, deep => by
    obtain ⟨plainRules, plainGroups⟩ := isPlain_iff.mp plain
    cases levels with
    | zero => exact absurd deep (Nat.not_lt_zero _)
    | succ levels =>
      refine value_encodeGroup plainRules fun group member => ?_
      have inner := depth_lt_encode logic rules member
      exact decodeWithin_encodeAll groups group member (plainGroups group member) levels (by omega)

theorem decodeWithin_encodeAll : (groups : List (RuleTree RuleDefinition)) → ∀ group ∈ groups,
    group.IsPlain → (levels : Nat) → (encode group).toSource.depth < levels →
      (decodeWithin levels).value (encode group) = .ok group
  | [], _, member, _, _, _ => by cases member
  | first :: rest, group, member, plain, levels, deep => by
    rcases List.mem_cons.mp member with same | later
    · rw [same] at plain deep ⊢
      exact decodeWithin_encode first plain levels deep
    · exact decodeWithin_encodeAll rest group later plain levels deep

end

theorem decode_encode {tree : RuleTree RuleDefinition} (plain : tree.IsPlain) :
    decode.value tree.encode = .ok tree :=
  decodeWithin_encode tree plain _ (Nat.lt_succ_self _)

end RuleTree

theorem Deduction.decode_encode {deduction : Deduction} (plain : deduction.IsPlain) :
    (decode .plain).value (deduction.encode .plain) = .ok deduction := by
  obtain ⟨ruleId, points⟩ := deduction
  refine Fields.value_decoder (by simp) ?_
  refine .seq ?_ (reads_required rfl (Decoder.value_plain plain))
  exact .map _ (reads_required rfl (Decoder.value_text ruleId))

theorem ScoringConfig.decode_encode {config : ScoringConfig} (plain : config.IsPlain) :
    (decode .plain).value (config.encode .plain) = .ok config := by
  obtain ⟨baseScore, minAcceptScore, deductions⟩ := config
  have deductionsRead := Decoder.value_list fun deduction member =>
    Deduction.decode_encode (plain.deductions deduction member)
  refine Fields.value_decoder (by simp) ?_
  refine .seq ?_ (reads_withDefault rfl deductionsRead)
  refine .seq ?_ (reads_withDefault rfl (Decoder.value_plain plain.minAcceptScore))
  exact .map _ (reads_withDefault rfl (Decoder.value_plain plain.baseScore))

theorem Policy.decode_encode {policy : Policy} (plain : policy.IsPlain) :
    (decode .plain).value (policy.encode .plain) = .ok policy := by
  obtain ⟨program, version, isActive, hardRules, softRules, scoring⟩ := policy
  refine Fields.value_decoder (by simp) ?_
  refine .seq ?_ (reads_withDefault rfl (ScoringConfig.decode_encode plain.scoring))
  refine .seq ?_ (reads_withDefault rfl (RuleTree.decode_encode plain.softRules))
  refine .seq ?_ (reads_required rfl (RuleTree.decode_encode plain.hardRules))
  refine .seq ?_ (reads_withDefault rfl (Decoder.value_bool isActive))
  refine .seq ?_ (reads_withDefault rfl (Decoder.value_word32 version))
  exact .map _ (reads_required rfl (ProgramId.decode_encode program))

end Policies

section Applications

theorem Borrower.decode_encode {borrower : Borrower} (plain : borrower.IsPlain) :
    (decode .plain).value (borrower.encode .plain) = .ok borrower := by
  obtain ⟨businessName, industry, state, yearsInBusiness, annualRevenue, license?, score?⟩ :=
    borrower
  refine Fields.value_decoder ?_ ?_
  · cases license? <;> cases score? <;> simp [Json.optionalMember]
  · refine .seq ?_ (reads_optional (by simp [List.lookup_cons, List.lookup_append])
      (value_of_some (fun _ => Json.noConfusion) Decoder.value_word32))
    refine .seq ?_ (reads_optional (by simp [List.lookup_cons, List.lookup_append])
      (value_of_some (fun _ => Json.noConfusion) Decoder.value_bool))
    refine .seq ?_ (reads_required rfl (Decoder.value_plain plain.annualRevenue))
    refine .seq ?_ (reads_required rfl (Decoder.value_plain plain.yearsInBusiness))
    refine .seq ?_ (reads_required rfl (Decoder.value_text state))
    refine .seq ?_ (reads_required rfl (Decoder.value_text industry))
    exact .map _ (reads_required rfl (Decoder.value_text businessName))

theorem Guarantor.decode_encode (guarantor : Guarantor) :
    decode.value guarantor.encode = .ok guarantor := by
  obtain ⟨name, ficoScore, homeowner?, bankruptcy, delinquency?⟩ := guarantor
  refine Fields.value_decoder ?_ ?_
  · cases homeowner? <;> cases delinquency? <;> simp [Json.optionalMember]
  · refine .seq ?_ (reads_optional (by simp [List.lookup_cons, List.lookup_append])
      (value_of_some (fun _ => Json.noConfusion) Decoder.value_bool))
    refine .seq ?_ (reads_required (by simp [List.lookup_cons, List.lookup_append])
      (Decoder.value_bool bankruptcy))
    refine .seq ?_ (reads_optional (by simp [List.lookup_cons, List.lookup_append])
      (value_of_some (fun _ => Json.noConfusion) Decoder.value_bool))
    refine .seq ?_ (reads_required rfl (Decoder.value_word16 ficoScore))
    exact .map _ (reads_required rfl (Decoder.value_text name))

theorem LoanRequest.decode_encode {request : LoanRequest} (plain : request.IsPlain) :
    (decode .plain).value (request.encode .plain) = .ok request := by
  obtain ⟨amount, termMonths, equipmentType, equipmentCost, year, vendor, condition⟩ := request
  refine Fields.value_decoder (by simp) ?_
  refine .seq ?_ (reads_required rfl (Decoder.value_text condition))
  refine .seq ?_ (reads_required rfl (Decoder.value_text vendor))
  refine .seq ?_ (reads_required rfl (Decoder.value_word16 year))
  refine .seq ?_ (reads_required rfl (Decoder.value_plain plain.equipmentCost))
  refine .seq ?_ (reads_required rfl (Decoder.value_text equipmentType))
  refine .seq ?_ (reads_required rfl (Decoder.value_word32 termMonths))
  exact .map _ (reads_required rfl (Decoder.value_plain plain.amount))

theorem Application.decode_encode {application : Application} (plain : application.IsPlain) :
    (decode .plain).value (application.encode .plain) = .ok application := by
  obtain ⟨borrower, guarantors, loanRequest⟩ := application
  have guarantorsRead : (Decoder.list Guarantor.decode).value
      (.array (guarantors.map Guarantor.encode)) = .ok guarantors :=
    Decoder.value_list fun guarantor _ => guarantor.decode_encode
  refine Fields.value_decoder (by simp) ?_
  refine .seq ?_ (reads_required rfl (LoanRequest.decode_encode plain.loanRequest))
  refine .seq ?_ (reads_required rfl guarantorsRead)
  exact .map _ (reads_required rfl (Borrower.decode_encode plain.borrower))

theorem Lender.decode_encode (lender : Lender) : decode.value lender.encode = .ok lender := by
  obtain ⟨id, name, active⟩ := lender
  refine Fields.value_decoder (by simp) ?_
  refine .seq ?_ (reads_required rfl (Decoder.value_bool active))
  refine .seq ?_ (reads_required rfl (Decoder.value_text name))
  exact .map _ (reads_required rfl (LenderId.decode_encode id))

theorem LenderProgram.decode_encode {program : LenderProgram} (plain : program.IsPlain) :
    (decode .plain).value (program.encode .plain) = .ok program := by
  obtain ⟨id, lender, name, minAmount, maxAmount, minTermMonths, maxTermMonths⟩ := program
  refine Fields.value_decoder (by simp) ?_
  refine .seq ?_ (reads_required rfl (Decoder.value_word32 maxTermMonths))
  refine .seq ?_ (reads_required rfl (Decoder.value_word32 minTermMonths))
  refine .seq ?_ (reads_required rfl (Decoder.value_plain plain.maxAmount))
  refine .seq ?_ (reads_required rfl (Decoder.value_plain plain.minAmount))
  refine .seq ?_ (reads_required rfl (Decoder.value_text name))
  refine .seq ?_ (reads_required rfl (LenderId.decode_encode lender))
  exact .map _ (reads_required rfl (ProgramId.decode_encode id))

end Applications

section Runs

theorem RuleOutcome.decode_encode (outcome : RuleOutcome) :
    decode.value outcome.encode = .ok outcome := by
  obtain ⟨ruleId, field, passed, message?⟩ := outcome
  refine Fields.value_decoder ?_ ?_
  · cases message? <;> simp [Json.optionalMember]
  · refine .seq ?_ (reads_optional (by simp [List.lookup_cons])
      (value_of_some (fun _ => Json.noConfusion) Decoder.value_text))
    refine .seq ?_ (reads_required rfl (Decoder.value_bool passed))
    refine .seq ?_ (reads_required rfl (Decoder.value_text field))
    exact .map _ (reads_required rfl (Decoder.value_text ruleId))

theorem RuleResults.decode_encode (results : RuleResults) :
    decode.value results.encode = .ok results := by
  obtain ⟨hard, soft, hardPassed, softPassed⟩ := results
  have outcomesRead (outcomes : List RuleOutcome) : (Decoder.list RuleOutcome.decode).value
      (.array (outcomes.map RuleOutcome.encode)) = .ok outcomes :=
    Decoder.value_list fun outcome _ => outcome.decode_encode
  refine Fields.value_decoder (by simp) ?_
  refine .seq ?_ (reads_withDefault rfl (Decoder.value_bool softPassed))
  refine .seq ?_ (reads_withDefault rfl (Decoder.value_bool hardPassed))
  refine .seq ?_ (reads_required rfl (outcomesRead soft))
  exact .map _ (reads_required rfl (outcomesRead hard))

theorem EngineFault.decode_encode (fault : EngineFault) :
    decode.value fault.encode = .ok fault := by
  obtain ⟨kind, message⟩ := fault
  have kindRead : (Decoder.choice FaultKind.spellings).value (.string kind.label) = .ok kind :=
    Decoder.value_choice (by cases kind <;> rfl)
  refine Fields.value_decoder (by simp) ?_
  refine .seq ?_ (reads_required rfl (Decoder.value_text message))
  exact .map _ (reads_required rfl kindRead)

theorem MatchResult.decode_encode {result : MatchResult} (plain : result.IsPlain) :
    (decode .plain).value (result.encode .plain) = .ok result := by
  obtain ⟨lender, program, eligible, fitScore, reasons, ruleResults, fault?⟩ := result
  have reasonsRead : (Decoder.list .text).value (.array (reasons.map .string)) = .ok reasons :=
    Decoder.value_list fun reason _ => Decoder.value_text reason
  refine Fields.value_decoder ?_ ?_
  · cases fault? <;> simp [Json.optionalMember]
  · refine .seq ?_ (reads_optional (by simp [List.lookup_cons])
      (value_of_some (fun _ => Json.noConfusion) EngineFault.decode_encode))
    refine .seq ?_ (reads_required rfl (RuleResults.decode_encode ruleResults))
    refine .seq ?_ (reads_required rfl reasonsRead)
    refine .seq ?_ (reads_required rfl (Decoder.value_plain plain))
    refine .seq ?_ (reads_required rfl (Decoder.value_bool eligible))
    refine .seq ?_ (reads_required rfl (ProgramId.decode_encode program))
    exact .map _ (reads_required rfl (LenderId.decode_encode lender))

theorem MatchRun.decode_encode {run : MatchRun} (plain : run.IsPlain) :
    (decode .plain).value (run.encode .plain) = .ok run := by
  obtain ⟨id, loan, status, results, failure?, createdAt, completedAt?⟩ := run
  have statusRead : (Decoder.choice RunStatus.spellings).value (.string status.label) =
      .ok status := Decoder.value_choice (by cases status <;> rfl)
  have resultsRead := Decoder.value_list fun result member =>
    MatchResult.decode_encode (plain result member)
  refine Fields.value_decoder ?_ ?_
  · cases failure? <;> cases completedAt? <;> simp [Json.optionalMember]
  · refine .seq ?_ (reads_optional (by simp [List.lookup_cons, List.lookup_append])
      (value_of_some (fun _ => Json.noConfusion) Timestamp.decode_encode))
    refine .seq ?_ (reads_required (by simp [List.lookup_cons, List.lookup_append])
      (Timestamp.decode_encode createdAt))
    refine .seq ?_ (reads_optional (by simp [List.lookup_cons, List.lookup_append])
      (value_of_some (fun _ => Json.noConfusion) EngineFault.decode_encode))
    refine .seq ?_ (reads_required rfl resultsRead)
    refine .seq ?_ (reads_required rfl statusRead)
    refine .seq ?_ (reads_required rfl (LoanId.decode_encode loan))
    exact .map _ (reads_required rfl (RunId.decode_encode id))

end Runs

end Underwriting
