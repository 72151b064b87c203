import Underwriting.Field.Target
import Underwriting.Proofs.Field.Grammar

/-! # Paths and fields

To every field of an application leads one list of segments: the document, with an index if it is
one of the guarantors, and the attribute. A path is bound to a field exactly if its segments are
that list. Of the other paths, one that puts an index on a document or on its attribute is refused
for that, and every other names nothing.
-/

namespace Underwriting

/-- The segments that lead to a field. -/
def FieldTarget.segments : FieldTarget → List PathSegment
  | .borrower part => [⟨"borrower", none⟩, ⟨part.pathName, none⟩]
  | .guarantor index part => [⟨"guarantors", some index⟩, ⟨part.pathName, none⟩]
  | .loanRequest part => [⟨"loan_request", none⟩, ⟨part.pathName, none⟩]

section Attributes

variable {α : Type} {all : List α} {pathName : α → String}

/-- Attributes that are all found by their names are found by nothing else. -/
private theorem find?_pathName_iff
    (found : ∀ part, all.find? (pathName · == pathName part) = some part) {part : α}
    {name : String} : all.find? (pathName · == name) = some part ↔ pathName part = name := by
  constructor
  · intro finds
    have same := List.find?_some (p := fun part => pathName part == name) finds
    exact beq_iff_eq.mp same
  · rintro rfl
    exact found part

theorem BorrowerAttribute.ofName?_eq_some_iff {part : BorrowerAttribute} {name : String} :
    ofName? name = some part ↔ part.pathName = name :=
  find?_pathName_iff fun part => by cases part <;> rfl

theorem GuarantorAttribute.ofName?_eq_some_iff {part : GuarantorAttribute} {name : String} :
    ofName? name = some part ↔ part.pathName = name :=
  find?_pathName_iff fun part => by cases part <;> rfl

theorem LoanAttribute.ofName?_eq_some_iff {part : LoanAttribute} {name : String} :
    ofName? name = some part ↔ part.pathName = name :=
  find?_pathName_iff fun part => by cases part <;> rfl

end Attributes

namespace PathSegment

/-- The segment leads to the only document of its name. -/
def NamesDocument (segment : PathSegment) : Prop :=
  segment.name = "borrower" ∨ segment.name = "loan_request"

/-- The segment leads to a document: the only one of its name, or a guarantor by its index. -/
def EntersDocument (segment : PathSegment) : Prop :=
  segment.NamesDocument ∧ segment.index? = none ∨
    segment.name = "guarantors" ∧ segment.index?.isSome

end PathSegment

namespace FieldPath

/-- An index stands where there is no sequence: on a document that is the only one of its name, or
on the one segment that follows a document. -/
inductive Misindexed : List PathSegment → PathSegment → Prop
  | document {root : PathSegment} {rest : List PathSegment} :
      root.NamesDocument → root.index?.isSome → Misindexed (root :: rest) root
  | follower {root leaf : PathSegment} :
      root.EntersDocument → leaf.index?.isSome → Misindexed [root, leaf] leaf

variable {path : FieldPath}

section Attributes

variable {α : Type} {ofName? : String → Option α} {pathName : α → String}

theorem findAttribute_of_named {part : α} (known : ofName? (pathName part) = some part) :
    path.findAttribute ofName? [⟨pathName part, none⟩] = .ok part := by
  simp only [findAttribute, attributeName, known]

theorem findAttribute_of_indexed {leaf : PathSegment} (indexed : leaf.index?.isSome) :
    path.findAttribute ofName? [leaf] = .error (.notASequence path.text leaf.name) := by
  obtain ⟨index, carries⟩ := Option.isSome_iff_exists.mp indexed
  simp only [findAttribute, attributeName, carries]

/-- What follows a document is one of its attributes, or is indexed, or is not found. -/
theorem findAttribute_cases
    (known : ∀ {name part}, ofName? name = some part ↔ pathName part = name)
    (rest : List PathSegment) :
    (∃ part, rest = [⟨pathName part, none⟩]) ∨
      (∃ leaf, rest = [leaf] ∧ leaf.index?.isSome) ∨
      path.findAttribute ofName? rest = .error (.notFound path.text) := by
  match rest with
  | [] | _ :: _ :: _ => exact .inr (.inr rfl)
  | [⟨name, some index⟩] => exact .inr (.inl ⟨_, rfl, rfl⟩)
  | [⟨name, none⟩] =>
    cases found : ofName? name with
    | none => exact .inr (.inr (by simp only [findAttribute, attributeName, found]))
    | some part => exact .inl ⟨part, by rw [known.mp found]⟩

end Attributes

theorem target_of_segments {target : FieldTarget} (leads : path.segments = target.segments) :
    path.target = .ok target := by
  cases target with
  | borrower part =>
    simp [FieldPath.target, leads, FieldTarget.segments,
      findAttribute_of_named (BorrowerAttribute.ofName?_eq_some_iff.mpr rfl), Except.map]
  | guarantor index part =>
    simp [FieldPath.target, leads, FieldTarget.segments,
      findAttribute_of_named (GuarantorAttribute.ofName?_eq_some_iff.mpr rfl), Except.map]
  | loanRequest part =>
    simp [FieldPath.target, leads, FieldTarget.segments,
      findAttribute_of_named (LoanAttribute.ofName?_eq_some_iff.mpr rfl), Except.map]

theorem target_of_misindexed {segment : PathSegment}
    (misindexed : Misindexed path.segments segment) :
    path.target = .error (.notASequence path.text segment.name) := by
  generalize leads : path.segments = segments at misindexed
  cases misindexed with
  | document names indexed =>
    obtain ⟨index, carries⟩ := Option.isSome_iff_exists.mp indexed
    rcases names with name | name
    · simp [target, leads, name, carries]
    · simp [target, leads, name, carries]
  | follower enters indexed =>
    rcases enters with ⟨name | name, plain⟩ | ⟨name, carries⟩
    · simp [target, leads, name, plain, findAttribute_of_indexed indexed, Except.map]
    · simp [target, leads, name, plain, findAttribute_of_indexed indexed, Except.map]
    · obtain ⟨index, carries⟩ := Option.isSome_iff_exists.mp carries
      simp [target, leads, name, carries, findAttribute_of_indexed indexed, Except.map]

/-- The outcomes of a path that enters a document, whose attributes are found by their names. -/
private theorem target_cases_of_enters {α : Type} {ofName? : String → Option α}
    {pathName : α → String} (toTarget : α → FieldTarget)
    (known : ∀ {name part}, ofName? name = some part ↔ pathName part = name)
    {root : PathSegment} {rest : List PathSegment}
    (leads : path.segments = root :: rest) (enters : root.EntersDocument)
    (segments : ∀ part, (toTarget part).segments = [root, ⟨pathName part, none⟩])
    (goesOn : path.target = (path.findAttribute ofName? rest).map toTarget) :
    (∃ target : FieldTarget, path.segments = target.segments) ∨
      (∃ segment, Misindexed path.segments segment) ∨
      path.target = .error (.notFound path.text) := by
  rcases path.findAttribute_cases known rest with ⟨part, rfl⟩ | ⟨leaf, rfl, indexed⟩ | refused
  · exact .inl ⟨toTarget part, by rw [leads, segments]⟩
  · exact .inr (.inl ⟨leaf, leads ▸ .follower enters indexed⟩)
  · exact .inr (.inr (by rw [goesOn, refused, Except.map]))

/-- A path leads to a field, or has an index where there is no sequence, or is not found. -/
theorem target_cases (nonempty : path.segments ≠ []) :
    (∃ target : FieldTarget, path.segments = target.segments) ∨
      (∃ segment, Misindexed path.segments segment) ∨
      path.target = .error (.notFound path.text) := by
  obtain ⟨⟨name, index?⟩, rest, leads⟩ := List.exists_cons_of_ne_nil nonempty
  by_cases borrower : name = "borrower"
  · subst borrower
    cases index? with
    | some index =>
      rw [leads]
      exact .inr (.inl ⟨_, .document (.inl rfl) rfl⟩)
    | none =>
      refine target_cases_of_enters .borrower BorrowerAttribute.ofName?_eq_some_iff leads
        (.inl ⟨.inl rfl, rfl⟩) (fun part => rfl) ?_
      simp [target, leads]
  by_cases loanRequest : name = "loan_request"
  · subst loanRequest
    cases index? with
    | some index =>
      rw [leads]
      exact .inr (.inl ⟨_, .document (.inr rfl) rfl⟩)
    | none =>
      refine target_cases_of_enters .loanRequest LoanAttribute.ofName?_eq_some_iff leads
        (.inl ⟨.inr rfl, rfl⟩) (fun part => rfl) ?_
      simp [target, leads]
  by_cases guarantors : name = "guarantors"
  · subst guarantors
    cases index? with
    | none => exact .inr (.inr (by simp [target, leads]))
    | some index =>
      refine target_cases_of_enters (.guarantor index) GuarantorAttribute.ofName?_eq_some_iff
        leads (.inr ⟨rfl, rfl⟩) (fun part => rfl) ?_
      simp [target, leads]
  · exact .inr (.inr (by simp [target, leads, borrower, loanRequest, guarantors]))

theorem target_eq_ok_iff (nonempty : path.segments ≠ []) {target : FieldTarget} :
    path.target = .ok target ↔ path.segments = target.segments := by
  refine ⟨fun bound => ?_, target_of_segments⟩
  rcases target_cases nonempty with ⟨other, leads⟩ | ⟨segment, misindexed⟩ | refused
  · rw [target_of_segments leads] at bound
    cases bound
    exact leads
  · rw [target_of_misindexed misindexed] at bound
    cases bound
  · rw [refused] at bound
    cases bound

/-- A path that is not bound is refused for its first index where there is no sequence, and if
there is none it is not found. -/
theorem target_eq_error_iff (nonempty : path.segments ≠ []) {error : FieldError} :
    path.target = .error error ↔
      (∃ segment, Misindexed path.segments segment ∧
        error = .notASequence path.text segment.name) ∨
      (∀ target : FieldTarget, path.segments ≠ target.segments) ∧
        (∀ segment, ¬ Misindexed path.segments segment) ∧ error = .notFound path.text := by
  constructor
  · intro refused
    rcases target_cases nonempty with ⟨target, leads⟩ | ⟨segment, misindexed⟩ | notFound
    · rw [target_of_segments leads] at refused
      cases refused
    · rw [target_of_misindexed misindexed] at refused
      cases refused
      exact .inl ⟨segment, misindexed, rfl⟩
    · refine .inr ⟨fun target leads => ?_, fun segment misindexed => ?_, ?_⟩
      · rw [target_of_segments leads] at notFound
        cases notFound
      · rw [target_of_misindexed misindexed] at notFound
        cases notFound
      · rw [notFound] at refused
        cases refused
        rfl
  · rintro (⟨segment, misindexed, rfl⟩ | ⟨unbound, sound, rfl⟩)
    · exact target_of_misindexed misindexed
    · rcases target_cases nonempty with ⟨target, leads⟩ | ⟨segment, misindexed⟩ | notFound
      · exact absurd leads (unbound target)
      · exact absurd misindexed (sound segment)
      · exact notFound

/-- A field is named by the path that is written for its segments. -/
theorem exists_parse_of_target (target : FieldTarget) :
    ∃ raw path, parse raw = .ok path ∧ path.target = .ok target := by
  have named : ∀ segment ∈ target.segments, PathSegment.IsName segment.name.toList := by
    simp only [PathSegment.isName_iff]
    cases target with
    | borrower part => cases part <;> decide
    | guarantor index part =>
      cases part <;> simp only [FieldTarget.segments, List.forall_mem_cons] <;> decide
    | loanRequest part => cases part <;> decide
  have nonempty : target.segments ≠ [] := by cases target <;> exact List.cons_ne_nil _ _
  exact ⟨_, _, parse_of_spells (spells_renderSegments nonempty named), target_of_segments rfl⟩

theorem segments_ne_nil_of_parse {raw : String} (parsed : parse raw = .ok path) :
    path.segments ≠ [] := (parse_eq_ok_iff.mp parsed).2.1

/-- A path that was read is bound to a field exactly if its segments lead there, and is refused
otherwise: for an index where there is no sequence, or else because nothing is found. Every field is
named by a path, and the paths that name it have the same segments. -/
theorem target_binds_one_to_one {raw : String} (parsed : parse raw = .ok path) :
    (∀ target, path.target = .ok target ↔ path.segments = target.segments) ∧
      (∀ error, path.target = .error error ↔
        (∃ segment, Misindexed path.segments segment ∧
          error = .notASequence path.text segment.name) ∨
        (∀ target : FieldTarget, path.segments ≠ target.segments) ∧
          (∀ segment, ¬ Misindexed path.segments segment) ∧ error = .notFound path.text) ∧
      (∀ target, ∃ text named, parse text = .ok named ∧ named.target = .ok target) ∧
      ∀ text other target otherTarget, parse text = .ok other → path.target = .ok target →
        other.target = .ok otherTarget →
        (target = otherTarget ↔ path.segments = other.segments) := by
  have nonempty := segments_ne_nil_of_parse parsed
  refine ⟨fun _ => target_eq_ok_iff nonempty, fun _ => target_eq_error_iff nonempty,
    exists_parse_of_target, ?_⟩
  intro text other target otherTarget otherParsed bound otherBound
  have leads := (target_eq_ok_iff nonempty).mp bound
  have otherLeads := (target_eq_ok_iff (segments_ne_nil_of_parse otherParsed)).mp otherBound
  constructor
  · rintro rfl
    exact leads.trans otherLeads.symm
  · intro same
    rw [target_of_segments (same.trans otherLeads)] at bound
    exact (Except.ok.inj bound).symm

/-- Two spellings of one path are bound to one field. -/
theorem target_binds_one_to_one_signed :
    let segments : List PathSegment := [⟨"guarantors", some 7⟩, ⟨"fico_score", none⟩]
    let signed : FieldPath := ⟨"guarantors[+007].fico_score", segments⟩
    let plain : FieldPath := ⟨"guarantors[7].fico_score", segments⟩
    parse signed.text = .ok signed ∧ parse plain.text = .ok plain ∧
      signed.target = .ok (.guarantor 7 .ficoScore) ∧
      ∀ target, plain.target = .ok target → target = .guarantor 7 .ficoScore := by
  intro segments signed plain
  have parsed : parse signed.text = .ok signed := by decide +kernel
  have otherParsed : parse plain.text = .ok plain := by decide +kernel
  obtain ⟨binds, -, -, same⟩ := target_binds_one_to_one parsed
  have bound : signed.target = .ok (.guarantor 7 .ficoScore) := (binds _).mpr rfl
  refine ⟨parsed, otherParsed, bound, fun target otherBound => ?_⟩
  exact ((same _ _ _ _ otherParsed bound otherBound).mpr rfl).symm

end FieldPath

end Underwriting
