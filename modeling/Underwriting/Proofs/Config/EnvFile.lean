import Mathlib.Tactic.SplitIfs
import Underwriting.Config.EnvFile

/-! # What an environment file supplies

The lines in front of the first malformed line are in force, and which line that is does not depend
on any variable. Each assignment among them has a value, in which a reference is to a variable of
the environment, or else to the first assignment above. The file gives a variable the value of the
first assignment to it, and does so only where the environment has none.
-/

namespace Underwriting

namespace Environment

/-- Two environments in which every variable has the same value, or in both none. -/
def Agrees (environment other : Environment) : Prop :=
  ∀ name, environment.find? name = other.find? name

/-- An environment with assignments behind it. They count where a variable is not set, and of two
to one variable the first counts. -/
def followedBy (environment : Environment) (assignments : List (String × String)) : Environment :=
  ⟨environment.entries ++ assignments⟩

section Sources

variable {environment other base : Environment} {above : List (String × String)}

theorem find?_followedBy (environment : Environment) (assignments : List (String × String))
    (name : String) : (environment.followedBy assignments).find? name =
      (environment.find? name).or (assignments.lookup name) :=
  List.lookup_append

theorem agrees_followedBy_nil (environment : Environment) :
    environment.Agrees (environment.followedBy []) := by
  intro name
  rw [find?_followedBy, List.lookup_nil, Option.or_none]

/-- To supply a variable is to put an assignment to it behind all there are. -/
theorem Agrees.supply (agrees : environment.Agrees (base.followedBy above)) (name value : String) :
    (environment.supply name value).Agrees (base.followedBy (above ++ [(name, value)])) := by
  intro sought
  rw [find?_supply, find?_followedBy, List.lookup_append, ← Option.or_assoc, ← find?_followedBy,
    ← agrees sought]
  by_cases same : sought = name
  · subst same
    cases environment.find? sought <;> simp
  · simp [same, List.lookup_cons, beq_eq_false_iff_ne.mpr same]

theorem Agrees.textBehind?_eq (agrees : environment.Agrees other) (reference : List Char) :
    environment.textBehind? reference = other.textBehind? reference := by
  simp only [textBehind?, agrees _]

end Sources

end Environment

namespace EnvFile

section Values

variable {environment other : Environment}

theorem stepValue_congr (agrees : environment.Agrees other) (character : Char)
    (output : List Char) (phase : ValuePhase) :
    stepValue environment character output phase = stepValue other character output phase := by
  have same (reference : List Char) :
      referredTo environment reference = referredTo other reference := by
    rw [referredTo, agrees.textBehind?_eq, ← referredTo]
  cases phase <;> simp only [stepValue, same]

theorem readValue_congr (agrees : environment.Agrees other) (phase : ValuePhase)
    (output text : List Char) :
    readValue environment phase output text = readValue other phase output text := by
  induction text generalizing phase output with
  | nil =>
    cases phase <;> simp only [readValue, endValue, referredTo, agrees.textBehind?_eq]
  | cons character rest ih =>
    simp only [readValue, stepValue_congr agrees, ih]

/-- A line says the same in environments that agree. -/
theorem Line.read_congr (agrees : environment.Agrees other) (text : List Char) :
    Line.read environment text = Line.read other text := by
  simp only [Line.read, readValue_congr agrees]

/-- Where a reader stands behind a character depends neither on variables nor on what was read. -/
theorem phase_stepValue (environment other : Environment) (character : Char)
    (output otherwise : List Char) (phase : ValuePhase) :
    (stepValue environment character output phase).map (·.1) =
      (stepValue other character otherwise phase).map (·.1) := by
  cases phase with
  | escape weak => cases meant : escaped? character <;> simp only [stepValue, meant, Option.map]
  | _ => simp only [stepValue, apply_ite (Option.map _), Option.map_some, Option.map_none]

theorem readValue_eq_none_iff (environment other : Environment) (phase : ValuePhase)
    (output otherwise text : List Char) :
    readValue environment phase output text = none ↔
      readValue other phase otherwise text = none := by
  induction text generalizing phase output otherwise with
  | nil =>
    cases phase with
    | escape weak | reference weak name => cases weak <;> simp [readValue, endValue]
    | _ => simp [readValue, endValue]
  | cons character rest ih =>
    have same := phase_stepValue environment other character output otherwise phase
    simp only [readValue]
    cases first : stepValue environment character output phase with
    | none =>
      rw [first, Option.map_none, eq_comm, Option.map_eq_none_iff] at same
      rw [same]
    | some reached =>
      rw [first, Option.map_some, eq_comm, Option.map_eq_some_iff] at same
      obtain ⟨alsoReached, second, samePhase⟩ := same
      rw [second]
      simp only [← samePhase]
      exact ih ..

/-- Whether a line can be read does not depend on the variables. -/
theorem Line.read_eq_malformed_iff (environment other : Environment) (text : List Char) :
    Line.read environment text = .malformed ↔ Line.read other text = .malformed := by
  simp only [Line.read]
  split_ifs
  · exact Iff.rfl
  · cases target? (trimBlanks text) with
    | none => exact Iff.rfl
    | some target =>
      have same := readValue_eq_none_iff environment other .bare [] [] (target.2.dropWhile isBlank)
      dsimp only
      split_ifs
      · exact Iff.rfl
      · split <;> split <;> simp_all

end Values

section Lines

variable {environment base : Environment} {above : List (String × String)}

/-- The lines in front of the first that is malformed. -/
def soundLines : List (Option (List Char)) → List (List Char)
  | some text :: rest =>
    if Line.read .empty text = .malformed then [] else text :: soundLines rest
  | none :: _ | [] => []

/-- The assignment that a line makes, if it makes one. -/
def Line.assignment? : Line → Option (String × String)
  | .assignment name value => some (name, value)
  | .empty | .malformed => none

/-- The assignments of a line and of those above it, where the line may refer to the assignments
above. -/
def collect (environment : Environment) (above : List (String × String)) (text : List Char) :
    List (String × String) :=
  above ++ (Line.read (environment.followedBy above) text).assignment?.toList

/-- The assignments of a text in front of its first malformed line, in their order. A reference in
a value is to a variable of the environment, or else to the first assignment above. -/
def assignments (environment : Environment) (text : String) : List (String × String) :=
  (soundLines (linesFrom .start (withoutMark text.toList))).foldl (collect environment) []

/-- A line that can be read supplies what its assignment supplies from behind those above it. -/
theorem exists_supplyLines_cons (agrees : environment.Agrees (base.followedBy above))
    {text : List Char} (sound : Line.read .empty text ≠ .malformed)
    (rest : List (Option (List Char))) :
    ∃ next : Environment, supplyLines environment (some text :: rest) = supplyLines next rest ∧
      next.Agrees (base.followedBy (collect base above text)) := by
  rw [supplyLines, Line.read_congr agrees, collect]
  cases line : Line.read (base.followedBy above) text with
  | malformed => exact absurd ((Line.read_eq_malformed_iff ..).mp line) sound
  | empty =>
    refine ⟨environment, rfl, ?_⟩
    rwa [Line.assignment?, Option.toList_none, List.append_nil]
  | assignment name value => exact ⟨environment.supply name value, rfl, agrees.supply name value⟩

/-- Lines supply what all their assignments together supply from behind, up to the first line that
is malformed. -/
theorem supplyLines_agrees (agrees : environment.Agrees (base.followedBy above))
    (lines : List (Option (List Char))) :
    (supplyLines environment lines).Agrees
      (base.followedBy ((soundLines lines).foldl (collect base) above)) := by
  -- The environment that is read on with already holds the assignments of the lines above.
  induction lines generalizing environment above with
  | nil => exact agrees
  | cons line rest ih =>
    cases line with
    | none => exact agrees
    | some text =>
      rw [soundLines]
      split_ifs with malformed
      · have stops : Line.read environment text = .malformed :=
          (Line.read_eq_malformed_iff ..).mp malformed
        rw [supplyLines, stops]
        exact agrees
      · obtain ⟨next, supplied, agreesNext⟩ := exists_supplyLines_cons agrees malformed rest
        rw [supplied, List.foldl_cons]
        exact ih agreesNext

/-- Behind a file a variable has the value of the environment, or else that of the first assignment
to it in front of the first malformed line. -/
theorem find?_load (environment : Environment) (text name : String) :
    (load environment text).find? name =
      (environment.find? name).or ((assignments environment text).lookup name) := by
  rw [← Environment.find?_followedBy]
  exact supplyLines_agrees environment.agrees_followedBy_nil _ name

end Lines

end EnvFile

end Underwriting
