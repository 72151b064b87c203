import Underwriting.Number.Shortest
import Underwriting.Run.Basic

/-!
# The report of a run

A text for people: the eligible programs as they rank, each with its score and reasons, then the
programs that declined and those with faults. A section without entries is left out, except the
first. A failed run has only its cause.
-/

namespace Underwriting

/-- What lenders and programs are called. -/
structure NameBook where
  lender? : LenderId → Option String
  program? : ProgramId → Option String

/-- A book without names. -/
def NameBook.blank : NameBook := ⟨fun _ => none, fun _ => none⟩

/-- A text filled up with spaces on its right. -/
def padRight (width : Nat) (text : String) : String :=
  text ++ String.ofList (List.replicate (width - text.length) ' ')

/-- A text filled up with spaces on its left. -/
def padLeft (width : Nat) (text : String) : String :=
  String.ofList (List.replicate (width - text.length) ' ') ++ text

namespace MatchResult

/-- The lender and the program of a result, by name or else by number. -/
def label (names : NameBook) (result : MatchResult) : String :=
  (names.lender? result.lender).getD ("Lender " ++ result.lender.text) ++ " / " ++
    (names.program? result.program).getD ("Program " ++ result.program.text)

/-- The lines of an eligible result at a place of the ranking. -/
def rankedLines (names : NameBook) (place : Nat) (result : MatchResult) : List String :=
  ("  " ++ Numeral.write place ++ ". " ++ padRight 48 (result.label names) ++ " fit " ++
      padLeft 5 result.fitScore.oneDecimal) ::
    result.reasons.map fun reason => "       - " ++ reason

/-- The line of a result that declined. -/
def declinedLine (names : NameBook) (result : MatchResult) : String :=
  "  - " ++ result.label names ++ ": " ++ String.intercalate "; " result.reasons

/-- The line of a result with a fault. -/
def faultLine (names : NameBook) (result : MatchResult) (fault : EngineFault) : String :=
  "  - " ++ result.label names ++ ": " ++ fault.message

end MatchResult

/-- A heading with the number of its entries. -/
def countedHeading (title : String) (count : Nat) : String :=
  title ++ " (" ++ Numeral.write count ++ "):"

namespace MatchRun

/-- The lines of results from a place of the ranking on. -/
def rankedLinesFrom (names : NameBook) (place : Nat) : List MatchResult → List String
  | [] => []
  | result :: rest => result.rankedLines names place ++ rankedLinesFrom names (place + 1) rest

/-- The section of the eligible programs. -/
def eligibleSection (run : MatchRun) (names : NameBook) : List String :=
  countedHeading "Eligible programs" run.ranked.length :: rankedLinesFrom names 1 run.ranked

/-- The results that declined without a fault. -/
def declined (run : MatchRun) : List MatchResult :=
  run.results.filter fun result => !result.eligible && result.fault?.isNone

/-- The section of the programs that declined. -/
def declinedSection (run : MatchRun) (names : NameBook) : List String :=
  if run.declined.isEmpty then []
  else countedHeading "Declined programs" run.declined.length ::
    run.declined.map (MatchResult.declinedLine names)

/-- The results with a fault. -/
def faulted (run : MatchRun) : List MatchResult :=
  run.results.filter fun result => result.fault?.isSome

/-- The section of the programs with faults. -/
def faultedSection (run : MatchRun) (names : NameBook) : List String :=
  if run.faulted.isEmpty then []
  else countedHeading "Programs with faults" run.faulted.length ::
    run.faulted.filterMap fun result => result.fault?.map (result.faultLine names)

/-- The first line of a report. -/
def title (run : MatchRun) : String :=
  "Match run " ++ run.id.text ++ " for loan request " ++ run.loan.text ++ " (" ++
    run.status.label ++ ")"

/-- The lines of the report. -/
def reportLines (run : MatchRun) (names : NameBook) : List String :=
  if run.status = .failed then
    [run.title, "Run failed: " ++ (run.failure?.map (·.message)).getD "no failure recorded"]
  else run.title ::
    run.eligibleSection names ++ run.declinedSection names ++ run.faultedSection names

/-- The report of a run. -/
def report (run : MatchRun) (names : NameBook) : String :=
  String.intercalate "\n" (run.reportLines names)

end MatchRun

end Underwriting
