import Mathlib.Algebra.GroupWithZero.Nat
import Underwriting.Proofs.Run.Ranking
import Underwriting.Run.Report

/-! # What a report lists

A report lists results in three sections, each of which picks its own. What they pick overlaps in
the results that are eligible and have a fault, and together they leave nothing out. So the report
of a run without such results lists every result once, and the numbers in its headings add up to the
number of the results.
-/

namespace Underwriting

/-- A part of a report: what it is about, and the lines of each of its entries. -/
structure ReportPart where
  title : String
  entries : List (List String)

/-- The lines of a part: a heading with the number of the entries, and then the entries. -/
def ReportPart.lines (part : ReportPart) : List String :=
  countedHeading part.title part.entries.length :: part.entries.flatten

/-- The part, or nothing where it has no entries. -/
def ReportPart.ifAny (part : ReportPart) : List ReportPart :=
  if part.entries.isEmpty then [] else [part]

/-- A part of which every entry is one line. -/
theorem ReportPart.lines_ifAny_map {α : Type} (title : String) (items : List α)
    (line : α → String) :
    (ReportPart.mk title (items.map fun item => [line item])).ifAny.flatMap lines =
      if items.isEmpty then [] else countedHeading title items.length :: items.map line := by
  simp only [ifAny, List.isEmpty_map]
  split
  · rfl
  · simp only [List.flatMap_singleton, lines, List.length_map, ← List.flatMap_def,
      ← List.map_eq_flatMap]

/-- What a report lists, part by part. -/
structure Listing where
  ranked : List MatchResult
  declined : List MatchResult
  faulted : List (MatchResult × EngineFault)

namespace Listing

/-- All results that are listed, as often as they are. -/
def results (listing : Listing) : List MatchResult :=
  listing.ranked ++ listing.declined ++ listing.faulted.map (·.1)

/-- The eligible results, numbered from one, each with its reasons. -/
def rankedPart (listing : Listing) (names : NameBook) : ReportPart where
  title := "Eligible programs"
  entries := listing.ranked.mapIdx fun place result => result.rankedLines names (place + 1)

/-- The results that declined. -/
def declinedPart (listing : Listing) (names : NameBook) : ReportPart where
  title := "Declined programs"
  entries := listing.declined.map fun result => [result.declinedLine names]

/-- The results with a fault. -/
def faultedPart (listing : Listing) (names : NameBook) : ReportPart where
  title := "Programs with faults"
  entries := listing.faulted.map fun (result, fault) => [result.faultLine names fault]

/-- The parts of a report. One without entries is left out, except the first. -/
def parts (listing : Listing) (names : NameBook) : List ReportPart :=
  listing.rankedPart names :: ((listing.declinedPart names).ifAny ++
    (listing.faultedPart names).ifAny)

/-- The entries of a report are as many as the results that are listed. -/
theorem sum_entries (listing : Listing) (names : NameBook) :
    ((listing.parts names).map (·.entries.length)).sum = listing.results.length := by
  have ifAny (part : ReportPart) :
      (part.ifAny.map (·.entries.length)).sum = part.entries.length := by
    cases empty : part.entries <;> simp [ReportPart.ifAny, empty]
  simp only [parts, List.map_cons, List.map_append, List.sum_cons, List.sum_append, ifAny,
    rankedPart, declinedPart, faultedPart, List.length_mapIdx, List.length_map, results,
    List.length_append, Nat.add_assoc]

/-- An eligible result is named behind the number of its place, with its reasons below it. -/
theorem numbered_entry {listing : Listing} {place : Nat} {result : MatchResult}
    (placed : listing.ranked[place]? = some result) (names : NameBook) :
    ∃ score, (listing.rankedPart names).entries[place]? = some
      (("  " ++ Numeral.write (place + 1) ++ ". " ++ result.label names ++ score) ::
        result.reasons.map fun reason => "       - " ++ reason) := by
  refine ⟨String.ofList (List.replicate (48 - (result.label names).length) ' ') ++ " fit " ++
    padLeft 5 result.fitScore.oneDecimal, ?_⟩
  simp only [rankedPart, List.getElem?_mapIdx, placed, Option.map_some, MatchResult.rankedLines,
    padRight, String.append_assoc]

/-- The later parts are there just if they have entries. -/
theorem mem_titles_iff (listing : Listing) (names : NameBook) :
    ("Declined programs" ∈ (listing.parts names).map (·.title) ↔ listing.declined ≠ []) ∧
      ("Programs with faults" ∈ (listing.parts names).map (·.title) ↔ listing.faulted ≠ []) := by
  cases nobody : listing.declined <;> cases nothing : listing.faulted <;>
    simp [parts, ReportPart.ifAny, rankedPart, declinedPart, faultedPart, nobody, nothing]

end Listing

namespace MatchRun

variable {run : MatchRun}

/-- What the report of a run lists. -/
def listing (run : MatchRun) : Listing where
  ranked := run.ranked
  declined := run.declined
  faulted := run.results.filterMap fun result => result.fault?.map (result, ·)

/-- No eligible result has a fault. -/
def KeepsFaultsApart (run : MatchRun) : Prop :=
  ∀ result ∈ run.results, result.eligible = true → result.fault? = none

theorem mem_declined {result : MatchResult} :
    result ∈ run.declined ↔
      result ∈ run.results ∧ result.eligible = false ∧ result.fault? = none := by
  simp [declined]

theorem mem_listing_faulted {entry : MatchResult × EngineFault} :
    entry ∈ run.listing.faulted ↔ entry.1 ∈ run.results ∧ entry.1.fault? = some entry.2 := by
  obtain ⟨result, fault⟩ := entry
  simp only [listing, List.mem_filterMap, Option.map_eq_some_iff, Prod.mk.injEq]
  constructor
  · rintro ⟨result, member, fault, faulted, rfl, rfl⟩
    exact ⟨member, faulted⟩
  · rintro ⟨member, faulted⟩
    exact ⟨result, member, fault, faulted, rfl, rfl⟩

theorem map_fst_listing_faulted (run : MatchRun) : run.listing.faulted.map (·.1) = run.faulted := by
  have guards : (fun result : MatchResult => (result.fault?.map (result, ·)).map (·.1)) =
      Option.guard fun result => result.fault?.isSome := by
    funext result
    cases has : result.fault? <;> simp [Option.guard, has]
  rw [listing, List.map_filterMap, guards, List.filterMap_eq_filter]
  rfl

/-- The results that are eligible and have a fault. -/
def overlap (run : MatchRun) : List MatchResult :=
  run.results.filter fun result => result.fault?.isSome && result.eligible

theorem overlap_eq_nil_iff : run.overlap = [] ↔ run.KeepsFaultsApart := by
  rw [overlap, List.filter_eq_nil_iff]
  refine forall₂_congr fun result _ => ?_
  cases result.eligible <;> cases result.fault? <;> simp

/-- A report lists everything once, and again where its sections overlap. -/
theorem results_listing_perm (run : MatchRun) :
    run.listing.results.Perm (run.results ++ run.overlap) := by
  let sound := run.results.filter fun result => !result.fault?.isSome
  have ranked : run.ranked.Perm (run.overlap ++ sound.filter (·.eligible)) := by
    have splits := List.filter_append_perm (fun result : MatchResult => result.fault?.isSome)
      (run.results.filter (·.eligible))
    rw [List.filter_filter, List.filter_comm] at splits
    exact run.ranked_perm.trans splits.symm
  have declined : run.declined = sound.filter (!·.eligible) := by
    rw [MatchRun.declined, List.filter_filter]
    exact List.filter_congr fun result _ => by cases result.fault? <;> rfl
  calc
    run.listing.results
    _ = run.ranked ++ run.declined ++ run.faulted := by
      rw [Listing.results, map_fst_listing_faulted]
      rfl
    List.Perm _
        (run.overlap ++ sound.filter (·.eligible) ++ sound.filter (!·.eligible) ++ run.faulted) := by
      rw [declined]
      exact (ranked.append_right _).append_right _
    List.Perm _ (run.overlap ++ sound ++ run.faulted) := by
      rw [List.append_assoc run.overlap]
      exact ((List.filter_append_perm _ sound).append_left run.overlap).append_right _
    List.Perm _ (run.overlap ++ run.results) := by
      rw [List.append_assoc]
      refine List.Perm.append_left run.overlap ?_
      exact List.perm_append_comm.trans (List.filter_append_perm _ run.results)
    List.Perm _ (run.results ++ run.overlap) := List.perm_append_comm

/-- A run keeps its faults apart just if its report lists everything once. -/
theorem results_listing_perm_iff :
    run.listing.results.Perm run.results ↔ run.KeepsFaultsApart := by
  have listed := run.results_listing_perm
  rw [← overlap_eq_nil_iff]
  constructor
  · intro once
    have counted := (once.symm.trans listed).length_eq
    rwa [List.length_append, Nat.left_eq_add, List.length_eq_zero_iff] at counted
  · intro nothing
    rwa [nothing, List.append_nil] at listed

section Text

/-- The lines of a ranking are those of its places. -/
theorem rankedLinesFrom_eq (names : NameBook) (place : Nat) (results : List MatchResult) :
    rankedLinesFrom names place results =
      (results.mapIdx fun index result => result.rankedLines names (place + index)).flatten := by
  induction results generalizing place with
  | nil => rfl
  | cons result rest ih =>
    simp only [rankedLinesFrom, ih, List.mapIdx_cons, List.flatten_cons, Nat.add_zero,
      Nat.add_assoc, Nat.add_comm 1]

theorem eligibleSection_eq (run : MatchRun) (names : NameBook) :
    run.eligibleSection names = (run.listing.rankedPart names).lines := by
  simp only [eligibleSection, rankedLinesFrom_eq, ReportPart.lines, Listing.rankedPart,
    List.length_mapIdx, Nat.add_comm 1]
  rfl

theorem declinedSection_eq (run : MatchRun) (names : NameBook) :
    run.declinedSection names =
      (run.listing.declinedPart names).ifAny.flatMap ReportPart.lines := by
  rw [Listing.declinedPart, ReportPart.lines_ifAny_map]
  rfl

theorem faultLines_eq (run : MatchRun) (names : NameBook) :
    (run.faulted.filterMap fun result => result.fault?.map (result.faultLine names)) =
      run.listing.faulted.map fun (result, fault) => result.faultLine names fault := by
  rw [faulted, List.filterMap_filter, listing, List.map_filterMap]
  refine congrArg (List.filterMap · run.results) (funext fun result => ?_)
  cases result.fault? <;> simp

theorem faultedSection_eq (run : MatchRun) (names : NameBook) :
    run.faultedSection names =
      (run.listing.faultedPart names).ifAny.flatMap ReportPart.lines := by
  rw [Listing.faultedPart, ReportPart.lines_ifAny_map, faultedSection, faultLines_eq,
    ← map_fst_listing_faulted, List.isEmpty_map, List.length_map]

/-- The report of a run that has not failed is the text of its parts. -/
theorem report_eq (unfailed : run.status ≠ .failed) (names : NameBook) :
    run.report names = String.intercalate "\n"
      (run.title :: (run.listing.parts names).flatMap ReportPart.lines) := by
  simp only [report, reportLines, unfailed, ↓reduceIte, eligibleSection_eq, declinedSection_eq,
    faultedSection_eq, Listing.parts, List.flatMap_cons, List.flatMap_append, List.cons_append,
    List.append_assoc]

end Text

/-- The report of a run lists each result once, under one of three headings, of which each has the
number of the entries below it. The eligible results are numbered as they rank. -/
structure ListsEachOnce (run : MatchRun) : Prop where
  once : run.listing.results.Perm run.results
  ranked : run.listing.ranked = run.ranked
  eligible : ∀ result ∈ run.listing.ranked, result.eligible = true ∧ result.fault? = none
  declined : ∀ result ∈ run.listing.declined, result.eligible = false ∧ result.fault? = none
  faulted : ∀ entry ∈ run.listing.faulted,
    entry.1.eligible = false ∧ entry.1.fault? = some entry.2
  numbered : ∀ place result, run.ranked[place]? = some result → ∀ names, ∃ score,
    (run.listing.rankedPart names).entries[place]? = some
      (("  " ++ Numeral.write (place + 1) ++ ". " ++ result.label names ++ score) ::
        result.reasons.map fun reason => "       - " ++ reason)
  total : ∀ names, ((run.listing.parts names).map (·.entries.length)).sum = run.results.length
  declinedTitle : ∀ names, "Declined programs" ∈ (run.listing.parts names).map (·.title) ↔
    ∃ result ∈ run.results, result.eligible = false ∧ result.fault? = none
  faultedTitle : ∀ names, "Programs with faults" ∈ (run.listing.parts names).map (·.title) ↔
    ∃ result ∈ run.results, result.fault?.isSome = true
  text : ∀ names, run.report names = String.intercalate "\n"
    (run.title :: (run.listing.parts names).flatMap ReportPart.lines)

/-- A run that has not failed and keeps its faults apart is listed without loss or repetition. -/
theorem listsEachOnce_of_keepsFaultsApart (unfailed : run.status ≠ .failed)
    (apart : run.KeepsFaultsApart) : run.ListsEachOnce where
  once := results_listing_perm_iff.mpr apart
  ranked := rfl
  eligible result member := by
    obtain ⟨present, isEligible⟩ := List.mem_filter.mp (run.ranked_perm.mem_iff.mp member)
    exact ⟨isEligible, apart result present isEligible⟩
  declined result member := (mem_declined.mp member).2
  faulted entry member := by
    obtain ⟨present, has⟩ := mem_listing_faulted.mp member
    refine ⟨Bool.eq_false_iff.mpr fun isEligible => ?_, has⟩
    exact nomatch (apart entry.1 present isEligible).symm.trans has
  numbered _ _ placed names := Listing.numbered_entry placed names
  total names := by
    rw [Listing.sum_entries, (results_listing_perm_iff.mpr apart).length_eq]
  declinedTitle names := by
    rw [(run.listing.mem_titles_iff names).1, ← List.isEmpty_eq_false_iff,
      List.isEmpty_eq_false_iff_exists_mem]
    exact exists_congr fun result => mem_declined
  faultedTitle names := by
    rw [(run.listing.mem_titles_iff names).2, ne_eq, ← List.map_eq_nil_iff, map_fst_listing_faulted,
      ← ne_eq, ← List.isEmpty_eq_false_iff, List.isEmpty_eq_false_iff_exists_mem]
    exact exists_congr fun result => List.mem_filter
  text := report_eq unfailed

example :
    let poor : MatchResult := { scored 4 40 with eligible := false, reasons := ["too young"] }
    let lost : MatchResult := { scored 9 0 with eligible := false, fault? := some .lost }
    reportLines { scribbled with results := [scored 3 70, poor, lost] } .blank =
      ["Match run 3 for loan request 1 (RUNNING)",
        "Eligible programs (1):",
        "  1. Lender 1 / Program 3                             fit  70.0",
        "Declined programs (1):",
        "  - Lender 1 / Program 4: too young",
        "Programs with faults (1):",
        "  - Lender 1 / Program 9: policy evaluation aborted before producing a result"] := by
  decide +kernel

end MatchRun

end Underwriting
