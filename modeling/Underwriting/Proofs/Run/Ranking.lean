import Underwriting.Proofs.Number.TotalOrder
import Underwriting.Proofs.Run.Closing

/-! # The ranking of a run

The eligible results of a run are ranked by score, the greatest first in the total order of numbers,
and results of one score by program. Ranking loses no result and repeats none. Two results are level
only if they have one program, so where programs are distinct there is one way to rank them, and it
does not matter in which order the results were handed over.
-/

namespace Underwriting

namespace MatchResult

/-- The first result stands before the second in a ranking, or could: it has the greater score in
the total order, or the same score and no greater program number. -/
structure RanksBefore (first second : MatchResult) : Prop where
  score : second.fitScore.TotallyAtMost first.fitScore
  program : first.fitScore = second.fitScore → first.program.value ≤ second.program.value

variable {first second third : MatchResult}

theorem ranksBefore_iff :
    MatchRun.ranksBefore first second = true ↔ first.RanksBefore second := by
  unfold MatchRun.ranksBefore
  split
  case isTrue level =>
    rw [ProgramId.atMost_iff]
    have same : first.fitScore = second.fitScore := Binary64.totalPlace_inj.mp level
    exact ⟨fun order => ⟨same ▸ .same _, fun _ => order⟩, fun ranks => ranks.program same⟩
  case isFalse apart =>
    rw [decide_eq_true_eq]
    constructor
    · intro greater
      refine ⟨Binary64.totallyAtMost_iff.mpr (Int.le_of_lt greater), fun same => ?_⟩
      exact absurd (congrArg Binary64.totalPlace same) apart
    · intro ranks
      have order := Binary64.totallyAtMost_iff.mp ranks.score
      omega

theorem RanksBefore.trans (left : first.RanksBefore second) (right : second.RanksBefore third) :
    first.RanksBefore third := by
  have high := Binary64.totallyAtMost_iff.mp left.score
  have low := Binary64.totallyAtMost_iff.mp right.score
  refine ⟨Binary64.totallyAtMost_iff.mpr (Int.le_trans low high), fun same => ?_⟩
  -- Between two equal scores there is no other.
  have level := Binary64.totalPlace_inj.mpr same
  have upper : first.fitScore = second.fitScore := Binary64.totalPlace_inj.mp (by omega)
  exact UInt64.le_trans (left.program upper) (right.program (upper ▸ same))

theorem ranksBefore_total (first second : MatchResult) :
    first.RanksBefore second ∨ second.RanksBefore first := by
  rcases Int.lt_trichotomy first.fitScore.totalPlace second.fitScore.totalPlace with
    less | level | greater
  · refine .inr ⟨Binary64.totallyAtMost_iff.mpr (Int.le_of_lt less), fun same => ?_⟩
    exact absurd (congrArg Binary64.totalPlace same.symm) (Int.ne_of_lt less)
  · have same := Binary64.totalPlace_inj.mp level
    refine (UInt64.le_total first.program.value second.program.value).imp ?_ ?_ <;> intro order
    · exact ⟨same ▸ .same _, fun _ => order⟩
    · exact ⟨same ▸ .same _, fun _ => order⟩
  · refine .inl ⟨Binary64.totallyAtMost_iff.mpr (Int.le_of_lt greater), fun same => ?_⟩
    exact absurd (congrArg Binary64.totalPlace same.symm) (Int.ne_of_lt greater)

/-- Results that could change places are results of one program. -/
theorem RanksBefore.program_eq (left : first.RanksBefore second)
    (right : second.RanksBefore first) : first.program = second.program := by
  have high := Binary64.totallyAtMost_iff.mp left.score
  have low := Binary64.totallyAtMost_iff.mp right.score
  have same := Binary64.totalPlace_inj.mp (Int.le_antisymm low high)
  exact ProgramId.eq_of_value (UInt64.le_antisymm (left.program same) (right.program same.symm))

end MatchResult

namespace MatchRun

open MatchResult (RanksBefore)

theorem ranked_perm (run : MatchRun) : run.ranked.Perm (run.results.filter (·.eligible)) :=
  List.mergeSort_perm _ _

theorem ranked_pairwise (run : MatchRun) : run.ranked.Pairwise RanksBefore := by
  refine (List.pairwise_mergeSort ?_ ?_ _).imp MatchResult.ranksBefore_iff.mp
  · intro first second third left right
    rw [MatchResult.ranksBefore_iff] at left right ⊢
    exact left.trans right
  · intro first second
    rw [Bool.or_eq_true, MatchResult.ranksBefore_iff, MatchResult.ranksBefore_iff]
    exact MatchResult.ranksBefore_total first second

/-- Of distinct programs there is one ranking. -/
theorem eq_of_perm_of_pairwise {first second : List MatchResult}
    (distinct : (first.map (·.program)).Nodup) (same : first.Perm second)
    (ranked : first.Pairwise RanksBefore) (also : second.Pairwise RanksBefore) :
    first = second := by
  refine same.eq_of_pairwise ?_ ranked also
  intro left right member other before behind
  exact List.inj_on_of_nodup_map distinct member (same.mem_iff.mpr other)
    (before.program_eq behind)

/-- Of distinct programs a run has no other ranking. -/
theorem eq_ranked {run : MatchRun}
    (distinct : ((run.results.filter (·.eligible)).map (·.program)).Nodup)
    {ranking : List MatchResult} (same : ranking.Perm (run.results.filter (·.eligible)))
    (ordered : ranking.Pairwise RanksBefore) : ranking = run.ranked :=
  eq_of_perm_of_pairwise ((same.map _).nodup_iff.mpr distinct)
    (same.trans run.ranked_perm.symm) ordered run.ranked_pairwise

/-- Runs with the same results of distinct programs, in whichever order, are ranked alike. -/
theorem ranked_congr {run other : MatchRun}
    (distinct : ((run.results.filter (·.eligible)).map (·.program)).Nodup)
    (same : other.results.Perm run.results) : other.ranked = run.ranked :=
  eq_ranked distinct (other.ranked_perm.trans (same.filter _)) other.ranked_pairwise

/-- A running run is completed with the results that it is given, in the order of their programs. -/
theorem complete_of_running {run : MatchRun} (running : run.status.isTerminal = false)
    (results : List MatchResult) (now : Timestamp) :
    ∃ done, run.complete results now = .ok done ∧ done.status = .complete ∧
      MatchResult.InProgramOrder results done.results := by
  obtain ⟨done, closes, closed⟩ := @close_of_running run (.complete results) now running
  cases closed with
  | complete ordered => exact ⟨_, closes, rfl, ordered⟩

/-- The ranking of a run has exactly its eligible results, by score and then by program, and where
these are of distinct programs no other list is such. So results that are handed over to a run in
another order are ranked alike, while the run has them in the order of their programs. -/
theorem ranked_is_the_ranking (run : MatchRun) :
    run.ranked.Perm (run.results.filter (·.eligible)) ∧ run.ranked.Pairwise RanksBefore ∧
    (((run.results.filter (·.eligible)).map (·.program)).Nodup →
      ∀ ranking : List MatchResult, ranking.Perm (run.results.filter (·.eligible)) →
        ranking.Pairwise RanksBefore → ranking = run.ranked) ∧
    (run.status.isTerminal = false → ∀ results reordered now later,
      ((results.filter (·.eligible)).map (·.program)).Nodup → results.Perm reordered →
      ∃ done again, run.complete results now = .ok done ∧
        run.complete reordered later = .ok again ∧ done.ranked = again.ranked ∧
        MatchResult.InProgramOrder results done.results ∧
        MatchResult.InProgramOrder reordered again.results) := by
  refine ⟨run.ranked_perm, run.ranked_pairwise, fun distinct _ => eq_ranked distinct, ?_⟩
  intro running results reordered now later distinct same
  obtain ⟨done, completes, -, ordered⟩ := complete_of_running running results now
  obtain ⟨again, recompletes, -, reorder⟩ := complete_of_running running reordered later
  have alike : done.results.Perm again.results :=
    ordered.perm.trans (same.trans reorder.perm.symm)
  have apart : ((again.results.filter (·.eligible)).map (·.program)).Nodup :=
    (((alike.symm.trans ordered.perm).filter _).map _).nodup_iff.mpr distinct
  exact ⟨done, again, completes, recompletes, ranked_congr apart alike, ordered, reorder⟩

/-- The signalling non-number of the least payload. -/
def signalling : NanCode := ⟨false, 1, by decide, by decide⟩

/-- Scores that numeric comparison does not order, and the result of a program that declined. -/
def unorderedScores : List MatchResult :=
  [scored 7 (.finite true .zero), scored 6 (.nan true .plain), scored 5 (.nan false .plain),
    scored 2 .zero, { scored 4 90 with eligible := false }, scored 8 (.nan false signalling),
    scored 3 (.nan false .plain), scored 9 (.nan true signalling), scored 1 (.infinite true)]

/-- The same scores without the declined result, as the total order ranks them. -/
def rankedScores : List MatchResult :=
  [scored 3 (.nan false .plain), scored 5 (.nan false .plain), scored 8 (.nan false signalling),
    scored 2 .zero, scored 7 (.finite true .zero), scored 1 (.infinite true),
    scored 9 (.nan true signalling), scored 6 (.nan true .plain)]

theorem ranked_is_the_ranking_unordered :
    { scribbled with results := unorderedScores }.ranked = rankedScores ∧
    ∃ done again, scribbled.complete unorderedScores .epoch = .ok done ∧
      scribbled.complete unorderedScores.reverse .epoch = .ok again ∧
      done.ranked = again.ranked := by
  obtain ⟨-, -, only, -⟩ := ranked_is_the_ranking { scribbled with results := unorderedScores }
  obtain ⟨-, -, -, alike⟩ := ranked_is_the_ranking scribbled
  constructor
  · refine (only (by decide +kernel) _ (by decide +kernel) ?_).symm
    have ordered : rankedScores.Pairwise (fun first second => ranksBefore first second = true) := by
      decide +kernel
    exact ordered.imp MatchResult.ranksBefore_iff.mp
  · obtain ⟨done, again, completes, recompletes, same, -⟩ :=
      alike rfl unorderedScores unorderedScores.reverse .epoch .epoch (by decide +kernel)
        (List.reverse_perm _).symm
    exact ⟨done, again, completes, recompletes, same⟩

end MatchRun

end Underwriting
