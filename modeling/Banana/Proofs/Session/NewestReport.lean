/-
This file says which report a session shows after any run: that of the newest check, the one with
the greatest number, among those that have ended with a report. Checks may overlap with one another
and with everything else, and their answers may arrive in any order. An empty report counts like any
other one, which is the difference to the type table; a check that fails does not count.

The invariant is that the session keeps the number of the newest check beside its report. Numbers
start at one, so the first check that ends with a report is newer than none.
-/

import Banana.Proofs.Session.History
import Banana.Session.Task

namespace Banana.Session

open Backend Report

/-- A check that has ended with a report: its number, the report, and what it gave back. -/
structure EndedCheck where
  number : Nat
  report : Report
  outcome : Outcome

/-- The check behind the end of a trip, if it is one that got a report. -/
def Ended.check? : Ended → Option EndedCheck
  | ⟨.typecheck number _, .ok report, outcome⟩ => some ⟨number, report, outcome⟩
  | _ => none

/-- The checks that have ended with a report, latest first. -/
def Work.checks (work : Work) : List EndedCheck :=
  work.history.filterMap Ended.check?

namespace EndedCheck

/-- Whether a check is the newest of some checks. -/
structure IsNewestOf (check : EndedCheck) (checks : List EndedCheck) : Prop where
  member : check ∈ checks
  newest : ∀ other ∈ checks, other.number ≤ check.number

/-- What is known of a check before it ends: its number and the report that it gets. -/
def brought (check : EndedCheck) : Nat × Report :=
  (check.number, check.report)

/-- Whether a check gives back its own report, on its own and as a part of an edit. -/
structure GivesBackItsReport (check : EndedCheck) : Prop where
  alone : ∀ source, Result.ofOutcomes? (.typecheck source) [check.outcome] =
    some (.single (.checked (some check.report)))
  edit : ∀ source refresh, Result.ofOutcomes? (.change source) [refresh, check.outcome] =
    some (.changed refresh.refreshed? (some check.report))

end EndedCheck

open EndedCheck

/-! ### One answer -/

/-- Only the end of a check with a report touches the report and its number. -/
theorem receive_report_of_no_check (session : Session) (trip : Trip)
    (answer : Except Failure trip.endpoint.Answer) (outcome : Outcome)
    (other : Ended.check? ⟨trip, answer, outcome⟩ = none) :
    (session.receive trip answer).1.report = session.report ∧
      (session.receive trip answer).1.reportNumber = session.reportNumber := by
  cases answer with
  | error failure =>
    rw [(receive_error session trip failure).1]
    exact ⟨rfl, rfl⟩
  | ok answer =>
    cases trip with
    | loadCatalog attempt => exact ⟨rfl, rfl⟩
    | refresh number source attempt =>
      obtain ⟨_, _, applied⟩ := applyTable_frame session number answer
      exact ⟨(congrArg Session.report applied :), (congrArg Session.reportNumber applied :)⟩
    | typecheck number source => cases other
    | submit source => exact ⟨rfl, rfl⟩

/-- The start of a call touches neither the report nor its number. -/
theorem start_report (session : Session) (call : Call) :
    (session.start call).1.report = session.report ∧
      (session.start call).1.reportNumber = session.reportNumber := by
  cases call <;> exact ⟨rfl, rfl⟩

/-! ### The invariant -/

namespace Work

/-- The report, its number and what checks have given back agree with the history. -/
structure FollowsChecks (work : Work) : Prop where
  report : (∃ check : EndedCheck, check.IsNewestOf work.checks ∧
      work.session.report = check.report ∧ work.session.reportNumber = check.number) ∨
    (work.checks = [] ∧ work.session.report = .empty ∧ work.session.reportNumber = 0)
  own : ∀ check ∈ work.checks, check.outcome = .checked (some check.report)

/-- The invariant reads the report, its number and the checks, and nothing else. -/
theorem FollowsChecks.congr {first last : Work} (follows : first.FollowsChecks)
    (sameReport : last.session.report = first.session.report)
    (sameNumber : last.session.reportNumber = first.session.reportNumber)
    (sameChecks : last.checks = first.checks) : last.FollowsChecks := by
  constructor
  · rw [sameReport, sameNumber, sameChecks]
    exact follows.report
  · rw [sameChecks]
    exact follows.own

/-- No check in the history is newer than the report in place. -/
theorem FollowsChecks.le_reportNumber {work : Work} (follows : work.FollowsChecks)
    {check : EndedCheck} (member : check ∈ work.checks) :
    check.number ≤ work.session.reportNumber := by
  rcases follows.report with ⟨newest, isNewest, -, sameNumber⟩ | ⟨noCheck, -⟩
  · exact sameNumber ▸ isNewest.newest check member
  · exact absurd (noCheck ▸ member) List.not_mem_nil

/-- The end of a check with a report keeps the invariant. -/
theorem FollowsChecks.check {work last : Work} (follows : work.FollowsChecks) {number : Nat}
    (numbered : 0 < number) {report : Report}
    (session : last.session = work.session.applyReport number report)
    (checks : last.checks = ⟨number, report, .checked (some report)⟩ :: work.checks) :
    last.FollowsChecks := by
  constructor
  · rw [session, checks, applyReport]
    by_cases newer : work.session.reportNumber < number
    · -- The report is put in place, and its check is newer than all others.
      rw [if_pos newer]
      refine Or.inl ⟨_, ⟨List.mem_cons_self, ?_⟩, rfl, rfl⟩
      intro other isMember
      rcases List.mem_cons.mp isMember with rfl | old
      · exact Nat.le_refl _
      · exact Nat.le_of_lt (Nat.lt_of_le_of_lt (follows.le_reportNumber old) newer)
    · -- The report is too old, so there is a newer one, which stays.
      rw [if_neg newer]
      rcases follows.report with ⟨newest, isNewest, sameReport, sameNumber⟩ | ⟨-, -, isZero⟩
      · refine Or.inl ⟨newest, ⟨List.mem_cons_of_mem _ isNewest.member, ?_⟩, sameReport,
          sameNumber⟩
        intro other isMember
        rcases List.mem_cons.mp isMember with rfl | old
        · exact sameNumber ▸ Nat.le_of_not_lt newer
        · exact isNewest.newest other old
      · exact absurd (isZero ▸ numbered) newer
  · rw [checks]
    exact List.forall_mem_cons.mpr ⟨rfl, follows.own⟩

theorem FollowsChecks.step {first last : Work} (drawnOnce : first.NumbersDrawnOnce)
    (follows : first.FollowsChecks) (step : Step first last) : last.FollowsChecks := by
  cases step with
  | start call =>
    obtain ⟨sameReport, sameNumber⟩ := start_report first.session call
    exact follows.congr sameReport sameNumber rfl
  | drop before trip after waits => exact follows.congr rfl rfl rfl
  | receive before trip after answer waits =>
    rcases first.receive_cases before trip after answer with
      ⟨again, -, goesOn⟩ | ⟨outcome, finished, ends⟩
    · rw [goesOn]
      exact follows.congr rfl rfl rfl
    · rw [ends]
      cases found : Ended.check? ⟨trip, answer, outcome⟩ with
      | none =>
        obtain ⟨sameReport, sameNumber⟩ :=
          receive_report_of_no_check first.session trip answer outcome found
        refine follows.congr sameReport sameNumber ?_
        rw [checks, checks, List.filterMap_cons_none found]
      | some check =>
        -- Only a check with a report is found, and what it gives back is that report.
        cases answer with
        | error failure => cases trip <;> cases found
        | ok answer =>
          cases trip with
          | loadCatalog attempt => cases found
          | refresh number source attempt => cases found
          | submit source => cases found
          | typecheck number source =>
            cases finished
            have waiting : number ∈ first.numbers := by
              rw [numbers, waits, List.filterMap_append]
              simp [Trip.number?]
            exact follows.check (drawnOnce.drawn number waiting).1 rfl rfl

theorem Reachable.followsChecks {work : Work} (reachable : Reachable work) :
    work.FollowsChecks := by
  -- That numbers are not zero is a part of their being drawn once, so both go together.
  refine (reachable.induction (motive := fun work => work.NumbersDrawnOnce ∧ work.FollowsChecks)
    (fun retries => ⟨Reachable.numbersDrawnOnce ⟨retries, .refl⟩, Or.inr ⟨rfl, rfl, rfl⟩, ?_⟩)
    (fun _ _ both step => ⟨both.1.step step, both.2.step both.1 step⟩)).2
  intro check member
  exact absurd member List.not_mem_nil

/-! ### Histories side by side -/

/-- The numbers of the checks in a history are all different. -/
theorem Reachable.distinct_checks {work : Work} (reachable : Reachable work) :
    (work.checks.map EndedCheck.number).Nodup := by
  refine reachable.distinct_of_ended Ended.check? EndedCheck.number ?_
  rintro ⟨trip, answer, outcome⟩ found isFound
  cases answer with
  | error failure => cases trip <;> cases isFound
  | ok answer =>
    cases trip with
    | loadCatalog attempt => cases isFound
    | submit source => cases isFound
    | refresh number source attempt => cases isFound
    | typecheck number source =>
      cases isFound
      rfl

/-- A history with a check has a newest one, and its report is the one in place. -/
theorem Reachable.exists_newest_check {work : Work} (reachable : Reachable work)
    (hasCheck : work.checks ≠ []) :
    ∃ newest : EndedCheck, newest.IsNewestOf work.checks ∧
      work.session.report = newest.report := by
  rcases reachable.followsChecks.report with ⟨newest, isNewest, same, -⟩ | ⟨noCheck, -⟩
  · exact ⟨newest, isNewest, same⟩
  · exact absurd noCheck hasCheck

end Work

/-- The newest of some checks is the newest of what they brought. -/
theorem EndedCheck.IsNewestOf.brought {check : EndedCheck} {checks : List EndedCheck}
    (isNewest : check.IsNewestOf checks) :
    ∀ answer ∈ checks.map EndedCheck.brought, True → answer.1 ≤ check.number := by
  intro answer member _
  obtain ⟨other, isOther, rfl⟩ := List.mem_map.mp member
  exact isNewest.newest other isOther

namespace Work

/-- What checks have brought decides the report, in whatever order they have ended. -/
theorem Reachable.report_eq_of_brought {first second : Work} (firstReachable : first.Reachable)
    (secondReachable : second.Reachable)
    (same : (first.checks.map brought).Perm (second.checks.map brought)) :
    first.session.report = second.session.report := by
  have sameLength := same.length_eq
  rw [List.length_map, List.length_map] at sameLength
  rcases firstReachable.followsChecks.report with
    ⟨newest, isNewest, firstReport, -⟩ | ⟨noCheck, firstReport, -⟩
  · have someCheck : second.checks ≠ [] := by
      rw [← List.length_pos_iff, ← sameLength, List.length_pos_iff]
      exact List.ne_nil_of_mem isNewest.member
    obtain ⟨other, isOther, secondReport⟩ := secondReachable.exists_newest_check someCheck
    have distinct : ((second.checks.map brought).map Prod.fst).Nodup := by
      rw [List.map_map]
      exact secondReachable.distinct_checks
    have equal := newest_eq_of_perm same distinct (fun _ => True)
      (List.mem_map_of_mem isNewest.member) trivial isNewest.brought
      (List.mem_map_of_mem isOther.member) trivial isOther.brought
    rw [firstReport, secondReport]
    exact congrArg Prod.snd equal
  · rcases secondReachable.followsChecks.report with ⟨other, isOther, -⟩ | ⟨-, secondReport, -⟩
    · rw [noCheck, List.length_nil, eq_comm, List.length_eq_zero_iff] at sameLength
      exact absurd (sameLength ▸ isOther.member) List.not_mem_nil
    · rw [firstReport, secondReport]

end Work

/-! ### The report after any run -/

open Work in
/-- After any run the report is that of the newest check among those that have got one, also where
that report is empty. So it depends on what checks have brought and not on the order of their ends.
Every check that got a report gives it back, also where a newer one was there before, and the
markers are those of the report in place, all warnings before all errors. -/
theorem report_eq_newest_answer {work : Work} (reachable : work.Reachable) :
    (work.checks.map EndedCheck.number).Nodup ∧
    ((∃ newest : EndedCheck, newest.IsNewestOf work.checks ∧
        work.session.report = newest.report) ∨
      (work.checks = [] ∧ work.session.report = .empty)) ∧
    (∀ other : Work, other.Reachable →
      (work.checks.map EndedCheck.brought).Perm (other.checks.map EndedCheck.brought) →
        work.session.report = other.session.report) ∧
    (∀ check ∈ work.checks, check.GivesBackItsReport) ∧
    work.session.markers =
      work.session.report.warnings.map (fun remark => ⟨.warning, remark.span, remark.message⟩) ++
        work.session.report.errors.map (fun remark => ⟨.error, remark.span, remark.message⟩) := by
  have follows := reachable.followsChecks
  refine ⟨reachable.distinct_checks, ?_, fun other => reachable.report_eq_of_brought, ?_, rfl⟩
  · rcases follows.report with ⟨newest, isNewest, same, -⟩ | ⟨noCheck, same, -⟩
    · exact Or.inl ⟨newest, isNewest, same⟩
    · exact Or.inr ⟨noCheck, same⟩
  · intro check member
    have own := follows.own check member
    constructor
    · intro source
      rw [own]
      rfl
    · intro source refresh
      rw [own]
      rfl

/-- A remark for the runs below. -/
def someRemark : Remark := ⟨1, 1, 1, 2, 0, 1, "unused"⟩

/-- A run of two checks, one of them a part of an edit. The second one gets its answer first, an
empty report. -/
def overtakingChecks : Work :=
  (((Work.initial 2).start (.typecheck "slow")).start (.change "fast")).receive
      [.typecheck 1 "slow", .refresh 2 "fast" 1] (.typecheck 3 "fast") [] (.ok .empty)
    |>.receive [] (.typecheck 1 "slow") [.refresh 2 "fast" 1]
      (.ok { warnings := [someRemark] })

/-- The empty report of the second check stays in that run, and the first check gives back its own
one nevertheless. -/
theorem overtaken_check_changes_nothing :
    overtakingChecks.Reachable ∧ overtakingChecks.session.report = .empty ∧
      overtakingChecks.session.markers = [] ∧
      EndedCheck.GivesBackItsReport
        ⟨1, { warnings := [someRemark] }, .checked (some { warnings := [someRemark] })⟩ := by
  have reachable : overtakingChecks.Reachable :=
    ⟨2, .tail
      (.tail
        (.tail (.tail .refl (.start _ (.typecheck "slow"))) (.start _ (.change "fast")))
        (.receive _ [.typecheck 1 "slow", .refresh 2 "fast" 1] (.typecheck 3 "fast") [] _ rfl))
      (.receive _ [] (.typecheck 1 "slow") [.refresh 2 "fast" 1] _ rfl)⟩
  obtain ⟨-, -, -, givesBack, sameMarkers⟩ := report_eq_newest_answer reachable
  exact ⟨reachable, rfl, sameMarkers, givesBack _ List.mem_cons_self⟩

end Banana.Session
