/-
This file says which type table a session has after any run: that of the newest refresh, the one
with the greatest number, among those that have ended with a table that is not empty. Refreshes may
overlap with one another and with everything else, and their answers may arrive in any order.

The session itself compares two numbers only, that of the refresh at hand and that of the table in
place. The invariant ties the second one to the history: a number is below it exactly when it is
below the number of a refresh that has replaced the table.
-/

import Mathlib.Data.List.Nodup
import Banana.Proofs.Session.History

namespace Banana.Session

open Backend Schema

/-- A refresh that has ended with a table: its number, the table, and what it gave back. -/
structure EndedRefresh where
  number : Nat
  answer : TypeTable
  outcome : Outcome

/-- The refresh behind the end of a trip, if it is one that got a table. -/
def Ended.refresh? : Ended → Option EndedRefresh
  | ⟨.refresh number _ _, .ok answer, outcome⟩ => some ⟨number, answer, outcome⟩
  | _ => none

/-- The refreshes that have ended with a table, latest first. -/
def Work.refreshes (work : Work) : List EndedRefresh :=
  work.history.filterMap Ended.refresh?

namespace EndedRefresh

/-- Whether a refresh is the newest of some refreshes that brought a table with variables. -/
structure IsNewestOf (refresh : EndedRefresh) (refreshes : List EndedRefresh) : Prop where
  member : refresh ∈ refreshes
  filled : refresh.answer.isEmpty = false
  newest : ∀ other ∈ refreshes, other.answer.isEmpty = false → other.number ≤ refresh.number

/-- Whether one of some refreshes has replaced the table and has a number above a given one. -/
def Overtaken (number : Nat) (earlier : List EndedRefresh) : Prop :=
  ∃ other ∈ earlier, other.outcome = .refreshed .replaced ∧ number < other.number

/-- What a refresh has to give back when some other refreshes have ended before it. -/
structure TellsTheTruth (refresh : EndedRefresh) (earlier : List EndedRefresh) : Prop where
  superseded : refresh.outcome = .refreshed .superseded ↔ Overtaken refresh.number earlier
  replaced : refresh.outcome = .refreshed .replaced ↔
    ¬ Overtaken refresh.number earlier ∧ refresh.answer.isEmpty = false
  empty : refresh.outcome = .refreshed .empty ↔
    ¬ Overtaken refresh.number earlier ∧ refresh.answer.isEmpty = true

end EndedRefresh

open EndedRefresh

/-! ### One answer -/

/-- The two ways in which the end of a refresh leaves the table: as it is, with an answer that is
too old or has no variables, or replaced by the answer. -/
theorem applyTable_cases (session : Session) (number : Nat) (fresh : TypeTable) :
    (number < session.tableNumber ∧
      session.applyTable number fresh = (session, .superseded)) ∨
    (session.tableNumber ≤ number ∧ fresh.isEmpty = true ∧
      session.applyTable number fresh = (session, .empty)) ∨
    (session.tableNumber ≤ number ∧ fresh.isEmpty = false ∧
      session.applyTable number fresh =
        ({ session with table := fresh, tableNumber := number }, .replaced)) := by
  unfold applyTable TypeTable.replaceOrKeep
  by_cases older : number < session.tableNumber
  · rw [if_pos older]
    exact Or.inl ⟨older, rfl⟩
  · rw [if_neg older]
    have notOlder : session.tableNumber ≤ number := Nat.le_of_not_lt older
    cases isEmpty : fresh.isEmpty with
    | true => exact Or.inr (Or.inl ⟨notOlder, rfl, rfl⟩)
    | false => exact Or.inr (Or.inr ⟨notOlder, rfl, rfl⟩)

/-- Only the end of a refresh with a table touches the table and its number. -/
theorem receive_table_of_no_refresh (session : Session) (trip : Trip)
    (answer : Except Failure trip.endpoint.Answer) (outcome : Outcome)
    (other : Ended.refresh? ⟨trip, answer, outcome⟩ = none) :
    (session.receive trip answer).1.table = session.table ∧
      (session.receive trip answer).1.tableNumber = session.tableNumber := by
  cases answer with
  | error failure =>
    rw [(receive_error session trip failure).1]
    exact ⟨rfl, rfl⟩
  | ok answer =>
    cases trip with
    | loadCatalog attempt => exact ⟨rfl, rfl⟩
    | refresh number source attempt => cases other
    | typecheck number source =>
      obtain ⟨_, _, applied⟩ := applyReport_frame session number answer
      exact ⟨(congrArg Session.table applied :), (congrArg Session.tableNumber applied :)⟩
    | submit source => exact ⟨rfl, rfl⟩

/-- The start of a call touches neither the table nor its number. -/
theorem start_table (session : Session) (call : Call) :
    (session.start call).1.table = session.table ∧
      (session.start call).1.tableNumber = session.tableNumber := by
  cases call <;> exact ⟨rfl, rfl⟩

/-! ### The invariant -/

namespace Work

/-- The table, its number and what refreshes have given back agree with the history. -/
structure FollowsRefreshes (work : Work) : Prop where
  table : (∃ refresh : EndedRefresh, refresh.IsNewestOf work.refreshes ∧
      work.session.table = refresh.answer ∧ work.session.tableNumber = refresh.number) ∨
    ((∀ refresh ∈ work.refreshes, refresh.answer.isEmpty = true) ∧
      work.session.table = .empty ∧ work.session.tableNumber = 0)
  overtaken : ∀ number, Overtaken number work.refreshes ↔ number < work.session.tableNumber
  truthful : ∀ later refresh earlier, work.refreshes = later ++ refresh :: earlier →
    refresh.TellsTheTruth earlier

/-- The invariant reads the table, its number and the refreshes, and nothing else. -/
theorem FollowsRefreshes.congr {first last : Work} (follows : first.FollowsRefreshes)
    (sameTable : last.session.table = first.session.table)
    (sameNumber : last.session.tableNumber = first.session.tableNumber)
    (sameRefreshes : last.refreshes = first.refreshes) : last.FollowsRefreshes := by
  constructor
  · rw [sameTable, sameNumber, sameRefreshes]
    exact follows.table
  · rw [sameNumber, sameRefreshes]
    exact follows.overtaken
  · rw [sameRefreshes]
    exact follows.truthful

/-- A refresh that ends adds itself to the history, so only its own word is to be looked at. -/
theorem truthful_cons {refresh : EndedRefresh} {refreshes : List EndedRefresh}
    (own : refresh.TellsTheTruth refreshes)
    (others : ∀ later other earlier, refreshes = later ++ other :: earlier →
      other.TellsTheTruth earlier) :
    ∀ later other earlier, refresh :: refreshes = later ++ other :: earlier →
      other.TellsTheTruth earlier := by
  intro later other earlier same
  cases later with
  | nil =>
    obtain ⟨rfl, rfl⟩ := List.cons.inj same
    exact own
  | cons first later => exact others later other earlier (List.cons.inj same).2

/-- A number is overtaken in a longer history as soon as it is in the shorter one. -/
theorem overtaken_cons (number : Nat) (refresh : EndedRefresh) (refreshes : List EndedRefresh) :
    Overtaken number (refresh :: refreshes) ↔
      (refresh.outcome = .refreshed .replaced ∧ number < refresh.number) ∨
        Overtaken number refreshes := by
  simp only [Overtaken, List.mem_cons, exists_eq_or_imp]

/-- A refresh that leaves the table as it is keeps the newest one. -/
theorem isNewestOf_cons_of_kept {refresh newest : EndedRefresh} {refreshes : List EndedRefresh}
    (isNewest : newest.IsNewestOf refreshes)
    (kept : refresh.answer.isEmpty = false → refresh.number ≤ newest.number) :
    newest.IsNewestOf (refresh :: refreshes) where
  member := List.mem_cons_of_mem _ isNewest.member
  filled := isNewest.filled
  newest other isMember filled := by
    rcases List.mem_cons.mp isMember with rfl | old
    · exact kept filled
    · exact isNewest.newest other old filled

/-- A refresh that leaves the table as it is keeps the invariant, if it tells the truth and has
either no variables or a number below that of the table. -/
theorem FollowsRefreshes.of_kept {work last : Work} (follows : work.FollowsRefreshes)
    {refresh : EndedRefresh} (session : last.session = work.session)
    (refreshes : last.refreshes = refresh :: work.refreshes)
    (notReplaced : refresh.outcome ≠ .refreshed .replaced)
    (older : refresh.answer.isEmpty = false → refresh.number < work.session.tableNumber)
    (own : refresh.TellsTheTruth work.refreshes) : last.FollowsRefreshes := by
  constructor
  · rw [session, refreshes]
    rcases follows.table with ⟨newest, isNewest, sameTable, sameNumber⟩ | ⟨allEmpty, same, isZero⟩
    · have kept (filled : refresh.answer.isEmpty = false) : refresh.number ≤ newest.number :=
        Nat.le_of_lt (sameNumber ▸ older filled)
      exact Or.inl ⟨newest, isNewestOf_cons_of_kept isNewest kept, sameTable, sameNumber⟩
    · have isEmpty : refresh.answer.isEmpty = true := by
        by_contra notEmpty
        exact Nat.not_lt_zero _ (isZero ▸ older (Bool.eq_false_iff.mpr notEmpty))
      exact Or.inr ⟨List.forall_mem_cons.mpr ⟨isEmpty, allEmpty⟩, same, isZero⟩
  · intro number
    rw [session, refreshes, overtaken_cons, follows.overtaken]
    simp [notReplaced]
  · rw [refreshes]
    exact truthful_cons own follows.truthful

/-- A refresh that replaces the table keeps the invariant, if its number is not below that of the
table it replaces. -/
theorem FollowsRefreshes.of_replaced {work last : Work} (follows : work.FollowsRefreshes)
    {refresh : EndedRefresh} (table : last.session.table = refresh.answer)
    (number : last.session.tableNumber = refresh.number)
    (refreshes : last.refreshes = refresh :: work.refreshes)
    (replaced : refresh.outcome = .refreshed .replaced) (filled : refresh.answer.isEmpty = false)
    (notOlder : work.session.tableNumber ≤ refresh.number)
    (own : refresh.TellsTheTruth work.refreshes) : last.FollowsRefreshes := by
  constructor
  · rw [refreshes]
    refine Or.inl ⟨refresh, ⟨List.mem_cons_self, filled, ?_⟩, table, number⟩
    intro other isMember otherFilled
    rcases List.mem_cons.mp isMember with rfl | old
    · exact Nat.le_refl _
    · rcases follows.table with ⟨newest, isNewest, -, sameNumber⟩ | ⟨allEmpty, -⟩
      · exact Nat.le_trans (isNewest.newest other old otherFilled) (sameNumber ▸ notOlder)
      · exact absurd (otherFilled.symm.trans (allEmpty other old)) (by decide)
  · intro other
    rw [number, refreshes, overtaken_cons, follows.overtaken]
    simp only [replaced, true_and]
    omega
  · rw [refreshes]
    exact truthful_cons own follows.truthful

/-- The end of a refresh with a table keeps the invariant. -/
theorem FollowsRefreshes.refresh {work : Work} (follows : work.FollowsRefreshes)
    (last : Work) (number : Nat) (answer : TypeTable)
    (session : last.session = (work.session.applyTable number answer).1)
    (refreshes : last.refreshes =
      ⟨number, answer, .refreshed (work.session.applyTable number answer).2⟩ :: work.refreshes) :
    last.FollowsRefreshes := by
  have overtaken := follows.overtaken number
  rcases applyTable_cases work.session number answer with
    ⟨older, applied⟩ | ⟨notOlder, isEmpty, applied⟩ | ⟨notOlder, isFilled, applied⟩
  · -- The answer is too old, so a newer refresh has replaced the table before.
    rw [applied] at session refreshes
    refine follows.of_kept session refreshes (by simp) (fun _ => older) ?_
    constructor <;> simp [overtaken, older]
  · -- The answer is empty, so it is no candidate for the newest table.
    rw [applied] at session refreshes
    have notOvertaken : ¬ Overtaken number work.refreshes := by
      rw [overtaken]
      omega
    refine follows.of_kept session refreshes (by simp)
      (fun filled => absurd (filled.symm.trans isEmpty) (by decide)) ?_
    constructor <;> simp [notOvertaken, isEmpty]
  · -- The answer replaces the table, whose number it passes or has.
    rw [applied] at session refreshes
    have notOvertaken : ¬ Overtaken number work.refreshes := by
      rw [overtaken]
      omega
    refine follows.of_replaced (by rw [session]) (by rw [session]) refreshes rfl isFilled notOlder
      ?_
    constructor <;> simp [notOvertaken, isFilled]

theorem FollowsRefreshes.step {first last : Work} (follows : first.FollowsRefreshes)
    (step : Step first last) : last.FollowsRefreshes := by
  cases step with
  | start call =>
    obtain ⟨sameTable, sameNumber⟩ := start_table first.session call
    exact follows.congr sameTable sameNumber rfl
  | drop before trip after waits => exact follows.congr rfl rfl rfl
  | receive before trip after answer waits =>
    rcases first.receive_cases before trip after answer with
      ⟨again, -, goesOn⟩ | ⟨outcome, finished, ends⟩
    · rw [goesOn]
      exact follows.congr rfl rfl rfl
    · rw [ends]
      cases found : Ended.refresh? ⟨trip, answer, outcome⟩ with
      | none =>
        obtain ⟨sameTable, sameNumber⟩ :=
          receive_table_of_no_refresh first.session trip answer outcome found
        refine follows.congr sameTable sameNumber ?_
        rw [refreshes, refreshes, List.filterMap_cons_none found]
      | some refresh =>
        -- Only a refresh with a table is found, and its word is what the session gives back.
        cases answer with
        | error failure => cases trip <;> cases found
        | ok answer =>
          cases trip with
          | loadCatalog attempt => cases found
          | typecheck number source => cases found
          | submit source => cases found
          | refresh number source attempt =>
            cases finished
            exact follows.refresh _ number answer rfl rfl

theorem Reachable.followsRefreshes {work : Work} (reachable : Reachable work) :
    work.FollowsRefreshes := by
  refine reachable.induction (fun retries => ⟨Or.inr ⟨?_, rfl, rfl⟩, ?_, ?_⟩)
    (fun _ _ follows step => follows.step step)
  · intro refresh member
    exact absurd member List.not_mem_nil
  · intro number
    simp [Overtaken, refreshes, initial]
  · intro later refresh earlier same
    exact absurd same (by simp [refreshes, initial])

/-! ### Histories side by side -/

/-- The number of a refresh is the one of its trip. -/
theorem number?_of_refresh? {ended : Ended} {refresh : EndedRefresh}
    (isRefresh : ended.refresh? = some refresh) : ended.trip.number? = some refresh.number := by
  obtain ⟨trip, answer, outcome⟩ := ended
  cases answer with
  | error failure => cases trip <;> cases isRefresh
  | ok answer =>
    cases trip with
    | loadCatalog attempt => cases isRefresh
    | submit source => cases isRefresh
    | typecheck number source => cases isRefresh
    | refresh number source attempt =>
      cases isRefresh
      rfl

/-- The numbers of the refreshes in a history are all different. -/
theorem Reachable.distinct_refreshes {work : Work} (reachable : Reachable work) :
    (work.refreshes.map EndedRefresh.number).Nodup :=
  reachable.distinct_of_ended Ended.refresh? EndedRefresh.number
    fun _ _ isRefresh => number?_of_refresh? isRefresh

/-- The refresh that the table comes from has drawn its number. -/
theorem Reachable.tableNumber_le {work : Work} (reachable : Reachable work) :
    work.session.tableNumber ≤ work.session.lastNumber := by
  rcases reachable.followsRefreshes.table with ⟨newest, isNewest, -, sameNumber⟩ | ⟨-, -, none⟩
  · obtain ⟨ended, inHistory, isRefresh⟩ := List.mem_filterMap.mp isNewest.member
    have inSight : newest.number ∈ work.numbers := List.mem_append_right _
      (List.mem_filterMap.mpr ⟨ended, inHistory, number?_of_refresh? isRefresh⟩)
    rw [sameNumber]
    exact (reachable.numbersDrawnOnce.drawn newest.number inSight).2
  · rw [none]
    exact Nat.zero_le _

/-- What has ended stays in the history. -/
theorem Steps.history_suffix {first last : Work} (steps : Steps first last) :
    first.history <:+ last.history := by
  induction steps with
  | refl => exact List.suffix_refl _
  | tail _ step inductionHypothesis =>
    refine inductionHypothesis.trans ?_
    cases step with
    | start call => exact List.suffix_refl _
    | drop before trip after waits => exact List.suffix_refl _
    | receive before trip after answer waits =>
      rcases receive_cases _ before trip after answer with ⟨again, -, goesOn⟩ | ⟨outcome, -, ends⟩
      · exact goesOn ▸ List.suffix_refl _
      · exact ends ▸ List.suffix_cons _ _

theorem Steps.mem_refreshes {first last : Work} (steps : Steps first last)
    {refresh : EndedRefresh} (member : refresh ∈ first.refreshes) : refresh ∈ last.refreshes :=
  (steps.history_suffix.sublist.filterMap _).subset member

/-- A history with a table that has variables has a newest one, and that is the table in place. -/
theorem Reachable.exists_newest {work : Work} (reachable : Reachable work)
    {refresh : EndedRefresh} (member : refresh ∈ work.refreshes)
    (filled : refresh.answer.isEmpty = false) :
    ∃ newest : EndedRefresh, newest.IsNewestOf work.refreshes ∧
      work.session.table = newest.answer := by
  rcases reachable.followsRefreshes.table with ⟨newest, isNewest, same, -⟩ | ⟨allEmpty, -⟩
  · exact ⟨newest, isNewest, same⟩
  · exact absurd (filled.symm.trans (allEmpty refresh member)) (by decide)

end Work

/-- What is known of a refresh before it ends: its number and the table that it gets. -/
def EndedRefresh.brought (refresh : EndedRefresh) : Nat × TypeTable :=
  (refresh.number, refresh.answer)

/-- Each refresh of one history has its like in another one that brought the same. -/
theorem EndedRefresh.exists_like {first second : List EndedRefresh} {refresh : EndedRefresh}
    (same : (first.map brought).Perm (second.map brought)) (member : refresh ∈ first) :
    ∃ like ∈ second, like.number = refresh.number ∧ like.answer = refresh.answer := by
  obtain ⟨like, isMember, equal⟩ :=
    List.mem_map.mp (same.subset (List.mem_map_of_mem (f := brought) member))
  obtain ⟨sameNumber, sameAnswer⟩ := Prod.mk.inj equal
  exact ⟨like, isMember, sameNumber, sameAnswer⟩

/-- Two histories that brought the same, in whatever order, have the same newest table. -/
theorem EndedRefresh.IsNewestOf.answer_eq {first second : List EndedRefresh}
    {newestOfFirst newestOfSecond : EndedRefresh} (inFirst : newestOfFirst.IsNewestOf first)
    (inSecond : newestOfSecond.IsNewestOf second)
    (same : (first.map brought).Perm (second.map brought))
    (distinct : (second.map number).Nodup) : newestOfFirst.answer = newestOfSecond.answer := by
  have newest {refresh : EndedRefresh} {refreshes : List EndedRefresh}
      (isNewest : refresh.IsNewestOf refreshes) :
      ∀ answer ∈ refreshes.map brought, answer.2.isEmpty = false → answer.1 ≤ refresh.number := by
    intro answer member filled
    obtain ⟨other, isOther, rfl⟩ := List.mem_map.mp member
    exact isNewest.newest other isOther filled
  have equal := newest_eq_of_perm same (by rw [List.map_map]; exact distinct)
    (fun answer : TypeTable => answer.isEmpty = false) (List.mem_map_of_mem inFirst.member)
    inFirst.filled (newest inFirst) (List.mem_map_of_mem inSecond.member) inSecond.filled
    (newest inSecond)
  exact congrArg Prod.snd equal

namespace Work

/-- What refreshes have brought decides the table, in whatever order they have ended. -/
theorem Reachable.table_eq_of_brought {first second : Work} (firstReachable : first.Reachable)
    (secondReachable : second.Reachable)
    (same : (first.refreshes.map brought).Perm (second.refreshes.map brought)) :
    first.session.table = second.session.table := by
  rcases firstReachable.followsRefreshes.table with
    ⟨newest, isNewest, sameTable, -⟩ | ⟨allEmpty, sameTable, -⟩
  · obtain ⟨like, isMember, -, likeAnswer⟩ := exists_like same isNewest.member
    obtain ⟨other, isOther, otherTable⟩ :=
      secondReachable.exists_newest isMember (by rw [likeAnswer, isNewest.filled])
    rw [sameTable, otherTable]
    exact isNewest.answer_eq isOther same secondReachable.distinct_refreshes
  · rcases secondReachable.followsRefreshes.table with ⟨other, isOther, -, -⟩ | ⟨-, otherTable, -⟩
    · obtain ⟨like, isMember, -, likeAnswer⟩ := exists_like same.symm isOther.member
      have likeFilled : like.answer.isEmpty = false := by rw [likeAnswer, isOther.filled]
      exact absurd (likeFilled.symm.trans (allEmpty like isMember)) (by decide)
    · rw [sameTable, otherTable]

/-- The table in place later is that of the same refresh or of one with a greater number. -/
theorem Reachable.exists_newer {first last : Work} (reachable : first.Reachable)
    (steps : Steps first last) {newest : EndedRefresh}
    (isNewest : newest.IsNewestOf first.refreshes) :
    ∃ newer : EndedRefresh, newer.IsNewestOf last.refreshes ∧
      last.session.table = newer.answer ∧ newest.number ≤ newer.number := by
  have stays := steps.mem_refreshes isNewest.member
  obtain ⟨newer, isNewer, same⟩ := (reachable.steps steps).exists_newest stays isNewest.filled
  exact ⟨newer, isNewer, same, isNewer.newest newest stays isNewest.filled⟩

end Work

/-! ### The table after any run -/

open Work in
/-- After any run the table is the answer of the newest refresh among those that have brought a
table with variables. So it depends on what refreshes have brought and not on the order of their
ends, it never goes back to an earlier refresh and never loses its variables, and each refresh
tells whether a newer one had replaced the table before it, and if not, whether it did. -/
theorem table_eq_newest_answer {work : Work} (reachable : work.Reachable) :
    (work.refreshes.map EndedRefresh.number).Nodup ∧
    ((∃ newest : EndedRefresh, newest.IsNewestOf work.refreshes ∧
        work.session.table = newest.answer) ∨
      ((∀ refresh ∈ work.refreshes, refresh.answer.isEmpty = true) ∧
        work.session.table = .empty)) ∧
    (∀ other : Work, other.Reachable →
      (work.refreshes.map EndedRefresh.brought).Perm (other.refreshes.map EndedRefresh.brought) →
        work.session.table = other.session.table) ∧
    (∀ last : Work, Steps work last →
      (∀ newest : EndedRefresh, newest.IsNewestOf work.refreshes →
        ∃ newer : EndedRefresh, newer.IsNewestOf last.refreshes ∧
          last.session.table = newer.answer ∧ newest.number ≤ newer.number) ∧
      (work.session.table.isEmpty = false → last.session.table.isEmpty = false)) ∧
    (∀ later refresh earlier, work.refreshes = later ++ refresh :: earlier →
      refresh.TellsTheTruth earlier) := by
  have follows := reachable.followsRefreshes
  refine ⟨reachable.distinct_refreshes, ?_, fun other => reachable.table_eq_of_brought,
    fun last steps => ⟨fun newest => reachable.exists_newer steps, fun filled => ?_⟩,
    follows.truthful⟩
  · rcases follows.table with ⟨newest, isNewest, same, -⟩ | ⟨allEmpty, same, -⟩
    · exact Or.inl ⟨newest, isNewest, same⟩
    · exact Or.inr ⟨allEmpty, same⟩
  · rcases follows.table with ⟨newest, isNewest, same, -⟩ | ⟨-, same, -⟩
    · obtain ⟨newer, isNewer, lastSame, -⟩ := reachable.exists_newer steps isNewest
      rw [lastSame, isNewer.filled]
    · rw [same] at filled
      exact absurd filled (by decide)

/-- A run of two refreshes in which the second one gets its answer first. -/
def overtakingRun : Work :=
  (((Work.initial 2).start (.refresh "slow")).start (.refresh "fast")).receive
      [.refresh 1 "slow" 1] (.refresh 2 "fast" 1) [] (.ok (.ofList [("fresh", .string)]))
    |>.receive [] (.refresh 1 "slow" 1) [] (.ok (.ofList [("stale", .number)]))

/-- The table of the second refresh stays in that run, and the first refresh says so. -/
theorem overtaken_refresh_changes_nothing :
    overtakingRun.Reachable ∧ overtakingRun.session.table = .ofList [("fresh", .string)] ∧
      EndedRefresh.TellsTheTruth ⟨1, .ofList [("stale", .number)], .refreshed .superseded⟩
        [⟨2, .ofList [("fresh", .string)], .refreshed .replaced⟩] := by
  have reachable : overtakingRun.Reachable :=
    ⟨2, .tail (.tail (.tail (.tail .refl (.start _ (.refresh "slow"))) (.start _ (.refresh "fast")))
      (.receive _ [.refresh 1 "slow" 1] (.refresh 2 "fast" 1) [] _ rfl))
      (.receive _ [] (.refresh 1 "slow" 1) [] _ rfl)⟩
  exact ⟨reachable, rfl, (table_eq_newest_answer reachable).2.2.2.2 [] _ _ rfl⟩

end Banana.Session
