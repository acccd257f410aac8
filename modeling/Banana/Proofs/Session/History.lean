/-
This file follows a session through any run. Calls start whenever they like, a trip that waits may
get an answer or a failure at any moment and in any order, and a call may be dropped before it
ends. What has ended is kept in a history, latest first, so that a statement about a run is a
statement about the history that it leaves.

Refreshes and checks draw their numbers from one counter. The content here is that no number is
drawn twice: the numbers of the trips under way and of those in the history are all different and
none is above the counter.
-/

import Mathlib.Data.List.Nodup
import Mathlib.Data.List.Perm.Subperm
import Mathlib.Logic.Relation
import Banana.Session.Trip

namespace Banana.Session

open Backend Schema

/-- A trip that has ended, the answer it ended with, and how it ended. -/
structure Ended where
  trip : Trip
  answer : Except Failure trip.endpoint.Answer
  outcome : Outcome

/-- A session with the trips that wait for an answer and those that have ended, latest first. -/
structure Work where
  session : Session
  waiting : List Trip
  history : List Ended

namespace Work

/-- A session before any call. -/
def initial (retries : UInt32) : Work := ⟨{ retries := retries }, [], []⟩

/-- A call starts. -/
def start (work : Work) (call : Call) : Work where
  session := (work.session.start call).1
  waiting := work.waiting ++ (work.session.start call).2
  history := work.history

/-- An answer arrives for a trip that waits between others. -/
def receive (work : Work) (before : List Trip) (trip : Trip) (after : List Trip)
    (answer : Except Failure trip.endpoint.Answer) : Work :=
  match work.session.receive trip answer with
  | (session, .waiting again) => ⟨session, before ++ again :: after, work.history⟩
  | (session, .finished outcome) =>
    ⟨session, before ++ after, ⟨trip, answer, outcome⟩ :: work.history⟩

/-- What can happen next in a run. The two trips of an edit may also start one by one, as a refresh
and a check, with other calls in between. -/
inductive Step : Work → Work → Prop
  | start (work : Work) (call : Call) : Step work (work.start call)
  | receive (work : Work) (before : List Trip) (trip : Trip) (after : List Trip)
      (answer : Except Failure trip.endpoint.Answer)
      (waits : work.waiting = before ++ trip :: after) :
      Step work (work.receive before trip after answer)
  | drop (work : Work) (before : List Trip) (trip : Trip) (after : List Trip)
      (waits : work.waiting = before ++ trip :: after) :
      Step work { work with waiting := before ++ after }

/-- What may be reached from somewhere by any number of steps. -/
abbrev Steps : Work → Work → Prop := Relation.ReflTransGen Step

/-- What may be reached from a session before any call. -/
def Reachable (work : Work) : Prop := ∃ retries, Steps (initial retries) work

theorem Reachable.steps {first last : Work} (reachable : Reachable first)
    (steps : Steps first last) : Reachable last := by
  obtain ⟨retries, started⟩ := reachable
  exact ⟨retries, started.trans steps⟩

/-- A property of the start that every step keeps holds of all that is reachable. -/
theorem Reachable.induction {motive : Work → Prop} {work : Work} (reachable : Reachable work)
    (initially : ∀ retries, motive (initial retries))
    (kept : ∀ first last, motive first → Step first last → motive last) : motive work := by
  obtain ⟨retries, steps⟩ := reachable
  induction steps with
  | refl => exact initially retries
  | tail _ step inductionHypothesis => exact kept _ _ inductionHypothesis step

end Work

/-! ### What an answer can do -/

/-- The number of a trip, where it has one. -/
def Trip.number? : Trip → Option Nat
  | .refresh number _ _ | .typecheck number _ => some number
  | .loadCatalog _ | .submit _ => none

/-- How far a trip has come when an attempt has failed. -/
def Trip.afterFailure (retries : UInt32) (failure : Failure) : Trip → Progress
  | .loadCatalog attempt =>
    if attempt ≤ retries then .waiting (.loadCatalog (attempt + 1))
    else .finished (.failed failure)
  | .refresh number source attempt =>
    if attempt ≤ retries then .waiting (.refresh number source (attempt + 1))
    else .finished (.failed failure)
  | .typecheck _ _ => .finished (.checked none)
  | .submit _ => .finished (.failed failure)

/-- A failure leaves the session alone. -/
theorem receive_error_eq (session : Session) (trip : Trip) (failure : Failure) :
    session.receive trip (.error failure) =
      (session, trip.afterFailure session.retries failure) := by
  cases trip with
  | loadCatalog attempt =>
    simp only [receive, afterAttempt, Trip.afterFailure]
    by_cases more : attempt ≤ session.retries
    · rw [if_pos more, if_pos more]
    · rw [if_neg more, if_neg more]
  | refresh number source attempt =>
    simp only [receive, afterAttempt, Trip.afterFailure]
    by_cases more : attempt ≤ session.retries
    · rw [if_pos more, if_pos more]
    · rw [if_neg more, if_neg more]
  | typecheck number source => rfl
  | submit source => rfl

/-- A trip that has failed asks for the same thing again under the same number, or has ended without
what it asked for. -/
theorem Trip.afterFailure_cases (retries : UInt32) (failure : Failure) (trip : Trip) :
    (∃ again : Trip, trip.afterFailure retries failure = .waiting again ∧
      again.number? = trip.number? ∧ again.endpoint = trip.endpoint ∧
      again.content = trip.content) ∨
    (∃ outcome, trip.afterFailure retries failure = .finished outcome ∧
      (outcome = .failed failure ∨ outcome = .checked none)) := by
  cases trip with
  | loadCatalog attempt =>
    rw [afterFailure]
    by_cases more : attempt ≤ retries
    · rw [if_pos more]
      exact Or.inl ⟨_, rfl, rfl, rfl, rfl⟩
    · rw [if_neg more]
      exact Or.inr ⟨_, rfl, Or.inl rfl⟩
  | refresh number source attempt =>
    rw [afterFailure]
    by_cases more : attempt ≤ retries
    · rw [if_pos more]
      exact Or.inl ⟨_, rfl, rfl, rfl, rfl⟩
    · rw [if_neg more]
      exact Or.inr ⟨_, rfl, Or.inl rfl⟩
  | typecheck number source => exact Or.inr ⟨_, rfl, Or.inr rfl⟩
  | submit source => exact Or.inr ⟨_, rfl, Or.inl rfl⟩

/-- A failure leaves the session alone, and a trip that goes on keeps its number. -/
theorem receive_error (session : Session) (trip : Trip) (failure : Failure) :
    (session.receive trip (.error failure)).1 = session ∧
      ∀ again, (session.receive trip (.error failure)).2 = .waiting again →
        again.number? = trip.number? := by
  rw [receive_error_eq]
  refine ⟨rfl, fun again goesOn => ?_⟩
  rcases trip.afterFailure_cases session.retries failure with
    ⟨next, isNext, sameNumber, -⟩ | ⟨outcome, ends, -⟩
  · cases isNext.symm.trans goesOn
    exact sameNumber
  · cases ends.symm.trans goesOn

/-- A trip that gets what it asked for has ended. -/
theorem receive_ok_ends (session : Session) (trip : Trip) (answer : trip.endpoint.Answer) :
    ∃ outcome, (session.receive trip (.ok answer)).2 = .finished outcome := by
  cases trip <;> exact ⟨_, rfl⟩

/-- The answer to a refresh can change the table and its number, and nothing else. -/
theorem applyTable_frame (session : Session) (number : Nat) (fresh : TypeTable) :
    ∃ table tableNumber, (session.applyTable number fresh).1 =
      { session with table := table, tableNumber := tableNumber } := by
  unfold applyTable TypeTable.replaceOrKeep
  split
  · exact ⟨session.table, session.tableNumber, rfl⟩
  · by_cases empty : fresh.isEmpty
    · rw [if_pos empty]
      exact ⟨session.table, session.tableNumber, rfl⟩
    · rw [if_neg empty]
      exact ⟨fresh, number, rfl⟩

/-- The answer to a check can change the report and its number, and nothing else. -/
theorem applyReport_frame (session : Session) (number : Nat) (fresh : Report) :
    ∃ report reportNumber, session.applyReport number fresh =
      { session with report := report, reportNumber := reportNumber } := by
  unfold applyReport
  split
  · exact ⟨fresh, number, rfl⟩
  · exact ⟨session.report, session.reportNumber, rfl⟩

/-- No answer moves the counter. -/
theorem receive_lastNumber (session : Session) (trip : Trip)
    (answer : Except Failure trip.endpoint.Answer) :
    (session.receive trip answer).1.lastNumber = session.lastNumber := by
  cases answer with
  | error failure => rw [(receive_error session trip failure).1]
  | ok answer =>
    cases trip with
    | loadCatalog attempt => rfl
    | refresh number source attempt =>
      obtain ⟨_, _, applied⟩ := applyTable_frame session number answer
      exact (congrArg Session.lastNumber applied :)
    | typecheck number source =>
      obtain ⟨_, _, applied⟩ := applyReport_frame session number answer
      exact (congrArg Session.lastNumber applied :)
    | submit source => rfl

namespace Work

/-- What an answer can make of a run: the trip goes on in the same session and with the same
number, or it ends and is put into the history. -/
theorem receive_cases (work : Work) (before : List Trip) (trip : Trip) (after : List Trip)
    (answer : Except Failure trip.endpoint.Answer) :
    (∃ again : Trip, again.number? = trip.number? ∧
      work.receive before trip after answer =
        ⟨work.session, before ++ again :: after, work.history⟩) ∨
    (∃ outcome : Outcome, (work.session.receive trip answer).2 = .finished outcome ∧
      work.receive before trip after answer =
        ⟨(work.session.receive trip answer).1, before ++ after,
          ⟨trip, answer, outcome⟩ :: work.history⟩) := by
  unfold receive
  cases received : work.session.receive trip answer with
  | mk session progress =>
    cases progress with
    | finished outcome => exact Or.inr ⟨outcome, rfl, rfl⟩
    | waiting again =>
      cases answer with
      | ok value =>
        obtain ⟨outcome, ends⟩ := receive_ok_ends work.session trip value
        rw [received] at ends
        cases ends
      | error failure =>
        have keeps := receive_error work.session trip failure
        rw [received] at keeps
        obtain ⟨same, sameNumber⟩ := keeps
        have sameSession : session = work.session := same
        rw [sameSession]
        exact Or.inl ⟨again, sameNumber again rfl, rfl⟩

/-! ### The numbers that have been drawn -/

/-- The numbers of the trips that wait and of those that have ended. Trips that were dropped are in
neither list. -/
def numbers (work : Work) : List Nat :=
  work.waiting.filterMap Trip.number? ++ work.history.filterMap (·.trip.number?)

/-- The numbers in sight are all different, and the counter has passed all of them. -/
structure NumbersDrawnOnce (work : Work) : Prop where
  distinct : work.numbers.Nodup
  drawn : ∀ number ∈ work.numbers, 0 < number ∧ number ≤ work.session.lastNumber

/-- The numbers that a call draws are the next ones of the counter. -/
theorem start_numbers (session : Session) (call : Call) :
    ∃ count, (session.start call).2.filterMap Trip.number? =
        List.range' (session.lastNumber + 1) count ∧
      (session.start call).1.lastNumber = session.lastNumber + count := by
  cases call with
  | loadCatalog => exact ⟨0, rfl, rfl⟩
  | refresh source => exact ⟨1, rfl, rfl⟩
  | typecheck source => exact ⟨1, rfl, rfl⟩
  | change source => exact ⟨2, rfl, rfl⟩
  | submit source => exact ⟨0, rfl, rfl⟩

/-- Fewer numbers in sight, in any order, are still drawn once. -/
theorem NumbersDrawnOnce.of_subperm {first last : Work} (drawnOnce : first.NumbersDrawnOnce)
    (fewer : last.numbers.Subperm first.numbers)
    (sameCounter : last.session.lastNumber = first.session.lastNumber) :
    last.NumbersDrawnOnce := by
  obtain ⟨ordered, sameNumbers, sublist⟩ := fewer
  constructor
  · exact sameNumbers.nodup_iff.mp (drawnOnce.distinct.sublist sublist)
  · intro number member
    rw [sameCounter]
    exact drawnOnce.drawn number (sublist.subset (sameNumbers.symm.subset member))

theorem NumbersDrawnOnce.start {work : Work} (drawnOnce : work.NumbersDrawnOnce) (call : Call) :
    (work.start call).NumbersDrawnOnce := by
  obtain ⟨count, newNumbers, newCounter⟩ := start_numbers work.session call
  have numbersPerm : (work.start call).numbers.Perm
      (List.range' (work.session.lastNumber + 1) count ++ work.numbers) := by
    show ((work.waiting ++ (work.session.start call).2).filterMap Trip.number? ++ _).Perm _
    rw [List.filterMap_append, newNumbers, numbers, List.append_assoc]
    exact List.perm_append_comm_assoc _ _ _
  have counter : (work.start call).session.lastNumber = work.session.lastNumber + count :=
    newCounter
  constructor
  · refine numbersPerm.nodup_iff.mpr (List.nodup_append.mpr ⟨List.nodup_range', ?_, ?_⟩)
    · exact drawnOnce.distinct
    · intro fresh isFresh old isOld
      have above := (List.mem_range'_1.mp isFresh).1
      have below := (drawnOnce.drawn old isOld).2
      omega
  · intro number member
    rw [counter]
    rcases List.mem_append.mp (numbersPerm.subset member) with fresh | old
    · have bounds := List.mem_range'_1.mp fresh
      omega
    · have bounds := drawnOnce.drawn number old
      omega

theorem NumbersDrawnOnce.step {first last : Work} (drawnOnce : first.NumbersDrawnOnce)
    (step : Step first last) : last.NumbersDrawnOnce := by
  cases step with
  | start call => exact drawnOnce.start call
  | drop before trip after waits =>
    refine drawnOnce.of_subperm (List.Sublist.subperm ?_) rfl
    rw [numbers, numbers, waits]
    refine List.Sublist.append (List.Sublist.filterMap _ ?_) (List.Sublist.refl _)
    exact List.Sublist.append (List.Sublist.refl _) (List.sublist_cons_self trip after)
  | receive before trip after answer waits =>
    rcases first.receive_cases before trip after answer with
      ⟨again, sameNumber, goesOn⟩ | ⟨outcome, -, ends⟩
    · rw [goesOn]
      refine drawnOnce.of_subperm (List.Perm.subperm (List.Perm.of_eq ?_)) rfl
      simp only [numbers, waits, List.filterMap_append, List.filterMap_cons, sameNumber]
    · rw [ends]
      refine drawnOnce.of_subperm (List.Perm.subperm ?_) (receive_lastNumber _ _ _)
      simp only [numbers, waits, List.filterMap_append, List.filterMap_cons]
      cases trip.number? with
      | none => exact List.Perm.refl _
      | some number =>
        simp only [List.append_assoc]
        refine List.Perm.append_left _ ?_
        exact List.perm_middle

/-- In a run no number is drawn twice. -/
theorem Reachable.numbersDrawnOnce {work : Work} (reachable : Reachable work) :
    work.NumbersDrawnOnce :=
  reachable.induction
    (fun _ => ⟨List.nodup_nil, fun _ member => absurd member List.not_mem_nil⟩)
    (fun _ _ drawnOnce step => drawnOnce.step step)

/-- Whatever is read off the trips that have ended, together with their numbers, is numbered
differently. -/
theorem Reachable.distinct_of_ended {α : Type} {work : Work} (reachable : Reachable work)
    (read : Ended → Option α) (number : α → Nat)
    (numbered : ∀ ended found, read ended = some found →
      ended.trip.number? = some (number found)) :
    ((work.history.filterMap read).map number).Nodup := by
  have distinct : (work.history.filterMap (·.trip.number?)).Nodup :=
    (List.nodup_append.mp reachable.numbersDrawnOnce.distinct).2.1
  refine distinct.sublist ?_
  rw [List.map_filterMap]
  generalize work.history = history
  induction history with
  | nil => exact List.Sublist.refl _
  | cons ended rest inductionHypothesis =>
    cases found : read ended with
    | none =>
      rw [List.filterMap_cons_none (by rw [found]; rfl)]
      refine inductionHypothesis.trans ?_
      exact (List.sublist_cons_self ended rest).filterMap _
    | some value =>
      have first : (ended :: rest).filterMap (·.trip.number?) =
          number value :: rest.filterMap (·.trip.number?) :=
        List.filterMap_cons_some (numbered ended value found)
      rw [List.filterMap_cons_some (by rw [found]; rfl), first]
      exact inductionHypothesis.cons_cons _

end Work

/-! ### The newest of numbered answers -/

/-- Of answers whose numbers are all different, the newest one that counts is the same in whatever
order they are listed. -/
theorem newest_eq_of_perm {α : Type} {first second : List (Nat × α)} (same : first.Perm second)
    (distinct : (second.map Prod.fst).Nodup) (counts : α → Prop) {newest other : Nat × α}
    (inFirst : newest ∈ first) (newestCounts : counts newest.2)
    (isNewest : ∀ answer ∈ first, counts answer.2 → answer.1 ≤ newest.1)
    (inSecond : other ∈ second) (otherCounts : counts other.2)
    (otherIsNewest : ∀ answer ∈ second, counts answer.2 → answer.1 ≤ other.1) :
    newest = other := by
  have notNewer := otherIsNewest newest (same.subset inFirst) newestCounts
  have notOlder := isNewest other (same.symm.subset inSecond) otherCounts
  exact List.inj_on_of_nodup_map distinct (same.subset inFirst) inSecond
    (Nat.le_antisymm notNewer notOlder)

end Banana.Session
