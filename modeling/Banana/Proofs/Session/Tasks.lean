/-
This file ties the calls that are run against batches of answers to the steps of a session. Polling
a call takes answers one after the other, for one trip after the other, and each answer that is
taken is a step; so whatever is done with any number of calls, the session has been reached by steps
from a fresh one, and everything that holds after any run of steps holds of it.
-/

import Banana.Proofs.Session.History
import Banana.Session.Task

namespace Banana.Session

open Backend Work

/-- The trip that still waits for an answer, if it has not ended. -/
def Progress.trip? : Progress → Option Trip
  | .waiting trip => some trip
  | .finished _ => none

/-- The trips that still wait. -/
def waitingTrips (trips : List Progress) : List Trip := trips.filterMap Progress.trip?

theorem waitingTrips_cons (first : Progress) (others : List Progress) :
    waitingTrips (first :: others) = waitingTrips [first] ++ waitingTrips others := by
  show ([first] ++ others).filterMap Progress.trip? = _
  exact List.filterMap_append

/-- The trips of a call that still wait. -/
def Task.waiting (task : Task) : List Trip := waitingTrips task.trips

/-- Whether steps lead from a run to one with a given session, in which given trips wait between
others. -/
def LeadsTo (work : Work) (session : Session) (before trips after : List Trip) : Prop :=
  ∃ last : Work, Steps work last ∧ last.session = session ∧ last.waiting = before ++ trips ++ after

theorem LeadsTo.after_step {first second : Work} {session : Session}
    {before trips after : List Trip} (step : Step first second)
    (leads : LeadsTo second session before trips after) :
    LeadsTo first session before trips after := by
  obtain ⟨last, steps, same, waits⟩ := leads
  exact ⟨last, .head step steps, same, waits⟩

/-! ### Polling makes steps -/

/-- A trip that takes answers: the induction is on how many it may take. -/
theorem leadsTo_advance (room : Nat) (poll : Poll) (trip : Trip) (work : Work)
    (before after : List Trip) (sameSession : work.session = poll.session)
    (waits : work.waiting = before ++ trip :: after) :
    LeadsTo work (Poll.advance room poll trip).1.session before
      (waitingTrips [(Poll.advance room poll trip).2]) after := by
  have stays (poll : Poll) (trip : Trip) (work : Work) (sameSession : work.session = poll.session)
      (waits : work.waiting = before ++ trip :: after) :
      LeadsTo work poll.session before (waitingTrips [.waiting trip]) after :=
    ⟨work, .refl, sameSession, waits.trans (List.append_assoc before [trip] after).symm⟩
  induction room generalizing poll trip work with
  | zero => exact stays poll trip work sameSession waits
  | succ room inductionHypothesis =>
    rw [Poll.advance]
    cases poll.replies trip.endpoint with
    | nil => exact stays poll trip work sameSession waits
    | cons answer others =>
      have step := Step.receive work before trip after answer waits
      dsimp only
      cases received : poll.session.receive trip answer with
      | mk session progress =>
        have result : work.session.receive trip answer = (session, progress) := by
          rw [sameSession, received]
        cases progress with
        | finished outcome =>
          have ends : work.receive before trip after answer =
              ⟨session, before ++ after, ⟨trip, answer, outcome⟩ :: work.history⟩ := by
            rw [Work.receive, result]
          rw [ends] at step
          have noneWaits :
              before ++ after = before ++ waitingTrips [.finished outcome] ++ after := by
            simp [waitingTrips, Progress.trip?]
          exact .after_step step ⟨_, .refl, rfl, noneWaits⟩
        | waiting again =>
          have goesOn : work.receive before trip after answer =
              ⟨session, before ++ again :: after, work.history⟩ := by
            rw [Work.receive, result]
          rw [goesOn] at step
          exact .after_step step (inductionHypothesis _ again _ rfl rfl)

theorem leadsTo_run (poll : Poll) (progress : Progress) (work : Work) (before after : List Trip)
    (sameSession : work.session = poll.session)
    (waits : work.waiting = before ++ waitingTrips [progress] ++ after) :
    LeadsTo work (poll.run progress).1.session before
      (waitingTrips [(poll.run progress).2]) after := by
  cases progress with
  | finished outcome => exact ⟨work, .refl, sameSession, waits⟩
  | waiting trip =>
    exact leadsTo_advance _ poll trip work before after sameSession
      (waits.trans (List.append_assoc before [trip] after))

theorem leadsTo_runAll (poll : Poll) (trips : List Progress) (work : Work)
    (before after : List Trip) (sameSession : work.session = poll.session)
    (waits : work.waiting = before ++ waitingTrips trips ++ after) :
    LeadsTo work (poll.runAll trips).1.session before
      (waitingTrips (poll.runAll trips).2) after := by
  induction trips generalizing poll work before with
  | nil => exact ⟨work, .refl, sameSession, waits⟩
  | cons progress rest inductionHypothesis =>
    have split (first : Progress) (others : List Progress) :
        before ++ waitingTrips (first :: others) ++ after =
          before ++ waitingTrips [first] ++ (waitingTrips others ++ after) := by
      rw [waitingTrips_cons, ← List.append_assoc before, List.append_assoc _ _ after]
    obtain ⟨middle, steps, same, middleWaits⟩ := leadsTo_run poll progress work before
      (waitingTrips rest ++ after) sameSession (waits.trans (split progress rest))
    obtain ⟨last, furtherSteps, lastSame, lastWaits⟩ := inductionHypothesis (poll.run progress).1
      middle (before ++ waitingTrips [(poll.run progress).2]) same
      (middleWaits.trans (List.append_assoc _ _ after).symm)
    exact ⟨last, steps.trans furtherSteps, lastSame,
      lastWaits.trans ((List.append_assoc _ _ after).trans (split _ _).symm)⟩

/-- Trips that start are like trips that have waited all along. -/
theorem leadsTo_startAll (poll : Poll) (trips : List Trip) (work : Work)
    (before : List Trip) (sameSession : work.session = poll.session)
    (waits : work.waiting = before ++ trips) :
    LeadsTo work (poll.startAll trips).1.session before
      (waitingTrips (poll.startAll trips).2) [] := by
  induction trips generalizing poll work before with
  | nil => exact ⟨work, .refl, sameSession, by rw [waits]; exact (List.append_nil _).symm⟩
  | cons trip rest inductionHypothesis =>
    obtain ⟨middle, steps, same, middleWaits⟩ := leadsTo_run (poll.ask trip) (.waiting trip) work
      before rest sameSession (waits.trans (List.append_assoc before [trip] rest).symm)
    obtain ⟨last, furtherSteps, lastSame, lastWaits⟩ := inductionHypothesis
      ((poll.ask trip).run (.waiting trip)).1 middle
      (before ++ waitingTrips [((poll.ask trip).run (.waiting trip)).2]) same middleWaits
    refine ⟨last, steps.trans furtherSteps, lastSame, lastWaits.trans ?_⟩
    rw [List.append_nil, List.append_nil, List.append_assoc, ← waitingTrips_cons]
    rfl

/-! ### Calls make steps -/

/-- A call that starts, with the answers that wait for it. -/
theorem leadsTo_start (work : Work) (call : Call) (replies : Replies) :
    LeadsTo work (Task.start work.session call replies).1 work.waiting
      (Task.start work.session call replies).2.1.waiting [] :=
  .after_step (.start work call) (leadsTo_startAll ⟨(work.session.start call).1, replies, []⟩
    (work.session.start call).2 (work.start call) work.waiting rfl rfl)

/-- A call that goes on with more answers, between other calls. -/
theorem leadsTo_resume (work : Work) (before after : List Trip) (task : Task) (replies : Replies)
    (waits : work.waiting = before ++ task.waiting ++ after) :
    LeadsTo work (Task.resume work.session task replies).1 before
      (Task.resume work.session task replies).2.1.waiting after :=
  leadsTo_runAll ⟨work.session, task.replies.append replies, []⟩ task.trips work before after rfl
    waits

/-- What any number of calls can make of a fresh session: they start, go on and are dropped in any
order. -/
inductive Driven : Session → List Task → Prop
  | fresh (retries : UInt32) : Driven (initial retries).session []
  | start {session : Session} {tasks : List Task} (driven : Driven session tasks) (call : Call)
      (replies : Replies) :
      Driven (Task.start session call replies).1
        (tasks ++ [(Task.start session call replies).2.1])
  | resume {session : Session} {before after : List Task} {task : Task}
      (driven : Driven session (before ++ task :: after)) (replies : Replies) :
      Driven (Task.resume session task replies).1
        (before ++ (Task.resume session task replies).2.1 :: after)
  | drop {session : Session} {before after : List Task} {task : Task}
      (driven : Driven session (before ++ task :: after)) : Driven session (before ++ after)

/-- Trips are dropped one by one. -/
theorem leadsTo_drop (work : Work) (before trips after : List Trip)
    (waits : work.waiting = before ++ trips ++ after) :
    LeadsTo work work.session before [] after := by
  induction trips generalizing work with
  | nil => exact ⟨work, .refl, rfl, waits⟩
  | cons trip rest inductionHypothesis =>
    have waitsFirst : work.waiting = before ++ trip :: (rest ++ after) := by
      rw [waits, List.append_assoc]
      rfl
    exact .after_step (.drop work before trip (rest ++ after) waitsFirst)
      (inductionHypothesis _ (List.append_assoc before rest after).symm)

/-- A session that calls have been made on is one that steps can reach, with the trips of the calls
under way. -/
theorem Driven.reachable {session : Session} {tasks : List Task} (driven : Driven session tasks) :
    ∃ work : Work, work.Reachable ∧ work.session = session ∧
      work.waiting = tasks.flatMap Task.waiting := by
  induction driven with
  | fresh retries => exact ⟨initial retries, ⟨retries, .refl⟩, rfl, rfl⟩
  | start _ call replies inductionHypothesis =>
    obtain ⟨work, reachable, rfl, waits⟩ := inductionHypothesis
    obtain ⟨last, steps, same, lastWaits⟩ := leadsTo_start work call replies
    refine ⟨last, reachable.steps steps, same, ?_⟩
    rw [lastWaits, waits, List.flatMap_append, List.flatMap_singleton, List.append_nil]
  | resume _ replies inductionHypothesis =>
    obtain ⟨work, reachable, rfl, waits⟩ := inductionHypothesis
    rw [List.flatMap_append, List.flatMap_cons, ← List.append_assoc] at waits
    obtain ⟨last, steps, same, lastWaits⟩ := leadsTo_resume work _ _ _ replies waits
    refine ⟨last, reachable.steps steps, same, ?_⟩
    rw [lastWaits, List.flatMap_append, List.flatMap_cons, List.append_assoc]
  | drop _ inductionHypothesis =>
    obtain ⟨work, reachable, rfl, waits⟩ := inductionHypothesis
    rw [List.flatMap_append, List.flatMap_cons, ← List.append_assoc] at waits
    obtain ⟨last, steps, same, lastWaits⟩ := leadsTo_drop work _ _ _ waits
    refine ⟨last, reachable.steps steps, same, ?_⟩
    rw [lastWaits, List.append_nil, List.flatMap_append]

end Banana.Session
