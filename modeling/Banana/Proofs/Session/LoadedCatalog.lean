/-
This file says which catalog and which grammar a session has after any run: the catalog is the
answer of the load that has ended last with one, in whatever order the loads were started, and the
grammar is the one made from that catalog. Loads carry no number, so it is the end of a load that
counts and not its start.

The grammar of every catalog is accepted, whatever its components are called, so a source can be
highlighted at any moment of a run.
-/

import Banana.Proofs.Language.Rules
import Banana.Proofs.Session.History

namespace Banana.Session

open Backend Schema

/-- The catalog that a load has ended with, if the end of a trip is that of a load which got one. -/
def Ended.catalog? : Ended → Option Catalog
  | ⟨.loadCatalog _, .ok catalog, _⟩ => some catalog
  | _ => none

/-- The catalogs that have been loaded, latest first. -/
def Work.catalogs (work : Work) : List Catalog :=
  work.history.filterMap Ended.catalog?

/-- Whether a trip gives back a grammar exactly when it has loaded a catalog, and then the grammar
of that catalog. -/
def Ended.LoadsGrammar (ended : Ended) : Prop :=
  ∀ grammar, ended.outcome = .loaded grammar ↔
    ∃ catalog, ended.catalog? = some catalog ∧ grammar = .ofComponents catalog.components

/-! ### One answer -/

/-- Only the end of a load with a catalog touches the catalog and the grammar. -/
theorem receive_catalog_of_no_load (session : Session) (trip : Trip)
    (answer : Except Failure trip.endpoint.Answer) (outcome : Outcome)
    (other : Ended.catalog? ⟨trip, answer, outcome⟩ = none) :
    (session.receive trip answer).1.catalog = session.catalog ∧
      (session.receive trip answer).1.grammar = session.grammar := by
  cases answer with
  | error failure =>
    rw [(receive_error session trip failure).1]
    exact ⟨rfl, rfl⟩
  | ok answer =>
    cases trip with
    | loadCatalog attempt => cases other
    | refresh number source attempt =>
      obtain ⟨_, _, applied⟩ := applyTable_frame session number answer
      exact ⟨(congrArg Session.catalog applied :), (congrArg Session.grammar applied :)⟩
    | typecheck number source =>
      obtain ⟨_, _, applied⟩ := applyReport_frame session number answer
      exact ⟨(congrArg Session.catalog applied :), (congrArg Session.grammar applied :)⟩
    | submit source => exact ⟨rfl, rfl⟩

/-- The start of a call touches neither the catalog nor the grammar. -/
theorem start_catalog (session : Session) (call : Call) :
    (session.start call).1.catalog = session.catalog ∧
      (session.start call).1.grammar = session.grammar := by
  cases call <;> exact ⟨rfl, rfl⟩

/-- The trips that end with a failure, and what they give back. -/
theorem outcome_of_error {session : Session} {trip : Trip} {failure : Failure} {outcome : Outcome}
    (finished : (session.receive trip (.error failure)).2 = .finished outcome) :
    outcome = .failed failure ∨ outcome = .checked none := by
  rw [receive_error_eq] at finished
  rcases trip.afterFailure_cases session.retries failure with ⟨again, goesOn, -⟩ | ⟨_, ends, isOne⟩
  · cases goesOn.symm.trans finished
  · cases ends.symm.trans finished
    exact isOne

/-- What ends has loaded a catalog or gives back no grammar. -/
theorem loadsGrammar_of_finished {session : Session} {trip : Trip}
    {answer : Except Failure trip.endpoint.Answer} {outcome : Outcome}
    (finished : (session.receive trip answer).2 = .finished outcome) :
    Ended.LoadsGrammar ⟨trip, answer, outcome⟩ := by
  intro grammar
  cases answer with
  | error failure =>
    have noCatalog : Ended.catalog? ⟨trip, .error failure, outcome⟩ = none := by cases trip <;> rfl
    rcases outcome_of_error finished with rfl | rfl <;> simp [noCatalog]
  | ok answer =>
    cases trip with
    | loadCatalog attempt =>
      cases finished
      constructor
      · rintro ⟨⟩
        exact ⟨answer, rfl, rfl⟩
      · rintro ⟨catalog, ⟨⟩, rfl⟩
        rfl
    | refresh number source attempt =>
      cases finished
      simp [Ended.catalog?]
    | typecheck number source =>
      cases finished
      simp [Ended.catalog?]
    | submit source =>
      cases finished
      simp [Ended.catalog?]

/-! ### The invariant -/

namespace Work

/-- The catalog, the grammar and what loads have given back agree with the history. -/
structure FollowsLoads (work : Work) : Prop where
  catalog : work.session.catalog = work.catalogs.head?.getD .empty
  grammar : work.session.grammar = .ofComponents work.session.catalog.components
  loads : ∀ ended ∈ work.history, ended.LoadsGrammar

theorem FollowsLoads.step {first last : Work} (follows : first.FollowsLoads)
    (step : Step first last) : last.FollowsLoads := by
  cases step with
  | start call =>
    obtain ⟨sameCatalog, sameGrammar⟩ := start_catalog first.session call
    exact ⟨sameCatalog.trans follows.catalog,
      sameGrammar.trans (sameCatalog.symm ▸ follows.grammar), follows.loads⟩
  | drop before trip after waits => exact ⟨follows.catalog, follows.grammar, follows.loads⟩
  | receive before trip after answer waits =>
    rcases first.receive_cases before trip after answer with
      ⟨again, -, goesOn⟩ | ⟨outcome, finished, ends⟩
    · rw [goesOn]
      exact ⟨follows.catalog, follows.grammar, follows.loads⟩
    · rw [ends]
      have loads := List.forall_mem_cons.mpr ⟨loadsGrammar_of_finished finished, follows.loads⟩
      cases found : Ended.catalog? ⟨trip, answer, outcome⟩ with
      | none =>
        obtain ⟨sameCatalog, sameGrammar⟩ :=
          receive_catalog_of_no_load first.session trip answer outcome found
        refine ⟨?_, sameGrammar.trans (sameCatalog.symm ▸ follows.grammar), loads⟩
        rw [catalogs, List.filterMap_cons_none found]
        exact sameCatalog.trans follows.catalog
      | some catalog =>
        -- Only a load with a catalog is found, and that catalog is put in place.
        cases answer with
        | error failure => cases trip <;> cases found
        | ok answer =>
          cases trip with
          | loadCatalog attempt =>
            cases found
            exact ⟨rfl, rfl, loads⟩
          | refresh number source attempt => cases found
          | typecheck number source => cases found
          | submit source => cases found

theorem Reachable.followsLoads {work : Work} (reachable : Reachable work) : work.FollowsLoads :=
  reachable.induction
    (fun _ => ⟨rfl, rfl, fun _ member => absurd member List.not_mem_nil⟩)
    (fun _ _ follows step => follows.step step)

end Work

/-! ### The grammar after any run -/

/-- After any run the grammar is that of the catalog in place, the catalog is the one that was
loaded last, and every source can be highlighted. A trip is a load that got a catalog exactly when
it gives back a grammar. -/
theorem grammar_eq_of_loaded_catalog {work : Work} (reachable : work.Reachable) :
    work.session.grammar = .ofComponents work.session.catalog.components ∧
    work.session.catalog = work.catalogs.head?.getD .empty ∧
    (∀ ended ∈ work.history, ended.LoadsGrammar) ∧
    ∀ source, ∃ tokens, work.session.highlight source = .ok tokens := by
  have follows := reachable.followsLoads
  refine ⟨follows.grammar, follows.catalog, follows.loads, fun source => ?_⟩
  rw [highlight, follows.grammar, Grammar.highlight, Grammar.Language.ofGrammar_ofComponents]
  exact ⟨_, rfl⟩

/-- A catalog with names that are no words of the language. -/
def oddCatalog : Catalog := ⟨[.new "" "", .new ".*(" "", .new ".*(" ""]⟩

/-- A run of two loads of which the first one ends last, after a failure and another attempt. -/
def overlappingLoads : Work :=
  (((Work.initial 2).start .loadCatalog).start .loadCatalog).receive
      [] (.loadCatalog 1) [.loadCatalog 1] (.error .decode)
    |>.receive [.loadCatalog 2] (.loadCatalog 1) [] (.ok ⟨[.new "Source" ""]⟩)
    |>.receive [] (.loadCatalog 2) [] (.ok oddCatalog)

/-- In that run the catalog of the load that ended last is in place, and sources can be
highlighted. -/
theorem last_loaded_catalog_stays :
    overlappingLoads.Reachable ∧ overlappingLoads.session.catalog = oddCatalog ∧
      overlappingLoads.session.grammar = .ofComponents oddCatalog.components ∧
      ∀ source, ∃ tokens, overlappingLoads.session.highlight source = .ok tokens := by
  have reachable : overlappingLoads.Reachable :=
    ⟨2, .tail (.tail (.tail (.tail (.tail .refl (.start _ .loadCatalog)) (.start _ .loadCatalog))
      (.receive _ [] (.loadCatalog 1) [.loadCatalog 1] _ rfl))
      (.receive _ [.loadCatalog 2] (.loadCatalog 1) [] _ rfl))
      (.receive _ [] (.loadCatalog 2) [] _ rfl)⟩
  obtain ⟨sameGrammar, sameCatalog, -, highlights⟩ := grammar_eq_of_loaded_catalog reachable
  exact ⟨reachable, sameCatalog, sameGrammar, highlights⟩

end Banana.Session
