/-
This file holds what an editor keeps between keystrokes: the catalog with the grammar made from it,
the type table and the last report. Refreshes and checks are numbered in the order in which they
start, and an answer that is older than the one in place changes nothing.
-/

import Banana.Backend.Endpoint
import Banana.Completion.Resolve
import Banana.Grammar.Language
import Banana.Highlight.Scan
import Banana.Report.Marker

namespace Banana

open Backend Completion Schema

/-- The state of an editor's work on one document. -/
structure Session where
  /-- How often catalog loads and refreshes are tried again. -/
  retries : UInt32 := 2
  catalog : Catalog := .empty
  grammar : Grammar := .ofComponents []
  table : TypeTable := .empty
  report : Report := .empty
  /-- The number of the refresh that the table comes from; zero for none. -/
  tableNumber : Nat := 0
  /-- The number of the check that the report comes from; zero for none. -/
  reportNumber : Nat := 0
  /-- The number of the refresh or check that started last. -/
  lastNumber : Nat := 0

/-- What a refresh did to the type table. -/
inductive RefreshOutcome where
  /-- The table was replaced. -/
  | replaced
  /-- The answer was empty and the table stays. -/
  | empty
  /-- The table comes from a refresh that started later and stays. -/
  | superseded
  deriving DecidableEq

/-- The word for what a refresh did. -/
def RefreshOutcome.name : RefreshOutcome → String
  | replaced => "Replaced"
  | empty => "Empty"
  | superseded => "Superseded"

namespace Session

/-! ### Answers -/

/-- Puts a catalog in place, with its grammar. -/
def applyCatalog (session : Session) (catalog : Catalog) : Session :=
  { session with catalog := catalog, grammar := .ofComponents catalog.components }

/-- Puts the answer to a numbered refresh in place, unless it is too old or empty. -/
def applyTable (session : Session) (number : Nat) (fresh : TypeTable) :
    Session × RefreshOutcome :=
  if number < session.tableNumber then
    (session, .superseded)
  else
    match session.table.replaceOrKeep fresh with
    | (table, true) => ({ session with table := table, tableNumber := number }, .replaced)
    | (table, false) => ({ session with table := table }, .empty)

/-- Puts the answer to a numbered check in place, unless it is too old. -/
def applyReport (session : Session) (number : Nat) (report : Report) : Session :=
  if session.reportNumber < number then
    { session with report := report, reportNumber := number }
  else
    session

/-! ### Reading -/

/-- The candidates for the text before the cursor. -/
def complete (session : Session) (text : String) : List Candidate :=
  resolve text session.table session.catalog.components

/-- The candidates at a place of a source. -/
def completeAt (session : Session) (source : String) (line column : Nat) : List Candidate :=
  match linePrefix? source line column with
  | some text => session.complete text
  | none => []

/-- The tokens of a source under the current grammar. -/
def highlight (session : Session) (source : String) :
    Except Grammar.Fault (List Highlight.Token) :=
  session.grammar.highlight source

/-- The markers of the current report. -/
def markers (session : Session) : List Report.Marker :=
  session.report.markers

end Session

end Banana
