/-
This file finds the candidates for the text before the cursor in a type table and a catalog. A
lookup that misses offers nothing; it is never a fault.
-/

import Banana.Completion.Candidate
import Banana.Completion.Context
import Banana.Schema.TypeTable

namespace Banana.Completion

open Schema

/-- The segments of a dotted path, without the white space around them. -/
def segments (path : String) : List String :=
  (Text.split '.' path.toList).map fun segment => String.ofList (Text.trim segment)

/-- The type that a dotted path leads to: the first segment names a variable, those between are
members, and the last one, which is still being typed, does not count. -/
def resolvePath? (path : String) (table : TypeTable) : Option ValueType :=
  match segments path with
  | [] => none
  | root :: rest => (table.lookup root).bind (·.memberPath? rest.dropLast)

/-- The members of a type as candidates behind a path. -/
def members (path : String) : ValueType → List Candidate
  | .object props => props.map fun (name, type) => Candidate.field path name type
  | .component _ args => args.map (Candidate.parameter path)
  | _ => []

/-- The candidates in a context. -/
def candidates (table : TypeTable) (components : List Component) : Context → List Candidate
  | .dottedPath path =>
    match resolvePath? path table with
    | some type => if type.hasMembers then members path type else []
    | none => []
  | .callArgument name _ =>
    match components.find? (·.name == name) with
    | some component => component.params.map (Candidate.parameter "")
    | none => []
  | .postAssignment => components.map Candidate.component
  | .nothing => []

/-- The candidates at the end of a text. -/
def resolve (text : String) (table : TypeTable) (components : List Component) : List Candidate :=
  candidates table components (classify text)

/-- The text before a place in a source, lines and columns counted from one, if the source has the
line. -/
def linePrefix? (source : String) (line column : Nat) : Option String :=
  (Text.beforePlace column line source.toList).map String.ofList

end Banana.Completion
