/-
This file says what a type table holds after any number of edits, whichever way its types came into
it: variables defined one by one, pairs that are collected, a document that is decoded, or a fresh
table that replaces the old one. All that counts is what was given since the table was last built or
replaced, the entries that it started from included. A variable has the type that it was given last,
and the place of the first time.
-/

import Banana.Backend.Endpoint
import Banana.Proofs.Json.Written
import Banana.Proofs.Schema.Members

namespace Banana.Entries

variable {α : Type}

/-- What a name was given last. -/
def lastGiven? (name : String) (given : List (String × α)) : Option α :=
  (given.reverse.find? (·.1 == name)).map Prod.snd

/-- One value more is put after all others. -/
theorem ofList_append_single (given : List (String × α)) (name : String) (value : α) :
    ofList (given ++ [(name, value)]) = put name value (ofList given) :=
  List.foldl_append

theorem lastGiven?_append_single (given : List (String × α)) (name other : String) (value : α) :
    lastGiven? other (given ++ [(name, value)]) =
      if name = other then some value else lastGiven? other given := by
  rw [lastGiven?, List.reverse_concat]
  by_cases same : name = other
  · rw [if_pos same, List.find?_cons_of_pos (by simpa using same)]
    rfl
  · rw [if_neg same, List.find?_cons_of_neg (by simpa using same)]
    rfl

/-- Names stand in the order in which they were first given a value. -/
theorem names_ofList (given : List (String × α)) :
    names (ofList given) = (names given).eraseDups := by
  induction given using List.reverseRecOn with
  | nil => rfl
  | append_singleton given pair inductionHypothesis =>
    obtain ⟨name, value⟩ := pair
    have both : names (given ++ [(name, value)]) = names given ++ [name] := List.map_append
    rw [ofList_append_single, names_put, inductionHypothesis, both, List.eraseDups_append]
    by_cases present : name ∈ names given <;>
      simp [List.removeAll, List.eraseDups_cons, present]

/-- A name has the value that it was given last. -/
theorem get?_ofList (name : String) (given : List (String × α)) :
    get? name (ofList given) = lastGiven? name given := by
  induction given using List.reverseRecOn with
  | nil => rfl
  | append_singleton given pair inductionHypothesis =>
    obtain ⟨last, value⟩ := pair
    rw [ofList_append_single, lastGiven?_append_single]
    by_cases same : last = name
    · rw [if_pos same, same, get?_put_self]
    · rw [if_neg same, get?_put_of_ne (Ne.symm same), inductionHypothesis]

/-- Where names differ, each entry holds what is found under its name. -/
theorem map_eq_of_nodup {entries : List (String × α)} (distinct : (names entries).Nodup) :
    entries.map (fun entry => (entry.1, some entry.2)) =
      (names entries).map fun name => (name, get? name entries) := by
  induction entries with
  | nil => rfl
  | cons entry rest inductionHypothesis =>
    obtain ⟨name, value⟩ := entry
    obtain ⟨isNew, others⟩ := List.nodup_cons.mp distinct
    have found : get? name ((name, value) :: rest) = some value := if_pos rfl
    have behind : ∀ other ∈ names rest, (other, get? other ((name, value) :: rest)) =
        (other, get? other rest) := fun other member =>
      congrArg (Prod.mk other) (if_neg (ne_of_mem_of_not_mem member isNew).symm)
    show (name, some value) :: rest.map _ =
      (name, get? name ((name, value) :: rest)) :: (names rest).map _
    rw [found, inductionHypothesis others, List.map_congr_left behind]

end Banana.Entries

namespace Banana.Schema.TypeTable

open Backend

/-! ### Edits -/

/-- What can be done to a table. -/
inductive Edit where
  /-- Giving a variable a type. -/
  | define (name : String) (type : ValueType)
  /-- Putting a fresh table in its place, unless that is empty. -/
  | replaceOrKeep (fresh : TypeTable)
  /-- Building it anew from pairs. -/
  | collect (pairs : List (String × ValueType))
  /-- Building it anew from a document, which may spell no table. -/
  | decode (text : List Char)

/-- What an edit answers. -/
inductive Answer where
  | previous (type : Option ValueType)
  | replaced (isReplaced : Bool)
  | built
  | failed (reason : Failure)

/-- The table after an edit, and the answer. -/
def edit (table : TypeTable) : Edit → TypeTable × Answer
  | .define name type =>
    let (next, previous) := table.redefine name type
    (next, .previous previous)
  | .replaceOrKeep fresh =>
    let (next, isReplaced) := table.replaceOrKeep fresh
    (next, .replaced isReplaced)
  | .collect pairs => (ofList pairs, .built)
  | .decode text =>
    match Endpoint.types.decode text with
    | .ok fresh => (fresh, .built)
    | .error reason => (table, .failed reason)

/-- The table that results from editing the empty one. -/
def edited (edits : List Edit) : TypeTable :=
  edits.foldl (fun table edit => (table.edit edit).1) .empty

/-! ### What was given -/

/-- The name and the type that a field of a document spells, in the room that is left inside it. -/
def pair? (room : Nat) (field : List Json.Unit16 × Json.Node) : Option (String × ValueType) := do
  pure (← Json.stringOfUnits? field.1, ← ValueType.read? room field.2)

/-- The names and types in a document that is an object of types, in order. A name may occur several
times. -/
def pairs? (text : List Char) : Option (List (String × ValueType)) :=
  match Json.Node.parse? text with
  | some (.object fields) => fields.mapM (pair? (Json.maxDepth - 1))
  | _ => none

/-- What was given since a table was last built or replaced. -/
def Edit.given (before : List (String × ValueType)) : Edit → List (String × ValueType)
  | .define name type => before ++ [(name, type)]
  | .replaceOrKeep fresh => if fresh.isEmpty then before else fresh.entries
  | .collect pairs => pairs
  | .decode text => (pairs? text).getD before

/-- The table that results from defining variables one by one, where there were none. -/
def definedOneByOne (pairs : List (String × ValueType)) : TypeTable :=
  pairs.foldl (fun table pair => table.define pair.1 pair.2) .empty

/-- What was given by edits of the empty table. -/
def givenBy (edits : List Edit) : List (String × ValueType) :=
  edits.foldl Edit.given []

/-- Whether a table shows what was given: each variable once, in the order of the first times, with
the type of the last time, whichever way one looks at the table. -/
structure Shows (table : TypeTable) (given : List (String × ValueType)) : Prop where
  distinct : table.names.Nodup
  order : table.names = (given.map Prod.fst).eraseDups
  lookup : ∀ name, table.lookup name = Entries.lastGiven? name given
  contains : ∀ name, table.contains name = true ↔ name ∈ given.map Prod.fst
  size : table.size = table.names.length
  isEmpty : table.isEmpty = true ↔ given = []
  entries : table.entries.map (fun entry => (entry.1, some entry.2)) =
    table.names.map fun name => (name, table.lookup name)

/-! ### One edit -/

/-- Collecting pairs is defining them one by one. -/
theorem ofList_eq_definedOneByOne (pairs : List (String × ValueType)) :
    ofList pairs = definedOneByOne pairs := by
  induction pairs using List.reverseRecOn with
  | nil => rfl
  | append_singleton pairs pair inductionHypothesis =>
    rw [definedOneByOne, List.foldl_append, ← definedOneByOne, ← inductionHypothesis]
    exact TypeTable.ext (Entries.ofList_append_single pairs pair.1 pair.2)

/-- An object is read as the table that its names and types are collected into. -/
theorem read?_object (room : Nat) (fields : List (List Json.Unit16 × Json.Node)) :
    read? (room + 1) (.object fields) = (fields.mapM (pair? room)).map ofList := by
  rw [read?]
  show fields.mapM (pair? room) >>= _ = _
  cases fields.mapM (pair? room) <;> rfl

/-- Decoding a document is collecting its names and types, unless it is no object of types. -/
theorem decode_eq (text : List Char) :
    Endpoint.types.decode text =
      match pairs? text with
      | some pairs => .ok (ofList pairs)
      | none => .error .decode := by
  rw [Endpoint.decode, pairs?]
  cases Json.Node.parse? text with
  | none => rfl
  | some node =>
    cases node with
    | object fields =>
      have isRead : Endpoint.types.read? (.object fields) =
          (fields.mapM (pair? (Json.maxDepth - 1))).map ofList := read?_object 126 fields
      rw [Option.bind_some, isRead]
      dsimp only
      cases fields.mapM (pair? (Json.maxDepth - 1)) <;> rfl
    | _ => rfl

/-- A new variable is put last, and a known one keeps its place. -/
theorem names_define (table : TypeTable) (name : String) (type : ValueType) :
    (table.define name type).names =
      if name ∈ table.names then table.names else table.names ++ [name] :=
  Entries.names_put name type table.entries

/-- Decoding leads to the table of the names and types that a document spells, and without any the
table stays. -/
theorem edit_decode (table : TypeTable) (text : List Char) :
    table.edit (.decode text) =
      match pairs? text with
      | some pairs => (definedOneByOne pairs, .built)
      | none => (table, .failed .decode) := by
  rw [edit, decode_eq]
  cases pairs? text with
  | some pairs => exact congrArg (·, Answer.built) (ofList_eq_definedOneByOne pairs)
  | none => rfl

/-- The table shows what it is the list of. -/
theorem shows_ofList (given : List (String × ValueType)) : Shows (ofList given) given where
  distinct := (ofList given).distinct
  order := Entries.names_ofList given
  lookup name := Entries.get?_ofList name given
  contains name := by
    rw [contains, lookup, Entries.isSome_get?_iff, ofList, Entries.names_ofList,
      List.mem_eraseDups]
    rfl
  size := (List.length_map _).symm
  isEmpty := by
    rw [isEmpty, List.isEmpty_iff, ← List.map_eq_nil_iff (f := Prod.fst)]
    show Entries.names (Entries.ofList given) = [] ↔ _
    rw [Entries.names_ofList]
    cases given with
    | nil => simp [Entries.names]
    | cons pair rest => simp [Entries.names, List.eraseDups_cons]
  entries := Entries.map_eq_of_nodup (ofList given).distinct

/-- An edit of a table of what was given leads to the table of what is given then. -/
theorem edit_ofList (given : List (String × ValueType)) (edit : Edit) :
    ((ofList given).edit edit).1 = ofList (edit.given given) := by
  cases edit with
  | define name type => exact TypeTable.ext (Entries.ofList_append_single given name type).symm
  | replaceOrKeep fresh =>
    show ((ofList given).replaceOrKeep fresh).1 = ofList (if _ then _ else _)
    rw [replaceOrKeep]
    split
    · rfl
    · exact TypeTable.ext (Entries.ofList_eq_self fresh.distinct).symm
  | collect pairs => rfl
  | decode text =>
    rw [TypeTable.edit, decode_eq, Edit.given]
    cases pairs? text <;> rfl

/-! ### Any number of edits -/

/-- After any edits the table is that of what was given since it was last built or replaced. -/
theorem edited_eq_ofList (edits : List Edit) : edited edits = ofList (givenBy edits) := by
  induction edits using List.reverseRecOn with
  | nil => rfl
  | append_singleton edits edit inductionHypothesis =>
    rw [edited, givenBy, List.foldl_append, List.foldl_append]
    show ((edited edits).edit edit).1 = ofList (edit.given (givenBy edits))
    rw [inductionHypothesis, edit_ofList]

/-- After any edits the table shows what was given since it was last built or replaced. Whatever is
done to it then: a definition answers with the type that was given last and gives a new variable the
last place; a fresh table comes in place of the old one as it is, or not at all; collecting pairs
and decoding an object amount to defining its variables one by one; and a document that cannot be
decoded changes nothing. -/
theorem edited_shows_given (edits : List Edit) :
    Shows (edited edits) (givenBy edits) ∧
    (∀ name type,
      ((edited edits).edit (.define name type)).2 =
        .previous (Entries.lastGiven? name (givenBy edits)) ∧
      ((edited edits).edit (.define name type)).1.names =
        if name ∈ (edited edits).names then (edited edits).names
        else (edited edits).names ++ [name]) ∧
    (∀ fresh, (edited edits).edit (.replaceOrKeep fresh) =
      if fresh.isEmpty then (edited edits, .replaced false) else (fresh, .replaced true)) ∧
    (∀ pairs, (edited edits).edit (.collect pairs) = (definedOneByOne pairs, .built)) ∧
    ∀ text, (edited edits).edit (.decode text) =
      match pairs? text with
      | some pairs => (definedOneByOne pairs, .built)
      | none => (edited edits, .failed .decode) := by
  have shown : Shows (edited edits) (givenBy edits) := by
    rw [edited_eq_ofList]
    exact shows_ofList (givenBy edits)
  refine ⟨shown, fun name type => ⟨?previous, names_define _ name type⟩, fun fresh => ?replaced,
    fun pairs => ?collected, edit_decode (edited edits)⟩
  case previous => exact congrArg Answer.previous (shown.lookup name)
  case replaced =>
    cases empty : fresh.isEmpty <;> simp [edit, replaceOrKeep, empty]
  case collected => exact congrArg (·, Answer.built) (ofList_eq_definedOneByOne pairs)

/-- A variable that is given a type twice keeps its first place, and an empty table replaces none.
-/
example :
    (edited [.define "old" .any, .collect [("n", .any), ("m", .any), ("n", .number)],
      .replaceOrKeep .empty]).names = ["n", "m"] := by
  decide

end Banana.Schema.TypeTable
