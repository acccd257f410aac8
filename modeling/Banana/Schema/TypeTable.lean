/-
This file holds the type table: the variables in scope and their types, in the order in which the
variables were first given one. A table is replaced as a whole and never merged with another, and
an empty answer of the type checker replaces nothing: it is what a half-typed program gets.
-/

import Banana.Schema.ValueType

namespace Banana.Schema

/-- The variables in scope, each named once. -/
structure TypeTable where
  entries : List (String × ValueType)
  distinct : (Entries.names entries).Nodup

namespace TypeTable

/-- The table without variables. -/
def empty : TypeTable := ⟨[], List.nodup_nil⟩

instance : Inhabited TypeTable := ⟨empty⟩

/-- The table after giving one variable after the other its type. -/
def ofList (pairs : List (String × ValueType)) : TypeTable where
  entries := Entries.ofList pairs
  distinct := Entries.nodup_names_ofList pairs

/-- The type of a variable. -/
def lookup (table : TypeTable) (name : String) : Option ValueType :=
  Entries.get? name table.entries

/-- Whether a variable is in scope. -/
def contains (table : TypeTable) (name : String) : Bool :=
  (table.lookup name).isSome

/-- The variables, in order. -/
def names (table : TypeTable) : List String :=
  Entries.names table.entries

/-- How many variables are in scope. -/
def size (table : TypeTable) : Nat :=
  table.entries.length

/-- Whether no variable is in scope. -/
def isEmpty (table : TypeTable) : Bool :=
  table.entries.isEmpty

/-- Gives a variable a type. -/
def define (table : TypeTable) (name : String) (type : ValueType) : TypeTable where
  entries := Entries.put name type table.entries
  distinct := Entries.nodup_names_put name type table.entries table.distinct

/-- Gives a variable a type, and says which type it had before. -/
def redefine (table : TypeTable) (name : String) (type : ValueType) :
    TypeTable × Option ValueType :=
  (table.define name type, table.lookup name)

/-- The fresh table, unless it is empty; and whether it is. -/
def replaceOrKeep (table fresh : TypeTable) : TypeTable × Bool :=
  if fresh.isEmpty then (table, false) else (fresh, true)

@[ext]
theorem ext {first second : TypeTable} (same : first.entries = second.entries) :
    first = second := by
  cases first
  cases second
  cases same
  rfl

theorem lookup_define_self (table : TypeTable) (name : String) (type : ValueType) :
    (table.define name type).lookup name = some type :=
  Entries.get?_put_self name type table.entries

theorem lookup_define_of_ne {name other : String} (different : other ≠ name) (type : ValueType)
    (table : TypeTable) : (table.define name type).lookup other = table.lookup other :=
  Entries.get?_put_of_ne different type table.entries

end TypeTable

end Banana.Schema
