/-
This file proves that named fields and lists are found again in the tree of a value that was
written from them: a name that occurs once leads to what stands under it, and each entry is read
where it was written.
-/

import Banana.Json.Decode
import Banana.Proofs.Json.Tree

namespace Banana.Json

/-! ### Lists of results -/

/-- Where each source is read as something, all of them are. -/
theorem mapM_eq_some_map {α β : Type} {read : α → Option β} {result : α → β} {sources : List α}
    (each : ∀ source ∈ sources, read source = some (result source)) :
    sources.mapM read = some (sources.map result) := by
  induction sources with
  | nil => rfl
  | cons source rest inductionHypothesis =>
    obtain ⟨first, later⟩ := List.forall_mem_cons.mp each
    rw [List.mapM_cons, first, inductionHypothesis later]
    rfl

/-! ### Fields by name -/

theorem fieldsNamed_cons (name key : String) (value : Json) (rest : List (String × Json)) :
    Node.fieldsNamed name (fieldNodes ((key, value) :: rest)) =
      if key = name then value.toNode :: Node.fieldsNamed name (fieldNodes rest)
      else Node.fieldsNamed name (fieldNodes rest) := by
  rw [fieldNodes, Node.fieldsNamed, List.filterMap_cons, ← Node.fieldsNamed]
  by_cases same : key = name <;> simp [stringOfUnits?_unitsOf, same]

theorem fieldsNamed_of_not_mem {name : String} {fields : List (String × Json)}
    (absent : name ∉ Entries.names fields) : Node.fieldsNamed name (fieldNodes fields) = [] := by
  induction fields with
  | nil => rfl
  | cons field rest inductionHypothesis =>
    obtain ⟨key, value⟩ := field
    have differs : ¬ key = name := fun same => absent (same ▸ List.mem_cons_self)
    rw [fieldsNamed_cons, if_neg differs]
    exact inductionHypothesis fun member => absent (List.mem_cons_of_mem _ member)

/-- A name leads to what stands under it. -/
theorem slot?_fieldNodes {fields : List (String × Json)} (distinct : (Entries.names fields).Nodup)
    (name : String) :
    Node.slot? (fieldNodes fields) name = some ((Entries.get? name fields).map toNode) := by
  have named : Node.fieldsNamed name (fieldNodes fields) =
      ((Entries.get? name fields).map toNode).toList := by
    induction fields with
    | nil => rfl
    | cons field rest inductionHypothesis =>
      obtain ⟨key, value⟩ := field
      obtain ⟨isNew, distinct⟩ := List.nodup_cons.mp distinct
      rw [fieldsNamed_cons, Entries.get?]
      by_cases same : key = name
      · subst same
        rw [if_pos rfl, if_pos rfl, fieldsNamed_of_not_mem isNew]
        rfl
      · rw [if_neg same, if_neg same, inductionHypothesis distinct]
  rw [Node.slot?, named]
  cases Entries.get? name fields <;> rfl

/-- Names lead to what stands under them. -/
theorem slots?_toNode {fields : List (String × Json)} (distinct : (Entries.names fields).Nodup)
    (wanted : List String) :
    (toNode (.object fields)).slots? wanted =
      some (wanted.map fun name => (Entries.get? name fields).map toNode) := by
  have spelled : (fieldNodes fields).all (fun field => (stringOfUnits? field.1).isSome) = true := by
    rw [fieldNodes_eq_map, List.all_map, List.all_eq_true]
    intro field _
    show (stringOfUnits? (unitsOf field.1)).isSome = true
    rw [stringOfUnits?_unitsOf]
    rfl
  rw [toNode, Node.slots?, if_pos spelled]
  exact mapM_eq_some_map fun name _ => slot?_fieldNodes distinct name

/-! ### Lists and entries -/

section Written

variable {α : Type} {write : α → Json} {read : Node → Option α}

/-- Items are read from where they were written. -/
theorem mapM_itemNodes {items : List α}
    (each : ∀ item ∈ items, read (write item).toNode = some item) :
    (itemNodes (items.map write)).mapM read = some items := by
  rw [itemNodes_eq_map, List.map_map, List.mapM_map]
  exact (mapM_eq_some_map each).trans (congrArg some (List.map_id items))

/-- Entries are read with their names from where they were written. -/
theorem mapM_fieldNodes {entries : List (String × α)}
    (each : ∀ entry ∈ entries, read (write entry.2).toNode = some entry.2) :
    (fieldNodes (entries.map fun (name, value) => (name, write value))).mapM
      (fun (key, node) => do pure (← stringOfUnits? key, ← read node)) = some entries := by
  rw [fieldNodes_eq_map, List.map_map, List.mapM_map]
  refine (mapM_eq_some_map fun entry member => ?_).trans (congrArg some (List.map_id entries))
  obtain ⟨name, value⟩ := entry
  show (do pure (← stringOfUnits? (unitsOf name), ← read (write value).toNode)) = _
  rw [stringOfUnits?_unitsOf, each (name, value) member]
  rfl

end Written

/-! ### Strings, records and lists -/

theorem string?_toNode (text : String) : (toNode (.string text)).string? = some text :=
  stringOfUnits?_unitsOf text

/-- A record is read from the values of its fields. -/
theorem record?_toNode {α : Type} {fields : List (String × Json)}
    (distinct : (Entries.names fields).Nodup) (wanted : List String)
    (read : Nat → List (Option Node) → Option α) (room : Nat) :
    Node.record? wanted read (room + 1) (toNode (.object fields)) =
      read room (wanted.map fun name => (Entries.get? name fields).map toNode) := by
  rw [Node.record?, slots?_toNode distinct, Option.bind_some]

/-- A list is read from where it was written, if its items are. -/
theorem list?_toNode {α : Type} {write : α → Json} {read : Nat → Node → Option α} {items : List α}
    {room : Nat} (each : ∀ item ∈ items, read room (write item).toNode = some item) :
    Node.list? read (room + 1) (toNode (.array (items.map write))) = some items := by
  rw [toNode, Node.list?]
  exact mapM_itemNodes each

end Banana.Json
