/-
This file says which values of JSON survive being written and read again: those in which no two
fields of an object share a name, every number is an integer of 64 bits, and containers are not
nested too deeply. Each condition is about all parts of a value, so it is proved of a container
from its own shape and from the parts directly inside it.
-/

import Mathlib
import Banana.Json.Node

namespace Banana

/-! ### Entries with different names -/

namespace Entries

variable {α : Type}

theorem put_of_not_mem {name : String} {entries : List (String × α)}
    (isNew : name ∉ names entries) (value : α) :
    put name value entries = entries ++ [(name, value)] := by
  induction entries with
  | nil => rfl
  | cons entry rest inductionHypothesis =>
    obtain ⟨key, old⟩ := entry
    have differs : ¬ key = name := fun same => isNew (same ▸ List.mem_cons_self)
    have isNewInRest : name ∉ names rest := fun member => isNew (List.mem_cons_of_mem _ member)
    rw [put, if_neg differs, inductionHypothesis isNewInRest, List.cons_append]

/-- Entries with different names are what results from putting them one after the other. -/
theorem ofList_eq_self {pairs : List (String × α)} (distinct : (names pairs).Nodup) :
    ofList pairs = pairs := by
  have goesOn (pairs before : List (String × α)) (distinct : (names (before ++ pairs)).Nodup) :
      pairs.foldl (fun entries pair => put pair.1 pair.2 entries) before =
        before ++ pairs := by
    induction pairs generalizing before with
    | nil => rw [List.foldl_nil, List.append_nil]
    | cons pair rest inductionHypothesis =>
      obtain ⟨name, value⟩ := pair
      have isNew : name ∉ names before := by
        rw [names, List.map_append, List.map_cons] at distinct
        exact fun member =>
          (List.nodup_append.mp distinct).2.2 name member name List.mem_cons_self rfl
      rw [List.append_cons] at distinct ⊢
      rw [List.foldl_cons]
      show rest.foldl _ (put name value before) = _
      rw [put_of_not_mem isNew]
      exact inductionHypothesis _ distinct
  exact goesOn pairs [] distinct

theorem eq_or_mem_of_mem_put {name : String} {value : α} {entries : List (String × α)}
    {entry : String × α} (member : entry ∈ put name value entries) :
    entry = (name, value) ∨ entry ∈ entries := by
  induction entries with
  | nil => exact Or.inl (List.mem_singleton.mp member)
  | cons first rest inductionHypothesis =>
    obtain ⟨key, old⟩ := first
    rw [put] at member
    split at member
    · next same =>
      rcases List.mem_cons.mp member with isHere | later
      · exact Or.inl (same ▸ isHere)
      · exact Or.inr (List.mem_cons_of_mem _ later)
    · rcases List.mem_cons.mp member with isHere | later
      · exact Or.inr (isHere ▸ List.mem_cons_self)
      · exact (inductionHypothesis later).imp_right (List.mem_cons_of_mem _)

/-- Every entry that results has been put. -/
theorem mem_of_mem_ofList {pairs : List (String × α)} {entry : String × α}
    (member : entry ∈ ofList pairs) : entry ∈ pairs := by
  have goesOn (pairs before : List (String × α))
      (member : entry ∈ pairs.foldl (fun entries pair => put pair.1 pair.2 entries) before) :
      entry ∈ before ∨ entry ∈ pairs := by
    induction pairs generalizing before with
    | nil => exact Or.inl member
    | cons pair rest inductionHypothesis =>
      rcases inductionHypothesis _ member with isBefore | later
      · rcases eq_or_mem_of_mem_put isBefore with isPut | earlier
        · exact Or.inr (isPut ▸ List.mem_cons_self)
        · exact Or.inl earlier
      · exact Or.inr (List.mem_cons_of_mem _ later)
  exact (goesOn pairs [] member).resolve_left List.not_mem_nil

end Entries

namespace Json

/-! ### Induction over values -/

/-- What holds of a container as soon as it holds of everything directly inside holds of all
values. -/
@[elab_as_elim, induction_eliminator]
theorem inductionInside {motive : Json → Prop} (null : motive .null)
    (bool : ∀ value, motive (.bool value)) (number : ∀ value, motive (.number value))
    (string : ∀ text, motive (.string text))
    (array : ∀ items, (∀ item ∈ items, motive item) → motive (.array items))
    (object : ∀ fields, (∀ field ∈ fields, motive field.2) → motive (.object fields)) :
    ∀ json, motive json :=
  @Json.rec motive (fun items => ∀ item ∈ items, motive item)
    (fun fields => ∀ field ∈ fields, motive field.2) (fun field => motive field.2)
    null bool number string array object
    (fun _ => fun member => absurd member List.not_mem_nil)
    (fun _ _ first others => List.forall_mem_cons.mpr ⟨first, others⟩)
    (fun _ => fun member => absurd member List.not_mem_nil)
    (fun _ _ first others => List.forall_mem_cons.mpr ⟨first, others⟩)
    (fun _ _ holds => holds)

/-! ### Parts -/

/-- Whether a value is another one or stands inside it, at any depth. -/
inductive IsPart (part : Json) : Json → Prop
  | itself : IsPart part part
  | item {items : List Json} {item : Json} (member : item ∈ items) (inside : IsPart part item) :
      IsPart part (.array items)
  | field {fields : List (String × Json)} {field : String × Json} (member : field ∈ fields)
      (inside : IsPart part field.2) : IsPart part (.object fields)

/-- Whether a property holds of all parts of a value. -/
def Everywhere (property : Json → Prop) (json : Json) : Prop :=
  ∀ part, IsPart part json → property part

section Everywhere

variable {property : Json → Prop}

theorem everywhere_array (items : List Json) :
    Everywhere property (.array items) ↔
      property (.array items) ∧ ∀ item ∈ items, Everywhere property item := by
  constructor
  · intro everywhere
    exact ⟨everywhere _ .itself, fun item member part inside =>
      everywhere part (.item member inside)⟩
  · rintro ⟨whole, items⟩ part isPart
    cases isPart with
    | itself => exact whole
    | item member inside => exact items _ member part inside

theorem everywhere_object (fields : List (String × Json)) :
    Everywhere property (.object fields) ↔
      property (.object fields) ∧ ∀ field ∈ fields, Everywhere property field.2 := by
  constructor
  · intro everywhere
    exact ⟨everywhere _ .itself, fun field member part inside =>
      everywhere part (.field member inside)⟩
  · rintro ⟨whole, fields⟩ part isPart
    cases isPart with
    | itself => exact whole
    | field member inside => exact fields _ member part inside

theorem everywhere_null : Everywhere property .null ↔ property .null :=
  ⟨fun everywhere => everywhere _ .itself, fun holds _ isPart => by cases isPart; exact holds⟩

theorem everywhere_bool (value : Bool) :
    Everywhere property (.bool value) ↔ property (.bool value) :=
  ⟨fun everywhere => everywhere _ .itself, fun holds _ isPart => by cases isPart; exact holds⟩

theorem everywhere_number (value : Number) :
    Everywhere property (.number value) ↔ property (.number value) :=
  ⟨fun everywhere => everywhere _ .itself, fun holds _ isPart => by cases isPart; exact holds⟩

theorem everywhere_string (text : String) :
    Everywhere property (.string text) ↔ property (.string text) :=
  ⟨fun everywhere => everywhere _ .itself, fun holds _ isPart => by cases isPart; exact holds⟩

end Everywhere

/-! ### Values that survive -/

mutual

/-- How deep containers are nested in a value. -/
def depth : Json → Nat
  | .array items => depthOfItems items + 1
  | .object fields => depthOfFields fields + 1
  | _ => 0

/-- The greatest depth of the items of an array. -/
def depthOfItems : List Json → Nat
  | [] => 0
  | item :: rest => max item.depth (depthOfItems rest)

/-- The greatest depth of the values of fields. -/
def depthOfFields : List (String × Json) → Nat
  | [] => 0
  | (_, value) :: rest => max value.depth (depthOfFields rest)

end

/-- Whether a number is an integer of 64 bits, with a sign or without one. -/
def Number.IsWord : Number → Prop
  | .integer value => -2 ^ 63 ≤ value ∧ value < 2 ^ 64
  | .real _ => False

/-- Whether a value is no number but an integer of 64 bits. -/
def NumberIsWord : Json → Prop
  | .number value => value.IsWord
  | _ => True

/-- Whether a value is no object with two fields of one name. -/
def NamesDiffer : Json → Prop
  | .object fields => (Entries.names fields).Nodup
  | _ => True

/-- Whether the numbers in a value are integers of 64 bits. -/
def HasWords (json : Json) : Prop := Everywhere NumberIsWord json

/-- Whether the objects in a value have different names for their fields, as ordered maps do. -/
def HasDistinctNames (json : Json) : Prop := Everywhere NamesDiffer json

/-- Whether a value is what the text of a document with so much room for containers spells. -/
structure IsReadable (room : Nat) (json : Json) : Prop where
  shallow : json.depth ≤ room
  distinct : json.HasDistinctNames

/-- Whether a value can be written and read again where there is so much room for containers. -/
structure IsPortable (room : Nat) (json : Json) : Prop extends IsReadable room json where
  words : json.HasWords

/-! ### From a container to its parts -/

theorem depthOfItems_le_iff (items : List Json) (room : Nat) :
    depthOfItems items ≤ room ↔ ∀ item ∈ items, item.depth ≤ room := by
  induction items with
  | nil => simp [depthOfItems]
  | cons item rest inductionHypothesis =>
    rw [depthOfItems, Nat.max_le, List.forall_mem_cons, inductionHypothesis]

theorem depthOfFields_le_iff (fields : List (String × Json)) (room : Nat) :
    depthOfFields fields ≤ room ↔ ∀ field ∈ fields, field.2.depth ≤ room := by
  induction fields with
  | nil => simp [depthOfFields]
  | cons field rest inductionHypothesis =>
    rw [depthOfFields, Nat.max_le, List.forall_mem_cons, inductionHypothesis]

theorem isReadable_array {room : Nat} (items : List Json) :
    IsReadable (room + 1) (.array items) ↔ ∀ item ∈ items, IsReadable room item := by
  constructor
  · rintro ⟨shallow, distinct⟩ item member
    rw [depth, Nat.add_le_add_iff_right, depthOfItems_le_iff] at shallow
    exact ⟨shallow item member, ((everywhere_array items).mp distinct).2 item member⟩
  · intro each
    refine ⟨?_, (everywhere_array items).mpr ⟨trivial, fun item member => (each item member).2⟩⟩
    rw [depth, Nat.add_le_add_iff_right, depthOfItems_le_iff]
    exact fun item member => (each item member).shallow

/-- The wire forms of a list are readable as an array if each of them is. -/
theorem isReadable_list {α : Type} {write : α → Json} {values : List α} {room : Nat}
    (each : ∀ value ∈ values, IsReadable room (write value)) :
    IsReadable (room + 1) (.array (values.map write)) := by
  refine (isReadable_array _).mpr fun json member => ?_
  obtain ⟨value, isValue, rfl⟩ := List.mem_map.mp member
  exact each value isValue

theorem isReadable_object {room : Nat} (fields : List (String × Json)) :
    IsReadable (room + 1) (.object fields) ↔
      (Entries.names fields).Nodup ∧ ∀ field ∈ fields, IsReadable room field.2 := by
  constructor
  · rintro ⟨shallow, distinct⟩
    rw [depth, Nat.add_le_add_iff_right, depthOfFields_le_iff] at shallow
    obtain ⟨here, inside⟩ := (everywhere_object fields).mp distinct
    exact ⟨here, fun field member => ⟨shallow field member, inside field member⟩⟩
  · rintro ⟨here, each⟩
    refine ⟨?_, (everywhere_object fields).mpr ⟨here, fun field member => (each field member).2⟩⟩
    rw [depth, Nat.add_le_add_iff_right, depthOfFields_le_iff]
    exact fun field member => (each field member).shallow

/-- A container takes room. -/
theorem IsReadable.exists_room {room : Nat} {json : Json} (readable : IsReadable room json)
    (isContainer : 0 < json.depth) : ∃ inside, room = inside + 1 :=
  Nat.exists_eq_add_one.mpr (Nat.lt_of_lt_of_le isContainer readable.shallow)

theorem IsReadable.mono {room more : Nat} {json : Json} (readable : IsReadable room json)
    (enough : room ≤ more) : IsReadable more json :=
  ⟨Nat.le_trans readable.shallow enough, readable.distinct⟩

/-- A value that is neither a container nor a number is readable anywhere. -/
theorem isReadable_string (room : Nat) (text : String) : IsReadable room (.string text) :=
  ⟨Nat.zero_le room, (everywhere_string text).mpr trivial⟩

theorem isReadable_null (room : Nat) : IsReadable room .null :=
  ⟨Nat.zero_le room, everywhere_null.mpr trivial⟩

theorem isReadable_bool (room : Nat) (value : Bool) : IsReadable room (.bool value) :=
  ⟨Nat.zero_le room, (everywhere_bool value).mpr trivial⟩

theorem isReadable_number (room : Nat) (value : Number) : IsReadable room (.number value) :=
  ⟨Nat.zero_le room, (everywhere_number value).mpr trivial⟩

theorem hasWords_array (items : List Json) :
    HasWords (.array items) ↔ ∀ item ∈ items, HasWords item :=
  (everywhere_array items).trans (and_iff_right trivial)

theorem hasWords_object (fields : List (String × Json)) :
    HasWords (.object fields) ↔ ∀ field ∈ fields, HasWords field.2 :=
  (everywhere_object fields).trans (and_iff_right trivial)

theorem hasWords_string (text : String) : HasWords (.string text) :=
  (everywhere_string text).mpr trivial

theorem IsPortable.mono {room more : Nat} {json : Json} (portable : IsPortable room json)
    (enough : room ≤ more) : IsPortable more json :=
  ⟨portable.toIsReadable.mono enough, portable.words⟩

theorem isPortable_array {room : Nat} (items : List Json) :
    IsPortable (room + 1) (.array items) ↔ ∀ item ∈ items, IsPortable room item := by
  constructor
  · rintro ⟨readable, words⟩ item member
    exact ⟨(isReadable_array items).mp readable item member,
      (hasWords_array items).mp words item member⟩
  · intro each
    exact ⟨(isReadable_array items).mpr fun item member => (each item member).toIsReadable,
      (hasWords_array items).mpr fun item member => (each item member).words⟩

theorem isPortable_object {room : Nat} (fields : List (String × Json)) :
    IsPortable (room + 1) (.object fields) ↔
      (Entries.names fields).Nodup ∧ ∀ field ∈ fields, IsPortable room field.2 := by
  constructor
  · rintro ⟨readable, words⟩
    obtain ⟨distinct, inside⟩ := (isReadable_object fields).mp readable
    exact ⟨distinct, fun field member =>
      ⟨inside field member, (hasWords_object fields).mp words field member⟩⟩
  · rintro ⟨distinct, each⟩
    exact ⟨(isReadable_object fields).mpr ⟨distinct, fun field member =>
        (each field member).toIsReadable⟩,
      (hasWords_object fields).mpr fun field member => (each field member).words⟩

end Json

end Banana
