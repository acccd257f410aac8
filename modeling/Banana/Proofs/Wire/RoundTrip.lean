/-
This file proves that everything that crosses the wire survives being written as text and read
again: the types, parameters, components, catalogs and type tables of the schema, and the remarks
and reports of the type checker. What a value must have for that is what every value of the program
has, but for two things: its containers must not be nested deeper than a reader allows, and numbers
in the defaults of parameters must be integers of 64 bits.
-/

import Banana.Proofs.Report.ReadBack
import Banana.Proofs.Schema.Decoded

namespace Banana.Wire

open Json Schema Report

/-! ### Formats -/

/-- A kind of data on the wire: what it is written as, and how it is read where there is some room
for containers. -/
structure Format (α : Type) where
  toJson : α → Json
  read? : Nat → Node → Option α

section Format

variable {α : Type} (format : Format α)

/-- The text that a value is written as. -/
def Format.encode (value : α) : String :=
  (format.toJson value).toText

/-- The value that a text spells, if it spells one of the kind. -/
def Format.decode? (text : String) : Option α :=
  (Node.parse? text.toList).bind (format.read? maxDepth)

/-- Whether decoding undoes encoding: for all values that meet a condition, and for every value
that was decoded itself, as long as its numbers are integers of 64 bits. -/
structure Format.Restores (isValid : α → Prop) : Prop where
  written : ∀ value, isValid value → format.decode? (format.encode value) = some value
  decoded : ∀ text value, format.decode? text = some value → (format.toJson value).HasWords →
    format.decode? (format.encode value) = some value

end Format

def typeFormat : Format ValueType := ⟨ValueType.toJson, ValueType.read?⟩

def paramFormat : Format Param := ⟨paramToJson, Param.read?⟩

def componentFormat : Format Component := ⟨Component.toJson, Component.read?⟩

def catalogFormat : Format Catalog := ⟨Catalog.toJson, Catalog.read?⟩

def tableFormat : Format TypeTable := ⟨TypeTable.toJson, TypeTable.read?⟩

def remarkFormat : Format Remark := ⟨Remark.toJson, Remark.read?⟩

def reportFormat : Format Report := ⟨Report.toJson, Report.read?⟩

/-! ### Decoding what was encoded -/

section Restores

variable {α : Type} {format : Format α}

/-- A value whose tree is read as the value is decoded from its text. -/
theorem decode?_encode {value : α}
    (read : format.read? maxDepth (format.toJson value).toNode = some value) :
    format.decode? (format.encode value) = some value := by
  rw [Format.decode?, Format.encode, toText, String.toList_ofList, parse?_compact, Option.bind_some,
    read]

/-- The schema: what can be written is read back, and what was read can be written. -/
theorem restores_of_portable
    (written : ∀ value, IsPortable maxDepth (format.toJson value) →
      format.read? maxDepth (format.toJson value).toNode = some value)
    (readable : ∀ node value, format.read? maxDepth node = some value →
      IsReadable maxDepth (format.toJson value)) :
    format.Restores fun value => IsPortable maxDepth (format.toJson value) := by
  have restored (value : α) (portable : IsPortable maxDepth (format.toJson value)) :
      format.decode? (format.encode value) = some value :=
    decode?_encode (written value portable)
  refine ⟨restored, fun text value isDecoded words => ?_⟩
  obtain ⟨node, -, isRead⟩ := Option.bind_eq_some_iff.mp isDecoded
  exact restored value ⟨readable node value isRead, words⟩

/-- Reports: numbers that fit their words are read back, and those that were read fit. -/
theorem restores_of_fits {fits : α → Prop}
    (written : ∀ value, fits value →
      format.read? maxDepth (format.toJson value).toNode = some value)
    (readFits : ∀ node value, format.read? maxDepth node = some value → fits value) :
    format.Restores fits := by
  have restored (value : α) (valueFits : fits value) :
      format.decode? (format.encode value) = some value :=
    decode?_encode (written value valueFits)
  refine ⟨restored, fun text value isDecoded _ => ?_⟩
  obtain ⟨node, -, isRead⟩ := Option.bind_eq_some_iff.mp isDecoded
  exact restored value (readFits node value isRead)

end Restores

/-- Decoding undoes encoding over the whole wire format. -/
theorem formats_restore :
    typeFormat.Restores (fun type => IsPortable maxDepth type.toJson) ∧
    paramFormat.Restores (fun param => IsPortable maxDepth (paramToJson param)) ∧
    componentFormat.Restores (fun component => IsPortable maxDepth component.toJson) ∧
    catalogFormat.Restores (fun catalog => IsPortable maxDepth catalog.toJson) ∧
    tableFormat.Restores (fun table => IsPortable maxDepth table.toJson) ∧
    remarkFormat.Restores Remark.Fits ∧
    reportFormat.Restores Report.Fits := by
  have within : maxDepth ≤ maxDepth := Nat.le_refl maxDepth
  refine ⟨?_, ?_, ?_, ?_, ?_, ?_, ?_⟩
  · exact restores_of_portable (fun _ portable => ValueType.read?_toNode within portable)
      fun _ _ read => ValueType.isReadable_of_read? read
  · exact restores_of_portable (fun _ portable => Param.read?_toNode within portable)
      fun _ _ read => Param.isReadable_of_read? read
  · exact restores_of_portable (fun _ portable => Component.read?_toNode within portable)
      fun _ _ read => Component.isReadable_of_read? (by decide) read
  · exact restores_of_portable (fun _ portable => Catalog.read?_toNode within portable)
      fun _ _ read => Catalog.isReadable_of_read? (by decide) read
  · exact restores_of_portable (fun _ portable => TypeTable.read?_toNode within portable)
      fun _ _ read => TypeTable.isReadable_of_read? read
  · exact restores_of_fits (fun _ fits => Remark.read?_toNode fits 125)
      fun node remark => @Remark.fits_of_read? maxDepth node remark
  · exact restores_of_fits (fun _ fits => Report.read?_toNode fits 123)
      fun node report => @Report.fits_of_read? maxDepth node report

/-- A variable of a component type with an object type inside, whose default is an object too. -/
def nestedTable : TypeTable :=
  TypeTable.ofList [("ldp", .component "JsonLDP" [{
    name := "params"
    type := .object [("label", .string), ("alpha", .number)]
    defaultValue := .object
      [("label", .array [.null]), ("alpha", .number (.integer (-9223372036854775808)))] }])]

/-- Both the order of the properties and that of the keys in the default is the same afterwards. -/
theorem nestedTable_survives :
    IsPortable maxDepth nestedTable.toJson ∧
      tableFormat.decode? (tableFormat.encode nestedTable) = some nestedTable := by
  have portable : IsPortable maxDepth nestedTable.toJson := by
    refine ⟨⟨by decide, ?_⟩, ?_⟩
    all_goals
      simp [HasDistinctNames, HasWords, nestedTable, TypeTable.toJson, TypeTable.ofList,
        Entries.ofList, Entries.put, Entries.names, ValueType.toJson, propsToJson, argsToJson,
        everywhere_object, everywhere_array, everywhere_string, everywhere_number, everywhere_null,
        NamesDiffer, NumberIsWord, Number.IsWord]
  exact ⟨portable, formats_restore.2.2.2.2.1.written nestedTable portable⟩

end Banana.Wire
