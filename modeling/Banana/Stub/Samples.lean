/-
This file holds a small pipeline and what a type checker says about it: the catalog its components
come from, the types of its variables, and a report with one error on its first line.
-/

import Banana.Json.Value

namespace Banana.Stub

/-- A pipeline of three components. -/
def sampleSource : String :=
  "src = MonascaMarkovChainSource(sleep=0.1)\nldp = JsonLDP()\nsink = HttpSink()\n" ++
    "src -> ldp -> sink\n"

/-- A natural number. -/
def sampleNumber (value : Nat) : Json :=
  .number (.integer value)

/-- The number 0.01. -/
def hundredth : Json := .number (.real 0x3F847AE147AE147B)

/-- The number 0.5. -/
def half : Json := .number (.real 0x3FE0000000000000)

/-- A type without fields, by its kind. -/
def sampleKind (kind : String) : Json :=
  .object [("id", .string kind)]

/-- A parameter. -/
def sampleParam (name : String) (type defaultValue : Json) : Json :=
  .object [("name", .string name), ("type", type), ("default_value", defaultValue)]

/-- The modes of the second component. -/
def sampleModes : Json :=
  .object [("id", .string "enum"), ("variants", .array [.string "strict", .string "lenient"])]

/-- The settings of the second component. -/
def sampleSettings : Json :=
  .object [("id", .string "object"),
    ("props", .object [("alpha", sampleKind "number"), ("label", sampleKind "string")])]

/-- A component of the catalog. -/
def sampleComponent (name description : String) (params : List Json) : Json :=
  .object [("name", .string name), ("description", .string description), ("params", .array params)]

/-- The catalog of the pipeline. -/
def sampleCatalog : Json :=
  .object [("components", .array [
    sampleComponent "MonascaMarkovChainSource" "Generates fake Monasca metrics"
      [sampleParam "sleep" (sampleKind "number") hundredth],
    sampleComponent "JsonLDP" "Parses JSON messages"
      [sampleParam "mode" sampleModes (.string "strict"),
        sampleParam "params" sampleSettings (.object [("alpha", half), ("label", .string "")])],
    sampleComponent "HttpSink" "Serves data over HTTP" []])]

/-- A variable that holds an instance of a component. -/
def sampleInstance (name : String) (args : List Json) : Json :=
  .object [("id", .string "component"), ("name", .string name), ("args", .array args)]

/-- The types of the variables of the pipeline. -/
def sampleTable : Json :=
  .object [
    ("src", sampleInstance "MonascaMarkovChainSource"
      [sampleParam "sleep" (sampleKind "number") hundredth]),
    ("ldp", sampleInstance "JsonLDP"
      [sampleParam "mode" sampleModes (.string "strict"),
        sampleParam "params" sampleSettings .null]),
    ("sink", sampleInstance "HttpSink" [])]

/-- A report with an error on the call in the first line. -/
def sampleReport (message : String) : Json :=
  .object [
    ("errors", .array [.object [("startLineNumber", sampleNumber 1),
      ("startColumn", sampleNumber 7), ("endLineNumber", sampleNumber 1),
      ("endColumn", sampleNumber 31), ("byteRange", .array [sampleNumber 6, sampleNumber 30]),
      ("message", .string message)]]),
    ("warnings", .array [])]

end Banana.Stub
