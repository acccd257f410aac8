/-
This file holds where the type checker is found and how hard to try reaching it. Every setting has a
default, so that an empty configuration is a valid one. The paths of the endpoints are relative to
the base URL, whatever slashes they start with, and go on from its path as if that ended in a slash.
-/

import Banana.Backend.Endpoint
import Banana.Json.Decode
import Banana.Url.Parse

namespace Banana.Backend

open Json

/-- Where the type checker is and how it is asked. -/
structure Config where
  baseUrl : Url
  /-- Where the catalog and the types are. -/
  metadataPath : String := "/banana/metadata"
  checkPath : String := "/banana/typeck"
  submissionPath : String := "/banana"
  /-- How often catalog loads and refreshes are tried again. -/
  retries : UInt32 := 2
  /-- How many milliseconds an attempt may take. -/
  timeout : Option Nat := none

namespace Config

/-- The URL of a type checker on this machine. -/
def localUrl : Url where
  scheme := "http".toList
  authority := some ⟨[], [], .name "localhost".toList, some 3000⟩
  path := ['/']
  query := none
  fragment := none

/-- The configuration without any settings. -/
def default : Config := { baseUrl := localUrl }

/-- The configuration for a base URL. -/
def ofBase? (text : String) : Except Failure Config :=
  match Url.parse? text with
  | .ok url => .ok { baseUrl := url }
  | .error fault => .error (.invalidUrl fault)

/-- The configured path of an endpoint. -/
def path (config : Config) : Endpoint → String
  | .catalog | .types => config.metadataPath
  | .check => config.checkPath
  | .submission => config.submissionPath

/-- The URL at a path below the base URL. -/
def urlAt? (config : Config) (path : String) : Except Failure Url :=
  match config.baseUrl.asDirectory.join? (String.ofList (path.toList.dropWhile (· == '/'))) with
  | .ok url => .ok url
  | .error fault => .error (.invalidUrl fault)

/-- The URL of an endpoint. -/
def url? (config : Config) (endpoint : Endpoint) : Except Failure Url :=
  config.urlAt? (config.path endpoint)

/-! ### Wire format -/

/-- The wire form of a configuration. -/
def toJson (config : Config) : Json :=
  .object [("base_url", .string config.baseUrl.text),
    ("metadata_path", .string config.metadataPath), ("typecheck_path", .string config.checkPath),
    ("submit_path", .string config.submissionPath),
    ("retries", .number (.integer config.retries.toNat)),
    ("timeout_ms", match config.timeout with
      | some limit => .number (.integer limit)
      | none => .null)]

/-- The URL that a node spells. -/
def readUrl (node : Node) : Option Url :=
  match node.string?.map Url.parse? with
  | some (.ok url) => some url
  | _ => none

/-- The time limit that a node spells; `null` stands for none. -/
def readTimeout : Node → Option (Option Nat)
  | .null => some none
  | node => (node.natural? UInt64.size).map some

/-- The configuration that a node spells. -/
def read? : Nat → Node → Option Config :=
  Node.record?
    ["base_url", "metadata_path", "typecheck_path", "submit_path", "retries", "timeout_ms"]
    fun _ fields =>
      match fields with
      | [baseUrl, metadataPath, checkPath, submissionPath, retries, timeout] => do
        let count ← Node.defaulted? default.retries.toNat (Node.natural? UInt32.size) retries
        pure {
          baseUrl := ← Node.defaulted? default.baseUrl readUrl baseUrl
          metadataPath := ← Node.defaulted? default.metadataPath Node.string? metadataPath
          checkPath := ← Node.defaulted? default.checkPath Node.string? checkPath
          submissionPath := ← Node.defaulted? default.submissionPath Node.string? submissionPath
          retries := count.toUInt32
          timeout := ← Node.defaulted? default.timeout readTimeout timeout }
      | _ => none

/-- The configuration in the text of a file. -/
def ofText? (name text : String) : Except Failure Config :=
  match (Node.parse? text.toList).bind (read? maxDepth) with
  | some config => .ok config
  | none => .error (.configuration name)

/-- The text of bytes read from a file. -/
def textOfFile? (bytes : List UInt8) : Except Failure String :=
  match Text.decodeUtf8? bytes with
  | some text => .ok (String.ofList text)
  | none => .error (.file "stream did not contain valid UTF-8")

/-- The configuration in the bytes of a file. -/
def ofFile? (name : String) (bytes : List UInt8) : Except Failure Config := do
  ofText? name (← textOfFile? bytes)

end Config

end Banana.Backend
