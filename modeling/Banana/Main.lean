/-
This file is the program itself, on a machine: it reads files, exchanges requests over TCP, writes
what the command line leaves behind, and ends with its exit code.
-/

import Banana.CommandLine.Run
import Banana.Http.Message
import Std.Async.DNS
import Std.Async.TCP
import Std.Async.Timer

namespace Banana.CommandLine

open Http Std.Async Std.Net

/-- A description of an error of the machine with its number, which may be given as a negative
word. -/
def numberedMessage (code : UInt32) (details : String) : String :=
  let number := if code < 0x80000000 then code else 0 - code
  details.capitalize ++ " (os error " ++ toString number ++ ")"

/-- What is said about an error of the machine. -/
def systemMessage : IO.Error → String
  | .alreadyExists _ code details | .inappropriateType _ code details
  | .interrupted _ code details | .invalidArgument _ code details
  | .noFileOrDirectory _ code details | .noSuchThing _ code details
  | .permissionDenied _ code details | .resourceExhausted _ code details
  | .hardwareFault code details | .illegalOperation code details | .otherError code details
  | .protocolError code details | .resourceBusy code details | .resourceVanished code details
  | .timeExpired code details | .unsatisfiedConstraints code details
  | .unsupportedOperation code details => numberedMessage code details
  | .unexpectedEof => "end of file"
  | .userError message => message

/-- The bytes of a file of the machine. -/
def bytesOnDisk (name : String) : IO (Except String (List UInt8)) := do
  match ← (IO.FS.readBinFile name).toBaseIO with
  | .ok bytes => return .ok bytes.toList
  | .error error => return .error (systemMessage error)

/-- The name of the machine that a URL leads to, as it is looked up: an address has no brackets. -/
def lookupName (authority : Url.Authority) : String :=
  match authority.host with
  | .ipv6 pieces => String.ofList (Url.ipv6Text pieces)
  | host => String.ofList host.chars

/-- The end of a connection at an address. -/
def socketAddress (port : Nat) : IPAddr → SocketAddress
  | .v4 address => .v4 ⟨address, port.toUInt16⟩
  | .v6 address => .v6 ⟨address, port.toUInt16⟩

/-- A connection to the first of some addresses that accepts one. -/
def connectAny (port : Nat) : List IPAddr → Async (Option TCP.Socket.Client)
  | [] => return none
  | address :: others => do
    try
      let client ← TCP.Socket.Client.mk
      client.connect (socketAddress port address)
      return some client
    catch _ => connectAny port others

/-- A connection to the machine that a URL leads to. -/
def connectTo (url : Url) : Async (Option TCP.Socket.Client) := do
  let some authority := url.authority | return none
  try
    let port := authority.port.getD 80
    let addresses ← DNS.getAddrInfo (lookupName authority) (toString port)
    connectAny port addresses.toList
  catch _ => return none

/-- The reply to a request, read until it is complete. -/
def converse (request : Request) : Async Reply := do
  let some client ← connectTo request.url | return .broken cannotConnect
  try
    client.send request.bytes.toByteArray
    let mut received : Array UInt8 := #[]
    repeat
      let bytes ← client.recv? 65536
      received := received ++ (bytes.map ByteArray.data).getD #[]
      if let some reply := replyIn? bytes.isNone received.toList then
        return reply
    return .broken brokenHead
  catch _ => return .broken brokenHead

/-- The network of the machine. -/
def machineNetwork : Network IO where
  exchange request limit := do
    let reply ← match limit with
      | none => (converse request).block
      | some limit =>
        let late : Async Reply := do
          sleep (.ofNat limit)
          return .late
        have : Inhabited Reply := ⟨.late⟩
        (Async.race (converse request) late).block
    return ⟨reply, 0⟩

end Banana.CommandLine

/-- Runs the command line. -/
def main (arguments : List String) : IO UInt32 := do
  let world : Banana.CommandLine.World IO :=
    ⟨Banana.CommandLine.bytesOnDisk, Banana.CommandLine.machineNetwork⟩
  let output ← Banana.CommandLine.run world arguments
  (← IO.getStdout).putStr output.stdout
  (← IO.getStderr).putStr output.stderr
  return output.exitCode.toUInt32
