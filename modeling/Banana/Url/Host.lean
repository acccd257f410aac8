/-
This file reads hosts. Under a special scheme a host is an IPv6 address in brackets, or a domain
name in which escapes are resolved; a name that ends in a number is an IPv4 address. Under any other
scheme it is an IPv6 address in brackets or a text that stays as it is.
-/

import Banana.Url.Address
import Banana.Url.Domain

namespace Banana.Url

/-- The address in brackets. -/
def bracketed? (inside : List Char) : Except Fault Host :=
  if inside.getLast? = some ']' then
    match ipv6? inside.dropLast with
    | some pieces => .ok (.ipv6 pieces)
    | none => .error .invalidIpv6
  else
    .error .invalidIpv6

/-- The host of a URL with a special scheme. -/
def specialHost? : List Char → Except Fault Host
  | '[' :: inside => bracketed? inside
  | text =>
    match (Text.decodeUtf8? (percentDecode text)).bind Domain.ascii? with
    | none => .error .invalidDomain
    | some [] => .error .emptyHost
    | some name =>
      if endsInNumber name then
        match ipv4? name with
        | some address => .ok (.ipv4 address)
        | none => .error .invalidIpv4
      else
        .ok (.name name)

/-- The characters that no host has. -/
def isForbiddenInHost (c : Char) : Bool :=
  ['\x00', '\t', '\n', '\r', ' ', '#', '/', ':', '<', '>', '?', '@', '[', '\\', ']', '^',
    '|'].contains c

/-- The host of a URL with another scheme. -/
def otherHost? : List Char → Except Fault Host
  | '[' :: inside => bracketed? inside
  | text =>
    if text.any isForbiddenInHost then
      .error .invalidHostCharacter
    else
      .ok (.name (percentEncode controlSet text))

end Banana.Url
