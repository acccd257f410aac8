/-
This file holds URLs as they are after parsing: every part is stored in its written form, with all
escapes in place. The segments of a path stand between slashes, the first of which starts the path.
Where there is neither an authority nor that slash, the path is a text without any structure, which
nothing can be relative to.
-/

import Banana.Url.Percent

namespace Banana

namespace Url

/-- Why a text is not a URL. -/
inductive Fault where
  | emptyHost
  | invalidDomain
  | invalidPort
  | invalidIpv4
  | invalidIpv6
  | invalidHostCharacter
  | missingBase
  | rootlessBase
  deriving DecidableEq

/-- What is said about a fault. -/
def Fault.message : Fault → String
  | emptyHost => "empty host"
  | invalidDomain => "invalid international domain name"
  | invalidPort => "invalid port number"
  | invalidIpv4 => "invalid IPv4 address"
  | invalidIpv6 => "invalid IPv6 address"
  | invalidHostCharacter => "invalid domain character"
  | missingBase => "relative URL without a base"
  | rootlessBase => "relative URL with a cannot-be-a-base base"

/-- Where a URL leads: a name, which may be empty, or an address. -/
inductive Host where
  | name (text : List Char)
  | ipv4 (address : Nat)
  | ipv6 (pieces : List Nat)
  deriving DecidableEq

/-- Whether there is no host. -/
def Host.isEmpty : Host → Bool
  | name text => text.isEmpty
  | _ => false

/-- The part of a URL behind the two slashes. A missing user name or password is empty. -/
structure Authority where
  username : List Char
  password : List Char
  host : Host
  port : Option Nat
  deriving DecidableEq

/-- The authority that names nothing. -/
def Authority.empty : Authority := ⟨[], [], .name [], none⟩

end Url

/-- A URL. -/
structure Url where
  scheme : List Char
  authority : Option Url.Authority
  path : List Char
  query : Option (List Char)
  fragment : Option (List Char)
  deriving DecidableEq

namespace Url

/-! ### Written form -/

/-- A number in hexadecimal digits. -/
def hexText (value : Nat) : List Char :=
  Nat.toDigits 16 value

/-- An IPv4 address as four numbers. -/
def ipv4Text (address : Nat) : List Char :=
  let part (index : Nat) := Nat.toDigits 10 (address / Nat.pow 256 index % 256)
  part 3 ++ '.' :: part 2 ++ '.' :: part 1 ++ '.' :: part 0

/-- The start and the length of the first longest run of zeros in a list, the rest of which starts
at an index; `current` is how many zeros stand right before the rest. -/
def longestZeros : Nat → Nat → Nat × Nat → List Nat → Nat × Nat
  | _, _, best, [] => best
  | index, current, best, piece :: rest =>
    if piece = 0 then
      let longer := if best.2 < current + 1 then (index - current, current + 1) else best
      longestZeros (index + 1) (current + 1) longer rest
    else
      longestZeros (index + 1) 0 best rest

/-- Pieces of an IPv6 address with colons between them. -/
def joinPieces (pieces : List Nat) : List Char :=
  [':'].intercalate (pieces.map hexText)

/-- An IPv6 address, the first longest run of at least two zeros left out. -/
def ipv6Text (pieces : List Nat) : List Char :=
  let (start, length) := longestZeros 0 0 (0, 0) pieces
  if length < 2 then
    joinPieces pieces
  else
    joinPieces (pieces.take start) ++ ':' :: ':' :: joinPieces (pieces.drop (start + length))

/-- The written form of a host. -/
def Host.chars : Host → List Char
  | name text => text
  | ipv4 address => ipv4Text address
  | ipv6 pieces => '[' :: ipv6Text pieces ++ [']']

/-- The user name and the password with the sign behind them. -/
def Authority.credentials (authority : Authority) : List Char :=
  if authority.username.isEmpty && authority.password.isEmpty then []
  else if authority.password.isEmpty then authority.username ++ ['@']
  else authority.username ++ ':' :: authority.password ++ ['@']

/-- The port with the colon before it. -/
def Authority.portChars (authority : Authority) : List Char :=
  match authority.port with
  | some port => ':' :: Nat.toDigits 10 port
  | none => []

/-- The written form of an authority. -/
def Authority.chars (authority : Authority) : List Char :=
  authority.credentials ++ authority.host.chars ++ authority.portChars

/-- What stands between the scheme and the path. A path that starts with an empty segment could be
taken for an authority where there is none, and has a dot segment put before it. -/
def authorityChars (url : Url) : List Char :=
  match url.authority, url.path with
  | some authority, _ => '/' :: '/' :: authority.chars
  | none, '/' :: '/' :: _ => ['/', '.']
  | none, _ => []

/-- A part with the character that introduces it. -/
def introduced (sign : Char) : Option (List Char) → List Char
  | some part => sign :: part
  | none => []

/-- The written form of a URL without its fragment. -/
def charsBeforeFragment (url : Url) : List Char :=
  url.scheme ++ ':' :: url.authorityChars ++ url.path ++ introduced '?' url.query

/-- The written form of a URL. -/
def text (url : Url) : String :=
  String.ofList (url.charsBeforeFragment ++ introduced '#' url.fragment)

/-- The path and the query, as they are sent to a server. -/
def target (url : Url) : String :=
  String.ofList (url.path ++ introduced '?' url.query)

/-- Whether other URLs can be relative to this one. -/
def canBeBase (url : Url) : Bool :=
  url.authority.isSome || url.path.head? == some '/'

end Url

end Banana
