/-
This file reads URLs, on their own or relative to a base. Blanks around a URL and line ends inside
it do not count, except that a line end cuts a segment of a path. Behind the scheme comes an
authority where two slashes lead it in, and under a special scheme in any case; without a scheme,
the parts that a reference leaves out are those of the base.
-/

import Banana.Url.Host
import Banana.Url.Path

namespace Banana.Url

/-! ### Parts of a text -/

/-- A text without the controls and blanks around it. -/
def trimmed (text : List Char) : List Char :=
  let outside (c : Char) := c.toNat ≤ 0x20
  ((text.dropWhile outside).reverse.dropWhile outside).reverse

/-- The scheme of a text, in small letters, and what follows its colon. -/
def scheme? (text : List Char) : Option (List Char × List Char) :=
  let isInside (c : Char) := c.isAlphanum || c == '+' || c == '-' || c == '.' || isIgnored c
  match visible (text.takeWhile isInside), text.dropWhile isInside with
  | first :: more, ':' :: rest =>
    if first.isAlpha then some ((first :: more).map Char.toLower, rest) else none
  | _, _ => none

/-- The query and the fragment at the front of a text. -/
def queryAndFragment (kind : SchemeKind) (text : List Char) :
    Option (List Char) × Option (List Char) :=
  let fragment : List Char → Option (List Char)
    | '#' :: rest => some (percentEncode fragmentSet rest)
    | _ => none
  match visible text with
  | '?' :: rest =>
    (some (percentEncode (querySet kind.isSpecial) (rest.takeWhile (· != '#'))),
      fragment (rest.dropWhile (· != '#')))
  | rest => (none, fragment rest)

/-- A URL with the query and the fragment at the front of a text. -/
def withQueryAndFragment (scheme : List Char) (authority : Option Authority)
    (path text : List Char) : Url :=
  let (query, fragment) := queryAndFragment (schemeKind scheme) text
  ⟨scheme, authority, path, query, fragment⟩

/-! ### Authorities -/

/-- The user name and the password in a text, and what follows the last at sign. -/
def credentials? (kind : SchemeKind) (text : List Char) :
    Except Fault ((List Char × List Char) × List Char) :=
  let inside := text.takeWhile fun c => !kind.endsAuthority c
  if inside.contains '@' then
    let host := (inside.reverse.takeWhile (· != '@')).reverse
    let front := inside.take (inside.length - host.length - 1)
    let user := visible front
    if user.isEmpty && (visible host).isEmpty && inside.length < text.length then
      .error .emptyHost
    else
      let name := user.takeWhile (· != ':')
      let password := (user.dropWhile (· != ':')).drop 1
      .ok ((percentEncode credentialSet name, percentEncode credentialSet password),
        text.drop (front.length + 1))
  else
    .ok (([], []), text)

/-- The characters of a host at the front of a text. A colon inside brackets does not end it. -/
def hostChars (kind : SchemeKind) : Bool → List Char → List Char
  | _, [] => []
  | inBrackets, c :: rest =>
    if kind.endsAuthority c || (c == ':' && !inBrackets) then
      []
    else
      c :: hostChars kind ((inBrackets || c == '[') && c != ']') rest

/-- The host of a text. -/
def readHost? (kind : SchemeKind) (text : List Char) : Except Fault Host :=
  if kind.isSpecial then
    if text.isEmpty then .error .emptyHost else specialHost? text
  else
    otherHost? text

/-- The port at the front of a text, unless it is the default one, and what follows it. -/
def port? (kind : SchemeKind) (text : List Char) : Except Fault (Option Nat × List Char) :=
  let isInside (c : Char) := c.isDigit || isIgnored c
  let digits := visible (text.takeWhile isInside)
  let rest := text.dropWhile isInside
  let port := digits.foldl (fun value c => 10 * value + (c.toNat - '0'.toNat)) 0
  if 65536 ≤ port || rest.head?.any fun c => !endsPath c && c != '/' && c != '\\' then
    .error .invalidPort
  else if digits.isEmpty || kind = .special port then
    .ok (none, rest)
  else
    .ok (some port, rest)

/-- The authority at the front of a text, and what follows it. -/
def authority? (kind : SchemeKind) (text : List Char) : Except Fault (Authority × List Char) := do
  let ((username, password), hostAndPort) ← credentials? kind text
  let written := hostChars kind false hostAndPort
  let host ← readHost? kind (visible written)
  let rest := hostAndPort.drop written.length
  let (port, rest) ← match rest with
    | ':' :: digits => if host.isEmpty then .error .emptyHost else port? kind digits
    | _ => .ok (none, rest)
  if host.isEmpty && !(username.isEmpty && password.isEmpty) then
    .error .emptyHost
  else
    .ok (⟨username, password, host, port⟩, rest)

/-- The URL that goes on with an authority. -/
def withAuthority? (scheme text : List Char) : Except Fault Url := do
  let kind := schemeKind scheme
  let (authority, rest) ← authority? kind text
  let path := (rootedPath kind (rest.takeWhile fun c => !endsPath c)).path
  pure (withQueryAndFragment scheme (some authority) path (rest.dropWhile fun c => !endsPath c))

/-! ### Relative references -/

/-- A base with another fragment. -/
def withFragment (base : Url) (text : List Char) : Url :=
  { base with fragment := (queryAndFragment (schemeKind base.scheme) text).2 }

/-- The path that a reference starts from: that of the base without its last segment. -/
def start (base : Url) : List Char :=
  match dropSegment (schemeKind base.scheme) base.path with
  | [] => ['/']
  | path => path

/-- A reference whose path goes on from a start, under the authority of a base. -/
def relativeTo (base : Url) (start text : List Char) : Url :=
  let path := (extendPath (schemeKind base.scheme) start (text.takeWhile fun c => !endsPath c)).path
  withQueryAndFragment base.scheme base.authority path (text.dropWhile fun c => !endsPath c)

/-- A reference without an authority of its own: it keeps the path of its base, or the directory
of that path. -/
def withinBase (base : Url) (text : List Char) : Url :=
  match skipIgnored text with
  | [] => { base with fragment := none }
  | '#' :: _ => base.withFragment text
  | '?' :: _ => withQueryAndFragment base.scheme base.authority base.path text
  | _ => base.relativeTo base.start text

/-- A reference relative to a base that is not a file. Of more than two slashes that lead in an
authority, all count as one lead, unless the first two are no backslashes. -/
def relative? (base : Url) (text : List Char) : Except Fault Url :=
  match leadingSlashes text with
  | [] => .ok (base.withinBase text)
  | [_] => .ok (base.relativeTo ['/'] (dropVisible 1 text))
  | '/' :: '/' :: _ => withAuthority? base.scheme (dropVisible 2 text)
  | slashes => withAuthority? base.scheme (dropVisible slashes.length text)

/-! ### Files -/

/-- The scheme of files. -/
def fileScheme : List Char := "file".toList

/-- The URL of a file on a host, at a path; the text goes on behind the path. -/
def fileUrl (host : Host) (path text : List Char) : Url :=
  withQueryAndFragment fileScheme (some ⟨[], [], host, none⟩) path
    (text.dropWhile fun c => !endsPath c)

/-- The URL of a file on a host, with a path that goes on from a start. -/
def fileOn (host : Host) (start text : List Char) : Url :=
  fileUrl host (extendPath .file start (text.takeWhile fun c => !endsPath c)).path text

/-- The host of a file; this machine has no name. -/
def fileHost? (text : List Char) : Except Fault Host :=
  if text.isEmpty then
    .ok (.name [])
  else do
    let host ← specialHost? text
    pure (if host = .name "localhost".toList then .name [] else host)

/-- The URL of a file behind two slashes. A drive letter is no host, and a file on a drive has
none. -/
def fileWithHost? (text : List Char) : Except Fault Url :=
  if startsWithDriveLetter (visible text) then
    .ok (fileOn (.name []) ['/'] text)
  else do
    let written := text.takeWhile fun c => !SchemeKind.file.endsAuthority c
    let host ← fileHost? (visible written)
    let rest := text.drop written.length
    if host.isEmpty then
      pure (fileOn host ['/'] rest)
    else
      let draft := rootedPath .file (rest.takeWhile fun c => !endsPath c)
      pure (fileUrl (if draft.namesDrive then .name [] else host) draft.path rest)

/-- The host of a URL. -/
def host (url : Url) : Host :=
  (url.authority.map (·.host)).getD (.name [])

/-- The first segment of a path. -/
def firstSegment (path : List Char) : List Char :=
  (path.drop 1).takeWhile (· != '/')

/-- The URL of a file at a path from the root: on the drive or the host of the base, unless the path
names a drive. -/
def fileFromRoot (base : Option Url) (text : List Char) : Url :=
  match base with
  | some base =>
    if startsWithDriveLetter (visible (dropVisible 1 text)) then
      fileOn (.name []) [] text
    else if isPlainDriveLetter (firstSegment base.path) then
      fileOn (.name []) ('/' :: firstSegment base.path) text
    else
      fileOn base.host [] text
  | none => fileOn (.name []) [] text

/-- The URL of a file, relative to another one where there is one. -/
def file? (base : Option Url) (text : List Char) : Except Fault Url :=
  match (leadingSlashes text).length, base with
  | 0, some base =>
    .ok (if startsWithDriveLetter (visible text) then fileOn (.name []) ['/'] text
      else base.withinBase text)
  | 0, none => .ok (fileOn (.name []) ['/'] text)
  | 1, base => .ok (fileFromRoot base text)
  | _, _ => fileWithHost? (dropVisible 2 text)

/-! ### URLs -/

/-- The URL with a scheme that is neither special nor that of files. -/
def other? (scheme text : List Char) : Except Fault Url :=
  let path := text.takeWhile fun c => !endsPath c
  let rest := text.dropWhile fun c => !endsPath c
  match visible path with
  | '/' :: '/' :: _ => withAuthority? scheme (dropVisible 2 text)
  | '/' :: _ =>
    .ok (withQueryAndFragment scheme none (extendPath .other ['/'] (dropVisible 1 path)).path rest)
  | path => .ok (withQueryAndFragment scheme none (percentEncode controlSet path) rest)

/-- The URL that goes on behind its scheme. -/
def withScheme? (base : Option Url) (scheme text : List Char) : Except Fault Url :=
  match schemeKind scheme with
  | .file => file? (base.filter (·.scheme == fileScheme)) text
  | .other => other? scheme text
  | .special _ =>
    let slashes := (leadingSlashes text).length
    match base.filter (·.scheme == scheme), decide (slashes < 2) with
    | some base, true => base.relative? text
    | _, _ => withAuthority? scheme (dropVisible slashes text)

/-- The URL without a scheme of its own. -/
def withoutScheme? (base : Url) (text : List Char) : Except Fault Url :=
  match skipIgnored text with
  | '#' :: _ => .ok (base.withFragment text)
  | _ =>
    if base.canBeBase then
      if schemeKind base.scheme = .file then file? (some base) text else base.relative? text
    else
      .error .rootlessBase

/-- The URL that a text spells. -/
def parse? (text : String) : Except Fault Url :=
  match scheme? (trimmed text.toList) with
  | some (scheme, rest) => withScheme? none scheme rest
  | none => .error .missingBase

/-- The URL that a text spells relative to a base. -/
def join? (base : Url) (text : String) : Except Fault Url :=
  let inside := trimmed text.toList
  match scheme? inside with
  | some (scheme, rest) => withScheme? (some base) scheme rest
  | none => base.withoutScheme? inside

/-- The URL whose path ends with a slash, so that references are relative to the whole of it. A path
without any structure that is empty becomes an escaped slash. -/
def asDirectory (url : Url) : Url :=
  if url.path.getLast? = some '/' then url
  else if url.canBeBase then
    { url with path := (rootedPath (schemeKind url.scheme) (url.path ++ ['/'])).path }
  else if url.path.isEmpty then
    { url with path := percentByte '/'.toUInt8 }
  else
    { url with path := url.path ++ ['/'] }

end Banana.Url
