/-
This file writes paths. A path grows by the segments of a text, each of which ends at a slash. A
segment of one dot stands for the place reached so far and a segment of two dots takes the last
segment away, in any of their escaped forms; neither is ever part of a path. A segment that starts
with a drive letter is never taken away, and the path of a file that is on a drive goes on behind
the letter as if a slash stood there.
-/

import Banana.Text.Split
import Banana.Url.Basic

namespace Banana.Url

/-- What a scheme says about the form of a URL. -/
inductive SchemeKind where
  | file
  | special (port : Nat)
  | other
  deriving DecidableEq

/-- The kind of a scheme; a special one has a default port. -/
def schemeKind (scheme : List Char) : SchemeKind :=
  match String.ofList scheme with
  | "file" => .file
  | "http" | "ws" => .special 80
  | "https" | "wss" => .special 443
  | "ftp" => .special 21
  | _ => .other

/-- Whether a backslash means a slash. -/
def SchemeKind.isSpecial : SchemeKind → Bool
  | other => false
  | _ => true

/-- Whether a character separates segments. -/
def SchemeKind.isSlash (kind : SchemeKind) (c : Char) : Bool :=
  c == '/' || (kind.isSpecial && c == '\\')

/-- Whether a character ends a path. -/
def endsPath (c : Char) : Bool :=
  c == '?' || c == '#'

/-- Whether a character ends an authority. -/
def SchemeKind.endsAuthority (kind : SchemeKind) (c : Char) : Bool :=
  endsPath c || kind.isSlash c

/-! ### What counts in a text -/

/-- Whether a character counts for nothing: a tab or a line end. -/
def isIgnored (c : Char) : Bool :=
  c == '\t' || c == '\n' || c == '\r'

/-- The characters of a text that count. -/
def visible (text : List Char) : List Char :=
  text.filter fun c => !isIgnored c

/-- A text from the first character that counts. -/
def skipIgnored (text : List Char) : List Char :=
  text.dropWhile isIgnored

/-- A text without its first characters that count. -/
def dropVisible : Nat → List Char → List Char
  | 0, text => text
  | count + 1, text => dropVisible count ((skipIgnored text).drop 1)

/-- The slashes and backslashes at the front of a text. -/
def leadingSlashes (text : List Char) : List Char :=
  visible (text.takeWhile fun c => c == '/' || c == '\\' || isIgnored c)

/-! ### Drive letters -/

/-- Whether a segment is a letter and a colon or a bar. -/
def isDriveLetter : List Char → Bool
  | [letter, mark] => letter.isAlpha && (mark == ':' || mark == '|')
  | _ => false

/-- Whether a segment is a letter and a colon. -/
def isPlainDriveLetter : List Char → Bool
  | [letter, ':'] => letter.isAlpha
  | _ => false

/-- Whether a text starts with a segment that is a drive letter; a backslash ends that segment. -/
def startsWithDriveLetter (text : List Char) : Bool :=
  isDriveLetter (text.takeWhile fun c => !SchemeKind.file.endsAuthority c)

/-! ### The end of a path -/

/-- A path up to its last slash, and with it. -/
def directory (path : List Char) : List Char :=
  (path.reverse.dropWhile (· != '/')).reverse

/-- What follows the last slash of a path. -/
def lastSegment (path : List Char) : List Char :=
  (path.reverse.takeWhile (· != '/')).reverse

/-- A path with a slash at its end. -/
def withSlash (path : List Char) : List Char :=
  if path.getLast? = some '/' then path else path ++ ['/']

/-- A path without what follows its last slash, unless that is the drive letter of a file. -/
def dropSegment (kind : SchemeKind) (path : List Char) : List Char :=
  if kind = .file && isPlainDriveLetter (lastSegment path) then path else directory path

/-- A path without the slash at its end, which stays behind a drive letter and at the root. -/
def dropSlash (path : List Char) : List Char :=
  let front := path.dropLast
  let isDrive := startsWithDriveLetter (lastSegment front)
  if path.getLast? = some '/' && front.contains '/' && !isDrive then
    front
  else
    path

/-! ### Segments -/

/-- A path that is being written, and whether a drive letter at its front was put into the usual
form, so that the file is on no host. -/
structure Draft where
  path : List Char
  namesDrive : Bool := false

/-- A segment whose escaped dots are resolved, for comparison. -/
def plainDots : List Char → List Char
  | '%' :: '2' :: 'e' :: rest | '%' :: '2' :: 'E' :: rest => '.' :: plainDots rest
  | c :: rest => c :: plainDots rest
  | [] => []

/-- The pieces that tabs and line ends leave of a segment. -/
def pieces (segment : List Char) : List (List Char) :=
  (Text.split '\t' (segment.map fun c => if isIgnored c then '\t' else c)).filter (!·.isEmpty)

/-- Adds a piece of a segment to a path; with it goes the place at which the segment starts. A slash
comes before a piece behind the drive letter of a file, and moves that place by one. -/
def addPiece (kind : SchemeKind) (place : List Char × Nat) (piece : List Char) : List Char × Nat :=
  let (path, start) := place
  let written := percentEncode pathSet piece
  if kind = .file && isPlainDriveLetter (path.drop 1) then
    (path ++ '/' :: written, start + 1)
  else
    (path ++ written, start)

/-- Adds a segment to a path; `closed` tells whether a slash follows it. -/
def addSegment (kind : SchemeKind) (draft : Draft) (segment : List Char) (closed : Bool) : Draft :=
  let (written, start) := (pieces segment).foldl (addPiece kind) (draft.path, draft.path.length)
  let before := written.take start
  let name := written.drop start
  let slash := if closed then ['/'] else []
  if plainDots name = ['.', '.'] then
    let parent := dropSegment kind (dropSlash before)
    { draft with path := if closed then withSlash parent else parent }
  else if plainDots name = ['.'] then
    { draft with path := withSlash before }
  else if kind = .file && start = 1 && isDriveLetter name then
    ⟨before ++ name.take 1 ++ ':' :: slash, true⟩
  else
    { draft with path := written ++ slash }

/-- Adds the segments of a list to a path; all but the last are followed by a slash. -/
def addSegments (kind : SchemeKind) (draft : Draft) : List (List Char) → Draft
  | [] => draft
  | [segment] => addSegment kind draft segment false
  | segment :: rest => addSegments kind (addSegment kind draft segment true) rest

/-- The segments of a text between its slashes. -/
def rawSegments (kind : SchemeKind) (text : List Char) : List (List Char) :=
  Text.split '/' (text.map fun c => if kind.isSlash c then '/' else c)

/-- The path that goes on from a start with a text. The path of a file has one slash at its
front. -/
def extendPath (kind : SchemeKind) (start text : List Char) : Draft :=
  let draft := addSegments kind { path := start } (rawSegments kind text)
  if kind = .file then { draft with path := '/' :: draft.path.dropWhile (· == '/') } else draft

/-- The path behind an authority. It starts with a slash, written or not; only where the scheme is
not special it can be missing. -/
def rootedPath (kind : SchemeKind) (text : List Char) : Draft :=
  match skipIgnored text with
  | [] => if kind.isSpecial then extendPath kind ['/'] [] else { path := [] }
  | c :: rest => extendPath kind ['/'] (if kind.isSlash c then rest else text)

end Banana.Url
