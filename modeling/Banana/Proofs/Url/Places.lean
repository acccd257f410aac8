/-
This file says where a path of a web address leads, as the list of the directories on the way and a
name in the last of them. Such a path is written segment by segment, and each segment enters a
directory, leaves one, stays, or is the name at the end; a directory that starts with a drive letter
is never left. What is written is the text of the place that is reached.
-/

import Banana.Url.Path
import Mathlib.Data.List.Induction

namespace Banana.Text

/-- The parts of a text are what is left without the separators. -/
theorem flatten_split (separator : Char) (text : List Char) :
    (split separator text).flatten = text.filter (· != separator) := by
  induction text with
  | nil => rfl
  | cons c rest inductionHypothesis =>
    rw [split]
    split
    · next same =>
      rw [List.flatten_cons, List.nil_append, inductionHypothesis, same,
        List.filter_cons_of_neg (by simp)]
    · next differs =>
      rw [List.filter_cons_of_pos (by simpa using differs), ← inductionHypothesis]
      cases cut : split separator rest with
      | nil => exact absurd cut (split_ne_nil separator rest)
      | cons part others => rfl

end Banana.Text

namespace Banana.Url

/-! ### Places -/

/-- The path of directories, from the root on. -/
def directoryText (directories : List (List Char)) : List Char :=
  '/' :: directories.flatMap (· ++ ['/'])

/-- Where a path leads: a name in a directory. The name is empty where the path ends in a slash. -/
structure Place where
  directories : List (List Char)
  name : List Char

/-- The path to a place. -/
def Place.text (place : Place) : List Char :=
  directoryText place.directories ++ place.name

/-- The name that a segment is written as. -/
def writtenName (segment : List Char) : List Char :=
  percentEncode pathSet (visible segment)

/-- The directories without the last one, which is not left if it starts with a drive letter. -/
def parent (directories : List (List Char)) : List (List Char) :=
  if directories.getLast?.any startsWithDriveLetter then directories else directories.dropLast

/-- The directories after a segment with a slash behind it. -/
def enter (directories : List (List Char)) (segment : List Char) : List (List Char) :=
  if plainDots (writtenName segment) = ['.', '.'] then parent directories
  else if plainDots (writtenName segment) = ['.'] then directories
  else directories ++ [writtenName segment]

/-- The place after a segment at the end of a path. -/
def arrive (directories : List (List Char)) (segment : List Char) : Place :=
  if plainDots (writtenName segment) = ['.', '.'] then ⟨parent directories, []⟩
  else if plainDots (writtenName segment) = ['.'] then ⟨directories, []⟩
  else ⟨directories, writtenName segment⟩

/-- The place that segments lead to from a directory. -/
def follow (directories : List (List Char)) : List (List Char) → Place
  | [] => ⟨directories, []⟩
  | [segment] => arrive directories segment
  | segment :: rest => follow (enter directories segment) rest

/-- Whether directories are names without slashes. -/
def AreNames (directories : List (List Char)) : Prop :=
  ∀ name ∈ directories, '/' ∉ name

/-! ### The text of a directory -/

theorem directoryText_append_single (directories : List (List Char)) (name : List Char) :
    directoryText (directories ++ [name]) = directoryText directories ++ (name ++ ['/']) := by
  rw [directoryText, List.flatMap_append, List.flatMap_singleton]
  rfl

/-- The path of a directory ends in a slash. -/
theorem exists_directoryText_eq (directories : List (List Char)) :
    ∃ front, directoryText directories = front ++ ['/'] := by
  induction directories using List.reverseRecOn with
  | nil => exact ⟨[], rfl⟩
  | append_singleton directories name _ =>
    exact ⟨directoryText directories ++ name, by
      rw [directoryText_append_single, List.append_assoc]⟩

theorem getLast?_directoryText (directories : List (List Char)) :
    (directoryText directories).getLast? = some '/' := by
  obtain ⟨front, isText⟩ := exists_directoryText_eq directories
  rw [isText, List.getLast?_concat]

theorem withSlash_directoryText (directories : List (List Char)) :
    withSlash (directoryText directories) = directoryText directories :=
  if_pos (getLast?_directoryText directories)

section Name

variable {name : List Char}

theorem directory_append (isName : '/' ∉ name) (front : List Char) :
    directory (front ++ '/' :: name) = front ++ ['/'] := by
  rw [directory, List.reverse_append, List.reverse_cons, List.append_assoc,
    List.dropWhile_append_of_pos, List.singleton_append, List.dropWhile_cons_of_neg (by simp),
    List.reverse_cons, List.reverse_reverse]
  intro c member
  have differs : c ≠ '/' := fun same => isName (same ▸ List.mem_reverse.mp member)
  simpa using differs

theorem lastSegment_append (isName : '/' ∉ name) (front : List Char) :
    lastSegment (front ++ '/' :: name) = name := by
  rw [lastSegment, List.reverse_append, List.reverse_cons, List.append_assoc,
    List.takeWhile_append_of_pos, List.singleton_append, List.takeWhile_cons_of_neg (by simp),
    List.append_nil, List.reverse_reverse]
  intro c member
  have differs : c ≠ '/' := fun same => isName (same ▸ List.mem_reverse.mp member)
  simpa using differs

theorem directory_directoryText (directories : List (List Char)) :
    directory (directoryText directories) = directoryText directories := by
  obtain ⟨front, isText⟩ := exists_directoryText_eq directories
  rw [isText]
  exact directory_append List.not_mem_nil front

/-- Leaving a directory takes the last name away, unless it starts with a drive letter. -/
theorem directory_dropSlash {directories : List (List Char)} (areNames : AreNames directories) :
    directory (dropSlash (directoryText directories)) = directoryText (parent directories) := by
  induction directories using List.reverseRecOn with
  | nil => rfl
  | append_singleton directories name _ =>
    obtain ⟨front, isText⟩ := exists_directoryText_eq directories
    have isName : '/' ∉ name := areNames name (List.mem_append_right _ List.mem_cons_self)
    have whole : directoryText (directories ++ [name]) = (front ++ '/' :: name) ++ ['/'] := by
      rw [directoryText_append_single, isText, List.append_assoc, List.append_assoc]
      rfl
    have inside : (front ++ '/' :: name).contains '/' = true := by simp
    rw [dropSlash, parent, whole, List.dropLast_concat, List.getLast?_concat,
      lastSegment_append isName, inside, List.getLast?_concat, Option.any_some,
      List.dropLast_concat]
    cases drive : startsWithDriveLetter name with
    | false =>
      show directory (front ++ '/' :: name) = directoryText directories
      rw [directory_append isName, isText]
    | true =>
      show directory ((front ++ '/' :: name) ++ ['/']) = directoryText (directories ++ [name])
      rw [← whole, directory_directoryText]

end Name

/-! ### One segment -/

/-- The pieces of a segment are what can be seen of it. -/
theorem flatten_pieces (segment : List Char) : (pieces segment).flatten = visible segment := by
  have seen : (segment.map fun c => if isIgnored c then '\t' else c).filter (· != '\t') =
      visible segment := by
    induction segment with
    | nil => rfl
    | cons c rest inductionHypothesis =>
      rw [List.map_cons, visible, List.filter_cons, List.filter_cons, inductionHypothesis]
      by_cases ignored : isIgnored c = true
      · simp [ignored, visible]
      · have differs : c ≠ '\t' := fun same => ignored (same ▸ rfl)
        simp [ignored, differs, visible]
  rw [pieces, List.flatten_filter_not_isEmpty, Text.flatten_split, seen]

theorem percentEncode_append (set : EncodeSet) (first second : List Char) :
    percentEncode set (first ++ second) = percentEncode set first ++ percentEncode set second :=
  List.flatMap_append

variable {port : Nat}

/-- The pieces of a segment are written one after the other. -/
theorem foldl_addPiece (segment path : List Char) (start : Nat) :
    (pieces segment).foldl (addPiece (.special port)) (path, start) =
      (path ++ writtenName segment, start) := by
  rw [writtenName, ← flatten_pieces]
  induction pieces segment generalizing path with
  | nil => exact congrArg (·, start) (List.append_nil path).symm
  | cons text rest inductionHypothesis =>
    rw [List.foldl_cons, List.flatten_cons, percentEncode_append, ← List.append_assoc]
    exact inductionHypothesis (path ++ percentEncode pathSet text)

theorem addSegment_eq (draft : Draft) (segment : List Char) (closed : Bool) :
    addSegment (.special port) draft segment closed =
      if plainDots (writtenName segment) = ['.', '.'] then
        { draft with path :=
            if closed then withSlash (directory (dropSlash draft.path))
            else directory (dropSlash draft.path) }
      else if plainDots (writtenName segment) = ['.'] then
        { draft with path := withSlash draft.path }
      else
        { draft with
          path := draft.path ++ writtenName segment ++ if closed then ['/'] else [] } := by
  rw [addSegment]
  simp only [foldl_addPiece, List.take_left, List.drop_left]
  rfl

/-- A segment with a slash behind it leads to another directory. -/
theorem addSegment_closed {directories : List (List Char)} (areNames : AreNames directories)
    (segment : List Char) :
    addSegment (.special port) { path := directoryText directories } segment true =
      { path := directoryText (enter directories segment) } := by
  rw [addSegment_eq, enter]
  by_cases climbs : plainDots (writtenName segment) = ['.', '.']
  · rw [if_pos climbs, if_pos climbs, if_pos rfl, directory_dropSlash areNames,
      withSlash_directoryText]
  rw [if_neg climbs, if_neg climbs]
  by_cases stays : plainDots (writtenName segment) = ['.']
  · rw [if_pos stays, if_pos stays, withSlash_directoryText]
  · rw [if_neg stays, if_neg stays, if_pos rfl, directoryText_append_single, List.append_assoc]

/-- A segment at the end leads to a place. -/
theorem addSegment_open {directories : List (List Char)} (areNames : AreNames directories)
    (segment : List Char) :
    addSegment (.special port) { path := directoryText directories } segment false =
      { path := (arrive directories segment).text } := by
  rw [addSegment_eq, arrive]
  by_cases climbs : plainDots (writtenName segment) = ['.', '.']
  · rw [if_pos climbs, if_pos climbs, if_neg Bool.false_ne_true, directory_dropSlash areNames,
      Place.text, List.append_nil]
  rw [if_neg climbs, if_neg climbs]
  by_cases stays : plainDots (writtenName segment) = ['.']
  · rw [if_pos stays, if_pos stays, withSlash_directoryText, Place.text, List.append_nil]
  · rw [if_neg stays, if_neg stays, if_neg Bool.false_ne_true, List.append_nil, Place.text]

/-! ### Names -/

/-- What is written of a character: itself, if the part of the URL admits it, and otherwise escapes
of its bytes. -/
theorem mem_percentEncode {set : EncodeSet} {text : List Char} {c : Char}
    (member : c ∈ percentEncode set text) :
    (c ∈ text ∧ c.toNat < 0x80 ∧ set c = false) ∨ ∃ byte, c ∈ percentByte byte := by
  obtain ⟨source, isSource, written⟩ := List.mem_flatMap.mp member
  split at written
  · next admitted =>
    obtain rfl := List.mem_singleton.mp written
    rw [Bool.and_eq_true, decide_eq_true_iff, Bool.not_eq_true'] at admitted
    exact Or.inl ⟨isSource, admitted⟩
  · obtain ⟨byte, -, isIn⟩ := List.mem_flatMap.mp written
    exact Or.inr ⟨byte, isIn⟩

/-- The characters of which names consist: none of them is escaped, and none ends a segment. -/
def isNameChar (c : Char) : Bool :=
  c.toNat < 0x80 && !pathSet c && c != '/' && c != '\\'

theorem isNameChar_of_mem_percentByte {byte : UInt8} {c : Char} (member : c ∈ percentByte byte) :
    isNameChar c = true := by
  have digits : ∀ value < 16, isNameChar (upperHexDigit value) = true := by decide
  have below := byte.toNat_lt
  simp only [percentByte, List.mem_cons, List.not_mem_nil, or_false] at member
  rcases member with rfl | rfl | rfl
  · rfl
  · exact digits _ (by omega)
  · exact digits _ (by omega)

/-- A segment is written in characters of names. -/
theorem isNameChar_of_mem_writtenName {segment : List Char}
    (uncut : ∀ c ∈ segment, (c != '/' && c != '\\') = true) {c : Char}
    (member : c ∈ writtenName segment) : isNameChar c = true := by
  rcases mem_percentEncode member with ⟨isIn, isAscii, isAdmitted⟩ | ⟨byte, isIn⟩
  · have outside := uncut c (List.mem_filter.mp isIn).1
    rw [isNameChar, Bool.and_assoc, outside, isAdmitted, decide_eq_true isAscii]
    rfl
  · exact isNameChar_of_mem_percentByte isIn

/-- Names are written as they are. -/
theorem writtenName_eq_self {name : List Char} (isName : ∀ c ∈ name, isNameChar c = true) :
    writtenName name = name := by
  have seen : visible name = name := by
    refine List.filter_eq_self.mpr fun c member => ?_
    have admitted := isName c member
    by_contra ignored
    simp only [isIgnored, Bool.not_eq_true', Bool.not_eq_false, Bool.or_eq_true, beq_iff_eq]
      at ignored
    rcases ignored with (rfl | rfl) | rfl <;> cases admitted
  rw [writtenName, seen, percentEncode]
  induction name with
  | nil => rfl
  | cons c rest inductionHypothesis =>
    obtain ⟨first, others⟩ := List.forall_mem_cons.mp isName
    rw [List.flatMap_cons, inductionHypothesis others (List.filter_eq_self.mpr fun c member =>
      List.filter_eq_self.mp seen c (List.mem_cons_of_mem _ member))]
    simp only [isNameChar, Bool.and_eq_true] at first
    rw [if_pos (by simp [first.1.1.1, first.1.1.2])]
    rfl

/-- Whether a name stays as it is when it is written again. -/
structure IsSettled (name : List Char) : Prop where
  chars : ∀ c ∈ name, isNameChar c = true
  climbs : plainDots name ≠ ['.', '.']
  stays : plainDots name ≠ ['.']

theorem IsSettled.not_mem {name : List Char} (settled : IsSettled name) : '/' ∉ name :=
  fun member => Bool.false_ne_true (settled.chars '/' member)

theorem isSettled_nil : IsSettled [] :=
  ⟨fun _ member => absurd member List.not_mem_nil, List.cons_ne_nil _ _ |>.symm,
    List.cons_ne_nil _ _ |>.symm⟩

/-- In the root there are no directories to be settled. -/
theorem areSettled_root : ∀ name ∈ ([] : List (List Char)), IsSettled name :=
  fun _ member => absurd member List.not_mem_nil

theorem areNames_of_settled {directories : List (List Char)}
    (settled : ∀ name ∈ directories, IsSettled name) : AreNames directories :=
  fun name member => (settled name member).not_mem

/-- Whether all names on the way to a place are settled. -/
structure Place.IsSettled (place : Place) : Prop where
  directories : ∀ name ∈ place.directories, Url.IsSettled name
  name : Url.IsSettled place.name

/-! ### All segments of a text -/

/-- Whether segments contain neither slashes nor backslashes. -/
def AreSegments (segments : List (List Char)) : Prop :=
  ∀ segment ∈ segments, ∀ c ∈ segment, (c != '/' && c != '\\') = true

theorem areSegments_rawSegments (text : List Char) :
    AreSegments (rawSegments (.special port) text) := by
  intro segment member c isIn
  have noSlash : c ≠ '/' := fun same => Text.not_mem_of_mem_split member (same ▸ isIn)
  have isWritten :
      c ∈ text.map fun c => if (SchemeKind.special port).isSlash c then '/' else c := by
    have inAll : c ∈ (rawSegments (.special port) text).flatten :=
      List.mem_flatten.mpr ⟨segment, member, isIn⟩
    rw [rawSegments, Text.flatten_split] at inAll
    exact (List.mem_filter.mp inAll).1
  obtain ⟨source, -, isImage⟩ := List.mem_map.mp isWritten
  have noBackslash : c ≠ '\\' := by
    rintro rfl
    split at isImage
    · cases isImage
    · next notSlash =>
      subst isImage
      exact notSlash rfl
  simp [noSlash, noBackslash]

/-- What is left of directories is among them. -/
theorem mem_of_mem_parent {directories : List (List Char)} {name : List Char}
    (member : name ∈ parent directories) : name ∈ directories := by
  rw [parent] at member
  split at member
  · exact member
  · exact (List.dropLast_sublist _).subset member

section Follow

variable {directories segments : List (List Char)} {segment : List Char}

theorem isSettled_writtenName (uncut : ∀ c ∈ segment, (c != '/' && c != '\\') = true)
    (climbs : plainDots (writtenName segment) ≠ ['.', '.'])
    (stays : plainDots (writtenName segment) ≠ ['.']) : IsSettled (writtenName segment) :=
  ⟨fun _ => isNameChar_of_mem_writtenName uncut, climbs, stays⟩

theorem isSettled_enter (settled : ∀ name ∈ directories, IsSettled name)
    (uncut : ∀ c ∈ segment, (c != '/' && c != '\\') = true) :
    ∀ name ∈ enter directories segment, IsSettled name := by
  rw [enter]
  split
  · exact fun name member => settled name (mem_of_mem_parent member)
  split
  · exact settled
  next climbs stays =>
    rw [List.forall_mem_append, List.forall_mem_singleton]
    exact ⟨settled, isSettled_writtenName uncut climbs stays⟩

theorem isSettled_arrive (settled : ∀ name ∈ directories, IsSettled name)
    (uncut : ∀ c ∈ segment, (c != '/' && c != '\\') = true) :
    (arrive directories segment).IsSettled := by
  rw [arrive]
  split
  · exact ⟨fun name member => settled name (mem_of_mem_parent member), isSettled_nil⟩
  split
  · exact ⟨settled, isSettled_nil⟩
  next climbs stays => exact ⟨settled, isSettled_writtenName uncut climbs stays⟩

/-- Segments lead from settled names to settled names. -/
theorem isSettled_follow (settled : ∀ name ∈ directories, IsSettled name)
    (areSegments : AreSegments segments) : (follow directories segments).IsSettled := by
  fun_induction follow directories segments with
  | case1 directories => exact ⟨settled, isSettled_nil⟩
  | case2 directories segment =>
    exact isSettled_arrive settled (areSegments segment List.mem_cons_self)
  | case3 directories segment rest _ inductionHypothesis =>
    exact inductionHypothesis
      (isSettled_enter settled (areSegments segment List.mem_cons_self))
      fun other member => areSegments other (List.mem_cons_of_mem _ member)

/-- What is written of segments is the text of the place that they lead to. -/
theorem addSegments_eq (settled : ∀ name ∈ directories, IsSettled name)
    (areSegments : AreSegments segments) :
    addSegments (.special port) { path := directoryText directories } segments =
      { path := (follow directories segments).text } := by
  fun_induction follow directories segments with
  | case1 directories =>
    rw [addSegments, Place.text, List.append_nil]
  | case2 directories segment => exact addSegment_open (areNames_of_settled settled) segment
  | case3 directories segment rest more inductionHypothesis =>
    obtain ⟨next, others, rfl⟩ := List.exists_cons_of_ne_nil more
    rw [addSegments, addSegment_closed (areNames_of_settled settled)]
    · exact inductionHypothesis
        (isSettled_enter settled (areSegments segment List.mem_cons_self))
        fun other member => areSegments other (List.mem_cons_of_mem _ member)
    · exact List.cons_ne_nil _ _

end Follow

/-- The path that goes on from a directory with a text. -/
theorem extendPath_eq {directories : List (List Char)}
    (settled : ∀ name ∈ directories, IsSettled name) (text : List Char) :
    (extendPath (.special port) (directoryText directories) text).path =
      (follow directories (rawSegments (.special port) text)).text :=
  congrArg Draft.path (addSegments_eq settled (areSegments_rawSegments text))

/-! ### Reading a path again -/

theorem isSlash_of_isNameChar {c : Char} (isName : isNameChar c = true) :
    (SchemeKind.special port).isSlash c = false := by
  simp only [isNameChar, Bool.and_eq_true, bne_iff_ne] at isName
  simp [SchemeKind.isSlash, isName.1.2, isName.2]

theorem map_isSlash_eq_self {kind : SchemeKind} {text : List Char}
    (uncut : ∀ c ∈ text, kind.isSlash c = false) :
    (text.map fun c => if kind.isSlash c then '/' else c) = text := by
  refine (List.map_congr_left fun c member => ?_).trans (List.map_id text)
  rw [uncut c member]
  rfl

/-- A name before a slash is a segment of its own. -/
theorem rawSegments_append {name : List Char} (isName : ∀ c ∈ name, isNameChar c = true)
    (rest : List Char) :
    rawSegments (.special port) (name ++ '/' :: rest) =
      name :: rawSegments (.special port) rest := by
  rw [rawSegments, List.map_append, List.map_cons,
    map_isSlash_eq_self fun c member => isSlash_of_isNameChar (isName c member), ite_self,
    Text.split_append,
    Text.split_of_not_mem fun member => Bool.false_ne_true (isName '/' member)]
  rfl

theorem rawSegments_names {names : List (List Char)} (settled : ∀ name ∈ names, IsSettled name) :
    rawSegments (.special port) (names.flatMap (· ++ ['/'])) = names ++ [[]] := by
  induction names with
  | nil => rfl
  | cons name rest inductionHypothesis =>
    obtain ⟨first, others⟩ := List.forall_mem_cons.mp settled
    rw [List.flatMap_cons, List.append_assoc, List.singleton_append,
      rawSegments_append first.chars, inductionHypothesis others]
    rfl

/-- Settled names lead where they say. -/
theorem follow_names {directories names : List (List Char)}
    (settled : ∀ name ∈ names, IsSettled name) :
    follow directories (names ++ [[]]) = ⟨directories ++ names, []⟩ := by
  induction names generalizing directories with
  | nil =>
    rw [List.append_nil]
    rfl
  | cons name rest inductionHypothesis =>
    obtain ⟨first, others⟩ := List.forall_mem_cons.mp settled
    have entered : enter directories name = directories ++ [name] := by
      rw [enter, writtenName_eq_self first.chars, if_neg first.climbs, if_neg first.stays]
    have more : rest ++ [[]] ≠ [] := List.append_ne_nil_of_right_ne_nil _ (List.cons_ne_nil _ _)
    rw [List.cons_append, follow, entered, inductionHypothesis others, List.append_assoc]
    · rfl
    · exact more

/-- The path behind an authority leads from the root to a settled place. -/
theorem exists_place_of_rootedPath (text : List Char) :
    ∃ place : Place, place.IsSettled ∧ (rootedPath (.special port) text).path = place.text := by
  have reached (text : List Char) : ∃ place : Place, place.IsSettled ∧
      (extendPath (.special port) ['/'] text).path = place.text :=
    ⟨_, isSettled_follow areSettled_root (areSegments_rawSegments text),
      extendPath_eq areSettled_root text⟩
  rw [rootedPath]
  split
  · exact reached []
  · exact reached _

/-! ### Directories -/

/-- The directories of a place, the name at the end included. -/
def Place.inside (place : Place) : List (List Char) :=
  if place.name = [] then place.directories else place.directories ++ [place.name]

theorem Place.IsSettled.inside {place : Place} (settled : place.IsSettled) :
    ∀ name ∈ place.inside, Url.IsSettled name := by
  rw [Place.inside]
  split
  · exact settled.directories
  · rw [List.forall_mem_append, List.forall_mem_singleton]
    exact ⟨settled.directories, settled.name⟩

theorem Place.getLast?_text_eq_slash_iff {place : Place} (isName : '/' ∉ place.name) :
    place.text.getLast? = some '/' ↔ place.name = [] := by
  constructor
  · intro isSlash
    by_contra isNamed
    rw [Place.text, List.getLast?_append, List.getLast?_eq_some_getLast isNamed] at isSlash
    exact isName (Option.some.inj isSlash ▸ List.getLast_mem isNamed)
  · intro isEmpty
    rw [Place.text, isEmpty, List.append_nil, getLast?_directoryText]

/-- A path with a slash at its end is that of the directories of its place. -/
theorem Place.withSlash_text {place : Place} (isName : '/' ∉ place.name) :
    withSlash place.text = directoryText place.inside := by
  rw [withSlash, Place.inside]
  by_cases isEmpty : place.name = []
  · rw [if_pos ((getLast?_text_eq_slash_iff isName).mpr isEmpty), if_pos isEmpty, Place.text,
      isEmpty, List.append_nil]
  · rw [if_neg (fun isSlash => isEmpty ((getLast?_text_eq_slash_iff isName).mp isSlash)),
      if_neg isEmpty, directoryText_append_single, Place.text, List.append_assoc]

/-- The path of directories is read as itself. -/
theorem rootedPath_directoryText {directories : List (List Char)}
    (settled : ∀ name ∈ directories, IsSettled name) :
    (rootedPath (.special port) (directoryText directories)).path = directoryText directories := by
  show (extendPath (.special port) (directoryText []) (directories.flatMap (· ++ ['/']))).path = _
  rw [extendPath_eq areSettled_root, rawSegments_names settled, follow_names settled, Place.text,
    List.append_nil, List.nil_append]

/-- The directories that a path names. -/
def directoriesOf (path : List Char) : List (List Char) :=
  (Text.split '/' (withSlash path)).tail.dropLast

theorem split_directoryText {directories : List (List Char)} (areNames : AreNames directories) :
    Text.split '/' (directoryText directories) = [] :: (directories ++ [[]]) := by
  rw [directoryText, Text.split, if_pos rfl]
  congr 1
  induction directories with
  | nil => rfl
  | cons name rest inductionHypothesis =>
    obtain ⟨first, others⟩ := List.forall_mem_cons.mp areNames
    rw [List.flatMap_cons, List.append_assoc, List.singleton_append, Text.split_append,
      Text.split_of_not_mem first, inductionHypothesis others]
    rfl

theorem Place.IsSettled.directoriesOf_text {place : Place} (settled : place.IsSettled) :
    directoriesOf place.text = place.inside := by
  rw [directoriesOf, place.withSlash_text settled.name.not_mem,
    split_directoryText (areNames_of_settled settled.inside), List.tail_cons,
    List.dropLast_concat]

theorem append_slash_inj {first second rest others : List Char} (isFirst : '/' ∉ first)
    (isSecond : '/' ∉ second) (same : first ++ '/' :: rest = second ++ '/' :: others) :
    first = second ∧ rest = others := by
  have cut := congrArg (Text.split '/') same
  rw [Text.split_append, Text.split_append, Text.split_of_not_mem isFirst,
    Text.split_of_not_mem isSecond] at cut
  have sameFirst : first = second := (List.cons.inj cut).1
  subst sameFirst
  exact ⟨rfl, (List.cons.inj (List.append_cancel_left same)).2⟩

/-- A path begins with that of directories if it leads through them. -/
theorem directoryText_prefix_iff {directories : List (List Char)} {place : Place}
    (areNames : AreNames directories) (settled : place.IsSettled) :
    directoryText directories <+: place.text ↔ directories <+: place.directories := by
  obtain ⟨reached, name⟩ := place
  have isName : '/' ∉ name := settled.name.not_mem
  have areReached : AreNames reached := areNames_of_settled settled.directories
  clear settled
  rw [Place.text, directoryText, directoryText, List.cons_append, List.cons_prefix_cons,
    and_iff_right rfl]
  dsimp only
  induction directories generalizing reached with
  | nil => exact iff_of_true List.nil_prefix List.nil_prefix
  | cons first rest inductionHypothesis =>
    obtain ⟨isFirst, areRest⟩ := List.forall_mem_cons.mp areNames
    rw [List.flatMap_cons, List.append_assoc, List.singleton_append]
    cases reached with
    | nil =>
      refine iff_of_false ?_ (fun isPrefix => List.cons_ne_nil _ _ (List.prefix_nil.mp isPrefix))
      rintro ⟨more, isWhole⟩
      rw [List.flatMap_nil, List.nil_append] at isWhole
      exact isName (isWhole ▸ by simp)
    | cons other others =>
      obtain ⟨isOther, areOthers⟩ := List.forall_mem_cons.mp areReached
      rw [List.flatMap_cons, List.append_assoc, List.append_assoc, List.singleton_append,
        List.cons_prefix_cons]
      have later := inductionHypothesis areRest others areOthers
      constructor
      · rintro ⟨more, isWhole⟩
        rw [List.append_assoc] at isWhole
        obtain ⟨same, isRest⟩ := append_slash_inj isFirst isOther isWhole
        exact ⟨same, later.mp ⟨more, isRest⟩⟩
      · rintro ⟨rfl, isPrefix⟩
        obtain ⟨more, isRest⟩ := later.mpr isPrefix
        exact ⟨more, by rw [List.append_assoc, List.cons_append, isRest]⟩

end Banana.Url
