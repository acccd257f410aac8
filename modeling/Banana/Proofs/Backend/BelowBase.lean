/-
This file settles which paths of endpoints stay below the base URL. The path is taken for a
reference from the directory of the base, once the slashes at its front are gone; a reference can
still name a URL or a host of its own, start at the root behind a blank or a backslash, or climb out
of the directory. All other paths stay below the base, whatever prefix that has.
-/

import Mathlib
import Banana.Backend.Config
import Banana.Proofs.Url.Route

namespace Banana.Url

/-! ### Below a base -/

/-- The port of a URL, unless it is the one of its scheme. -/
def portNumber? (url : Url) : Option Nat :=
  url.authority.bind (·.port)

/-- Whether a URL stands below a base: under its scheme, host and port, with a path that begins with
the path of the base and a slash. -/
structure IsBelow (base url : Url) : Prop where
  scheme : url.scheme = base.scheme
  host : url.host = base.host
  port : url.portNumber? = base.portNumber?
  path : withSlash base.path <+: url.path

/-- The segments at the front of a text, up to a query or a fragment. -/
def segmentsOf (kind : SchemeKind) (text : List Char) : List (List Char) :=
  rawSegments kind (text.takeWhile fun c => !endsPath c)

/-- Whether a reference leads out of a base. -/
def Leaves (base : Url) (reference : List Char) : Prop :=
  match route base.scheme reference with
  | .url scheme rest => ∃ url, withScheme? none scheme rest = .ok url
  | .host rest => ∃ url, withAuthority? base.scheme rest = .ok url ∧ ¬ base.IsBelow url
  | .root rest =>
    ¬ directoriesOf base.path <+:
      (follow [] (segmentsOf (schemeKind base.scheme) rest)).directories
  | .below rest =>
    ¬ directoriesOf base.path <+:
      (follow (directoriesOf base.path) (segmentsOf (schemeKind base.scheme) rest)).directories

/-- Whether a reference is a plain path: without a scheme or a slash at its front, and without
segments that lead up. -/
structure IsPlain (kind : SchemeKind) (reference : List Char) : Prop where
  scheme : scheme? reference = none
  slashes : leadingSlashes reference = []
  climbs : ∀ segment ∈ segmentsOf kind reference, plainDots (writtenName segment) ≠ ['.', '.']

/-! ### The base as a directory -/

section Base

variable {base : Url} {port : Nat} {place : Place}

/-- The base as a directory has a slash at the end of its path, and is otherwise the same. -/
theorem asDirectory_eq (isWeb : schemeKind base.scheme = .special port)
    (hasAuthority : base.authority.isSome = true) (settled : place.IsSettled)
    (isPath : base.path = place.text) :
    base.asDirectory = { base with path := directoryText place.inside } := by
  have ended : withSlash base.path = directoryText place.inside :=
    isPath ▸ place.withSlash_text settled.name.not_mem
  rw [asDirectory]
  split
  · next isEnded =>
    rw [withSlash, if_pos isEnded] at ended
    rw [← ended]
  · next unended =>
    have canBeBase : base.canBeBase = true := by rw [canBeBase, hasAuthority, Bool.true_or]
    rw [withSlash, if_neg unended] at ended
    rw [if_pos canBeBase, isWeb, ended, rootedPath_directoryText settled.inside]

/-- From a directory segments lead to a place. -/
theorem path_relativeTo (isWeb : schemeKind base.scheme = .special port)
    {directories : List (List Char)} (settled : ∀ name ∈ directories, IsSettled name)
    (rest : List Char) :
    (base.relativeTo (directoryText directories) rest).path =
      (follow directories (segmentsOf (schemeKind base.scheme) rest)).text := by
  rw [isWeb]
  show (extendPath (schemeKind base.scheme) _ _).path = _
  rw [isWeb]
  exact extendPath_eq settled _

/-- A text of which nothing counts leads nowhere. -/
theorem follow_of_ignored (directories : List (List Char)) {text : List Char}
    (ignored : ∀ c ∈ text, isIgnored c = true) :
    follow directories (rawSegments (.special port) text) = ⟨directories, []⟩ := by
  have unseen : visible text = [] := List.filter_eq_nil_iff.mpr fun c member => by
    simp [ignored c member]
  have single : rawSegments (.special port) text = [text] := by
    have uncut : ∀ c ∈ text, (SchemeKind.special port).isSlash c = false := by
      intro c member
      have isIgnored := ignored c member
      simp only [Url.isIgnored, Bool.or_eq_true, beq_iff_eq] at isIgnored
      rcases isIgnored with (rfl | rfl) | rfl <;> rfl
    rw [rawSegments, map_isSlash_eq_self uncut, Text.split_of_not_mem]
    exact fun member => Bool.false_ne_true (ignored '/' member)
  rw [single, follow, arrive, writtenName, unseen]
  rfl

/-- What stands before a query or a fragment does not count, if nothing else comes before. -/
theorem ignored_of_skipIgnored {text : List Char}
    (atEnd : skipIgnored text = [] ∨ ∃ c rest, skipIgnored text = c :: rest ∧ endsPath c = true) :
    ∀ c ∈ text.takeWhile fun c => !endsPath c, isIgnored c = true := by
  induction text with
  | nil => exact fun _ member => absurd member List.not_mem_nil
  | cons first text inductionHypothesis =>
    by_cases ignored : isIgnored first = true
    · have skipped : skipIgnored (first :: text) = skipIgnored text := by
        rw [skipIgnored, List.dropWhile_cons_of_pos ignored, skipIgnored]
      rw [skipped] at atEnd
      rw [List.takeWhile_cons]
      split
      · exact List.forall_mem_cons.mpr ⟨ignored, inductionHypothesis atEnd⟩
      · exact fun _ member => absurd member List.not_mem_nil
    · have stays : skipIgnored (first :: text) = first :: text := by
        rw [skipIgnored, List.dropWhile_cons_of_neg ignored]
      rw [stays] at atEnd
      obtain isNil | ⟨_, _, isFirst, ends⟩ := atEnd
      · cases isNil
      · cases isFirst
        rw [List.takeWhile_cons_of_neg (by simp [ends])]
        exact fun _ member => absurd member List.not_mem_nil

/-- A reference within a directory keeps the scheme and the authority, and leads from there. -/
theorem withinBase_of_directory (isWeb : schemeKind base.scheme = .special port)
    {directories : List (List Char)} (settled : ∀ name ∈ directories, IsSettled name)
    (isPath : base.path = directoryText directories) (rest : List Char) :
    (base.withinBase rest).scheme = base.scheme ∧
      (base.withinBase rest).authority = base.authority ∧
      (base.withinBase rest).path =
        (follow directories (segmentsOf (schemeKind base.scheme) rest)).text := by
  have unmoved (atEnd : skipIgnored rest = [] ∨
      ∃ c text, skipIgnored rest = c :: text ∧ endsPath c = true) :
      base.path = (follow directories (segmentsOf (schemeKind base.scheme) rest)).text := by
    rw [isWeb, segmentsOf, follow_of_ignored directories (ignored_of_skipIgnored atEnd), isPath,
      Place.text, List.append_nil]
  have started : base.start = directoryText directories := by
    have dropped : dropSegment (schemeKind base.scheme) base.path = directoryText directories := by
      rw [isWeb, isPath]
      exact directory_directoryText directories
    rw [start, dropped]
    rfl
  rw [withinBase.eq_def]
  split
  · next isEmpty => exact ⟨rfl, rfl, unmoved (.inl isEmpty)⟩
  · next isFragment => exact ⟨rfl, rfl, unmoved (.inr ⟨_, _, isFragment, rfl⟩)⟩
  · next isQuery => exact ⟨rfl, rfl, unmoved (.inr ⟨_, _, isQuery, rfl⟩)⟩
  · exact ⟨rfl, rfl, started ▸ path_relativeTo isWeb settled rest⟩

/-- Under the scheme and the authority of a base a place is below it if it lies in its directory. -/
theorem isBelow_iff {url : Url} {target : Place} (settled : place.IsSettled)
    (isPath : base.path = place.text) (sameScheme : url.scheme = base.scheme)
    (sameAuthority : url.authority = base.authority) (reached : target.IsSettled)
    (isTarget : url.path = target.text) :
    base.IsBelow url ↔ place.inside <+: target.directories := by
  rw [← directoryText_prefix_iff (areNames_of_settled settled.inside) reached,
    ← place.withSlash_text settled.name.not_mem, ← isPath, ← isTarget]
  refine ⟨IsBelow.path, fun isPrefix => ⟨sameScheme, ?_, ?_, isPrefix⟩⟩
  · rw [host, host, sameAuthority]
  · rw [portNumber?, portNumber?, sameAuthority]

end Base

/-! ### References -/

theorem ne_of_route_url {scheme reference own rest : List Char}
    (leads : route scheme reference = .url own rest) : own ≠ scheme := by
  have noUrl (text : List Char) : routeBySlashes text ≠ .url own rest := by
    rw [routeBySlashes.eq_def]
    split <;> rintro ⟨⟩
  rw [route.eq_def] at leads
  split at leads
  · exact absurd leads (noUrl reference)
  · split at leads
    · split at leads
      · exact absurd leads (noUrl _)
      · cases leads
    · next differs =>
      cases leads
      exact differs

/-- Segments that do not lead up stay in the directory where they start. -/
theorem prefix_follow {directories segments : List (List Char)}
    (climbs : ∀ segment ∈ segments, plainDots (writtenName segment) ≠ ['.', '.']) :
    directories <+: (follow directories segments).directories := by
  fun_induction follow directories segments with
  | case1 directories => exact List.prefix_rfl
  | case2 directories segment =>
    rw [arrive, if_neg (climbs segment List.mem_cons_self)]
    split <;> exact List.prefix_rfl
  | case3 directories segment rest _ inductionHypothesis =>
    obtain ⟨first, later⟩ := List.forall_mem_cons.mp climbs
    refine List.IsPrefix.trans ?_ (inductionHypothesis later)
    rw [enter, if_neg first]
    split
    · exact List.prefix_rfl
    · exact List.prefix_append _ _

/-- A plain path does not lead out of any base. -/
theorem IsPlain.route_eq {scheme reference : List Char} {kind : SchemeKind}
    (plain : IsPlain kind reference) : route scheme reference = .below reference := by
  rw [route, plain.scheme]
  dsimp only
  rw [routeBySlashes, plain.slashes]

theorem forall_ok_iff {result : Url} {holds : Url → Prop} :
    (∀ url, (.ok result : Except Fault Url) = .ok url → holds url) ↔ holds result := by
  refine ⟨fun each => each result rfl, fun isResult url same => ?_⟩
  cases same
  exact isResult

section Web

variable {base : Url} {port : Nat} {text : String}

/-- All URLs at the end of the way that a reference leads are below the base exactly if the
reference does not lead out of it. -/
theorem forall_isBelow_iff (parsed : parse? text = .ok base)
    (isWeb : schemeKind base.scheme = .special port) (reference : List Char) :
    (∀ url, (route base.scheme reference).follow? base.asDirectory = .ok url → base.IsBelow url) ↔
      ¬ Leaves base reference := by
  obtain ⟨hasAuthority, place, settled, isPath⟩ := exists_place_of_parse? parsed isWeb
  have directories : directoriesOf base.path = place.inside :=
    isPath ▸ settled.directoriesOf_text
  have reached {start : List (List Char)} (areSettled : ∀ name ∈ start, IsSettled name)
      (rest : List Char) : (follow start (segmentsOf (schemeKind base.scheme) rest)).IsSettled := by
    rw [isWeb]
    exact isSettled_follow areSettled (areSegments_rawSegments _)
  rw [asDirectory_eq isWeb hasAuthority settled isPath, Leaves, directories]
  cases leads : route base.scheme reference with
  | url own rest =>
    refine ⟨?_, fun none url isUrl => absurd ⟨url, isUrl⟩ none⟩
    rintro below ⟨url, isUrl⟩
    have sameScheme := (below url isUrl).scheme
    rcases withScheme?_none_scheme isUrl with isOwn | isFile
    · exact ne_of_route_url leads (isOwn.symm.trans sameScheme)
    · exact fileScheme_ne isWeb (sameScheme.symm.trans isFile)
  | host rest =>
    show (∀ url, withAuthority? base.scheme rest = .ok url → _) ↔ _
    simp only [not_exists, not_and, not_not]
  | root rest =>
    refine forall_ok_iff.trans ?_
    rw [not_not]
    exact isBelow_iff settled isPath rfl rfl (reached areSettled_root rest)
      (@path_relativeTo _ _ isWeb [] areSettled_root rest)
  | below rest =>
    refine forall_ok_iff.trans ?_
    obtain ⟨sameScheme, sameAuthority, isTarget⟩ :=
      @withinBase_of_directory { base with path := directoryText place.inside } _ isWeb _
        settled.inside rfl rest
    rw [not_not]
    exact isBelow_iff settled isPath sameScheme sameAuthority (reached settled.inside rest) isTarget

end Web

end Banana.Url

namespace Banana.Backend

open Url

variable {config : Config} {text : String} {port : Nat}

/-- The reference that the path of an endpoint is taken for: without the slashes at its front, and
then without the blanks around it. -/
def Config.reference (config : Config) (endpoint : Endpoint) : List Char :=
  trimmed ((config.path endpoint).toList.dropWhile (· == '/'))

/-- The URL of an endpoint is what the reference leads to from the directory of the base URL. -/
theorem url?_eq_ok_iff (parsed : Url.parse? text = .ok config.baseUrl)
    (isWeb : schemeKind config.baseUrl.scheme = .special port) (endpoint : Endpoint) (url : Url) :
    config.url? endpoint = .ok url ↔
      (route config.baseUrl.scheme (config.reference endpoint)).follow?
        config.baseUrl.asDirectory = .ok url := by
  obtain ⟨hasAuthority, place, settled, isPath⟩ := exists_place_of_parse? parsed isWeb
  have isDirectory := asDirectory_eq isWeb hasAuthority settled isPath
  have joined : config.baseUrl.asDirectory.join?
      (String.ofList ((config.path endpoint).toList.dropWhile (· == '/'))) =
        (route config.baseUrl.scheme (config.reference endpoint)).follow?
          config.baseUrl.asDirectory := by
    rw [isDirectory,
      @join?_eq { config.baseUrl with path := directoryText place.inside } _ isWeb hasAuthority,
      String.toList_ofList]
    rfl
  rw [Config.url?, Config.urlAt?, joined]
  cases (route config.baseUrl.scheme (config.reference endpoint)).follow?
    config.baseUrl.asDirectory <;> simp

/-- The URL of an endpoint stays below the base URL exactly if the path does not lead out of it: to
a URL or a host of its own, or through the root or upwards to another directory. A plain path always
has a URL, and that stays below. -/
theorem endpoint_below_base_iff (parsed : Url.parse? text = .ok config.baseUrl)
    (isWeb : schemeKind config.baseUrl.scheme = .special port) (endpoint : Endpoint) :
    ((∀ url, config.url? endpoint = .ok url → config.baseUrl.IsBelow url) ↔
      ¬ config.baseUrl.Leaves (config.reference endpoint)) ∧
    (IsPlain (.special port) (config.reference endpoint) →
      ∃ url, config.url? endpoint = .ok url ∧ config.baseUrl.IsBelow url) := by
  have stays : (∀ url, config.url? endpoint = .ok url → config.baseUrl.IsBelow url) ↔
      ¬ config.baseUrl.Leaves (config.reference endpoint) := by
    simp only [url?_eq_ok_iff parsed isWeb]
    exact forall_isBelow_iff parsed isWeb _
  refine ⟨stays, fun plain => ?_⟩
  have inside : ¬ config.baseUrl.Leaves (config.reference endpoint) := by
    rw [Leaves, plain.route_eq, isWeb]
    exact not_not.mpr (prefix_follow plain.climbs)
  have leads : config.url? endpoint =
      .ok (config.baseUrl.asDirectory.withinBase (config.reference endpoint)) := by
    rw [url?_eq_ok_iff parsed isWeb, plain.route_eq]
    rfl
  exact ⟨_, leads, stays.mpr inside _ leads⟩

/-! ### A base with a prefix -/

/-- A base URL whose path is a prefix of all endpoints. -/
def prefixedBase : Url :=
  ⟨"http".toList, some ⟨[], [], .name "example.com".toList, none⟩, "/api".toList, none, none⟩

/-- A configuration in which one path starts with a backslash instead of a slash. -/
def backslashConfig : Config :=
  { baseUrl := prefixedBase, metadataPath := "\\banana/metadata" }

theorem parse?_prefixedBase : Url.parse? "http://example.com/api" = .ok prefixedBase := by
  have read : (Url.parse? "http://example.com/api").toOption = some prefixedBase := by
    decide +kernel
  cases parsed : Url.parse? "http://example.com/api" with
  | error fault =>
    rw [parsed] at read
    cases read
  | ok url =>
    rw [parsed] at read
    exact congrArg Except.ok (Option.some.inj read)

/-- The backslash leads through the root, and the prefix is lost; the other path keeps it. -/
theorem prefix_kept_by_plain_path :
    Url.parse? "http://example.com/api" = .ok backslashConfig.baseUrl ∧
      schemeKind backslashConfig.baseUrl.scheme = .special 80 ∧
      IsPlain (.special 80) (backslashConfig.reference .check) ∧
      (∃ url, backslashConfig.url? .check = .ok url ∧ backslashConfig.baseUrl.IsBelow url) ∧
      backslashConfig.baseUrl.Leaves (backslashConfig.reference .catalog) := by
  have isWeb : schemeKind backslashConfig.baseUrl.scheme = .special 80 := by cbv
  have plain : IsPlain (.special 80) (backslashConfig.reference .check) := by
    have segments : segmentsOf (.special 80) (backslashConfig.reference .check) =
        ["banana".toList, "typeck".toList] := by cbv
    refine ⟨by cbv, by cbv, ?_⟩
    rw [segments]
    decide
  have leaves : backslashConfig.baseUrl.Leaves (backslashConfig.reference .catalog) := by
    have leads : route backslashConfig.baseUrl.scheme (backslashConfig.reference .catalog) =
        .root "banana/metadata".toList := by cbv
    rw [Leaves, leads]
    decide
  exact ⟨parse?_prefixedBase, isWeb, plain,
    (endpoint_below_base_iff parse?_prefixedBase isWeb .check).2 plain, leaves⟩

/-- With the backslash the endpoint is not below the base URL. -/
theorem backslash_loses_directory :
    Url.parse? "http://example.com/api" = .ok backslashConfig.baseUrl ∧
      backslashConfig.url? .catalog =
        .ok { prefixedBase with path := "/banana/metadata".toList } ∧
      ¬ backslashConfig.baseUrl.IsBelow
        { prefixedBase with path := "/banana/metadata".toList } := by
  refine ⟨parse?_prefixedBase, by cbv, fun below => ?_⟩
  exact absurd below.path (by decide)

end Banana.Backend
