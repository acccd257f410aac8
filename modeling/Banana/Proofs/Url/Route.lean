/-
This file says in which way a reference leads on from a web address that is its base. It may be a
URL of its own, name another host, start at the root, or go on from the directory of the base; only
then does the path of the base count. Which way it goes is settled by a scheme and by the slashes at
its front, a backslash being as good as a slash.
-/

import Banana.Proofs.Url.Places
import Banana.Url.Parse

namespace Banana.Url

/-! ### Ways on from a base -/

/-- The way on from a base, with the text that remains. -/
inductive Route where
  | url (scheme rest : List Char)
  | host (rest : List Char)
  | root (rest : List Char)
  | below (rest : List Char)

/-- The way that the slashes at the front of a text lead. -/
def routeBySlashes (text : List Char) : Route :=
  match leadingSlashes text with
  | [] => .below text
  | [_] => .root (dropVisible 1 text)
  | '/' :: '/' :: _ => .host (dropVisible 2 text)
  | slashes => .host (dropVisible slashes.length text)

/-- The way that a reference leads from a base with a scheme. The scheme of the base may be
repeated, and counts for nothing then. -/
def route (scheme reference : List Char) : Route :=
  match scheme? reference with
  | none => routeBySlashes reference
  | some (own, rest) =>
    if own = scheme then
      if (leadingSlashes rest).length < 2 then routeBySlashes rest
      else .host (dropVisible (leadingSlashes rest).length rest)
    else
      .url own rest

/-- The URL at the end of a way. -/
def Route.follow? (base : Url) : Route → Except Fault Url
  | url scheme rest => withScheme? none scheme rest
  | host rest => withAuthority? base.scheme rest
  | root rest => .ok (base.relativeTo ['/'] rest)
  | below rest => .ok (base.withinBase rest)

section Special

variable {base : Url} {port : Nat}

theorem schemeKind_fileScheme : schemeKind fileScheme = .file := by cbv

theorem fileScheme_ne (isWeb : schemeKind base.scheme = .special port) :
    base.scheme ≠ fileScheme := by
  intro same
  rw [same, schemeKind_fileScheme] at isWeb
  cases isWeb

theorem relative?_eq (text : List Char) :
    base.relative? text = (routeBySlashes text).follow? base := by
  rw [relative?.eq_def, routeBySlashes.eq_def]
  split <;> simp only [*, Route.follow?]

/-- A fragment has no slashes before it. -/
theorem leadingSlashes_of_fragment {text rest : List Char}
    (isFragment : skipIgnored text = '#' :: rest) :
    leadingSlashes text = [] := by
  induction text with
  | nil => rfl
  | cons c text inductionHypothesis =>
    rw [skipIgnored, List.dropWhile_cons] at isFragment
    split at isFragment
    · next ignored =>
      have later := inductionHypothesis isFragment
      rw [leadingSlashes, visible] at later ⊢
      rw [List.takeWhile_cons_of_pos (by simp [ignored]),
        List.filter_cons_of_neg (by simp [ignored])]
      exact later
    · obtain ⟨rfl, -⟩ := List.cons.inj isFragment
      rfl

theorem withoutScheme?_eq (isWeb : schemeKind base.scheme = .special port)
    (hasAuthority : base.authority.isSome = true) (text : List Char) :
    base.withoutScheme? text = (routeBySlashes text).follow? base := by
  have canBeBase : base.canBeBase = true := by rw [canBeBase, hasAuthority, Bool.true_or]
  have noFile : schemeKind base.scheme ≠ .file := by
    rw [isWeb]
    exact nofun
  rw [withoutScheme?.eq_def]
  split
  · next rest isFragment =>
    rw [routeBySlashes.eq_def, leadingSlashes_of_fragment isFragment]
    show _ = Except.ok (base.withinBase text)
    rw [withinBase.eq_def, isFragment]
    rfl
  · rw [if_pos canBeBase, if_neg noFile, relative?_eq]

theorem withScheme?_eq (isWeb : schemeKind base.scheme = .special port) (own rest : List Char) :
    withScheme? (some base) own rest =
      if own = base.scheme then
        if (leadingSlashes rest).length < 2 then (routeBySlashes rest).follow? base
        else withAuthority? base.scheme (dropVisible (leadingSlashes rest).length rest)
      else
        withScheme? none own rest := by
  by_cases same : own = base.scheme
  · subst same
    have isBase : (some base).filter (fun other => other.scheme == base.scheme) = some base := by
      simp
    rw [withScheme?.eq_def, isWeb]
    dsimp only
    rw [isBase, if_pos rfl]
    by_cases few : (leadingSlashes rest).length < 2
    · rw [if_pos few, decide_eq_true few]
      exact relative?_eq rest
    · rw [if_neg few, decide_eq_false few]
  · have noBase : (some base).filter (fun other => other.scheme == own) = none := by
      simp [Ne.symm same]
    have noFile : (some base).filter (fun other => other.scheme == fileScheme) = none := by
      simp [fileScheme_ne isWeb]
    rw [if_neg same, withScheme?.eq_def, withScheme?.eq_def]
    dsimp only
    rw [noBase, noFile]
    rfl

/-- A reference to a web address goes the way that it leads. -/
theorem join?_eq (isWeb : schemeKind base.scheme = .special port)
    (hasAuthority : base.authority.isSome = true) (text : String) :
    base.join? text = (route base.scheme (trimmed text.toList)).follow? base := by
  rw [join?.eq_def, route.eq_def]
  dsimp only
  cases scheme? (trimmed text.toList) with
  | none => exact withoutScheme?_eq isWeb hasAuthority _
  | some found =>
    obtain ⟨own, rest⟩ := found
    dsimp only
    rw [withScheme?_eq isWeb]
    split
    · split <;> rfl
    · rfl

end Special

/-! ### The URLs at the ends -/

/-- A URL behind an authority has the scheme that it was read with, and a path from the root. -/
theorem withAuthority?_eq_ok {scheme text : List Char} {url : Url}
    (isUrl : withAuthority? scheme text = .ok url) :
    url.scheme = scheme ∧ url.authority.isSome = true ∧
      ∃ rest, url.path = (rootedPath (schemeKind scheme) rest).path := by
  rw [withAuthority?] at isUrl
  cases found : authority? (schemeKind scheme) text with
  | error fault =>
    rw [found] at isUrl
    cases isUrl
  | ok found' =>
    rw [found] at isUrl
    cases isUrl
    exact ⟨rfl, rfl, _, rfl⟩

theorem fileWithHost?_scheme {text : List Char} {url : Url} (isUrl : fileWithHost? text = .ok url) :
    url.scheme = fileScheme := by
  rw [fileWithHost?] at isUrl
  split at isUrl
  · cases isUrl
    rfl
  · dsimp only at isUrl
    cases found : fileHost?
        (visible (text.takeWhile fun c => !SchemeKind.file.endsAuthority c)) with
    | error fault =>
      rw [found] at isUrl
      cases isUrl
    | ok host =>
      rw [found] at isUrl
      change (if _ then _ else _) = _ at isUrl
      split at isUrl <;> cases isUrl <;> rfl

/-- A URL that is read on its own has the scheme that is written. -/
theorem withScheme?_none_scheme {scheme text : List Char} {url : Url}
    (isUrl : withScheme? none scheme text = .ok url) :
    url.scheme = scheme ∨ url.scheme = fileScheme := by
  rw [withScheme?.eq_def] at isUrl
  split at isUrl
  · right
    rw [file?.eq_def] at isUrl
    split at isUrl
    · next noBase => cases noBase
    · cases isUrl
      rfl
    · cases isUrl
      rfl
    · exact fileWithHost?_scheme isUrl
  · left
    rw [other?] at isUrl
    split at isUrl
    · exact (withAuthority?_eq_ok isUrl).1
    · cases isUrl
      rfl
    · cases isUrl
      rfl
  · left
    exact (withAuthority?_eq_ok isUrl).1

/-- A web address that is read on its own has an authority, and a path from the root. -/
theorem exists_withAuthority?_of_parse? {text : String} {base : Url} {port : Nat}
    (parsed : parse? text = .ok base) (isWeb : schemeKind base.scheme = .special port) :
    ∃ rest, withAuthority? base.scheme rest = .ok base := by
  rw [parse?.eq_def] at parsed
  split at parsed
  · next scheme rest _ =>
    have sameScheme : base.scheme = scheme :=
      (withScheme?_none_scheme parsed).resolve_right (fileScheme_ne isWeb)
    rw [withScheme?.eq_def, ← sameScheme, isWeb] at parsed
    exact ⟨_, parsed⟩
  · cases parsed

/-- The place in a web address that is read on its own. -/
theorem exists_place_of_parse? {text : String} {base : Url} {port : Nat}
    (parsed : parse? text = .ok base) (isWeb : schemeKind base.scheme = .special port) :
    base.authority.isSome = true ∧ ∃ place : Place, place.IsSettled ∧ base.path = place.text := by
  obtain ⟨rest, isUrl⟩ := exists_withAuthority?_of_parse? parsed isWeb
  obtain ⟨-, hasAuthority, rooted, isPath⟩ := withAuthority?_eq_ok isUrl
  rw [isWeb] at isPath
  obtain ⟨place, settled, isText⟩ := exists_place_of_rootedPath rooted
  exact ⟨hasAuthority, place, settled, isPath.trans isText⟩

end Banana.Url
