/-
This file says which names of components are highlighted as such. A source of one line is the pieces
that the direct reader finds in it, and the name of a component is one piece of that class exactly
if it is a capitalised word: a capital, then letters, digits, underscores and dollar signs.
-/

import Banana.Proofs.Language.Coverage
import Banana.Proofs.Language.Agreement

namespace Banana.Direct

open Grammar Highlight Schema Source

/-! ### Sources of one line -/

/-- A source of one line is shown as the pieces that are read in it. -/
theorem highlight_oneLine (components : List Component) {source : String}
    (oneLine : '\n' ∉ source.toList) :
    (Grammar.ofComponents components).highlight source =
      .ok (layOut ⟨1, 1, 0⟩ (readLine (components.map (·.name)) .outside source.toList).1) := by
  rw [Grammar.highlight, Language.ofGrammar_ofComponents, Except.map, Highlighter.highlight,
    Text.lines, Text.split_of_not_mem oneLine, Highlighter.scanLines]
  show Except.ok (((Language.highlighter components).scanLine Mode.outside.stack ⟨1, 1, 0⟩
    source.toList).1 ++ []) = _
  rw [(scanLine_eq_readLine components .outside ⟨1, 1, 0⟩ source.toList oneLine).1, List.append_nil]

/-- Tokens that are laid out are as many as the pieces, and have their classes. -/
theorem exists_piece_of_layOut {place : Position} {pieces : List Piece} {token : Token}
    (only : layOut place pieces = [token]) : ∃ text, pieces = [(token.kind, text)] := by
  cases pieces with
  | nil => cases only
  | cons piece rest =>
    obtain ⟨kind, text⟩ := piece
    cases rest with
    | nil =>
      obtain ⟨rfl, -⟩ := List.cons.inj only
      exact ⟨text, rfl⟩
    | cons next others => cases only

/-! ### Capitalised words -/

/-- Whether a text is a capitalised word. -/
structure IsCapitalisedWord (text : List Char) : Prop where
  starts : text.head?.any isCapital = true
  consists : ∀ c ∈ text, isWordPart c = true

instance (text : List Char) : Decidable (IsCapitalisedWord text) :=
  decidable_of_iff (text.head?.any isCapital = true ∧ text.all isWordPart = true)
    ⟨fun both => ⟨both.1, List.all_eq_true.mp both.2⟩,
      fun isWord => ⟨isWord.starts, List.all_eq_true.mpr isWord.consists⟩⟩

/-! ### What is read as the name of a component -/

theorem bracketKind?_ne_componentName (c : Char) : bracketKind? c ≠ some .componentName := by
  unfold bracketKind?
  split <;> simp

theorem symbolKind_ne_componentName (run : List Char) : symbolKind run ≠ .componentName := by
  unfold symbolKind
  split
  · simp
  · split <;> simp

theorem readApostrophe_ne_componentName (rest : List Char) :
    ∀ piece ∈ readApostrophe rest, piece.1 ≠ .componentName := by
  unfold readApostrophe
  split
  · simp
  · split <;> simp

/-- Only a capitalised word that names a component is read as the name of a component. -/
theorem readOutside_componentName (names : List String) (text : List Char) :
    ∀ piece ∈ (readOutside names text).pieces, piece.1 = .componentName →
      text.head?.any isCapital = true ∧ piece.2 = text.takeWhile isWordPart ∧
        String.ofList piece.2 ∈ names := by
  fun_cases readOutside names text with
  | case1 => exact fun _ isRead => absurd isRead List.not_mem_nil
  | case2 c rest text capital word =>
    refine List.forall_mem_singleton.mpr fun isName => ⟨capital, rfl, ?_⟩
    by_contra absent
    rw [if_neg absent] at isName
    cases isName
  | case8 c rest text _ _ _ _ _ kind isBracket =>
    refine List.forall_mem_singleton.mpr fun isName => ?_
    exact absurd (isName ▸ isBracket) (bracketKind?_ne_componentName c)
  | case9 c rest text _ _ _ _ _ _ run =>
    refine List.forall_mem_singleton.mpr fun isName => ?_
    exact absurd isName (symbolKind_ne_componentName run)
  | case12 rest =>
    exact fun piece isRead isName =>
      absurd isName (readApostrophe_ne_componentName rest piece isRead)
  | _ => exact List.forall_mem_singleton.mpr fun isName => by cases isName

/-- A capitalised word that names a component is read as one piece. -/
theorem readLine_of_isCapitalisedWord {names : List String} {word : List Char}
    (isWord : IsCapitalisedWord word) (named : String.ofList word ∈ names) :
    (readLine names .outside word).1 = [(.componentName, word)] := by
  have whole : word.takeWhile isWordPart = word := List.takeWhile_eq_self_iff.mpr isWord.consists
  obtain ⟨c, isFirst, capital⟩ := (Option.any_eq_true _ _).mp isWord.starts
  obtain ⟨rest, rfl⟩ := List.head?_eq_some_iff.mp isFirst
  have reading : read names .outside (c :: rest) = ⟨[(.componentName, c :: rest)], .outside⟩ := by
    rw [read, readOutside]
    simp only [capital, if_true, whole, named]
  rw [readLine_cons, reading]
  show [(TokenClass.componentName, c :: rest)] ++ (readLine names .outside
    (rest.drop ((textOf [(.componentName, c :: rest)]).length - 1))).1 = _
  have behind : rest.drop ((textOf [(.componentName, c :: rest)]).length - 1) = [] := by
    simp [textOf]
  rw [behind, readLine, List.append_nil]

/-- A line that is one piece of the class of component names is a capitalised word that names one.
-/
theorem isCapitalisedWord_of_readLine {components : List Component} {line text : List Char}
    (oneLine : '\n' ∉ line)
    (isRead : (readLine (components.map (·.name)) .outside line).1 = [(.componentName, text)]) :
    IsCapitalisedWord line ∧ String.ofList line ∈ components.map (·.name) := by
  have isText := (scanLine_eq_readLine components .outside default line oneLine).2
  rw [isRead] at isText
  have isText : text = line := by simpa [textOf] using isText
  subst isText
  cases text with
  | nil =>
    rw [readLine] at isRead
    cases isRead
  | cons c rest =>
    have total := read_total components .outside oneLine
    rw [readLine_cons] at isRead
    -- Something is read at the front of the line, and there is only one piece in it.
    have first : (readOutside (components.map (·.name)) (c :: rest)).pieces =
        [(.componentName, c :: rest)] := by
      rcases List.append_eq_singleton_iff.mp isRead with ⟨nothing, -⟩ | ⟨only, -⟩
      · rw [show (read (components.map (·.name)) .outside (c :: rest)).pieces = [] from nothing]
          at total
        exact absurd (congrArg List.length total) (by simp [textOf])
      · exact only
    obtain ⟨capital, isRun, named⟩ := readOutside_componentName (components.map (·.name))
      (c :: rest) _ (first ▸ List.mem_singleton_self _) rfl
    exact ⟨⟨capital, List.takeWhile_eq_self_iff.mp isRun.symm⟩, named⟩

/-! ### Highlighted names -/

/-- Whether a text, as a source of its own, is highlighted as the name of a component in one
token. -/
def IsHighlightedName (components : List Component) (text : String) : Prop :=
  ∃ token, (Grammar.ofComponents components).highlight text = .ok [token] ∧
    token.kind = .componentName ∧ token.text text = text

/-- The names that are highlighted as such are the capitalised words that name a component. -/
theorem isHighlightedName_iff (components : List Component) (text : String) :
    IsHighlightedName components text ↔
      IsCapitalisedWord text.toList ∧ text ∈ components.map (·.name) := by
  constructor
  · rintro ⟨token, only, isName, isWhole⟩
    have tokens : (Language.highlighter components).highlight text = [token] := by
      rw [Grammar.highlight, Language.ofGrammar_ofComponents] at only
      exact Except.ok.inj only
    obtain ⟨byLine, flat, covered, -⟩ :=
      Highlighter.covers_highlight (Language.groupsEndToEnd components) text
    rw [tokens] at flat
    have oneLine : '\n' ∉ text.toList := by
      rw [← isWhole]
      exact covered.noFeed (flat ▸ List.mem_singleton_self token)
    rw [highlight_oneLine components oneLine] at only
    obtain ⟨piece, isRead⟩ := exists_piece_of_layOut (Except.ok.inj only)
    rw [isName] at isRead
    obtain ⟨isWord, named⟩ := isCapitalisedWord_of_readLine oneLine isRead
    rw [String.ofList_toList] at named
    exact ⟨isWord, named⟩
  · rintro ⟨isWord, named⟩
    have oneLine : '\n' ∉ text.toList := fun member => absurd (isWord.consists _ member) (by decide)
    refine ⟨⟨.componentName, ⟨1, 1, 0⟩, advance ⟨1, 1, 0⟩ text.toList⟩, ?_, rfl, ?_⟩
    · rw [highlight_oneLine components oneLine,
        readLine_of_isCapitalisedWord isWord (by rwa [String.ofList_toList])]
      rfl
    · have stands : text.toList = [] ++ text.toList ++ [] := by simp
      rw [Token.text, slice_of_piece .componentName stands rfl, Option.getD_some,
        String.ofList_toList]

end Banana.Direct
