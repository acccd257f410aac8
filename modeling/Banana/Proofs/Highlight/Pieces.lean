/-
This file writes the tokens of a source as pieces of text laid end to end. A line is a list of
pieces, each some text with a class, and the places of the tokens are found by walking along them.
Whatever the rules of a highlighter are, every step goes on by at least one character and stays in
the line; and when the groups of a match lie end to end, the tokens of every source are laid out in
this way, with pieces that are not empty and make up the lines.
-/

import Banana.Highlight.Scan

namespace Banana.Highlight

open Grammar Source

/-- Some text and the class it is shown as. -/
abbrev Piece := TokenClass × List Char

/-- The text that pieces make up. -/
def textOf (pieces : List Piece) : List Char := pieces.flatMap Prod.snd

/-- The tokens for pieces that lie end to end from a place on. -/
def layOut : Position → List Piece → List Token
  | _, [] => []
  | place, (kind, text) :: rest =>
    ⟨kind, place, advance place text⟩ :: layOut (advance place text) rest

/-- The tokens for the pieces of lines, the first of which has a number and starts at an offset. -/
def layOutLines : Nat → Nat → List (List Piece) → List Token
  | _, _, [] => []
  | number, offset, pieces :: rest =>
    layOut ⟨number, 1, offset⟩ pieces ++
      layOutLines (number + 1) (offset + Text.utf8Length (textOf pieces) + 1) rest

/-- Whether no piece is empty. -/
def NoneEmpty (pieces : List Piece) : Prop := ∀ piece ∈ pieces, piece.2 ≠ []

@[simp]
theorem textOf_append (first second : List Piece) :
    textOf (first ++ second) = textOf first ++ textOf second :=
  List.flatMap_append

theorem NoneEmpty.append {first second : List Piece} (firstFilled : NoneEmpty first)
    (secondFilled : NoneEmpty second) : NoneEmpty (first ++ second) := by
  intro piece member
  rcases List.mem_append.mp member with isFirst | isSecond
  · exact firstFilled piece isFirst
  · exact secondFilled piece isSecond

theorem noneEmpty_single {kind : TokenClass} {text : List Char} (filled : text ≠ []) :
    NoneEmpty [(kind, text)] := by
  intro piece member
  rw [List.mem_singleton.mp member]
  exact filled

/-! ### Places -/

@[simp]
theorem advance_nil (place : Position) : advance place [] = place := rfl

@[simp]
theorem advance_advance (place : Position) (first second : List Char) :
    advance (advance place first) second = advance place (first ++ second) := by
  simp only [advance, List.length_append, Text.utf8Length_append, Nat.add_assoc]

theorem layOut_append (place : Position) (first second : List Piece) :
    layOut place (first ++ second) =
      layOut place first ++ layOut (advance place (textOf first)) second := by
  induction first generalizing place with
  | nil => rfl
  | cons piece rest inductionHypothesis =>
    obtain ⟨kind, text⟩ := piece
    rw [List.cons_append, layOut, inductionHypothesis, advance_advance]
    rfl

/-! ### Tokens further on -/

/-- The token in a source that has some more lines and bytes in front. -/
def Token.shifted (token : Token) (lines bytes : Nat) : Token where
  kind := token.kind
  span := ⟨{ token.span.start with
      line := token.span.start.line + lines, offset := token.span.start.offset + bytes },
    { token.span.stop with
      line := token.span.stop.line + lines, offset := token.span.stop.offset + bytes }⟩

theorem layOut_shifted (line column offset lines bytes : Nat) (pieces : List Piece) :
    layOut ⟨line + lines, column, offset + bytes⟩ pieces =
      (layOut ⟨line, column, offset⟩ pieces).map (·.shifted lines bytes) := by
  induction pieces generalizing column offset with
  | nil => rfl
  | cons piece rest inductionHypothesis =>
    obtain ⟨kind, text⟩ := piece
    have behind : offset + bytes + Text.utf8Length text = offset + Text.utf8Length text + bytes :=
      Nat.add_right_comm _ _ _
    simp only [layOut, advance, behind, inductionHypothesis, List.map_cons, Token.shifted]

theorem layOutLines_shifted (number offset lines bytes : Nat) (pieces : List (List Piece)) :
    layOutLines (number + lines) (offset + bytes) pieces =
      (layOutLines number offset pieces).map (·.shifted lines bytes) := by
  induction pieces generalizing number offset with
  | nil => rfl
  | cons line rest inductionHypothesis =>
    have nextNumber : number + lines + 1 = number + 1 + lines := Nat.add_right_comm _ _ _
    have nextOffset : offset + bytes + Text.utf8Length (textOf line) + 1 =
        offset + Text.utf8Length (textOf line) + 1 + bytes := by omega
    rw [layOutLines, layOutLines, List.map_append, layOut_shifted, nextNumber, nextOffset,
      inductionHypothesis]

/-- The bytes of lines, each with its line feed. -/
def linesLength : List (List Char) → Nat
  | [] => 0
  | line :: rest => Text.utf8Length line + 1 + linesLength rest

theorem layOutLines_append (number offset : Nat) (first second : List (List Piece)) :
    layOutLines number offset (first ++ second) =
      layOutLines number offset first ++
        layOutLines (number + first.length) (offset + linesLength (first.map textOf)) second := by
  induction first generalizing number offset with
  | nil => rfl
  | cons line rest inductionHypothesis =>
    have nextNumber : number + 1 + rest.length = number + (rest.length + 1) := by omega
    have nextOffset : offset + Text.utf8Length (textOf line) + 1 + linesLength (rest.map textOf) =
        offset + linesLength ((line :: rest).map textOf) := by
      simp only [linesLength, List.map_cons]
      omega
    rw [List.cons_append, layOutLines, layOutLines, inductionHypothesis, List.append_assoc,
      nextNumber, nextOffset]
    rfl

/-! ### Tokens between two places -/

/-- One token of some text is one piece. -/
theorem tokenBetween_zero (place : Position) (text : List Char) (kind : TokenClass) {stop : Nat}
    (further : 0 < stop) :
    tokenBetween place text kind 0 stop = layOut place [(kind, text.take stop)] := by
  rw [tokenBetween, if_pos further]
  rfl

theorem take_ne_nil {text : List Char} {count : Nat} (further : 0 < count)
    (within : count ≤ text.length) : text.take count ≠ [] := by
  intro empty
  have length := congrArg List.length empty
  rw [List.length_take_of_le within, List.length_nil] at length
  omega

/-- The text between two counts of characters stands between what is before and behind it. -/
theorem take_split (text : List Char) {start stop : Nat} (ordered : start ≤ stop) :
    text.take start ++ (text.take stop).drop start = text.take stop := by
  have shorter : (text.take stop).take start = text.take start := by
    rw [List.take_take, Nat.min_eq_left ordered]
  rw [← shorter, List.take_append_drop]

/-! ### Groups that lie end to end -/

/-- Whether regions lie end to end and in order between two bounds. -/
def EndToEnd : Nat → List (Nat × Nat) → Nat → Prop
  | start, [], stop => start = stop
  | start, (first, last) :: rest, stop => first = start ∧ first ≤ last ∧ EndToEnd last rest stop

theorem EndToEnd.le {start stop : Nat} {regions : List (Nat × Nat)}
    (endToEnd : EndToEnd start regions stop) : start ≤ stop := by
  induction regions generalizing start with
  | nil => exact Nat.le_of_eq endToEnd
  | cons region rest inductionHypothesis =>
    obtain ⟨rfl, ordered, others⟩ := endToEnd
    exact Nat.le_trans ordered (inductionHypothesis others)

/-- What the groups of a match with numbers from some number on have matched; a group that took no
part is left out. -/
def groupRegions (found : Pattern.Match) (index count : Nat) : List (Nat × Nat) :=
  (List.range' index count).filterMap found.group?

/-- The tokens for groups that lie end to end are pieces of the text between the bounds. -/
theorem groupTokens_eq_layOut (place : Position) (text : List Char) (found : Pattern.Match)
    {start stop : Nat} (within : stop ≤ text.length) (index : Nat) (kinds : List TokenClass)
    (endToEnd : EndToEnd start (groupRegions found index kinds.length) stop) :
    ∃ pieces, groupTokens place text found index kinds =
        layOut (advance place (text.take start)) pieces ∧
      text.take start ++ textOf pieces = text.take stop ∧ NoneEmpty pieces := by
  induction kinds generalizing index start with
  | nil =>
    cases endToEnd
    exact ⟨[], rfl, List.append_nil _, fun _ member => absurd member List.not_mem_nil⟩
  | cons kind kinds inductionHypothesis =>
    rw [groupRegions, List.length_cons, List.range'_succ] at endToEnd
    rw [groupTokens]
    cases group : found.group? index with
    | none =>
      rw [List.filterMap_cons_none group] at endToEnd
      exact inductionHypothesis (index + 1) endToEnd
    | some region =>
      obtain ⟨first, last⟩ := region
      rw [List.filterMap_cons_some group] at endToEnd
      obtain ⟨rfl, ordered, others⟩ := endToEnd
      have lastWithin : last ≤ text.length := Nat.le_trans others.le within
      obtain ⟨pieces, tokens, total, filled⟩ := inductionHypothesis (index + 1) others
      by_cases further : first < last
      · -- The group has matched some text, which becomes a piece of its own.
        have joined := take_split text ordered
        refine ⟨(kind, (text.take last).drop first) :: pieces, ?_, ?_, ?_⟩
        · rw [tokens, layOut, advance_advance, joined]
          simp only [tokenBetween, if_pos further]
          rfl
        · rw [← total]
          show text.take first ++ ((text.take last).drop first ++ textOf pieces) = _
          rw [← List.append_assoc, joined]
        · refine List.forall_mem_cons.mpr ⟨fun empty => ?_, filled⟩
          have length := congrArg List.length empty
          rw [List.length_drop, List.length_take_of_le lastWithin, List.length_nil] at length
          omega
      · -- The group has matched nothing and leaves no token.
        have same : first = last := Nat.le_antisymm ordered (Nat.le_of_not_lt further)
        refine ⟨pieces, ?_, ?_, filled⟩
        · simp only [tokenBetween, if_neg further]
          rw [same]
          exact tokens
        · rw [same]
          exact total

/-! ### Steps -/

variable {engine : Pattern.Engine}

/-- The first rule that matches is one of the rules, and it matches some text. -/
theorem exists_rule_of_firstRule? {find? : engine.Regex → List Char → Option Pattern.Match}
    {text : List Char} {rules : List (ReadyRule engine)} {action : Action} {found : Pattern.Match}
    (first : firstRule? find? text rules = some (action, found)) :
    ∃ rule ∈ rules, rule.action = action ∧ find? rule.pattern text = some found ∧
      0 < found.stop := by
  induction rules with
  | nil => cases first
  | cons rule rest inductionHypothesis =>
    have inRest (later : firstRule? find? text rest = some (action, found)) :
        ∃ other ∈ rule :: rest, other.action = action ∧
          find? other.pattern text = some found ∧ 0 < found.stop := by
      obtain ⟨other, member, matched⟩ := inductionHypothesis later
      exact ⟨other, List.mem_cons_of_mem rule member, matched⟩
    rw [firstRule?] at first
    split at first
    · next here matched =>
      split at first
      · exact inRest first
      · next nonempty =>
        cases first
        exact ⟨rule, List.mem_cons_self, rfl, matched, Nat.pos_of_ne_zero nonempty⟩
    · exact inRest first

end Banana.Highlight

namespace Banana.Highlighter

open Grammar Highlight Source

variable {engine : Pattern.Engine}

/-- Whether, whenever a rule with a class for each group matches some text of a line, the groups
that took part lie end to end, in order, from the start to the end of that text. -/
def GroupsEndToEnd (highlighter : Highlighter engine) : Prop :=
  ∀ state rules, highlighter.rules state = some rules → ∀ rule ∈ rules, ∀ kinds,
    rule.action = .groups kinds → ∀ text found, '\n' ∉ text →
      highlighter.find? rule.pattern text = some found → 0 < found.stop →
        EndToEnd 0 (groupRegions found 1 kinds.length) found.stop

theorem find?_stop_le {highlighter : Highlighter engine} {pattern : engine.Regex} {text : List Char}
    {found : Pattern.Match} (matched : highlighter.find? pattern text = some found) :
    found.stop ≤ text.length := by
  unfold find? at matched
  split at matched
  · cases matched
  · exact (engine.find?_bounds matched).2

/-- The two things that a step can be: the first rule that matches some text, or one character of
the default class. -/
theorem step_cases (highlighter : Highlighter engine) (stack : Stack) (place : Position)
    (text : List Char) :
    (∃ rules rule found, highlighter.rules stack.current = some rules ∧ rule ∈ rules ∧
      highlighter.find? rule.pattern text = some found ∧ 0 < found.stop ∧
      highlighter.step stack place text =
        ⟨actionTokens highlighter.grammar place text found rule.action, found.stop,
          actionStack stack rule.action⟩) ∨
    highlighter.step stack place text =
      ⟨tokenBetween place text highlighter.grammar.defaultToken 0 1, 1, stack⟩ := by
  unfold step
  cases first : firstRule? highlighter.find? text
      ((highlighter.rules stack.current).getD []) with
  | none => exact Or.inr rfl
  | some result =>
    obtain ⟨action, found⟩ := result
    obtain ⟨rule, member, rfl, matched, nonempty⟩ := exists_rule_of_firstRule? first
    cases defined : highlighter.rules stack.current with
    | none =>
      rw [defined] at member
      exact absurd member List.not_mem_nil
    | some rules =>
      rw [defined] at member
      exact Or.inl ⟨rules, rule, found, rfl, member, matched, nonempty, rfl⟩

/-- A step goes on by at least one character and not past the end of the line. -/
theorem step_advances (highlighter : Highlighter engine) (stack : Stack) (place : Position)
    {text : List Char} (nonempty : text ≠ []) :
    0 < (highlighter.step stack place text).length ∧
      (highlighter.step stack place text).length ≤ text.length := by
  rcases highlighter.step_cases stack place text with
    ⟨rules, rule, found, -, -, matched, further, same⟩ | same
  · rw [same]
    exact ⟨further, find?_stop_le matched⟩
  · rw [same]
    exact ⟨Nat.one_pos, List.length_pos_iff.mpr nonempty⟩

/-- The tokens of a step are pieces of the text that the step goes past. -/
theorem step_eq_layOut {highlighter : Highlighter engine} (endToEnd : highlighter.GroupsEndToEnd)
    (stack : Stack) (place : Position) {text : List Char} (nonempty : text ≠ [])
    (oneLine : '\n' ∉ text) :
    ∃ pieces, (highlighter.step stack place text).tokens = layOut place pieces ∧
      textOf pieces = text.take (highlighter.step stack place text).length ∧
      NoneEmpty pieces := by
  -- All actions but one make the whole match one piece.
  have single (kind : TokenClass) {stop : Nat} (further : 0 < stop) (within : stop ≤ text.length) :
      ∃ pieces, tokenBetween place text kind 0 stop = layOut place pieces ∧
        textOf pieces = text.take stop ∧ NoneEmpty pieces :=
    ⟨[(kind, text.take stop)], tokenBetween_zero place text kind further, List.append_nil _,
      noneEmpty_single (take_ne_nil further within)⟩
  rcases highlighter.step_cases stack place text with
    ⟨rules, rule, found, defined, member, matched, further, same⟩ | same
  · rw [same]
    have within := find?_stop_le matched
    cases action : rule.action with
    | groups kinds =>
      obtain ⟨pieces, tokens, total, filled⟩ := groupTokens_eq_layOut place text found within 1
        kinds (endToEnd _ rules defined rule member kinds action text found oneLine matched further)
      exact ⟨pieces, tokens, total, filled⟩
    | token kind => exact single _ further within
    | cases set present default => exact single _ further within
    | brackets => exact single _ further within
    | push kind next => exact single _ further within
    | pop kind => exact single _ further within
  · rw [same]
    exact single _ Nat.one_pos (List.length_pos_iff.mpr nonempty)

/-! ### Lines -/

@[simp]
theorem scanLine_nil (highlighter : Highlighter engine) (stack : Stack) (place : Position) :
    highlighter.scanLine stack place [] = ([], stack) := by
  rw [scanLine]

/-- What is left of a line behind a step, whose first character is always taken. -/
theorem drop_step (highlighter : Highlighter engine) (stack : Stack) (place : Position) (c : Char)
    (rest : List Char) :
    rest.drop ((highlighter.step stack place (c :: rest)).length - 1) =
      (c :: rest).drop (highlighter.step stack place (c :: rest)).length := by
  have goesOn := (highlighter.step_advances stack place (List.cons_ne_nil c rest)).1
  obtain ⟨count, isCount⟩ := Nat.exists_eq_succ_of_ne_zero (Nat.ne_of_gt goesOn)
  rw [isCount]
  rfl

/-- A line is a step and the rest of the line behind it. -/
theorem scanLine_of_ne_nil (highlighter : Highlighter engine) (stack : Stack) (place : Position)
    {text : List Char} (nonempty : text ≠ []) :
    highlighter.scanLine stack place text =
      ((highlighter.step stack place text).tokens ++
        (highlighter.scanLine (highlighter.step stack place text).stack
          (advance place (text.take (highlighter.step stack place text).length))
          (text.drop (highlighter.step stack place text).length)).1,
      (highlighter.scanLine (highlighter.step stack place text).stack
        (advance place (text.take (highlighter.step stack place text).length))
        (text.drop (highlighter.step stack place text).length)).2) := by
  cases text with
  | nil => exact absurd rfl nonempty
  | cons c rest =>
    rw [scanLine, drop_step]

/-- The tokens of the rest of a line are pieces of it. -/
theorem scanLine_eq_layOut {highlighter : Highlighter engine}
    (endToEnd : highlighter.GroupsEndToEnd) (stack : Stack) (place : Position) (text : List Char)
    (oneLine : '\n' ∉ text) :
    ∃ pieces, (highlighter.scanLine stack place text).1 = layOut place pieces ∧
      textOf pieces = text ∧ NoneEmpty pieces := by
  induction length : text.length using Nat.strongRecOn generalizing stack place text with
  | ind bound inductionHypothesis =>
    by_cases nonempty : text = []
    · subst nonempty
      rw [scanLine_nil]
      exact ⟨[], rfl, rfl, fun _ member => absurd member List.not_mem_nil⟩
    · obtain ⟨goesOn, within⟩ := highlighter.step_advances stack place nonempty
      obtain ⟨here, hereTokens, hereText, hereFilled⟩ :=
        step_eq_layOut endToEnd stack place nonempty oneLine
      have shorter : (text.drop (highlighter.step stack place text).length).length < bound := by
        rw [List.length_drop]
        omega
      obtain ⟨others, otherTokens, otherText, otherFilled⟩ := inductionHypothesis _ shorter
        (highlighter.step stack place text).stack
        (advance place (text.take (highlighter.step stack place text).length)) _
        (fun member => oneLine (List.mem_of_mem_drop member)) rfl
      refine ⟨here ++ others, ?_, ?_, hereFilled.append otherFilled⟩
      · rw [highlighter.scanLine_of_ne_nil stack place nonempty, layOut_append, hereTokens,
          otherTokens, hereText]
      · rw [textOf_append, hereText, otherText, List.take_append_drop]

/-- The tokens of lines are pieces of them. -/
theorem scanLines_eq_layOutLines {highlighter : Highlighter engine}
    (endToEnd : highlighter.GroupsEndToEnd) (stack : Stack) (number offset : Nat)
    (lines : List (List Char)) (eachOneLine : ∀ line ∈ lines, '\n' ∉ line) :
    ∃ pieces, (highlighter.scanLines stack number offset lines).1 =
        layOutLines number offset pieces ∧
      pieces.map textOf = lines ∧ ∀ line ∈ pieces, NoneEmpty line := by
  induction lines generalizing stack number offset with
  | nil => exact ⟨[], rfl, rfl, fun _ member => absurd member List.not_mem_nil⟩
  | cons line rest inductionHypothesis =>
    obtain ⟨oneLine, restOneLine⟩ := List.forall_mem_cons.mp eachOneLine
    obtain ⟨here, hereTokens, rfl, hereFilled⟩ :=
      scanLine_eq_layOut endToEnd stack ⟨number, 1, offset⟩ line oneLine
    obtain ⟨others, otherTokens, otherText, otherFilled⟩ := inductionHypothesis
      (highlighter.scanLine stack ⟨number, 1, offset⟩ (textOf here)).2 (number + 1)
      (offset + Text.utf8Length (textOf here) + 1) restOneLine
    refine ⟨here :: others, ?_, ?_, List.forall_mem_cons.mpr ⟨hereFilled, otherFilled⟩⟩
    · rw [layOutLines, ← hereTokens, ← otherTokens]
      rfl
    · rw [List.map_cons, otherText]

/-- The tokens of a source are pieces of its lines. -/
theorem highlight_eq_layOutLines {highlighter : Highlighter engine}
    (endToEnd : highlighter.GroupsEndToEnd) (source : String) :
    ∃ pieces, highlighter.highlight source = layOutLines 1 0 pieces ∧
      pieces.map textOf = Text.lines source.toList ∧ ∀ line ∈ pieces, NoneEmpty line :=
  scanLines_eq_layOutLines endToEnd .initial 1 0 _ fun _ member =>
    Text.not_mem_of_mem_split member

end Banana.Highlighter
