/-
This file cuts a text at every occurrence of a character. The separators belong to no part, and
there is one more part than there are separators, so joining the parts gives the text back.
-/

namespace Banana.Text

/-- The parts of a text between the occurrences of a character. -/
def split (separator : Char) : List Char → List (List Char)
  | [] => [[]]
  | c :: rest =>
    if c = separator then
      [] :: split separator rest
    else
      match split separator rest with
      | [] => [[c]]
      | part :: others => (c :: part) :: others

/-- Parts joined by a character. -/
def join (separator : Char) : List (List Char) → List Char
  | [] => []
  | [part] => part
  | part :: others => part ++ separator :: join separator others

/-! ### Nothing is lost -/

theorem split_ne_nil (separator : Char) (text : List Char) : split separator text ≠ [] := by
  cases text with
  | nil => simp [split]
  | cons c rest =>
    rw [split]
    split
    · simp
    · split <;> simp

theorem join_cons (separator : Char) (part : List Char) (others : List (List Char))
    (nonempty : others ≠ []) :
    join separator (part :: others) = part ++ separator :: join separator others := by
  cases others with
  | nil => exact absurd rfl nonempty
  | cons next rest => rfl

theorem join_split (separator : Char) (text : List Char) :
    join separator (split separator text) = text := by
  induction text with
  | nil => rfl
  | cons c rest inductionHypothesis =>
    rw [split]
    split
    next isSeparator =>
      rw [join_cons _ _ _ (split_ne_nil separator rest), inductionHypothesis, isSeparator,
        List.nil_append]
    next notSeparator =>
      split
      next none => exact absurd none (split_ne_nil separator rest)
      next part others cut =>
        rw [cut] at inductionHypothesis
        cases others with
        | nil => simpa [join] using inductionHypothesis
        | cons next rest => simpa [join] using inductionHypothesis

/-- Two texts with a separator between them are cut separately. -/
theorem split_append (separator : Char) (first second : List Char) :
    split separator (first ++ separator :: second) =
      split separator first ++ split separator second := by
  induction first with
  | nil =>
    show split separator (separator :: second) = [] :: split separator second
    rw [split, if_pos rfl]
  | cons c rest inductionHypothesis =>
    rw [List.cons_append, split, split, inductionHypothesis]
    split
    · rfl
    · cases cut : split separator rest with
      | nil => exact absurd cut (split_ne_nil separator rest)
      | cons part others => rfl

/-- A text without a separator is its only part. -/
theorem split_of_not_mem {separator : Char} {text : List Char} (uncut : separator ∉ text) :
    split separator text = [text] := by
  induction text with
  | nil => rfl
  | cons c rest inductionHypothesis =>
    have other : c ≠ separator := fun same => uncut (same ▸ List.mem_cons_self)
    have restUncut : separator ∉ rest := fun member => uncut (List.mem_cons_of_mem c member)
    rw [split, if_neg other, inductionHypothesis restUncut]

/-! ### Separators belong to no part -/

theorem not_mem_of_mem_split {separator : Char} {text part : List Char}
    (member : part ∈ split separator text) : separator ∉ part := by
  induction text generalizing part with
  | nil =>
    rw [List.mem_singleton.mp member]
    exact List.not_mem_nil
  | cons c rest inductionHypothesis =>
    rw [split] at member
    split at member
    · rcases List.mem_cons.mp member with rfl | inRest
      · exact List.not_mem_nil
      · exact inductionHypothesis inRest
    next other =>
      split at member
      next none => exact absurd none (split_ne_nil separator rest)
      next first others cut =>
        rw [cut] at inductionHypothesis
        rcases List.mem_cons.mp member with rfl | inOthers
        · intro isIn
          rcases List.mem_cons.mp isIn with rfl | inFirst
          · exact other rfl
          · exact inductionHypothesis List.mem_cons_self inFirst
        · exact inductionHypothesis (List.mem_cons_of_mem first inOthers)

end Banana.Text
