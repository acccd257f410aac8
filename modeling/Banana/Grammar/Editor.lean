/-
This file holds the settings that an editor needs beside the grammar: how a comment starts, which
brackets close themselves, and where words end.
-/

import Banana.Text.Blank

namespace Banana.Grammar

/-- The settings of an editor for a language. -/
structure EditorSettings where
  lineComment : String
  autoClosingPairs : List (Char × Char)
  wordSeparators : String
  deriving DecidableEq

/-- The settings for the pipeline language. Dots and underscores belong to words. -/
def EditorSettings.language : EditorSettings where
  lineComment := "#"
  autoClosingPairs := [('(', ')')]
  wordSeparators := "~!@#$%^&*()-=+[\x7b]\x7d\\|;:'\",<>/?"

/-- Whether a character ends a word. -/
def EditorSettings.isWordSeparator (settings : EditorSettings) (c : Char) : Bool :=
  Text.isBlank c || settings.wordSeparators.toList.contains c

end Banana.Grammar
