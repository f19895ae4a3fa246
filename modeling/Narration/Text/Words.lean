import Narration.Text.Alphanumeric
/-! The words of a text: its longest runs of letters and digits. -/
namespace Narration.Text

/-- `run` holds the word that is being read, backwards. -/
def wordsAfter (run : List Char) : List Char → List (List Char)
  | [] => if run.isEmpty then [] else [run.reverse]
  | c :: rest =>
    if isAlphanumeric c then wordsAfter (c :: run) rest
    else if run.isEmpty then wordsAfter [] rest
    else run.reverse :: wordsAfter [] rest

def words (s : String) : List (List Char) := wordsAfter [] s.toList

def hasRun (part : List Char) : List Char → Bool
  | [] => part.isEmpty
  | c :: rest => part.isPrefixOf (c :: rest) || hasRun part rest

/-- Whether `part` occurs in `s` without a gap. -/
def occursIn (part s : String) : Bool := hasRun part.toList s.toList

end Narration.Text
