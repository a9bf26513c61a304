/-!
# Blank characters, trimming and words

A character is blank when it has the Unicode property `White_Space`. `Text.trim` cuts blank
characters from both ends of a text, `Text.words` cuts a text into its maximal runs of other
characters. Both are rules on character lists with a thin wrapper for strings.
-/

namespace LintRoster.Text

/-- The characters with the Unicode property `White_Space`. -/
def isBlank (c : Char) : Bool :=
  let n := c.toNat
  (0x09 ≤ n && n ≤ 0x0D) || n == 0x20 || n == 0x85 || n == 0xA0 || n == 0x1680 ||
    (0x2000 ≤ n && n ≤ 0x200A) || n == 0x2028 || n == 0x2029 || n == 0x202F || n == 0x205F ||
    n == 0x3000

/-- A text without its leading blank characters. -/
def trimStartChars (cs : List Char) : List Char :=
  cs.dropWhile isBlank

/-- A text without its trailing blank characters. -/
def trimEndChars (cs : List Char) : List Char :=
  (cs.reverse.dropWhile isBlank).reverse

/-- A text without blank characters at either end. -/
def trimChars (cs : List Char) : List Char :=
  trimEndChars (trimStartChars cs)

/-- Puts a finished word, gathered back to front, before the words after it. An empty run of
characters is no word. -/
def closeWord (word : List Char) (after : List (List Char)) : List (List Char) :=
  if word.isEmpty then after else word.reverse :: after

/-- The words of a text whose first word has the characters `word`, back to front, so far. -/
def wordsAfter (word : List Char) : List Char → List (List Char)
  | [] => closeWord word []
  | c :: cs => if isBlank c then closeWord word (wordsAfter [] cs) else wordsAfter (c :: word) cs

/-- The maximal runs of characters that are not blank, first to last. -/
def wordsChars (cs : List Char) : List (List Char) :=
  wordsAfter [] cs

/-- A text without blank characters at either end. -/
def trim (s : String) : String :=
  String.ofList (trimChars s.toList)

/-- A text that holds nothing, or blank characters only. -/
def isBlankText (s : String) : Bool :=
  s.toList.all isBlank

/-- The maximal runs of characters that are not blank, first to last. -/
def words (s : String) : List String :=
  (wordsChars s.toList).map String.ofList

end LintRoster.Text
