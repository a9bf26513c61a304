/-!
# Substrings

`Text.occursIn` tells whether one text is a contiguous part of another. The empty text is a part of
every text.
-/

namespace LintRoster.Text

/-- Whether `needle` is a contiguous part of the second list. -/
def occursInChars (needle : List Char) : List Char → Bool
  | [] => needle.isEmpty
  | c :: cs => needle.isPrefixOf (c :: cs) || occursInChars needle cs

/-- Whether `needle` is a contiguous part of `text`. -/
def occursIn (needle text : String) : Bool :=
  occursInChars needle.toList text.toList

/-- A search succeeds exactly when the text splits around the needle. -/
theorem occursInChars_iff {needle text : List Char} :
    occursInChars needle text = true ↔ needle <:+: text := by
  induction text with
  | nil => simp [occursInChars]
  | cons c cs ih => simp [occursInChars, ih, List.infix_cons_iff]

/-- One text occurs in another exactly if the characters of the second split around the first. -/
theorem occursIn_iff {needle text : String} :
    occursIn needle text = true ↔ needle.toList <:+: text.toList :=
  occursInChars_iff

end LintRoster.Text
