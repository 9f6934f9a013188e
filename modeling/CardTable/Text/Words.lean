/-!
# Words

Words are the runs of characters between blanks, and a blank is any character with the Unicode
property White_Space.
-/

namespace CardTable.Text

/-- The ranges of the property White_Space, first and last character of each. -/
def blankRanges : List (Char × Char) :=
  [('\u0009', '\u000d'), ('\u0020', '\u0020'), ('\u0085', '\u0085'), ('\u00a0', '\u00a0'),
    ('\u1680', '\u1680'), ('\u2000', '\u200a'), ('\u2028', '\u2029'), ('\u202f', '\u202f'),
    ('\u205f', '\u205f'), ('\u3000', '\u3000')]

def isBlank (character : Char) : Bool :=
  blankRanges.any fun range => range.1 ≤ character && character ≤ range.2

def words (text : List Char) : List (List Char) :=
  (text.splitOnP isBlank).filter (· ≠ [])

end CardTable.Text
