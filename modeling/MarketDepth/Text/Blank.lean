/-
MarketDepth/Text/Blank.lean

White space, and trimming it off both ends of a text.
-/
import MarketDepth.Text.Ranges

namespace MarketDepth.Text

/-- The code points with the property White_Space. -/
def blankRanges : Ranges :=
  [(0x9, 0xd), (0x20, 0x20), (0x85, 0x85), (0xa0, 0xa0), (0x1680, 0x1680), (0x2000, 0x200a),
   (0x2028, 0x2029), (0x202f, 0x202f), (0x205f, 0x205f), (0x3000, 0x3000)]

def isBlank (c : Char) : Bool := blankRanges.contains c

/-- Without the blanks at its front and its end. -/
def trimChars (cs : List Char) : List Char :=
  ((cs.dropWhile isBlank).reverse.dropWhile isBlank).reverse

def trim (s : String) : String := String.ofList (trimChars s.toList)

def IsBlankText (s : String) : Prop := s.toList.all isBlank

instance (s : String) : Decidable (IsBlankText s) :=
  inferInstanceAs (Decidable (s.toList.all isBlank = true))

end MarketDepth.Text
