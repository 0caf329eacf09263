/-
MarketDepth/Word.lean

Reading the words that venues use for sides, market segments and pairs.

A word for a side or a segment is taken without the blanks around it and in
any mixture of the cases of its letters, from a fixed list of aliases.  A pair
is split at the first of its delimiters, and neither part may be blank.
-/
import MarketDepth.BookError

namespace MarketDepth

/-- The meaning of a word in a list of aliases, all of them in small letters.
Only the letters from a to z count as the same in both cases. -/
def Vocabulary.lookup (wanted : Vocabulary) (aliases : List (String × α)) (word : String) :
    Except BookError α :=
  let folded := (Text.trimChars word.toList).map Char.toLower
  match aliases.find? fun p => p.1.toList == folded with
  | some (_, meaning) => .ok meaning
  | none => .error (.unknownWord wanted word)

def Side.aliases : List (String × Side) :=
  [("bid", bid), ("bids", bid), ("buy", bid), ("b", bid),
   ("ask", ask), ("asks", ask), ("sell", ask), ("a", ask), ("s", ask)]

def Side.ofWord (word : String) : Except BookError Side := Vocabulary.side.lookup aliases word

def Segment.aliases : List (String × Segment) :=
  [("spot", spot), ("margin", margin), ("futures", futures),
   ("perpetual_swap", perpetualSwap), ("perp", perpetualSwap), ("swap", perpetualSwap),
   ("options", options)]

def Segment.ofWord (word : String) : Except BookError Segment :=
  Vocabulary.segment.lookup aliases word

/-- Between the base and the quote currency stands a hyphen, a slash or an underscore. -/
def Pair.isDelimiter (c : Char) : Bool := c == '-' || c == '/' || c == '_'

def Pair.ofWord (word : String) : Except BookError Pair :=
  match word.toList.span fun c => !isDelimiter c with
  | (_, []) => .error (.invalidPair word)
  | (base, _ :: quote) =>
    if base.all Text.isBlank || quote.all Text.isBlank then .error (.invalidPair word)
    else .ok (ofCurrencies (String.ofList base) (String.ofList quote))

/-- The key that three words spell; a bad pair is reported before a bad segment. -/
def Key.ofWords (exchange pair segment : String) : Except BookError Key := do
  let pair ← Pair.ofWord pair
  let segment ← Segment.ofWord segment
  return ofParts exchange pair segment

end MarketDepth
