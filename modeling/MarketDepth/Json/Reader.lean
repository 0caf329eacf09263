/-
MarketDepth/Json/Reader.lean

Reading JSON from left to right.

A reader takes what it needs from the front of the text and leaves the rest.
It stops at the first thing that is wrong, and says which of three ways it is
wrong: the text is no JSON, it is JSON of the wrong shape, or it ends too soon.
Since the shape is checked while reading, a wrong shape near the front is
reported even if the text further on is no JSON at all.

This module holds the steps that all readers share: blanks, fixed words,
strings, and the refusal of a value of the wrong kind.
-/
import MarketDepth.Json.Numeral

namespace MarketDepth.Json

abbrev Reader := StateT (List Char) (Except Fault)

namespace Reader

def isSpace (c : Char) : Bool := c == ' ' || c == '\n' || c == '\t' || c == '\r'

/-- The next character that is no blank; blanks before it are consumed, it is not. -/
def peek : Reader (Option Char) := fun cs =>
  let cs := cs.dropWhile isSpace
  .ok (cs.head?, cs)

/-- Consumes one character. -/
def advance : Reader Unit := fun cs => .ok ((), cs.tail)

/-- The next character that is no blank; the text must not end here. -/
def require : Reader Char := do
  match ← peek with
  | some c => return c
  | none => throw .truncated

/-- Consumes the letters of a fixed word. -/
def word : List Char → Reader Unit
  | [] => return
  | c :: rest => fun cs =>
    match cs with
    | [] => .error .truncated
    | d :: cs => if d = c then word rest cs else .error .malformed

/-! ### Strings -/

/-- The meaning of a character after a backslash, where it is not a code point. -/
def escape? (c : Char) : Option Char :=
  if c = '"' ∨ c = '\\' ∨ c = '/' then some c
  else if c = 'b' then some '\x08'
  else if c = 'f' then some '\x0c'
  else if c = 'n' then some '\n'
  else if c = 'r' then some '\r'
  else if c = 't' then some '\t'
  else none

/-- How many bytes the text takes. -/
def byteSize (cs : List Char) : Nat := (String.ofList cs).utf8ByteSize

/-- Four hexadecimal digits.  The text ends too soon if not even four bytes follow. -/
def hexUnit : Reader Nat := fun cs =>
  match cs with
  | a :: b :: c :: d :: rest =>
    match Text.hexDigit? a, Text.hexDigit? b, Text.hexDigit? c, Text.hexDigit? d with
    | some a, some b, some c, some d => .ok (((a * 16 + b) * 16 + c) * 16 + d, rest)
    | _, _, _, _ => .error .malformed
  | short => if byteSize short < 4 then .error .truncated else .error .malformed

def isHighSurrogate (n : Nat) : Bool := 0xD800 ≤ n && n ≤ 0xDBFF
def isLowSurrogate (n : Nat) : Bool := 0xDC00 ≤ n && n ≤ 0xDFFF

/-- Consumes one given character of a string. -/
def expect (c : Char) : Reader Unit := fun cs =>
  match cs with
  | [] => .error .truncated
  | d :: rest => if d = c then .ok ((), rest) else .error .malformed

/-- The character named by a code point, or by a pair of surrogates. -/
def codePoint : Reader Char := do
  let n ← hexUnit
  if isLowSurrogate n then throw .malformed
  else if isHighSurrogate n then
    expect '\\'
    expect 'u'
    let m ← hexUnit
    if isLowSurrogate m then
      return Char.ofNat (0x10000 + (n - 0xD800) * 0x400 + (m - 0xDC00))
    else throw .malformed
  else return Char.ofNat n

/-- What stands between the opening quote and the closing one, which is consumed.
`n` bounds the number of characters. -/
def stringBody : Nat → Reader (List Char)
  | 0 => throw .truncated
  | n + 1 => fun cs =>
    match cs with
    | [] => .error .truncated
    | '"' :: rest => .ok ([], rest)
    | '\\' :: [] => .error .truncated
    | '\\' :: 'u' :: rest => (do
        let c ← codePoint
        return c :: (← stringBody n)) rest
    | '\\' :: c :: rest =>
      match escape? c with
      | some c => (do return c :: (← stringBody n)) rest
      | none => .error .malformed
    | c :: rest =>
      if c.toNat < 32 then .error .malformed else (do return c :: (← stringBody n)) rest

/-- The rest of a string after its opening quote. -/
def stringRest : Reader String := do
  let cs ← stringBody ((← get).length + 1)
  return String.ofList cs

/-! ### Values of the wrong kind -/

/-- Refuses the value that begins with `c`.  A scalar is read first, since it may be no JSON. -/
def refuse (c : Char) : Reader α := do
  if c = 'n' then word ['n', 'u', 'l', 'l']
  else if c = 't' then word ['t', 'r', 'u', 'e']
  else if c = 'f' then word ['f', 'a', 'l', 's', 'e']
  else if c = '"' then
    advance
    discard stringRest
  else if c = '-' ∨ c.isDigit then discard Numeral.read
  else if c ≠ '[' ∧ c ≠ '\x7b' then throw .malformed
  throw .mistyped

/-! ### Scalars -/

def string : Reader String := do
  let c ← require
  if c = '"' then
    advance
    stringRest
  else refuse c

/-- A whole number between two bounds. -/
def integer (low high : Int) : Reader Int := do
  let c ← require
  if c = '-' ∨ c.isDigit then
    match ← Numeral.read with
    | .whole n => if low ≤ n ∧ n ≤ high then return n else throw .mistyped
    | .binary .. => throw .mistyped
  else refuse c

/-- A value or null. -/
def nullable (r : Reader α) : Reader (Option α) := do
  match ← peek with
  | some 'n' =>
    word ['n', 'u', 'l', 'l']
    return none
  | _ => return some (← r)

/-- The whole text: one value with nothing but blanks after it. -/
def complete (r : Reader α) (text : String) : Except Fault α := do
  let (a, rest) ← r.run text.toList
  if rest.all isSpace then return a else throw .malformed

end Reader

end MarketDepth.Json
