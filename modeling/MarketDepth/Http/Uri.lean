/-
MarketDepth/Http/Uri.lean

The parts of a request's target: the segments of its path and the fields of
its query, with percent escapes resolved.

An escape is a percent sign and two hexadecimal digits; a percent sign that is
followed by anything else stands for itself.  A path segment must be text when
its escapes are resolved.  In a query a plus sign is a blank, and bytes that
are no text are replaced.
-/
import MarketDepth.Text.Digit
import MarketDepth.Text.Utf8

namespace MarketDepth.Http

/-- The value of a hexadecimal digit that is given as a byte. -/
def hexValue? (b : UInt8) : Option UInt8 :=
  (Text.hexDigit? (Char.ofNat b.toNat)).map UInt8.ofNat

/-- Resolves percent escapes. -/
def unescape : List UInt8 → List UInt8
  | 0x25 :: a :: b :: rest =>
    match hexValue? a, hexValue? b with
    | some x, some y => (x * 16 + y) :: unescape rest
    | _, _ => 0x25 :: unescape (a :: b :: rest)
  | b :: rest => b :: unescape rest
  | [] => []

/-- A segment of a path, if it is text. -/
def decodeSegment (s : String) : Option String :=
  Text.Utf8.decode? (unescape (Text.Utf8.encode s))

/-- A name or a value of a query. -/
def decodeField (s : String) : String :=
  Text.Utf8.decodeLossy
    (unescape ((Text.Utf8.encode s).map fun b => if b = 0x2B then 0x20 else b))

/-- What stands before the first `c` and what after it, which is nothing if there is no `c`. -/
def splitFirst (c : Char) (s : String) : String × String :=
  let (before, after) := s.toList.span (· != c)
  (String.ofList before, String.ofList after.tail)

/-- A request's target. -/
structure Target where
  /-- The segments of the path after its leading slash. -/
  segments : List String
  /-- Names and values in the order of the query. -/
  query : List (String × String)

def parseQuery (s : String) : List (String × String) :=
  (s.splitOn "&").filter (· ≠ "") |>.map fun part =>
    let (name, value) := splitFirst '=' part
    (decodeField name, decodeField value)

/-- Takes a target apart.  A fragment is no part of it. -/
def Target.parse (uri : String) : Target :=
  let (uri, _) := splitFirst '#' uri
  let (path, query) := splitFirst '?' uri
  ⟨(path.splitOn "/").tail, parseQuery query⟩

end MarketDepth.Http
