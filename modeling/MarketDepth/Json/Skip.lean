/-
MarketDepth/Json/Skip.lean

Passing over values that nobody asked for.

A skipped value may nest to any depth and only has to look like JSON: its
strings may name surrogates that stand alone, and its numbers may be of any
size.
-/
import MarketDepth.Json.Reader

namespace MarketDepth.Json.Reader

/-- Passes over digits, of which there is at least one. -/
def skipDigits : Reader Unit := fun cs =>
  if cs.head?.any Char.isDigit then .ok ((), cs.dropWhile Char.isDigit) else .error .malformed

/-- Passes over an exponent, whose mark is next. -/
def skipExponent : Reader Unit := do
  advance
  match (← get).head? with
  | some '+' => advance
  | some '-' => advance
  | _ => pure ()
  skipDigits

/-- Passes over a number. -/
def skipNumber : Reader Unit := do
  if (← get).head? = some '-' then advance
  match ← get with
  | '0' :: rest =>
    if rest.head?.any Char.isDigit then throw .malformed
    advance
  | _ => skipDigits
  if (← get).head? = some '.' then
    advance
    skipDigits
  if (← get).head?.any Numeral.isExponentMark then skipExponent

/-- Passes over what stands between the opening quote of a string and the
closing one, which is consumed. -/
def skipStringBody : Nat → Reader Unit
  | 0 => throw .truncated
  | n + 1 => fun cs =>
    match cs with
    | [] => .error .truncated
    | '"' :: rest => .ok ((), rest)
    | '\\' :: [] => .error .truncated
    | '\\' :: 'u' :: rest => (do
        discard hexUnit
        skipStringBody n) rest
    | '\\' :: c :: rest =>
      if (escape? c).isSome then skipStringBody n rest else .error .malformed
    | c :: rest => if c.toNat < 32 then .error .malformed else skipStringBody n rest

def skipString : Reader Unit := do
  advance
  skipStringBody ((← get).length + 1)

/-- Passes over a name and the colon after it. -/
def skipName : Reader Unit := do
  if (← require) ≠ '"' then throw .malformed
  skipString
  if (← require) ≠ ':' then throw .malformed
  advance

mutual

/-- Passes over one value; `n` bounds the number of steps. -/
def skipValue : Nat → Reader Unit
  | 0 => throw .truncated
  | n + 1 => do
    let c ← require
    if c = 'n' then word ['n', 'u', 'l', 'l']
    else if c = 't' then word ['t', 'r', 'u', 'e']
    else if c = 'f' then word ['f', 'a', 'l', 's', 'e']
    else if c = '"' then skipString
    else if c = '-' ∨ c.isDigit then skipNumber
    else if c = '[' then
      advance
      if (← require) = ']' then advance else skipItems n
    else if c = '\x7b' then
      advance
      if (← require) = '\x7d' then advance else skipMembers n
    else throw .malformed

/-- Passes over the items of a list and its closing bracket. -/
def skipItems : Nat → Reader Unit
  | 0 => throw .truncated
  | n + 1 => do
    skipValue n
    let c ← require
    if c = ']' then advance
    else if c = ',' then
      advance
      skipItems n
    else throw .malformed

/-- Passes over the members of an object and its closing brace. -/
def skipMembers : Nat → Reader Unit
  | 0 => throw .truncated
  | n + 1 => do
    skipName
    skipValue n
    let c ← require
    if c = '\x7d' then advance
    else if c = ',' then
      advance
      skipMembers n
    else throw .malformed

end

/-- Passes over the next value. -/
def skip : Reader Unit := do skipValue ((← get).length + 1)

end MarketDepth.Json.Reader
