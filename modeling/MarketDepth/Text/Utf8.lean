/-
MarketDepth/Text/Utf8.lean

Reading bytes as text in UTF-8.

The decoder goes byte by byte.  Between characters a byte says how many
continuation bytes follow it and narrows the range of the first of them, which
keeps out overlong forms, surrogates and what lies beyond the last code point.
A byte that cannot continue a character ends it as garbage and is looked at
anew, so that every maximal run of bytes that could have begun a character
counts as one piece of garbage.
-/

namespace MarketDepth.Text.Utf8

/-- A character under way: its bits so far, how many bytes it still needs, and
the range that the next of them must lie in. -/
structure Partial where
  bits : Nat
  needed : Nat
  low : UInt8
  high : UInt8

/-- A decoded piece: a character, or none for garbage. -/
abbrev Piece := Option Char

/-- What a byte between characters is: a character, the start of one, or garbage. -/
def lead (b : UInt8) : Piece ⊕ Partial :=
  if b < 0x80 then .inl (some (Char.ofNat b.toNat))
  else if 0xC2 ≤ b ∧ b ≤ 0xDF then .inr ⟨b.toNat - 0xC0, 1, 0x80, 0xBF⟩
  else if b = 0xE0 then .inr ⟨0, 2, 0xA0, 0xBF⟩
  else if b = 0xED then .inr ⟨0xD, 2, 0x80, 0x9F⟩
  else if 0xE1 ≤ b ∧ b ≤ 0xEF then .inr ⟨b.toNat - 0xE0, 2, 0x80, 0xBF⟩
  else if b = 0xF0 then .inr ⟨0, 3, 0x90, 0xBF⟩
  else if 0xF1 ≤ b ∧ b ≤ 0xF3 then .inr ⟨b.toNat - 0xF0, 3, 0x80, 0xBF⟩
  else if b = 0xF4 then .inr ⟨4, 3, 0x80, 0x8F⟩
  else .inl none

/-- A character with one more continuation byte. -/
def Partial.extend (p : Partial) (b : UInt8) : Piece ⊕ Partial :=
  let bits := p.bits * 64 + (b.toNat - 0x80)
  if p.needed = 1 then .inl (some (Char.ofNat bits)) else .inr ⟨bits, p.needed - 1, 0x80, 0xBF⟩

/-- The pieces of a text; `under` is the character under way, if there is one. -/
def pieces (under : Option Partial) : List UInt8 → List Piece
  | [] => if under.isSome then [none] else []
  | b :: rest =>
    match under with
    | none =>
      match lead b with
      | .inl piece => piece :: pieces none rest
      | .inr p => pieces (some p) rest
    | some p =>
      if p.low ≤ b ∧ b ≤ p.high then
        match p.extend b with
        | .inl piece => piece :: pieces none rest
        | .inr p => pieces (some p) rest
      else
        match lead b with
        | .inl piece => none :: piece :: pieces none rest
        | .inr p => none :: pieces (some p) rest

/-- The text of bytes that are UTF-8 throughout. -/
def decode? (bytes : List UInt8) : Option String :=
  ((pieces none bytes).mapM id).map String.ofList

/-- The text of bytes, with a replacement character for each piece of garbage. -/
def decodeLossy (bytes : List UInt8) : String :=
  String.ofList ((pieces none bytes).map (·.getD '\ufffd'))

/-- The bytes of a text. -/
def encode (s : String) : List UInt8 := s.toUTF8.toList

end MarketDepth.Text.Utf8
