/-
MarketDepth/Json/Value.lean

JSON values and their written form.

Numbers are whole; every other quantity travels as text.  The written form has
no blanks, keeps the order of members, and escapes in a string only what must
be: quotes, backslashes and the controls below the space.
-/

namespace MarketDepth

inductive Json
  | null
  | bool (b : Bool)
  | int (n : Int)
  | text (s : String)
  | list (items : List Json)
  | object (members : List (String × Json))
deriving Inhabited

namespace Json

def ofNat (n : Nat) : Json := int n

/-- The value, or null for none. -/
def ofOption (f : α → Json) : Option α → Json
  | some a => f a
  | none => null

def ofList (f : α → Json) (as : List α) : Json := list (as.map f)

/-! ### Written form -/

def hexDigit (n : Nat) : Char := Nat.digitChar n

/-- A character inside a string. -/
def escaped (c : Char) : List Char :=
  if c = '"' then ['\\', '"']
  else if c = '\\' then ['\\', '\\']
  else if c = '\x08' then ['\\', 'b']
  else if c = '\x0c' then ['\\', 'f']
  else if c = '\n' then ['\\', 'n']
  else if c = '\r' then ['\\', 'r']
  else if c = '\t' then ['\\', 't']
  else if c.toNat < 32 then
    ['\\', 'u', '0', '0', hexDigit (c.toNat / 16), hexDigit (c.toNat % 16)]
  else [c]

def textChars (s : String) : List Char := '"' :: s.toList.flatMap escaped ++ ['"']

def intChars (n : Int) : List Char :=
  if n < 0 then '-' :: Nat.toDigits 10 n.natAbs else Nat.toDigits 10 n.natAbs

mutual

/-- The written form. -/
def chars : Json → List Char
  | null => ['n', 'u', 'l', 'l']
  | bool true => ['t', 'r', 'u', 'e']
  | bool false => ['f', 'a', 'l', 's', 'e']
  | int n => intChars n
  | text s => textChars s
  | list items => '[' :: itemsChars items ++ [']']
  | object members => '\x7b' :: membersChars members ++ ['\x7d']

/-- Items with commas between them. -/
def itemsChars : List Json → List Char
  | [] => []
  | [v] => chars v
  | v :: rest => chars v ++ ',' :: itemsChars rest

/-- Members with commas between them. -/
def membersChars : List (String × Json) → List Char
  | [] => []
  | [f] => memberChars f
  | f :: rest => memberChars f ++ ',' :: membersChars rest

def memberChars : String × Json → List Char
  | (name, v) => textChars name ++ ':' :: chars v

end

def render (v : Json) : String := String.ofList v.chars

end Json

end MarketDepth
