/-
MarketDepth/Json/Record.lean

Reading lists, choices between names, and records.

A record may be written as an object, whose members come in any order, once
each, with unknown ones passed over, or as a list of its members in order.
Either way it is read into slots, one for each member; members that may be left
out have a slot that is allowed to stay empty.
-/
import MarketDepth.Json.Skip

namespace MarketDepth.Json

/-- A member of a record that is read into slots `σ`. -/
structure Member (σ : Type) where
  name : String
  /-- The member may not be left out. -/
  required : Bool
  isFilled : σ → Bool
  read : σ → Reader σ

namespace Reader

/-! ### Lists -/

/-- Items after the first one, up to the closing bracket. -/
def moreItems (item : Reader α) : Nat → Reader (List α)
  | 0 => throw .truncated
  | n + 1 => do
    let c ← require
    if c = ']' then
      advance
      return []
    else if c = ',' then
      advance
      if (← require) = ']' then throw .malformed
      let a ← item
      return a :: (← moreItems item n)
    else throw .malformed

def list (item : Reader α) : Reader (List α) := do
  let c ← require
  if c ≠ '[' then refuse c
  else
    advance
    if (← require) = ']' then
      advance
      return []
    else
      let a ← item
      return a :: (← moreItems item ((← get).length + 1))

/-! ### Names -/

/-- One of a choice of names. -/
def name (choices : List (String × α)) : Reader α := do
  match choices.lookup (← string) with
  | some a => return a
  | none => throw .mistyped

/-- The colon after a name. -/
def colon : Reader Unit := do
  if (← require) ≠ ':' then throw .malformed
  advance

/-- A null. -/
def unit : Reader Unit := do
  let c ← require
  if c = 'n' then word ['n', 'u', 'l', 'l'] else refuse c

/-- One of a choice of names, written as a string or as an object with that
name and a null. -/
def choice (choices : List (String × α)) : Reader α := do
  let c ← require
  if c = '"' then name choices
  else if c = '\x7b' then
    advance
    let a ← name choices
    colon
    unit
    if (← require) ≠ '\x7d' then throw .malformed
    advance
    return a
  else throw .malformed

/-! ### Records -/

/-- Reads the member that was just named, or passes over its value. -/
def memberNamed (members : List (Member σ)) (s : σ) (key : String) : Reader σ := do
  match members.find? (·.name == key) with
  | some f =>
    if f.isFilled s then throw .mistyped
    colon
    f.read s
  | none =>
    colon
    skip
    return s

/-- Members of an object up to the closing brace; `first` says that none was read yet. -/
def objectMembers (members : List (Member σ)) (s : σ) (first : Bool) : Nat → Reader σ
  | 0 => throw .truncated
  | n + 1 => do
    let c ← require
    if c = '\x7d' then
      advance
      return s
    if first = false then
      if c ≠ ',' then throw .malformed
      advance
    if (← require) ≠ '"' then throw .malformed
    let s ← memberNamed members s (← string)
    objectMembers members s false n

/-- Members of a list in order; those left out at the end must not be required. -/
def listedMembers (s : σ) (first : Bool) : List (Member σ) → Reader σ
  | [] => return s
  | f :: rest => do
    let c ← require
    if c = ']' then
      if f.required then throw .mistyped
      listedMembers s first rest
    else
      if first = false then
        if c ≠ ',' then throw .malformed
        advance
        if (← require) = ']' then throw .malformed
      let s ← f.read s
      listedMembers s false rest

/-- The closing bracket of a list whose items are all read. -/
def listEnd : Reader Unit := do
  if (← require) ≠ ']' then throw .malformed
  advance

/-- A record, from its empty slots. -/
def record (members : List (Member σ)) (empty : σ) : Reader σ := do
  let c ← require
  if c = '\x7b' then
    advance
    let s ← objectMembers members empty true ((← get).length + 1)
    if members.all fun f => !f.required || f.isFilled s then return s else throw .mistyped
  else if c = '[' then
    advance
    let s ← listedMembers empty true members
    listEnd
    return s
  else refuse c

end Reader

end MarketDepth.Json
