/-
MarketDepth/Proofs/Json/Levels.lean

Reading levels that were written.

The form in which a book shows its levels is read back as these levels: with the scales
of their prices and amounts, and with their numbers, if they have some and these fit 64
bits.

Main result: `Json.reads_level`.
-/
import MarketDepth.Json.Decode
import MarketDepth.Json.Encode
import MarketDepth.Proofs.Book.Fits
import MarketDepth.Proofs.Decimal.Written
import MarketDepth.Proofs.Json.Numbers

namespace MarketDepth

namespace Json

open Reader

theorem reads_decimal (d : Decimal) : Reads Decimal.reader d.toJson.chars d where
  begins := ⟨'"', _, rfl, rfl, by decide⟩
  run := by
    intro rest _
    have htext := stringRest_written d.toText rest
    rw [Decimal.toJson, chars, textChars_append, Decimal.reader, bind_of_ok (require_cons rfl),
      if_pos rfl, bind_of_ok advance_cons, bind_of_ok htext, Decimal.ofText?_toText]
    rfl

theorem reads_id {i : Int} (h : IdFits i) : Reads idReader (Json.int i).chars i := by
  have hlimit : twoPow 63 ≤ twoPow 64 := by decide
  obtain ⟨hlow, hhigh⟩ := h
  exact reads_integer hlow hhigh hlow (by omega)

/-- A number is no null. -/
theorem reads_nullable_id {i : Int} (h : IdFits i) :
    Reads (nullable idReader) (Json.int i).chars (some i) := by
  refine (reads_id h).nullable ?_
  obtain ⟨c, cs, hchars, hc⟩ := head_intChars i
  rw [chars, hchars]
  rintro ⟨⟩
  rcases hc with hc | hc <;> cases hc

/-- A member of a record fills its slot with what its reader makes of the value. -/
theorem reads_slot {σ α : Type} {name : String} {required : Bool} {get : σ → Option α}
    {set : σ → α → σ} {r : Reader α} {text : List Char} {a : α} (s : σ) (h : Reads r text a) :
    Reads ((Member.slot name required get set r).read s) text (set s a) := h.map (set s)

/-- A written level is read back. -/
theorem reads_level {l : Level} (h : l.Fits) : Reads Level.reader l.toJson.chars l := by
  obtain ⟨price, amount, id⟩ := l
  have hfills : Fills Level.members {}
      ([("price", price.toJson), ("amount", amount.toJson)] ++
        (id.map fun i => ("id", Json.int i)).toList)
      { price := some price, amount := some amount, id := id.map some } := by
    refine .cons rfl rfl (reads_slot _ (reads_decimal price)) ?_
    refine .cons rfl rfl (reads_slot _ (reads_decimal amount)) ?_
    cases id with
    | none => exact .nil _
    | some i => exact .cons rfl rfl (reads_slot _ (reads_nullable_id (h i rfl))) (.nil _)
  have hrecord := reads_record hfills (by cases id <;> rfl)
  refine ⟨hrecord.begins, fun rest hrest => ?_⟩
  rw [Level.reader]
  refine (bind_of_ok (hrecord.run rest hrest)).trans ?_
  cases id <;> rfl

end Json

end MarketDepth
