/-
MarketDepth/Proofs/Checksum.lean

What the checksum sees of a book.

A field of the text that the checksum is taken over is never empty and holds no colon, so
the fields can be read back from the text (`unjoin_intercalate`), two by two they tell in
which values a level agrees with another (`flatMap_fields_eq_iff`), and once it is known how
many levels each side gives, the two sides can be taken apart again
(`forall₂_interleave_iff`).

Main results: `Checksum.payload_eq_iff` and, since the text holds nothing that takes more
than a byte, `Checksum.ofLevels_eq`.
-/
import MarketDepth.Checksum
import MarketDepth.Proofs.Decimal.Normal
import MarketDepth.Proofs.Decimal.Values
import Mathlib.Data.List.Forall2

namespace MarketDepth

open List (Forall₂)

/-- The prices agree in value, and so do the amounts. -/
structure Level.Agrees (x y : Level) : Prop where
  price : x.price ≈ y.price
  amount : x.amount ≈ y.amount

namespace Checksum

variable {α : Type} {R : α → α → Prop} {xs xs' ys ys' : List α}
variable {x y : Level} {ls ls' bids bids' asks asks' : List Level} {depth : Nat}
variable {f : List Char} {fs : List (List Char)} {c : Char}

/-! ### The fields of the levels -/

theorem fields_eq_iff : fields x = fields y ↔ x.Agrees y := by
  rw [fields, fields, List.cons_eq_cons, List.cons_eq_cons, Decimal.toChars_normalize_eq_iff,
    Decimal.toChars_normalize_eq_iff]
  exact ⟨fun ⟨hprice, hamount, _⟩ => ⟨hprice, hamount⟩,
    fun ⟨hprice, hamount⟩ => ⟨hprice, hamount, rfl⟩⟩

theorem flatMap_fields_eq_iff :
    ls.flatMap fields = ls'.flatMap fields ↔ Forall₂ Level.Agrees ls ls' := by
  induction ls generalizing ls' with
  | nil =>
    cases ls' with
    | nil => simp
    | cons y ls' => simp [fields]
  | cons x ls ih =>
    cases ls' with
    | nil => simp [fields]
    | cons y ls' =>
      rw [List.flatMap_cons, List.flatMap_cons, List.forall₂_cons, ← fields_eq_iff, ← ih]
      constructor
      · exact fun h => List.append_inj h rfl
      · exact fun ⟨hx, hls⟩ => by rw [hx, hls]

/-- A field is a written decimal. -/
theorem exists_of_mem_fields (hf : f ∈ ls.flatMap fields) : ∃ d : Decimal, f = d.toChars := by
  obtain ⟨x, -, hf⟩ := List.mem_flatMap.mp hf
  rcases List.mem_cons.mp hf with rfl | hf
  · exact ⟨_, rfl⟩
  · exact ⟨_, List.mem_singleton.mp hf⟩

theorem ne_nil_of_mem_fields (hf : f ∈ ls.flatMap fields) : f ≠ [] := by
  obtain ⟨d, rfl⟩ := exists_of_mem_fields hf
  exact d.toChars_ne_nil

theorem colon_notMem_of_mem_fields (hf : f ∈ ls.flatMap fields) : ':' ∉ f := by
  obtain ⟨d, rfl⟩ := exists_of_mem_fields hf
  intro hcolon
  rcases Decimal.mem_toChars hcolon with hdigit | hpoint | hsign
  · exact absurd hdigit (by decide)
  · exact absurd hpoint (by decide)
  · exact absurd hsign (by decide)

/-! ### Reading the fields back -/

/-- The pieces between the colons; an empty text has none. -/
def unjoin (text : List Char) : List (List Char) :=
  if text = [] then [] else text.splitOn ':'

theorem unjoin_intercalate (hfull : ∀ f ∈ fs, f ≠ []) (hcolon : ∀ f ∈ fs, ':' ∉ f) :
    unjoin ([':'].intercalate fs) = fs := by
  by_cases hfs : fs = []
  · subst hfs
    rfl
  · have hsplit := List.splitOn_intercalate ':' hcolon hfs
    have htext : [':'].intercalate fs ≠ [] := by
      intro hempty
      -- the one piece of an empty text would be an empty field
      rw [hempty] at hsplit
      exact hfull [] (hsplit ▸ List.mem_singleton_self []) rfl
    rw [unjoin, if_neg htext, hsplit]

theorem unjoin_payload : unjoin (payload bids asks depth) =
    (interleave (bids.take depth) (asks.take depth)).flatMap fields :=
  unjoin_intercalate (fun _ => ne_nil_of_mem_fields) fun _ => colon_notMem_of_mem_fields

/-- Without a count of the levels, the text tells what the sides give in turn. -/
theorem payload_eq_iff_interleave : payload bids asks depth = payload bids' asks' depth ↔
    Forall₂ Level.Agrees (interleave (bids.take depth) (asks.take depth))
      (interleave (bids'.take depth) (asks'.take depth)) := by
  rw [← flatMap_fields_eq_iff]
  constructor
  · intro h
    rw [← unjoin_payload, ← unjoin_payload, h]
  · intro h
    rw [payload, payload, h]

/-! ### Taking the sides apart -/

theorem forall₂_interleave_iff (hxs : xs.length = xs'.length) (hys : ys.length = ys'.length) :
    Forall₂ R (interleave xs ys) (interleave xs' ys') ↔ Forall₂ R xs xs' ∧ Forall₂ R ys ys' := by
  fun_induction interleave xs ys generalizing xs' ys' with
  | case1 ys =>
    obtain rfl := List.length_eq_zero_iff.mp hxs.symm
    simp [interleave]
  | case2 x xs =>
    obtain rfl := List.length_eq_zero_iff.mp hys.symm
    obtain ⟨x', xs', rfl⟩ := List.exists_cons_of_length_eq_add_one hxs.symm
    simp [interleave]
  | case3 x xs y ys ih =>
    obtain ⟨x', xs', rfl⟩ := List.exists_cons_of_length_eq_add_one hxs.symm
    obtain ⟨y', ys', rfl⟩ := List.exists_cons_of_length_eq_add_one hys.symm
    rw [interleave, List.forall₂_cons, List.forall₂_cons, List.forall₂_cons, List.forall₂_cons,
      ih (Nat.succ.inj hxs) (Nat.succ.inj hys)]
    constructor
    · exact fun ⟨hx, hy, hxs, hys⟩ => ⟨⟨hx, hxs⟩, hy, hys⟩
    · exact fun ⟨⟨hx, hxs⟩, hy, hys⟩ => ⟨hx, hy, hxs, hys⟩

/-- **What the checksum is taken over.**  Where the sides of two books give as many levels
each, down to a depth, the texts are the same exactly if the levels down to that depth agree
in the values of their prices and amounts: scales, numbers and what lies deeper make no
difference, and every other difference shows. -/
theorem payload_eq_iff (hbids : min depth bids.length = min depth bids'.length)
    (hasks : min depth asks.length = min depth asks'.length) :
    payload bids asks depth = payload bids' asks' depth ↔
      Forall₂ Level.Agrees (bids.take depth) (bids'.take depth) ∧
        Forall₂ Level.Agrees (asks.take depth) (asks'.take depth) := by
  rw [← List.length_take, ← List.length_take] at hbids hasks
  rw [payload_eq_iff_interleave, forall₂_interleave_iff hbids hasks]

/-! Two ways to write the top of one book, the second with numbers and a bid further down. -/

def plainBids : List Level := [⟨.hundred, .tenths 15, none⟩, ⟨.tenths 995, .two, none⟩]

def plainAsks : List Level := [⟨.tenths 1005, .hundred, none⟩]

def paddedBids : List Level :=
  [⟨.tenths 1000, .tenths 15, some 7⟩, ⟨.tenths 995, .tenths 20, some 8⟩,
    ⟨.tenths 990, .two, some 9⟩]

def paddedAsks : List Level := [⟨.tenths 1005, .tenths 1000, some 10⟩]

theorem payload_of_padded :
    min 2 plainBids.length = min 2 paddedBids.length ∧
      min 2 plainAsks.length = min 2 paddedAsks.length ∧
      payload plainBids plainAsks 2 = payload paddedBids paddedAsks 2 ∧
      payload plainBids plainAsks 2 = "100:1.5:100.5:100:99.5:2".toList := by
  refine ⟨by decide, by decide, (payload_eq_iff (by decide) (by decide)).mpr ⟨?_, ?_⟩, by decide⟩
  · exact .cons ⟨by decide, by decide⟩ (.cons ⟨by decide, by decide⟩ .nil)
  · exact .cons ⟨by decide, by decide⟩ .nil

/-! How many levels each side gives has to be known: a lone bid reads like a lone ask. -/

example (x : Level) : payload [x] [] 1 = payload [] [x] 1 := rfl

/-! ### From the text to the checksum -/

theorem mem_intercalate (hc : c ∈ [':'].intercalate fs) : c = ':' ∨ ∃ f ∈ fs, c ∈ f := by
  induction fs with
  | nil => cases hc
  | cons f fs ih =>
    by_cases hfs : fs = []
    · subst hfs
      rw [List.intercalate_singleton] at hc
      exact .inr ⟨f, List.mem_cons_self, hc⟩
    · rw [List.intercalate_cons_of_ne_nil hfs, List.mem_append, List.mem_append] at hc
      rcases hc with (hf | hcolon) | hrest
      · exact .inr ⟨f, List.mem_cons_self, hf⟩
      · exact .inl (List.mem_singleton.mp hcolon)
      · exact (ih hrest).imp_right fun ⟨g, hg, hc⟩ => ⟨g, List.mem_cons_of_mem f hg, hc⟩

theorem toNat_lt_of_mem_payload (hc : c ∈ payload bids asks depth) : c.toNat < 128 := by
  rcases mem_intercalate hc with rfl | ⟨f, hf, hc⟩
  · decide
  · obtain ⟨d, rfl⟩ := exists_of_mem_fields hf
    rcases Decimal.mem_toChars hc with hdigit | rfl | rfl
    · have hlast : c.toNat ≤ '9'.toNat := (Char.isDigit_iff_toNat.mp hdigit).2
      exact Nat.lt_of_le_of_lt hlast (by decide)
    · decide
    · decide

/-- A character below 128 is encoded as the byte with its number. -/
theorem utf8EncodeChar_eq (hc : c.toNat < 128) : String.utf8EncodeChar c = [c.toNat.toUInt8] := by
  have hle : c.val.toNat ≤ 127 := Nat.le_of_lt_succ hc
  simp only [String.utf8EncodeChar, if_pos hle]
  rfl

/-- **The checksum is that of the text's bytes**, in the encoding that texts have. -/
theorem ofLevels_eq : ofLevels bids asks depth =
    Crc32.ofBytes ((payload bids asks depth).flatMap String.utf8EncodeChar) := by
  have hbytes : (payload bids asks depth).flatMap String.utf8EncodeChar =
      (payload bids asks depth).map fun c => c.toNat.toUInt8 := by
    rw [← List.flatMap_pure_eq_map]
    exact List.flatMap_congr fun c hc => utf8EncodeChar_eq (toNat_lt_of_mem_payload hc)
  rw [ofLevels, hbytes]

end Checksum

end MarketDepth
