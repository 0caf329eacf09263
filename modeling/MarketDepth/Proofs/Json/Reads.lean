/-
MarketDepth/Proofs/Json/Reads.lean

Reading what was written.

`Reads r text a` says that the reader `r` makes `a` of the text, whatever follows it that
may follow a value inside another one, and leaves what follows.  It holds of a written
string, and it goes from the parts of a value to the whole: from the items to a list, and
from the members to a record.  The members of a record fill its slots one after the other
(`Fills`), in whatever order they come.

Main results: `Json.reads_string`, `Json.reads_list` and `Json.reads_record`.
-/
import MarketDepth.Json.Record
import MarketDepth.Json.Value

namespace MarketDepth.Json

open Reader

variable {α β σ : Type} {r item : Reader α} {f : α → Reader β} {a : α} {as : List α} {c : Char}
variable {cs cs' cs'' text body : List Char} {n : Nat} {key : String}
variable {members : List (Member σ)} {m : Member σ} {s s' : σ}

/-! ### Single steps -/

namespace Reader

theorem bind_of_ok (h : r cs = .ok (a, cs')) : (r >>= f) cs = f a cs' := by
  show (r cs).bind _ = _
  rw [h]
  rfl

theorem bind_get {f : List Char → Reader β} : (get >>= f) cs = f cs cs := rfl

theorem peek_cons (h : isSpace c = false) : peek (c :: cs) = .ok (some c, c :: cs) := by
  simp [peek, List.dropWhile, h]

theorem require_cons (h : isSpace c = false) : require (c :: cs) = .ok (c, c :: cs) := by
  rw [require, bind_of_ok (peek_cons h)]
  rfl

theorem advance_cons : advance (c :: cs) = .ok ((), cs) := rfl

theorem string_quote : string ('"' :: cs) = stringRest cs := by
  rw [string, bind_of_ok (require_cons rfl), if_pos rfl, bind_of_ok advance_cons]

theorem colon_cons : colon (':' :: cs) = .ok ((), cs) := by
  rw [colon, bind_of_ok (require_cons rfl)]
  simp only [ne_eq, not_true_eq_false, if_false]
  exact advance_cons

theorem moreItems_close : moreItems item (n + 1) (']' :: cs) = .ok ([], cs) := by
  rw [moreItems, bind_of_ok (require_cons rfl), if_pos rfl, bind_of_ok advance_cons]
  rfl

theorem moreItems_comma (hspace : isSpace c = false) (hclose : c ≠ ']')
    (hitem : item (c :: cs) = .ok (a, cs')) (hmore : moreItems item n cs' = .ok (as, cs'')) :
    moreItems item (n + 1) (',' :: c :: cs) = .ok (a :: as, cs'') := by
  rw [moreItems, bind_of_ok (require_cons rfl), if_neg (by decide), if_pos rfl,
    bind_of_ok advance_cons, bind_of_ok (require_cons hspace), if_neg hclose]
  dsimp only
  rw [bind_of_ok hitem, bind_of_ok hmore]
  rfl

theorem objectMembers_close {first : Bool} :
    objectMembers members s first (n + 1) ('\x7d' :: cs) = .ok (s, cs) := by
  rw [objectMembers, bind_of_ok (require_cons rfl), if_pos rfl, bind_of_ok advance_cons]
  rfl

/-- The first member stands behind the brace at once, any other one behind a comma. -/
theorem objectMembers_quote (first : Bool) (hname : stringRest cs = .ok (key, cs'))
    (hmember : memberNamed members s key cs' = .ok (s', cs'')) :
    objectMembers members s first (n + 1) (if first then '"' :: cs else ',' :: '"' :: cs) =
      objectMembers members s' false n cs'' := by
  have hnext : string ('"' :: cs) = .ok (key, cs') := string_quote.trans hname
  cases first with
  | true =>
    rw [objectMembers, if_pos rfl, bind_of_ok (require_cons rfl), if_neg (by decide),
      if_neg (by decide)]
    dsimp only
    rw [bind_of_ok (require_cons rfl), if_neg (by decide), bind_of_ok hnext, bind_of_ok hmember]
  | false =>
    rw [objectMembers, if_neg (by decide), bind_of_ok (require_cons rfl), if_neg (by decide),
      if_pos rfl, if_neg (by decide)]
    dsimp only
    rw [bind_of_ok advance_cons, bind_of_ok (require_cons rfl), if_neg (by decide),
      bind_of_ok hnext, bind_of_ok hmember]

theorem memberNamed_colon (hnamed : members.find? (·.name == key) = some m)
    (hfree : m.isFilled s = false) (hread : m.read s cs = .ok (s', cs')) :
    memberNamed members s key (':' :: cs) = .ok (s', cs') := by
  rw [memberNamed]
  simp only [hnamed, hfree, Bool.false_eq_true, if_false]
  rw [bind_of_ok colon_cons, hread]

end Reader

/-! ### Reading a value inside another one -/

/-- What may follow a value inside another one: what parts it from the next one, or closes
the other; or nothing. -/
def Ends (rest : List Char) : Prop := ∀ c ∈ rest.head?, c = ',' ∨ c = ']' ∨ c = '\x7d'

theorem ends_nil : Ends [] := by
  rintro c ⟨⟩

theorem ends_comma (rest : List Char) : Ends (',' :: rest) := by
  rintro c ⟨⟩
  exact .inl rfl

theorem ends_bracket (rest : List Char) : Ends (']' :: rest) := by
  rintro c ⟨⟩
  exact .inr (.inl rfl)

theorem ends_brace (rest : List Char) : Ends ('\x7d' :: rest) := by
  rintro c ⟨⟩
  exact .inr (.inr rfl)

/-- A text that a value can begin with, as it begins neither with a blank nor with the end
of a list. -/
def Begins (text : List Char) : Prop := ∃ c cs, text = c :: cs ∧ isSpace c = false ∧ c ≠ ']'

/-- The reader makes `a` of the text, and leaves what follows. -/
structure Reads (r : Reader α) (text : List Char) (a : α) : Prop where
  begins : Begins text
  run : ∀ rest, Ends rest → r (text ++ rest) = .ok (a, rest)

/-- What is made of a value can be put to use. -/
theorem Reads.map (h : Reads r text a) (g : α → β) :
    Reads (do return g (← r)) text (g a) where
  begins := h.begins
  run := by
    intro rest hrest
    rw [bind_of_ok (h.run rest hrest)]
    rfl

/-- A value that does not begin like a null may be null as well. -/
theorem Reads.nullable (h : Reads r text a) (hnull : text.head? ≠ some 'n') :
    Reads (nullable r) text (some a) where
  begins := h.begins
  run := by
    intro rest hrest
    obtain ⟨c, cs, rfl, hspace, -⟩ := h.begins
    have hc : c ≠ 'n' := fun hc => hnull (congrArg some hc)
    have hrun := h.run rest hrest
    rw [List.cons_append] at hrun ⊢
    rw [Reader.nullable, bind_of_ok (peek_cons hspace)]
    generalize hnext : some c = next
    split
    · exact absurd (Option.some.inj hnext) hc
    · rw [bind_of_ok hrun]
      rfl

theorem Reads.complete (h : Reads r text a) : complete r (String.ofList text) = .ok a := by
  have hrun := h.run [] ends_nil
  rw [List.append_nil] at hrun
  unfold Reader.complete StateT.run
  rw [String.toList_ofList, hrun]
  rfl

/-! ### Strings -/

theorem hexDigit?_hexDigit : ∀ n < 16, Text.hexDigit? (hexDigit n) = some n := by decide

/-- A control character below the space is named by its code point. -/
theorem codePoint_escaped (hc : c.toNat < 32) (cs : List Char) :
    codePoint ('0' :: '0' :: hexDigit (c.toNat / 16) :: hexDigit (c.toNat % 16) :: cs) =
      .ok (c, cs) := by
  have hzero : Text.hexDigit? '0' = some 0 := by decide
  have hhigh := hexDigit?_hexDigit (c.toNat / 16) (by omega)
  have hlow := hexDigit?_hexDigit (c.toNat % 16) (by omega)
  have hvalue : ((0 * 16 + 0) * 16 + c.toNat / 16) * 16 + c.toNat % 16 = c.toNat := by omega
  have hunit : hexUnit
      ('0' :: '0' :: hexDigit (c.toNat / 16) :: hexDigit (c.toNat % 16) :: cs) =
        .ok (c.toNat, cs) := by
    simp only [hexUnit, hzero, hhigh, hlow, hvalue]
  have hlowSurrogate : isLowSurrogate c.toNat = false := by
    simp only [isLowSurrogate, Bool.and_eq_false_iff, decide_eq_false_iff_not]
    omega
  have hhighSurrogate : isHighSurrogate c.toNat = false := by
    simp only [isHighSurrogate, Bool.and_eq_false_iff, decide_eq_false_iff_not]
    omega
  rw [codePoint, bind_of_ok hunit]
  simp only [hlowSurrogate, hhighSurrogate, Bool.false_eq_true, if_false, Char.ofNat_toNat]
  rfl

theorem stringBody_plain (h : stringBody n cs = .ok (body, cs')) (hquote : c ≠ '"')
    (hback : c ≠ '\\') (hcontrol : 32 ≤ c.toNat) :
    stringBody (n + 1) (c :: cs) = .ok (c :: body, cs') := by
  have hrest : (do return c :: (← stringBody n)) cs = .ok (c :: body, cs') := by
    rw [bind_of_ok h]
    rfl
  simp only [stringBody]
  generalize htext : c :: cs = text
  split
  · cases htext
  · exact absurd (List.cons.inj htext).1 hquote
  · exact absurd (List.cons.inj htext).1 hback
  · exact absurd (List.cons.inj htext).1 hback
  · exact absurd (List.cons.inj htext).1 hback
  · obtain ⟨rfl, rfl⟩ := List.cons.inj htext
    rw [if_neg (by omega)]
    exact hrest

theorem stringBody_escape {d : Char} (h : stringBody n cs = .ok (body, cs'))
    (hescape : escape? d = some c) :
    stringBody (n + 1) ('\\' :: d :: cs) = .ok (c :: body, cs') := by
  have hu : d ≠ 'u' := by
    rintro rfl
    cases hescape
  have hrest : (do return c :: (← stringBody n)) cs = .ok (c :: body, cs') := by
    rw [bind_of_ok h]
    rfl
  simp only [stringBody, hescape]
  exact hrest

theorem stringBody_codePoint (h : stringBody n cs = .ok (body, cs'))
    (hpoint : codePoint text = .ok (c, cs)) :
    stringBody (n + 1) ('\\' :: 'u' :: text) = .ok (c :: body, cs') := by
  simp only [stringBody]
  rw [bind_of_ok hpoint, bind_of_ok h]
  rfl

/-- A written character is read back. -/
theorem stringBody_escaped (c : Char) (h : stringBody n cs = .ok (body, cs')) :
    stringBody (n + 1) (escaped c ++ cs) = .ok (c :: body, cs') := by
  unfold escaped
  split
  · next hc => exact stringBody_escape h (by rw [hc]; rfl)
  split
  · next hc => exact stringBody_escape h (by rw [hc]; rfl)
  split
  · next hc => exact stringBody_escape h (by rw [hc]; rfl)
  split
  · next hc => exact stringBody_escape h (by rw [hc]; rfl)
  split
  · next hc => exact stringBody_escape h (by rw [hc]; rfl)
  split
  · next hc => exact stringBody_escape h (by rw [hc]; rfl)
  split
  · next hc => exact stringBody_escape h (by rw [hc]; rfl)
  split
  · next hc => exact stringBody_codePoint h (codePoint_escaped hc cs)
  · next hquote hback _ _ _ _ _ hcontrol =>
    exact stringBody_plain h hquote hback (Nat.le_of_not_lt hcontrol)

/-- A written string is read back up to its closing quote. -/
theorem stringBody_written (chars rest : List Char) (h : chars.length < n) :
    stringBody n (chars.flatMap escaped ++ '"' :: rest) = .ok (chars, rest) := by
  induction chars generalizing n with
  | nil =>
    obtain ⟨n, rfl⟩ := Nat.exists_eq_add_one_of_ne_zero (Nat.ne_of_gt h)
    rfl
  | cons c chars ih =>
    obtain ⟨n, rfl⟩ := Nat.exists_eq_add_one_of_ne_zero (Nat.ne_of_gt (Nat.zero_lt_of_lt h))
    rw [List.flatMap_cons, List.append_assoc]
    exact stringBody_escaped c (ih (Nat.lt_of_succ_lt_succ h))

theorem length_le_flatMap {α : Type} (as : List α) {f : α → List Char} (h : ∀ a, f a ≠ []) :
    as.length ≤ (as.flatMap f).length := by
  induction as with
  | nil => exact Nat.le_refl 0
  | cons a as ih =>
    have ha := List.length_pos_iff.mpr (h a)
    rw [List.flatMap_cons, List.length_append, List.length_cons]
    omega

theorem escaped_ne_nil (c : Char) : escaped c ≠ [] := by
  unfold escaped
  repeat' split
  all_goals simp

theorem stringRest_written (s : String) (rest : List Char) :
    stringRest (s.toList.flatMap escaped ++ '"' :: rest) = .ok (s, rest) := by
  have hlength := length_le_flatMap s.toList escaped_ne_nil
  have hbody := stringBody_written s.toList rest
    (n := (s.toList.flatMap escaped ++ '"' :: rest).length + 1) (by
      rw [List.length_append]
      omega)
  rw [stringRest, bind_get, bind_of_ok hbody, String.ofList_toList]
  rfl

theorem textChars_append (s : String) (rest : List Char) :
    textChars s ++ rest = '"' :: (s.toList.flatMap escaped ++ '"' :: rest) := by
  simp [textChars]

/-- A written string is read back. -/
theorem reads_string (s : String) : Reads string (Json.text s).chars s where
  begins := ⟨'"', _, rfl, rfl, by decide⟩
  run := by
    intro rest _
    rw [chars, textChars_append, string_quote]
    exact stringRest_written s rest

/-- A written name of a choice is read as what it stands for. -/
theorem reads_choice {choices : List (String × α)} {s : String} (h : choices.lookup s = some a) :
    Reads (choice choices) (Json.text s).chars a where
  begins := (reads_string s).begins
  run := by
    intro rest hrest
    have hstring := (reads_string s).run rest hrest
    rw [chars, textChars_append] at hstring ⊢
    rw [choice, bind_of_ok (require_cons rfl), if_pos rfl, name, bind_of_ok hstring, h]
    rfl

/-! ### Lists -/

theorem itemsChars_cons (v : Json) (vs : List Json) :
    itemsChars (v :: vs) = v.chars ++ vs.flatMap fun v => ',' :: v.chars := by
  induction vs generalizing v with
  | nil => simp [itemsChars]
  | cons w vs ih =>
    rw [itemsChars, ih, List.flatMap_cons, List.cons_append]
    exact List.cons_ne_nil w vs

theorem ends_items (vs : List Json) (rest : List Char) :
    Ends ((vs.flatMap fun v => ',' :: v.chars) ++ ']' :: rest) := by
  cases vs with
  | nil => exact ends_bracket rest
  | cons v vs => exact ends_comma _

/-- What is written of the items behind the first one is read back. -/
theorem moreItems_written {write : α → Json} (hitem : ∀ a ∈ as, Reads item (write a).chars a)
    (hn : as.length < n) (rest : List Char) :
    moreItems item n (((as.map write).flatMap fun v => ',' :: v.chars) ++ ']' :: rest) =
      .ok (as, rest) := by
  induction as generalizing n with
  | nil =>
    obtain ⟨n, rfl⟩ := Nat.exists_eq_add_one_of_ne_zero (Nat.ne_of_gt hn)
    exact moreItems_close
  | cons a as ih =>
    obtain ⟨n, rfl⟩ := Nat.exists_eq_add_one_of_ne_zero (Nat.ne_of_gt (Nat.zero_lt_of_lt hn))
    obtain ⟨ha, has⟩ := List.forall_mem_cons.mp hitem
    obtain ⟨c, cs, htext, hspace, hclose⟩ := ha.begins
    have hfirst := ha.run _ (ends_items (as.map write) rest)
    rw [List.map_cons, List.flatMap_cons, List.append_assoc, List.cons_append]
    rw [htext, List.cons_append] at hfirst ⊢
    exact moreItems_comma hspace hclose hfirst (ih has (Nat.lt_of_succ_lt_succ hn))

/-- A written list is read back if its items are. -/
theorem reads_list {write : α → Json} (hitem : ∀ a ∈ as, Reads item (write a).chars a) :
    Reads (Reader.list item) (Json.ofList write as).chars as where
  begins := ⟨'[', _, rfl, rfl, by decide⟩
  run := by
    intro rest _
    have hchars : (Json.ofList write as).chars ++ rest =
        '[' :: (itemsChars (as.map write) ++ ']' :: rest) := by
      simp [Json.ofList, chars]
    rw [hchars, Reader.list, bind_of_ok (require_cons rfl), if_neg (by decide),
      bind_of_ok advance_cons]
    cases as with
    | nil =>
      rw [List.map_nil, itemsChars, List.nil_append, bind_of_ok (require_cons rfl), if_pos rfl]
      rfl
    | cons a as =>
      obtain ⟨ha, has⟩ := List.forall_mem_cons.mp hitem
      obtain ⟨c, cs, htext, hspace, hclose⟩ := ha.begins
      have hfirst := ha.run _ (ends_items (as.map write) rest)
      have hlength := length_le_flatMap (as.map write) (f := fun v => ',' :: v.chars) (by simp)
      rw [List.map_cons, itemsChars_cons, List.append_assoc]
      rw [htext, List.cons_append] at hfirst ⊢
      rw [bind_of_ok (require_cons hspace), if_neg hclose, bind_of_ok hfirst, bind_get]
      have hn : as.length <
          (((as.map write).flatMap fun v => ',' :: v.chars) ++ ']' :: rest).length + 1 := by
        rw [List.length_map] at hlength
        rw [List.length_append]
        omega
      rw [bind_of_ok (moreItems_written has hn rest)]
      rfl

/-! ### Records -/

/-- Written members fill the slots of a record, each its own. -/
inductive Fills (members : List (Member σ)) : σ → List (String × Json) → σ → Prop
  | nil (s : σ) : Fills members s [] s
  | cons {s s₁ s' : σ} {m : Member σ} {name : String} {v : Json} {rest : List (String × Json)}
      (named : members.find? (·.name == name) = some m) (free : m.isFilled s = false)
      (reads : Reads (m.read s) v.chars s₁) (fills : Fills members s₁ rest s') :
      Fills members s ((name, v) :: rest) s'

theorem membersChars_cons (f : String × Json) (fs : List (String × Json)) :
    membersChars (f :: fs) = memberChars f ++ fs.flatMap fun f => ',' :: memberChars f := by
  induction fs generalizing f with
  | nil => simp [membersChars]
  | cons g fs ih =>
    rw [membersChars, ih, List.flatMap_cons, List.cons_append]
    exact List.cons_ne_nil g fs

theorem ends_members (fs : List (String × Json)) (rest : List Char) :
    Ends ((fs.flatMap fun f => ',' :: memberChars f) ++ '\x7d' :: rest) := by
  cases fs with
  | nil => exact ends_brace rest
  | cons f fs => exact ends_comma _

/-- The first of some members is read off the text, whether it is the first of all or not. -/
theorem objectMembers_written (first : Bool) {name : String} {v : Json}
    (fs : List (String × Json)) (hnamed : members.find? (·.name == name) = some m)
    (hfree : m.isFilled s = false) (hread : Reads (m.read s) v.chars s') (rest : List Char) :
    objectMembers members s first (n + 1)
        ((if first then [] else [',']) ++ memberChars (name, v) ++
          ((fs.flatMap fun f => ',' :: memberChars f) ++ '\x7d' :: rest)) =
      objectMembers members s' false n
        ((fs.flatMap fun f => ',' :: memberChars f) ++ '\x7d' :: rest) := by
  have hvalue := memberNamed_colon hnamed hfree (hread.run _ (ends_members fs rest))
  have hname := stringRest_written name
    (':' :: (v.chars ++ ((fs.flatMap fun f => ',' :: memberChars f) ++ '\x7d' :: rest)))
  refine Eq.trans ?_ (objectMembers_quote first hname hvalue)
  cases first <;> simp [memberChars, textChars]

theorem Fills.objectMembers {fs : List (String × Json)} (h : Fills members s fs s')
    (hn : fs.length < n) (rest : List Char) :
    objectMembers members s false n
        ((fs.flatMap fun f => ',' :: memberChars f) ++ '\x7d' :: rest) = .ok (s', rest) := by
  induction h generalizing n with
  | nil s =>
    obtain ⟨n, rfl⟩ := Nat.exists_eq_add_one_of_ne_zero (Nat.ne_of_gt hn)
    exact objectMembers_close
  | @cons _ _ _ _ _ _ fs named free reads _ ih =>
    obtain ⟨n, rfl⟩ := Nat.exists_eq_add_one_of_ne_zero (Nat.ne_of_gt (Nat.zero_lt_of_lt hn))
    have hfirst := objectMembers_written (n := n) false fs named free reads rest
    rw [List.flatMap_cons, List.append_assoc]
    exact hfirst.trans (ih (Nat.lt_of_succ_lt_succ hn))

/-- A written record is read back if its members fill the slots that must be filled. -/
theorem reads_record {fs : List (String × Json)} (h : Fills members s fs s')
    (hfilled : (members.all fun f => !f.required || f.isFilled s') = true) :
    Reads (record members s) (Json.object fs).chars s' where
  begins := ⟨'\x7b', _, rfl, rfl, by decide⟩
  run := by
    intro rest _
    have hchars : (Json.object fs).chars ++ rest =
        '\x7b' :: (membersChars fs ++ '\x7d' :: rest) := by
      simp [chars]
    have hmembers : Reader.objectMembers members s true
        ((membersChars fs ++ '\x7d' :: rest).length + 1) (membersChars fs ++ '\x7d' :: rest) =
          .ok (s', rest) := by
      cases h with
      | nil s => exact objectMembers_close
      | @cons _ s₁ _ m name v fs named free reads fills =>
        have hlength := length_le_flatMap fs (f := fun f => ',' :: memberChars f) (by simp)
        have hfirst := objectMembers_written
          (n := (membersChars ((name, v) :: fs) ++ '\x7d' :: rest).length) true fs named free
          reads rest
        rw [membersChars_cons, List.append_assoc] at hfirst ⊢
        refine hfirst.trans (fills.objectMembers ?_ rest)
        simp only [List.length_append, List.length_cons]
        omega
    rw [hchars, record, bind_of_ok (require_cons rfl), if_pos rfl, bind_of_ok advance_cons,
      bind_get, bind_of_ok hmembers, if_pos hfilled]
    rfl

end MarketDepth.Json
