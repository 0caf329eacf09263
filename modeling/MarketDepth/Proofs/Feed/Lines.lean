/-
MarketDepth/Proofs/Feed/Lines.lean

Where a line of a feed stands.

A line ends at a line feed, or else at the end of the text if anything is left there;
a carriage return in front of the line feed does not belong to what it says.
`LineAt text pre raw post line` says this of the bytes themselves: behind `pre`, which is
made of whole lines, stand the bytes `raw` of one line, which says `line`.  The number of
the line is one more than the number of line feeds in `pre`, whatever the lines in `pre`
say.

Main result: `Feed.exists_lineAt`, that every line that a text is split into stands
somewhere in it, behind the bytes of those before it.
-/
import MarketDepth.Feed.Replay

namespace MarketDepth.Feed

/-- The bytes `raw` are one line of a text, with what ends it, and the line says `line`;
`post` is what stands behind it. -/
inductive OneLine : List UInt8 → List UInt8 → List UInt8 → Prop
  /-- A line that a line feed ends. -/
  | fed {post line : List UInt8} (h : 10 ∉ line) (hreturn : line.getLast? ≠ some 13) :
    OneLine (line ++ [10]) post line
  /-- A line that a carriage return and a line feed end. -/
  | returned {post line : List UInt8} (h : 10 ∉ line) : OneLine (line ++ [13, 10]) post line
  /-- The last line, without an end. -/
  | unended {line : List UInt8} (h : 10 ∉ line) (hne : line ≠ []) : OneLine line [] line

variable {text pre raw post line body : List UInt8} {before after : List (List UInt8)}

/-! ### Whole lines -/

/-- The text is empty, or ends in a line feed. -/
def Whole (text : List UInt8) : Prop := text = [] ∨ ∃ front, text = front ++ [10]

theorem Whole.append (h : Whole pre) (h' : Whole post) : Whole (pre ++ post) := by
  rcases h' with rfl | ⟨front, rfl⟩
  · rwa [List.append_nil]
  · exact .inr ⟨pre ++ front, by rw [List.append_assoc]⟩

theorem splitLines_append_feed (line front post : List UInt8) :
    splitLines line (front ++ 10 :: post) =
      splitLines line (front ++ [10]) ++ splitLines [] post := by
  induction front generalizing line with
  | nil => rfl
  | cons b front ih =>
    simp only [List.cons_append, splitLines]
    split
    · rw [ih, List.cons_append]
    · exact ih _

/-- What follows whole lines is split for itself. -/
theorem Whole.splitLines_append (h : Whole pre) (post : List UInt8) :
    splitLines [] (pre ++ post) = splitLines [] pre ++ splitLines [] post := by
  rcases h with rfl | ⟨front, rfl⟩
  · rfl
  · rw [List.append_assoc, List.singleton_append, splitLines_append_feed]

theorem length_splitLines_feed (line front : List UInt8) :
    (splitLines line (front ++ [10])).length = front.count 10 + 1 := by
  induction front generalizing line with
  | nil => rfl
  | cons b front ih =>
    simp only [List.cons_append, splitLines]
    split
    · next hb => rw [List.length_cons, ih, hb, List.count_cons_self]
    · next hb => rw [ih, List.count_cons_of_ne hb]

/-- There are as many whole lines as line feeds. -/
theorem Whole.length_splitLines (h : Whole pre) : (splitLines [] pre).length = pre.count 10 := by
  rcases h with rfl | ⟨front, rfl⟩
  · rfl
  · rw [length_splitLines_feed, List.count_append, List.count_singleton_self]

/-! ### One line -/

theorem splitLines_of_not_mem (h : 10 ∉ body) (line post : List UInt8) :
    splitLines line (body ++ post) = splitLines (body.reverse ++ line) post := by
  induction body generalizing line with
  | nil => rfl
  | cons b body ih =>
    obtain ⟨hb, hbody⟩ := List.ne_and_not_mem_of_not_mem_cons h
    have hstep : splitLines line (b :: (body ++ post)) = splitLines (b :: line) (body ++ post) := by
      simp only [splitLines, if_neg (Ne.symm hb)]
    rw [List.cons_append, hstep, ih hbody, List.reverse_cons, List.append_assoc,
      List.singleton_append]

/-- A text begins with a line feed behind something without any, or has none. -/
theorem exists_body (text : List UInt8) : ∃ body rest, text = body ++ rest ∧ 10 ∉ body ∧
    (rest = [] ∨ ∃ post, rest = 10 :: post) := by
  induction text with
  | nil => exact ⟨[], [], rfl, by simp, .inl rfl⟩
  | cons b text ih =>
    by_cases hb : b = 10
    · exact ⟨[], b :: text, rfl, by simp, .inr ⟨text, by rw [hb]⟩⟩
    · obtain ⟨body, rest, htext, hbody, hrest⟩ := ih
      have hbody' : 10 ∉ b :: body := by simp [Ne.symm hb, hbody]
      exact ⟨b :: body, rest, by rw [htext, List.cons_append], hbody', hrest⟩

/-- A text begins with a line if there is anything in it. -/
theorem exists_oneLine (h : text ≠ []) :
    ∃ raw post line, text = raw ++ post ∧ OneLine raw post line := by
  obtain ⟨body, rest, rfl, hbody, hrest⟩ := exists_body text
  rcases hrest with rfl | ⟨post, rfl⟩
  · rw [List.append_nil] at h ⊢
    exact ⟨body, [], body, (List.append_nil _).symm, .unended hbody h⟩
  · by_cases hreturn : body.getLast? = some 13
    · obtain ⟨line, rfl⟩ := List.getLast?_eq_some_iff.mp hreturn
      exact ⟨line ++ [13, 10], post, line, by simp,
        .returned fun hin => hbody (List.mem_append_left _ hin)⟩
    · exact ⟨body ++ [10], post, body, by simp, .fed hbody hreturn⟩

/-- A line is split off as what it says. -/
theorem OneLine.splitLines_append (h : OneLine raw post line) :
    splitLines [] (raw ++ post) = line :: splitLines [] post := by
  cases h with
  | @fed _ line h hreturn =>
    rw [List.append_assoc, splitLines_of_not_mem h, List.append_nil, List.singleton_append]
    cases hrev : line.reverse with
    | nil => simpa [splitLines] using hrev
    | cons b front =>
      have hline : line = front.reverse ++ [b] := by
        rw [← List.reverse_reverse line, hrev, List.reverse_cons]
      have hb : b ≠ 13 := by simpa [hline] using hreturn
      have hstep : splitLines (b :: front) (10 :: post)
          = (b :: front).reverse :: splitLines [] post := by
        simp only [splitLines, if_pos]
        split
        · next h => exact absurd (List.cons.inj h).1 hb
        · rfl
      rw [hstep, List.reverse_cons, hline]
  | @returned _ line h =>
    rw [List.append_assoc, splitLines_of_not_mem h, List.append_nil]
    have hstep : splitLines line.reverse (13 :: 10 :: post)
        = line.reverse.reverse :: splitLines [] post := rfl
    exact hstep.trans (by rw [List.reverse_reverse])
  | unended h hne =>
    rw [splitLines_of_not_mem h, List.append_nil]
    simp [splitLines, hne]

/-- A line that has an end, or that nothing follows, is split off in the same way without
what follows it. -/
theorem OneLine.alone (h : OneLine raw post line) : OneLine raw [] line := by
  cases h with
  | fed h hreturn => exact .fed h hreturn
  | returned h => exact .returned h
  | unended h hne => exact .unended h hne

theorem OneLine.splitLines_eq (h : OneLine raw post line) : splitLines [] raw = [line] := by
  have h' := h.alone.splitLines_append
  rwa [List.append_nil] at h'

/-- A line that something follows is whole. -/
theorem OneLine.whole (h : OneLine raw post line) (hpost : post ≠ []) : Whole raw := by
  cases h with
  | @fed _ line _ _ => exact .inr ⟨line, rfl⟩
  | @returned _ line _ => exact .inr ⟨line ++ [13], by simp⟩
  | unended _ _ => exact absurd rfl hpost

/-! ### A line in a text -/

/-- In the text the bytes `raw` of one line, which says `line`, stand behind the whole lines
`pre` and in front of `post`. -/
structure LineAt (text pre raw post line : List UInt8) : Prop where
  split : text = pre ++ (raw ++ post)
  whole : Whole pre
  one : OneLine raw post line

namespace LineAt

theorem splitLines_upto (h : LineAt text pre raw post line) :
    splitLines [] (pre ++ raw) = splitLines [] pre ++ [line] := by
  rw [h.whole.splitLines_append, h.one.splitLines_eq]

end LineAt

theorem ne_nil_of_splitLines (h : splitLines [] text = before ++ line :: after) : text ≠ [] := by
  rintro rfl
  simp [splitLines] at h

/-- Every line that a text is split into stands in it, behind those before it. -/
theorem exists_lineAt (h : splitLines [] text = before ++ line :: after) :
    ∃ pre raw post, LineAt text pre raw post line ∧
      splitLines [] pre = before ∧ splitLines [] post = after := by
  induction before generalizing text with
  | nil =>
    obtain ⟨raw, post, first, rfl, hone⟩ := exists_oneLine (ne_nil_of_splitLines h)
    rw [hone.splitLines_append] at h
    obtain ⟨rfl, rfl⟩ := List.cons.inj h
    exact ⟨[], raw, post, ⟨rfl, .inl rfl, hone⟩, rfl, rfl⟩
  | cons b before ih =>
    obtain ⟨raw, rest, first, rfl, hone⟩ := exists_oneLine (ne_nil_of_splitLines h)
    rw [hone.splitLines_append] at h
    obtain ⟨rfl, hrest⟩ := List.cons.inj h
    obtain ⟨pre, bytes, post, hat, hpre, hafter⟩ := ih hrest
    have hwhole : Whole raw := hone.whole (ne_nil_of_splitLines hrest)
    refine ⟨raw ++ pre, bytes, post, ⟨?_, hwhole.append hat.whole, hat.one⟩, ?_, hafter⟩
    · rw [hat.split, List.append_assoc]
    · rw [hwhole.splitLines_append, hone.splitLines_eq, hpre, List.singleton_append]

end MarketDepth.Feed
