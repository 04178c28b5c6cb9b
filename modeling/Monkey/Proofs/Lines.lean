import Monkey.Proofs.Concatenation
import Monkey.Text.Lines
import Monkey.Text.Utf8

/-
  Lines of a text and lines of its bytes. An end of a line is one byte, which no other character
  has in it, so cutting the bytes is cutting the text (`whole_encode`, `bare_encode`), and bytes
  that are no text have a first line that is none (`exists_first_line_not_text`). The end of a line
  is white space, so no token reaches over it: the tokens of a text are those of its lines, one
  after the other (`tokensOf_lines`).
-/

namespace Monkey

namespace Lines

variable {α β : Type} {f : α → List β} {m cr : α} {m' cr' : β}

/-! ### What stands for the elements -/

/-- `f` writes `m` as `m'` alone, and nothing else with `m'` in it or as nothing. -/
structure Marks (f : α → List β) (m : α) (m' : β) : Prop where
  mark : f m = [m']
  not_mem : ∀ x, x ≠ m → m' ∉ f x
  ne_nil : ∀ x, f x ≠ []

theorem getLast?_flatMap (h : Marks f m m') (xs : List α) :
    (xs.flatMap f).getLast? = some m' ↔ xs.getLast? = some m := by
  constructor
  · intro hlast
    have hne : xs ≠ [] := by
      intro hnil
      rw [hnil] at hlast
      exact absurd hlast (by simp)
    obtain ⟨x, hx⟩ : ∃ x, xs.getLast? = some x := ⟨_, List.getLast?_eq_some_getLast hne⟩
    obtain ⟨front, rfl⟩ := List.getLast?_eq_some_iff.1 hx
    rw [List.flatMap_append, List.flatMap_singleton, List.getLast?_append,
      List.getLast?_eq_some_getLast (h.ne_nil x), Option.some_or, Option.some.injEq] at hlast
    rw [hx, Option.some.injEq]
    by_cases hxm : x = m
    · exact hxm
    · -- the end of what stands for another element is not the mark
      exact absurd (hlast ▸ List.getLast_mem (h.ne_nil x)) (h.not_mem x hxm)
  · intro hlast
    obtain ⟨front, rfl⟩ := List.getLast?_eq_some_iff.1 hlast
    simp [h.mark]

/-! ### Cutting at a mark -/

variable [BEq α] [LawfulBEq α] [BEq β] [LawfulBEq β]

theorem not_mem_rest (mark : α) (xs : List α) : mark ∉ (cut mark xs).2 := by
  induction xs with
  | nil => simp [cut]
  | cons x xs ih =>
    rcases hcut : cut mark xs with ⟨lines, rest⟩
    rw [hcut] at ih
    simp only [cut, hcut]
    split
    · exact ih
    · next hx =>
      have hne : mark ≠ x := fun h => hx (by simp [h])
      cases lines with
      | nil => simpa [hne] using ih
      | cons line lines => exact ih

theorem flatten_whole (mark : α) (xs : List α) : (whole mark xs).flatten = xs := by
  have hjoin := join_cut mark xs
  rw [List.flatMap_def] at hjoin
  unfold whole
  split
  · next h =>
    rw [List.isEmpty_iff.1 h, List.append_nil] at hjoin
    rw [List.append_nil, hjoin]
  · rw [List.flatten_append, List.flatten_singleton, hjoin]

theorem bare_append_mark (mark cr : α) (line : List α) :
    bare mark cr (line ++ [mark]) = withoutReturn cr line := by
  simp [bare]

theorem bare_of_not_mem {mark : α} {line : List α} (cr : α) (h : mark ∉ line) :
    bare mark cr line = line := by
  unfold bare
  split
  · next hlast =>
    exact absurd (List.mem_of_getLast? (by simpa using hlast)) h
  · rfl

theorem map_bare_whole (mark cr : α) (xs : List α) :
    (whole mark xs).map (bare mark cr) = (cut mark xs).1.map (withoutReturn cr) ++
      if (cut mark xs).2.isEmpty then [] else [(cut mark xs).2] := by
  have hline : bare mark cr ∘ (· ++ [mark]) = withoutReturn cr := by
    funext line
    exact bare_append_mark mark cr line
  rw [whole, List.map_append, List.map_map, hline]
  split
  · rfl
  · rw [List.map_singleton, bare_of_not_mem cr (not_mem_rest mark xs)]

theorem exists_withoutReturn_append (cr : α) (line : List α) :
    ∃ tail, line = withoutReturn cr line ++ tail ∧ (tail = [] ∨ tail = [cr]) := by
  unfold withoutReturn
  split
  · next hcr =>
    obtain ⟨front, rfl⟩ := List.getLast?_eq_some_iff.1 (by simpa using hcr)
    exact ⟨[cr], by simp, Or.inr rfl⟩
  · exact ⟨[], by simp, Or.inl rfl⟩

/-- What `bare` takes off is the end of a line. -/
theorem exists_bare_append (mark cr : α) (line : List α) :
    ∃ tail, line = bare mark cr line ++ tail ∧
      (tail = [] ∨ tail = [mark] ∨ tail = [cr, mark]) := by
  by_cases hlast : line.getLast? = some mark
  · obtain ⟨front, rfl⟩ := List.getLast?_eq_some_iff.1 hlast
    obtain ⟨tail, hfront, htail⟩ := exists_withoutReturn_append cr front
    refine ⟨tail ++ [mark], ?_, ?_⟩
    · rw [bare_append_mark, ← List.append_assoc, ← hfront]
    · rcases htail with rfl | rfl
      · exact Or.inr (Or.inl rfl)
      · exact Or.inr (Or.inr rfl)
  · exact ⟨[], by simp [bare, hlast], Or.inl rfl⟩

/-! ### Cutting what stands for the elements -/

theorem cut_append_of_not_mem {u : List α} (hu : m ∉ u) (xs : List α) :
    cut m (u ++ xs) =
      match cut m xs with
      | ([], rest) => ([], u ++ rest)
      | (line :: lines, rest) => ((u ++ line) :: lines, rest) := by
  induction u with
  | nil => rcases hcut : cut m xs with ⟨_ | ⟨line, lines⟩, rest⟩ <;> simp [hcut]
  | cons x u ih =>
    have hx : (x == m) = false := by
      simp only [beq_eq_false_iff_ne]
      intro hxm
      exact hu (by simp [hxm])
    rw [List.cons_append, cut, ih fun h => hu (List.mem_cons_of_mem _ h)]
    rcases cut m xs with ⟨_ | ⟨line, lines⟩, rest⟩ <;> simp [hx]

/-- Lines that were ended with a mark, and have none inside, are found again. -/
theorem cut_join {lines : List (List α)} {rest : List α} (hlines : ∀ line ∈ lines, m ∉ line)
    (hrest : m ∉ rest) : cut m (lines.flatMap (· ++ [m]) ++ rest) = (lines, rest) := by
  induction lines with
  | nil =>
    have hcut := cut_append_of_not_mem hrest []
    rw [List.append_nil] at hcut
    rw [List.flatMap_nil, List.nil_append, hcut]
    simp [cut]
  | cons line lines ih =>
    rw [List.forall_mem_cons] at hlines
    rw [List.flatMap_cons, List.append_assoc, List.append_assoc,
      cut_append_of_not_mem hlines.1, List.singleton_append, cut, ih hlines.2]
    simp

theorem cut_flatMap (h : Marks f m m') (xs : List α) :
    cut m' (xs.flatMap f) = ((cut m xs).1.map (List.flatMap f), (cut m xs).2.flatMap f) := by
  induction xs with
  | nil => rfl
  | cons x xs ih =>
    rw [List.flatMap_cons]
    by_cases hx : x = m
    · subst hx
      rw [h.mark, List.singleton_append, cut, ih]
      simp [cut]
    · rw [cut_append_of_not_mem (h.not_mem x hx), ih]
      rcases hcut : cut m xs with ⟨_ | ⟨line, lines⟩, rest⟩ <;> simp [cut, hcut, hx]

theorem whole_flatMap (h : Marks f m m') (xs : List α) :
    whole m' (xs.flatMap f) = (whole m xs).map (List.flatMap f) := by
  have hline : (· ++ [m']) ∘ List.flatMap f = List.flatMap f ∘ (· ++ [m]) := by
    funext line
    simp [h.mark]
  unfold whole
  rw [cut_flatMap h, List.map_append, List.map_map, List.map_map, hline]
  cases (cut m xs).2 with
  | nil => rfl
  | cons x rest => simp [h.ne_nil x]

theorem withoutReturn_flatMap (hcr : Marks f cr cr') (line : List α) :
    withoutReturn cr' (line.flatMap f) = (withoutReturn cr line).flatMap f := by
  by_cases hlast : line.getLast? = some cr
  · obtain ⟨front, rfl⟩ := List.getLast?_eq_some_iff.1 hlast
    simp [withoutReturn, hcr.mark]
  · have hlast' := mt (getLast?_flatMap hcr line).1 hlast
    simp [withoutReturn, hlast, hlast']

theorem bare_flatMap (h : Marks f m m') (hcr : Marks f cr cr') (line : List α) :
    bare m' cr' (line.flatMap f) = (bare m cr line).flatMap f := by
  by_cases hlast : line.getLast? = some m
  · obtain ⟨front, rfl⟩ := List.getLast?_eq_some_iff.1 hlast
    rw [List.flatMap_append, List.flatMap_singleton, h.mark, bare_append_mark, bare_append_mark,
      withoutReturn_flatMap hcr]
  · have hlast' := mt (getLast?_flatMap h line).1 hlast
    simp [bare, hlast, hlast']

end Lines

/-! ### The bytes of a text -/

namespace Utf8

/-- A byte below `0x80` is only in the character that has its number. -/
theorem toNat_eq_of_mem {c : Char} {b : UInt8} (hb : b ∈ String.utf8EncodeChar c)
    (hlow : b.toNat < 0x80) : c.toNat = b.toNat := by
  have hhigh : ∀ m, 0x80 ≤ m → m < 0x100 → b ≠ UInt8.ofNat m := by
    intro m hm hm' hbm
    rw [hbm, UInt8.toNat_ofNat', Nat.mod_eq_of_lt (by omega)] at hlow
    omega
  unfold String.utf8EncodeChar at hb
  show c.val.toNat = b.toNat
  generalize c.val.toNat = n at hb
  dsimp only at hb
  split at hb
  · obtain rfl := List.mem_singleton.1 hb
    rw [UInt8.toNat_ofNat', Nat.mod_eq_of_lt (by omega)]
  · -- each byte of a longer character has the top bit added to it
    exfalso
    revert hb
    split
    · simp only [List.mem_cons, List.not_mem_nil, or_false, not_or, imp_false]
      exact ⟨hhigh _ (by omega) (by omega), hhigh _ (by omega) (by omega)⟩
    · split
      · simp only [List.mem_cons, List.not_mem_nil, or_false, not_or, imp_false]
        exact ⟨hhigh _ (by omega) (by omega), hhigh _ (by omega) (by omega),
          hhigh _ (by omega) (by omega)⟩
      · simp only [List.mem_cons, List.not_mem_nil, or_false, not_or, imp_false]
        exact ⟨hhigh _ (by omega) (by omega), hhigh _ (by omega) (by omega),
          hhigh _ (by omega) (by omega), hhigh _ (by omega) (by omega)⟩

/-- A character of one byte marks the same places in a text and in its bytes. -/
theorem marks_encodeChar {c : Char} (hlow : c.toNat < 0x80) :
    Lines.Marks String.utf8EncodeChar c (UInt8.ofNat c.toNat) where
  mark := by
    unfold String.utf8EncodeChar
    exact if_pos (Nat.le_of_lt_succ hlow)
  not_mem := by
    intro x hx hmem
    have hbyte : (UInt8.ofNat c.toNat).toNat = c.toNat := by
      rw [UInt8.toNat_ofNat', Nat.mod_eq_of_lt (by omega)]
    have hcode := toNat_eq_of_mem hmem (by rw [hbyte]; exact hlow)
    rw [hbyte] at hcode
    exact hx (Char.toNat_inj.1 hcode)
  ne_nil := fun _ => String.utf8EncodeChar_ne_nil

theorem marks_lineFeed : Lines.Marks String.utf8EncodeChar '\n' 0x0A :=
  marks_encodeChar (by decide)

theorem marks_return : Lines.Marks String.utf8EncodeChar '\r' 0x0D :=
  marks_encodeChar (by decide)

end Utf8

namespace Lines

/-- The lines of a text, each with its end. -/
def ofText (text : String) : List String := (whole '\n' text.toList).map String.ofList

/-- A line without its end. -/
def content (line : String) : String := String.ofList (bare '\n' '\r' line.toList)

theorem whole_encode (text : String) :
    whole 0x0A (Utf8.encode text) = (ofText text).map Utf8.encode := by
  unfold Utf8.encode
  rw [whole_flatMap Utf8.marks_lineFeed, ofText, List.map_map]
  simp

theorem bare_encode (line : String) :
    bare 0x0A 0x0D (Utf8.encode line) = Utf8.encode (content line) := by
  unfold Utf8.encode
  rw [bare_flatMap Utf8.marks_lineFeed Utf8.marks_return, content, String.toList_ofList]

/-- A line is no text if it is none without its end. -/
theorem decode?_bare_eq_none {line : Bytes} (h : Utf8.decode? line = none) :
    Utf8.decode? (bare 0x0A 0x0D line) = none := by
  rw [Utf8.decode?_eq_none_iff] at h ⊢
  intro text htext
  obtain ⟨tail, hline, htail⟩ := exists_bare_append 0x0A 0x0D line
  obtain ⟨ending, rfl⟩ : ∃ ending, tail = Utf8.encode ending := by
    rcases htail with rfl | rfl | rfl
    · exact ⟨"", rfl⟩
    · exact ⟨"\n", by decide⟩
    · exact ⟨"\r\n", by decide⟩
  refine h (text ++ ending) ?_
  rw [Utf8.encode_append, ← htext]
  exact hline

/-- Pieces of bytes are texts up to the first one that is none, if there is such a one. -/
theorem texts_or_first_not_text (pieces : List Bytes) :
    (∃ texts : List String, pieces = texts.map Utf8.encode) ∨
      ∃ (texts : List String) (bad : Bytes) (later : List Bytes),
        pieces = texts.map Utf8.encode ++ bad :: later ∧ Utf8.decode? bad = none := by
  induction pieces with
  | nil => exact Or.inl ⟨[], rfl⟩
  | cons piece pieces ih =>
    rcases hpiece : Utf8.decode? piece with _ | text
    · exact Or.inr ⟨[], piece, pieces, rfl, hpiece⟩
    · rw [Utf8.decode?_eq_some_iff] at hpiece
      rcases ih with ⟨texts, rfl⟩ | ⟨texts, bad, later, rfl, hbad⟩
      · exact Or.inl ⟨text :: texts, by rw [hpiece, List.map_cons]⟩
      · exact Or.inr ⟨text :: texts, bad, later, by rw [hpiece, List.map_cons, List.cons_append],
          hbad⟩

/-- The texts in front of the first piece that is none are determined by the pieces. -/
theorem texts_before_first_not_text {ss ts : List String} {bad bad' : Bytes}
    {later later' : List Bytes} (hbad : Utf8.decode? bad = none) (hbad' : Utf8.decode? bad' = none)
    (h : ss.map Utf8.encode ++ bad :: later = ts.map Utf8.encode ++ bad' :: later') : ss = ts := by
  induction ss generalizing ts with
  | nil =>
    cases ts with
    | nil => rfl
    | cons t ts =>
      have htext : bad = Utf8.encode t := (List.cons.inj h).1
      exact absurd htext (Utf8.decode?_eq_none_iff.1 hbad t)
  | cons s ss ih =>
    cases ts with
    | nil =>
      have htext : Utf8.encode s = bad' := (List.cons.inj h).1
      exact absurd htext.symm (Utf8.decode?_eq_none_iff.1 hbad' s)
    | cons t ts =>
      obtain ⟨hfirst, hlater⟩ := List.cons.inj h
      rw [Utf8.encode_inj.1 hfirst, ih hlater]

theorem flatten_map_encode (texts : List String) :
    (texts.map Utf8.encode).flatten = Utf8.encode (String.ofList (texts.flatMap String.toList)) := by
  induction texts with
  | nil => rfl
  | cons text texts ih => simp [ih, Utf8.encode]

/-- Bytes that are no text have a first line that is none. -/
theorem exists_first_line_not_text {bytes : Bytes} (h : Utf8.decode? bytes = none) :
    ∃ (lines : List String) (bad : Bytes) (later : List Bytes),
      whole 0x0A bytes = lines.map Utf8.encode ++ bad :: later ∧ Utf8.decode? bad = none := by
  rcases texts_or_first_not_text (whole 0x0A bytes) with ⟨texts, htexts⟩ | hbad
  · -- lines that are texts make a text
    have hbytes : bytes = Utf8.encode (String.ofList (texts.flatMap String.toList)) := by
      rw [← flatten_map_encode, ← htexts, flatten_whole]
    exact absurd hbytes (Utf8.decode?_eq_none_iff.1 h _)
  · exact hbad

end Lines

/-! ### The tokens of the lines -/

/-- A text up to the end of its first line has the tokens that this line has by itself. -/
theorem tokensOf_line_append (line later : List Char) :
    tokensOf (line ++ ['\n'] ++ later) =
      tokensOf (Lines.withoutReturn '\r' line) ++ tokensOf later := by
  obtain ⟨tail, hline, htail⟩ := Lines.exists_withoutReturn_append '\r' line
  have hblank : ∀ c ∈ tail ++ ['\n'], isSpace c = true := by
    rcases htail with rfl | rfl
    · exact List.all_eq_true.1 (by decide)
    · exact List.all_eq_true.1 (by decide)
  rw [← tokensOf_append_blank_append _ (by simp) hblank, List.append_assoc tail,
    ← List.append_assoc, ← List.append_assoc, ← hline, List.append_assoc]

theorem tokensOf_cut (s : List Char) :
    tokensOf s = (Lines.cut '\n' s).1.flatMap (fun line =>
      tokensOf (Lines.withoutReturn '\r' line)) ++ tokensOf (Lines.cut '\n' s).2 := by
  have key : ∀ (lines : List (List Char)) (rest : List Char),
      tokensOf (lines.flatMap (· ++ ['\n']) ++ rest) =
        lines.flatMap (fun line => tokensOf (Lines.withoutReturn '\r' line)) ++ tokensOf rest := by
    intro lines rest
    induction lines with
    | nil => rfl
    | cons line lines ih =>
      rw [List.flatMap_cons, List.flatMap_cons, List.append_assoc, tokensOf_line_append, ih,
        List.append_assoc]
  rw [← key, Lines.join_cut]

/-- The tokens of a text are those of its lines, each read by itself. -/
theorem tokensOf_lines (text : String) :
    tokensOf text.toList =
      (Lines.ofText text).flatMap fun line => tokensOf (Lines.content line).toList := by
  have hcontent : (Lines.ofText text).flatMap (fun line => tokensOf (Lines.content line).toList) =
      ((Lines.whole '\n' text.toList).map (Lines.bare '\n' '\r')).flatMap tokensOf := by
    simp [Lines.ofText, Lines.content, List.flatMap_map]
  rw [hcontent, Lines.map_bare_whole, List.flatMap_append, List.flatMap_map, tokensOf_cut]
  congr 1
  split
  · next h => rw [List.isEmpty_iff.1 h, tokensOf_nil, List.flatMap_nil]
  · rw [List.flatMap_singleton]

end Monkey
