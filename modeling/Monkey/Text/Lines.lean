/-
  Splitting at the ends of lines. `cut` gives the pieces that a mark ends and what is left
  behind the last mark, and loses nothing (`join_cut`), also when it is done piece by piece
  (`cut_append`); `withoutReturn` drops the carriage return that may stand before the end of a line.
  `whole` gives the lines with their ends still on them, and `bare` takes the end off such a line.
-/

namespace Monkey

namespace Lines

/-- The pieces that end with a mark, without the mark, and the piece behind the last mark. -/
def cut {α : Type} [BEq α] (mark : α) : List α → List (List α) × List α
  | [] => ([], [])
  | x :: xs =>
    match cut mark xs with
    | (lines, rest) =>
      if x == mark then ([] :: lines, rest)
      else
        match lines with
        | [] => ([], x :: rest)
        | line :: lines => ((x :: line) :: lines, rest)

/-- Drops one final `cr`. -/
def withoutReturn {α : Type} [BEq α] (cr : α) (line : List α) : List α :=
  if line.getLast? == some cr then line.dropLast else line

/-- The lines, each with the mark that ends it. The last one may lack it, but is not empty. -/
def whole {α : Type} [BEq α] (mark : α) (xs : List α) : List (List α) :=
  (cut mark xs).1.map (· ++ [mark]) ++ if (cut mark xs).2.isEmpty then [] else [(cut mark xs).2]

/-- A line without the mark that ends it and without one `cr` before that. -/
def bare {α : Type} [BEq α] (mark cr : α) (line : List α) : List α :=
  if line.getLast? == some mark then withoutReturn cr line.dropLast else line

theorem join_cut {α : Type} [BEq α] [LawfulBEq α] (mark : α) (xs : List α) :
    (cut mark xs).1.flatMap (· ++ [mark]) ++ (cut mark xs).2 = xs := by
  induction xs with
  | nil => rfl
  | cons x xs ih =>
    rcases hcut : cut mark xs with ⟨lines, rest⟩
    rw [hcut] at ih
    simp only [cut, hcut]
    split
    · next hx => simp_all
    · cases lines <;> simp_all

/-- What is left behind the last mark goes together with what comes later. -/
theorem cut_append {α : Type} [BEq α] (mark : α) (xs ys : List α) :
    cut mark (xs ++ ys) =
      ((cut mark xs).1 ++ (cut mark ((cut mark xs).2 ++ ys)).1,
        (cut mark ((cut mark xs).2 ++ ys)).2) := by
  induction xs with
  | nil => rfl
  | cons x xs ih =>
    rcases hcut : cut mark xs with ⟨lines, rest⟩
    rw [hcut] at ih
    rw [List.cons_append, cut, ih]
    simp only [cut, hcut]
    split
    · rfl
    · next hx => cases lines <;> simp [cut, hx]

end Lines

end Monkey
