/-!
Texts taken apart at a character.
-/

namespace BlockNotebook.Text

/-- The parts of a text between the separators; there is always one. -/
def split {α : Type} [BEq α] (sep : α) : List α → List (List α)
  | [] => [[]]
  | c :: rest =>
    match split sep rest with
    | [] => [[c]]
    | part :: parts => if c == sep then [] :: part :: parts else (c :: part) :: parts

/-- The text before the first separator, and the text after it. -/
def cut {α : Type} [BEq α] (sep : α) (t : List α) : List α × List α :=
  (t.takeWhile (· != sep), (t.dropWhile (· != sep)).drop 1)

theorem split_ne_nil {α : Type} [BEq α] (sep : α) (t : List α) : split sep t ≠ [] := by
  cases t with
  | nil => simp [split]
  | cons c rest => rw [split]; split <;> (try split) <;> simp

end BlockNotebook.Text
