/-!
# Pieces

A text cut at every character of a kind, and pieces joined again. There is always one piece more
than there are cuts, so the pieces of an empty text are one empty piece.
-/

set_option autoImplicit false

namespace ScimLookup.Text

/-- The pieces of a text between the characters equal to `sep`. -/
def pieces (sep : Char) : List Char → List (List Char)
  | [] => [[]]
  | c :: cs =>
    match pieces sep cs with
    | [] => [[c]]
    | p :: ps => if c = sep then [] :: p :: ps else (c :: p) :: ps

/-- Pieces with `sep` between them. -/
def joined (sep : Char) : List (List Char) → List Char
  | [] => []
  | [p] => p
  | p :: ps => p ++ sep :: joined sep ps

/-! ## Laws -/

/-- There is a first piece. -/
theorem pieces_ne_nil (sep : Char) (cs : List Char) : pieces sep cs ≠ [] := by
  cases cs with
  | nil => simp [pieces]
  | cons c cs =>
    rw [pieces]
    split
    · simp
    · split <;> simp

/-- Cutting loses nothing but the cuts. -/
theorem joined_pieces (sep : Char) (cs : List Char) : joined sep (pieces sep cs) = cs := by
  induction cs with
  | nil => rfl
  | cons c cs ih =>
    rw [pieces]
    split
    · rename_i h
      exact absurd h (pieces_ne_nil sep cs)
    · rename_i p ps h
      rw [h] at ih
      split
      · rename_i eq
        rw [joined, ih, List.nil_append, eq]
        simp
      · cases ps with
        | nil => simpa [joined] using ih
        | cons q qs => simpa [joined] using ih

end ScimLookup.Text
