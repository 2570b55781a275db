/-
# Texts with marks in them

`piecesOf` cuts a text at marks, found from left to right without overlap.  What
a mark is, a reader decides: given the rest of the text it tells the mark at its
front and the number of its characters.
-/

namespace DialogueSheet

/-- A stretch of plain text or a mark. -/
inductive Piece (α : Type) where
  | plain (chars : List Char)
  | mark (mark : α)
deriving DecidableEq

namespace Piece

/-- Puts a character in front of the pieces. -/
def pushChar {α : Type} (c : Char) : List (Piece α) → List (Piece α)
  | .plain chars :: pieces => .plain (c :: chars) :: pieces
  | pieces => .plain [c] :: pieces

end Piece

/-- The pieces of a text after its first `skip` characters. -/
def piecesOf {α : Type} (read? : List Char → Option (α × Nat)) :
    (skip : Nat) → List Char → List (Piece α)
  | _, [] => []
  | skip + 1, _ :: rest => piecesOf read? skip rest
  | 0, c :: rest =>
    match read? (c :: rest) with
    | some (m, length) => .mark m :: piecesOf read? (length - 1) rest
    | none => Piece.pushChar c (piecesOf read? 0 rest)

end DialogueSheet
