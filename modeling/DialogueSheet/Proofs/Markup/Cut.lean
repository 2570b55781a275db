/-
# Texts cut at their marks

`Cut` says what it is to cut a text at its marks from left to right: no mark starts within a
plain stretch, whatever comes behind it, a mark takes the characters that its reader counts, and
the rest is cut in the same way.  A text is cut in one way, and that is how `piecesOf` cuts it
(`cut_iff`), as long as the reader counts no more characters than there are.
-/
import DialogueSheet.Markup.Piece
import Mathlib.Data.List.Infix
import Mathlib.Data.List.TakeWhile

namespace DialogueSheet

variable {α : Type} {read? : List Char → Option (α × Nat)}

/-- A mark takes at least one character and no more than there are. -/
def Proper (read? : List Char → Option (α × Nat)) : Prop :=
  ∀ s m length, read? s = some (m, length) → 0 < length ∧ length ≤ s.length

/-- A text is cut into pieces at the marks that are read from left to right. -/
inductive Cut (read? : List Char → Option (α × Nat)) : List Char → List (Piece α) → Prop where
  | done : Cut read? [] []
  | plain {chars rest : List Char} {pieces : List (Piece α)} (hchars : chars ≠ [])
      (hnone : ∀ back, back <:+ chars → back ≠ [] → read? (back ++ rest) = none)
      (hnext : rest = [] ∨ (read? rest).isSome = true) (hrest : Cut read? rest pieces) :
      Cut read? (chars ++ rest) (.plain chars :: pieces)
  | mark {chars rest : List Char} {m : α} {pieces : List (Piece α)} (hchars : chars ≠ [])
      (hread : read? (chars ++ rest) = some (m, chars.length)) (hrest : Cut read? rest pieces) :
      Cut read? (chars ++ rest) (.mark m :: pieces)

namespace Piece

/-- The characters of a plain stretch. -/
def plainChars : Piece α → List Char
  | .plain chars => chars
  | .mark _ => []

/-- The mark that a piece is. -/
def mark? : Piece α → Option α
  | .plain _ => none
  | .mark m => some m

end Piece

/-! ### Runs -/

/-- A run is read up to the first character that is not of it. -/
theorem drop_length_takeWhile (p : Char → Bool) (s : List Char) :
    s.drop (s.takeWhile p).length = s.dropWhile p := by
  calc s.drop (s.takeWhile p).length
      = (s.takeWhile p ++ s.dropWhile p).drop (s.takeWhile p).length := by
        rw [List.takeWhile_append_dropWhile]
    _ = s.dropWhile p := List.drop_left

/-- A run that ends before `stop` is read as far as that. -/
theorem takeWhile_append_stop {p : Char → Bool} {run : List Char} {stop : Char}
    (hrun : ∀ c ∈ run, p c = true) (hstop : p stop = false) (behind : List Char) :
    (run ++ stop :: behind).takeWhile p = run := by
  rw [List.takeWhile_append_of_pos hrun, List.takeWhile_cons_of_neg (by simp [hstop]),
    List.append_nil]

/-! ### Cutting -/

/-- Skipped characters are dropped. -/
theorem piecesOf_eq_drop (skip : Nat) (s : List Char) :
    piecesOf read? skip s = piecesOf read? 0 (s.drop skip) := by
  induction s generalizing skip with
  | nil => cases skip <;> rfl
  | cons c rest ih =>
    cases skip with
    | zero => rfl
    | succ skip => exact ih skip

theorem piecesOf_mark {chars rest : List Char} {m : α} (hchars : chars ≠ [])
    (hread : read? (chars ++ rest) = some (m, chars.length)) :
    piecesOf read? 0 (chars ++ rest) = .mark m :: piecesOf read? 0 rest := by
  obtain ⟨c, tail, rfl⟩ := List.exists_cons_of_ne_nil hchars
  rw [List.cons_append] at hread ⊢
  simp only [piecesOf, hread]
  rw [piecesOf_eq_drop]
  simp

/-- A stretch ends where the text ends or a mark starts. -/
theorem pushChar_piecesOf {rest : List Char} (hnext : rest = [] ∨ (read? rest).isSome = true)
    (c : Char) :
    Piece.pushChar c (piecesOf read? 0 rest) = .plain [c] :: piecesOf read? 0 rest := by
  rcases hnext with rfl | hnext
  · rfl
  · obtain ⟨⟨m, length⟩, hread⟩ := Option.isSome_iff_exists.1 hnext
    cases rest with
    | nil => rfl
    | cons first rest => simp only [piecesOf, hread, Piece.pushChar]

theorem piecesOf_plain {chars rest : List Char} (hchars : chars ≠ [])
    (hnone : ∀ back, back <:+ chars → back ≠ [] → read? (back ++ rest) = none)
    (hnext : rest = [] ∨ (read? rest).isSome = true) :
    piecesOf read? 0 (chars ++ rest) = .plain chars :: piecesOf read? 0 rest := by
  induction chars with
  | nil => exact absurd rfl hchars
  | cons c chars ih =>
    have hhead : read? (c :: (chars ++ rest)) = none :=
      hnone (c :: chars) (List.suffix_refl _) (List.cons_ne_nil _ _)
    rw [List.cons_append]
    simp only [piecesOf, hhead]
    cases chars with
    | nil => exact pushChar_piecesOf hnext c
    | cons c' chars =>
      rw [ih (List.cons_ne_nil _ _) fun back hback => hnone back
        (hback.trans (List.suffix_cons c (c' :: chars)))]
      rfl

/-- A character at which no mark starts is put in front. -/
theorem Cut.pushChar {c : Char} {s : List Char} {pieces : List (Piece α)}
    (hnone : read? (c :: s) = none) (h : Cut read? s pieces) :
    Cut read? (c :: s) (Piece.pushChar c pieces) := by
  have hsingle : ∀ {rest : List Char} {pieces : List (Piece α)}, read? (c :: rest) = none →
      rest = [] ∨ (read? rest).isSome = true → Cut read? rest pieces →
      Cut read? (c :: rest) (.plain [c] :: pieces) := by
    intro rest pieces hnone hnext hrest
    show Cut read? ([c] ++ rest) (.plain [c] :: pieces)
    refine .plain (List.cons_ne_nil c []) (fun back hback hne => ?_) hnext hrest
    obtain rfl : back = [c] := (List.suffix_cons_iff.1 hback).resolve_right (by simpa using hne)
    exact hnone
  cases h with
  | done => exact hsingle hnone (.inl rfl) .done
  | @plain chars rest pieces hchars hfree hnext hrest =>
    show Cut read? (c :: chars ++ rest) (.plain (c :: chars) :: pieces)
    refine .plain (List.cons_ne_nil c chars) (fun back hback hne => ?_) hnext hrest
    rcases List.suffix_cons_iff.1 hback with rfl | hback
    · exact hnone
    · exact hfree back hback hne
  | mark hchars hread hrest =>
    exact hsingle hnone (.inr (by rw [hread]; rfl)) (.mark hchars hread hrest)

/-- The pieces of a text cut it. -/
theorem cut_piecesOf (hproper : Proper read?) (s : List Char) :
    Cut read? s (piecesOf read? 0 s) := by
  induction hlength : s.length using Nat.strongRecOn generalizing s with
  | _ n ih =>
    cases s with
    | nil => exact .done
    | cons c rest =>
      rw [List.length_cons] at hlength
      cases hread : read? (c :: rest) with
      | none =>
        simp only [piecesOf, hread]
        exact (ih rest.length (by omega) rest rfl).pushChar hread
      | some reading =>
        obtain ⟨m, length⟩ := reading
        obtain ⟨hpos, hle⟩ := hproper _ _ _ hread
        have hsplit := List.take_append_drop length (c :: rest)
        have htaken : ((c :: rest).take length).length = length := List.length_take_of_le hle
        have hchars : (c :: rest).take length ≠ [] := List.ne_nil_of_length_pos (by omega)
        have hread' : read? ((c :: rest).take length ++ (c :: rest).drop length) =
            some (m, ((c :: rest).take length).length) := by
          rw [hsplit, htaken, hread]
        have hcut := Cut.mark hchars hread' (ih _ (by simp; omega) ((c :: rest).drop length) rfl)
        rwa [← piecesOf_mark hchars hread', hsplit] at hcut

/-- **A text is cut in one way.** -/
theorem cut_iff (hproper : Proper read?) {s : List Char} {pieces : List (Piece α)} :
    Cut read? s pieces ↔ pieces = piecesOf read? 0 s := by
  constructor
  · intro h
    induction h with
    | done => rfl
    | @plain chars rest pieces hchars hnone hnext hrest ih =>
      rw [piecesOf_plain hchars hnone hnext, ih]
    | mark hchars hread hrest ih => rw [piecesOf_mark hchars hread, ih]
  · rintro rfl
    exact cut_piecesOf hproper s

end DialogueSheet
