/-
# The segments of a line

The marks of a line that count a picture part it into stretches (`stretches`): the plain text
that lies before, between and behind them, with the other marks left out.  The segments are these
pictures, and between them what is left of each stretch without the blanks around it
(`segments_between`).  Nothing else of the plain text is lost.

The text that is pending when a piece is read belongs to the first of the stretches from there on
(`stretchesFrom`), which is what the inductions carry.
-/
import DialogueSheet.Proofs.Script.Marks
import DialogueSheet.Proofs.Script.Numbered
import DialogueSheet.Proofs.Text.Trimmed

namespace DialogueSheet
namespace Segment

/-- The picture of a segment. -/
def index? : Segment → Option Nat
  | .text _ => none
  | .image index => some index

/-- The characters that a segment shows as text. -/
def shown : Segment → List Char
  | .text s => s.toList
  | .image _ => []

/-- The picture that a piece counts, of so many. -/
def picture? (imageCount : Nat) (piece : Piece (List Char)) : Option Nat :=
  piece.mark?.bind (imageIndex? imageCount)

/-- The plain text before, between and behind the marks that count a picture. -/
def stretches (imageCount : Nat) (pieces : List (Piece (List Char))) : List (List Char) :=
  (pieces.splitOnP fun piece => (picture? imageCount piece).isSome).map
    (·.flatMap Piece.plainChars)

/-- A line of nothing but blanks and marks that count no picture. -/
def silent (line : String) (imageCount : Nat) : Bool :=
  (piecesOf readMark? 0 line.toList).all fun piece =>
    (picture? imageCount piece).isNone && piece.plainChars.all Text.isBlank

variable {n : Nat} {pieces : List (Piece (List Char))}

/-! ### Stretches -/

theorem picture?_mark (digits : List Char) : picture? n (.mark digits) = imageIndex? n digits := rfl

theorem stretches_plain (chars : List Char) :
    stretches n (.plain chars :: pieces) = (stretches n pieces).modifyHead (chars ++ ·) := by
  rw [stretches, List.splitOnP_cons_eq_if_modifyHead, if_neg (by simp [picture?, Piece.mark?]),
    stretches]
  cases pieces.splitOnP fun piece => (picture? n piece).isSome with
  | nil => rfl
  | cons first rest => rfl

theorem stretches_mark_of_none {digits : List Char} (h : imageIndex? n digits = none) :
    stretches n (.mark digits :: pieces) = stretches n pieces := by
  rw [stretches, List.splitOnP_cons_eq_if_modifyHead, if_neg (by simp [picture?_mark, h]),
    stretches]
  cases pieces.splitOnP fun piece => (picture? n piece).isSome with
  | nil => rfl
  | cons first rest => rfl

theorem stretches_mark_of_some {digits : List Char} {index : Nat}
    (h : imageIndex? n digits = some index) :
    stretches n (.mark digits :: pieces) = [] :: stretches n pieces := by
  rw [stretches, List.splitOnP_cons_eq_if_modifyHead, if_pos (by simp [picture?_mark, h])]
  rfl

/-- The stretches with the text that is pending from before. -/
def stretchesFrom (imageCount : Nat) (pending : List Char) (pieces : List (Piece (List Char))) :
    List (List Char) :=
  (stretches imageCount pieces).modifyHead (pending ++ ·)

theorem stretchesFrom_of_nil (pieces : List (Piece (List Char))) :
    stretchesFrom n [] pieces = stretches n pieces := by
  rw [stretchesFrom]
  cases stretches n pieces <;> rfl

theorem stretchesFrom_nil (pending : List Char) : stretchesFrom n pending [] = [pending] := by
  simp [stretchesFrom, stretches]

theorem stretchesFrom_plain (pending chars : List Char) :
    stretchesFrom n pending (.plain chars :: pieces) =
      stretchesFrom n (pending ++ chars) pieces := by
  rw [stretchesFrom, stretches_plain, List.modifyHead_modifyHead, stretchesFrom]
  congr 1
  funext first
  exact (List.append_assoc ..).symm

theorem stretchesFrom_mark_of_none {digits : List Char} (h : imageIndex? n digits = none)
    (pending : List Char) :
    stretchesFrom n pending (.mark digits :: pieces) = stretchesFrom n pending pieces := by
  rw [stretchesFrom, stretches_mark_of_none h, stretchesFrom]

theorem stretchesFrom_mark_of_some {digits : List Char} {index : Nat}
    (h : imageIndex? n digits = some index) (pending : List Char) :
    stretchesFrom n pending (.mark digits :: pieces) = pending :: stretchesFrom n [] pieces := by
  rw [stretchesFrom, stretches_mark_of_some h, List.modifyHead_cons, List.append_nil,
    stretchesFrom_of_nil]

/-- A mark counts a picture by its number in the digits `0` to `9`. -/
theorem imageIndex?_eq_some_iff {digits : List Char} {index : Nat} :
    imageIndex? n digits = some index ↔
      (∀ c ∈ digits, c.isDigit = true) ∧ natOfDigits digits = index ∧ 1 ≤ index ∧ index ≤ n := by
  simp only [imageIndex?, isSome_digitValue?, List.all_eq_true]
  split
  · rename_i hdigits
    split
    · rename_i hrange
      simp only [Option.some.injEq]
      exact ⟨fun h => ⟨hdigits, h, h ▸ hrange⟩, fun h => h.2.1⟩
    · rename_i hrange
      simp only [reduceCtorEq, false_iff]
      rintro ⟨-, rfl, hin⟩
      exact hrange hin
  · rename_i hdigits
    simp only [reduceCtorEq, false_iff]
    exact fun h => hdigits h.1

/-! ### Pending text -/

theorem flush_eq (pending : List Char) :
    flush pending =
      if pending.all Text.isBlank then [] else [.text (Text.trim (String.ofList pending))] := by
  simp only [flush, List.isEmpty_iff, Text.trimChars_eq_nil_iff, Text.trim, String.toList_ofList]

theorem index?_of_mem_flush {pending : List Char} {s : Segment} (h : s ∈ flush pending) :
    s.index? = none := by
  rw [flush_eq] at h
  split at h
  · cases h
  · rw [List.mem_singleton.1 h]
    rfl

/-- The text of a segment is not blank, and no blanks are around it. -/
theorem trimmed_of_mem_flush {pending : List Char} {t : String} (h : .text t ∈ flush pending) :
    Text.trim t = t ∧ Text.allBlank t = false := by
  rw [flush_eq] at h
  split at h
  · cases h
  · rename_i hblank
    obtain rfl := Segment.text.inj (List.mem_singleton.1 h)
    refine ⟨Text.trim_trim _, Text.allBlank_trim fun hempty => hblank ?_⟩
    rw [← Text.trimChars_eq_nil_iff]
    have hchars := congrArg String.toList hempty
    rwa [Text.trim, String.toList_ofList, String.toList_ofList] at hchars

/-- A segment shows the letters of the pending text. -/
theorem letters_flush (pending : List Char) :
    ((flush pending).flatMap shown).filter (!Text.isBlank ·) =
      pending.filter (!Text.isBlank ·) := by
  rw [← Text.filter_trimChars pending, flush]
  cases Text.trimChars pending with
  | nil => rfl
  | cons c rest => simp [shown]

/-! ### The segments of pieces -/

/-- A segment is a picture, or the text that is pending somewhere. -/
theorem mem_ofPieces {pending : List Char} {s : Segment} (h : s ∈ ofPieces n pending pieces) :
    (∃ index, s = .image index) ∨ ∃ chars, s ∈ flush chars := by
  induction pieces generalizing pending with
  | nil => exact .inr ⟨pending, h⟩
  | cons piece rest ih =>
    cases piece with
    | plain chars => exact ih h
    | mark digits =>
      rw [ofPieces] at h
      split at h
      · rename_i index _
        rcases List.mem_append.1 h with h | h
        · exact .inr ⟨pending, h⟩
        · rcases List.mem_cons.1 h with rfl | h
          · exact .inl ⟨index, rfl⟩
          · exact ih h
      · exact ih h

/-- The pictures are those that the marks count. -/
theorem filterMap_ofPieces (pending : List Char) :
    (ofPieces n pending pieces).filterMap index? = pieces.filterMap (picture? n) := by
  have hflush : ∀ pending, (flush pending).filterMap index? = [] := fun pending =>
    List.filterMap_eq_nil_iff.2 fun s hs => index?_of_mem_flush hs
  induction pieces generalizing pending with
  | nil => exact hflush pending
  | cons piece rest ih =>
    cases piece with
    | plain chars => exact ih _
    | mark digits =>
      rw [ofPieces, List.filterMap_cons, picture?_mark]
      split
      · rename_i index hindex
        rw [List.filterMap_append, hflush, List.filterMap_cons, ih, hindex]
        rfl
      · rename_i hnone
        rw [ih, hnone]

/-- Between the pictures stands what is left of the stretches. -/
theorem splitOnP_ofPieces (pending : List Char) :
    (ofPieces n pending pieces).splitOnP (fun s => s.index?.isSome) =
      (stretchesFrom n pending pieces).map flush := by
  have hflush : ∀ pending, ∀ s ∈ flush pending, s.index?.isSome = false := by
    intro pending s hs
    rw [index?_of_mem_flush hs]
    rfl
  induction pieces generalizing pending with
  | nil =>
    rw [ofPieces, List.splitOnP_eq_singleton (hflush pending), stretchesFrom_nil]
    rfl
  | cons piece rest ih =>
    cases piece with
    | plain chars => rw [ofPieces_plain, ih, stretchesFrom_plain]
    | mark digits =>
      rw [ofPieces]
      split
      · rename_i index hindex
        rw [List.splitOnP_append_cons_of_forall_mem (hflush pending) _ rfl, ih,
          stretchesFrom_mark_of_some hindex]
        rfl
      · rename_i hnone
        rw [ih, stretchesFrom_mark_of_none hnone]

/-- Two texts are not adjacent. -/
theorem isChain_ofPieces (pending : List Char) :
    (ofPieces n pending pieces).IsChain fun a b => a.index?.isSome ∨ b.index?.isSome := by
  have hflush : ∀ pending, (flush pending).IsChain
      fun a b => a.index?.isSome ∨ b.index?.isSome := by
    intro pending
    rw [flush_eq]
    split
    · exact .nil
    · exact .singleton _
  induction pieces generalizing pending with
  | nil => exact hflush pending
  | cons piece rest ih =>
    cases piece with
    | plain chars => exact ih _
    | mark digits =>
      rw [ofPieces]
      split
      · refine (hflush pending).append (List.isChain_cons.2 ⟨fun _ _ => .inl rfl, ih []⟩) ?_
        intro _ _ b hb
        obtain rfl := Option.some.inj hb
        exact .inr rfl
      · exact ih _

/-- All letters of the plain text are shown, each once and in order. -/
theorem letters_ofPieces (pending : List Char) :
    ((ofPieces n pending pieces).flatMap shown).filter (!Text.isBlank ·) =
      (pending ++ pieces.flatMap Piece.plainChars).filter (!Text.isBlank ·) := by
  induction pieces generalizing pending with
  | nil => simpa [ofPieces] using letters_flush pending
  | cons piece rest ih =>
    cases piece with
    | plain chars => simp [ofPieces_plain, ih, Piece.plainChars]
    | mark digits =>
      rw [ofPieces, List.flatMap_cons, Piece.plainChars, List.nil_append]
      split
      · rw [List.flatMap_append, List.filter_append, letters_flush, List.flatMap_cons, shown,
          List.nil_append, ih, List.nil_append, ← List.filter_append]
      · exact ih _

/-- There are no segments if nothing is pending and nothing follows but blanks and marks that
count no picture. -/
theorem ofPieces_eq_nil_iff (pending : List Char) :
    ofPieces n pending pieces = [] ↔ pending.all Text.isBlank = true ∧
      (pieces.all fun piece =>
        (picture? n piece).isNone && piece.plainChars.all Text.isBlank) = true := by
  induction pieces generalizing pending with
  | nil => simp [ofPieces, flush_eq]
  | cons piece rest ih =>
    cases piece with
    | plain chars =>
      rw [ofPieces_plain, ih]
      simp [picture?, Piece.mark?, Piece.plainChars, forall_and, and_assoc]
    | mark digits =>
      rw [ofPieces, List.all_cons, picture?_mark]
      split
      · rename_i index hindex
        simp [hindex]
      · rename_i hnone
        simp [ih, hnone, Piece.plainChars]

theorem segments_eq_nil_iff {line : String} : segments line n = [] ↔ silent line n = true := by
  simp [segments, ofPieces_eq_nil_iff, silent]

/-- The pictures of a line are there. -/
theorem index_of_mem_segments {line : String} {index : Nat}
    (h : .image index ∈ segments line n) : 1 ≤ index ∧ index ≤ n := by
  have hmem : index ∈ (segments line n).filterMap index? := List.mem_filterMap.2 ⟨_, h, rfl⟩
  rw [segments, filterMap_ofPieces] at hmem
  obtain ⟨piece, -, hpicture⟩ := List.mem_filterMap.1 hmem
  obtain ⟨digits, -, hindex⟩ := Option.bind_eq_some_iff.1 hpicture
  exact (imageIndex?_eq_some_iff.1 hindex).2.2

end Segment

open Segment in
/-- **The segments of a line** are the pictures that its marks count, in order, and between them
the plain text without the blanks around it. -/
theorem segments_between (line : String) (n : Nat) :
    ∃ pieces, (∀ other, Spelled line.toList other ↔ other = pieces) ∧
      (segments line n).filterMap index? = pieces.filterMap (picture? n) ∧
      (∀ digits index, imageIndex? n digits = some index ↔
        (∀ c ∈ digits, c.isDigit = true) ∧ natOfDigits digits = index ∧
          1 ≤ index ∧ index ≤ n) ∧
      (segments line n).splitOnP (fun s => s.index?.isSome) =
        (stretches n pieces).map (fun chars =>
          if chars.all Text.isBlank then [] else [.text (Text.trim (String.ofList chars))]) ∧
      (∀ t, .text t ∈ segments line n → Text.trim t = t ∧ Text.allBlank t = false) ∧
      (segments line n).IsChain (fun a b => a.index?.isSome ∨ b.index?.isSome) ∧
      ((segments line n).flatMap shown).filter (!Text.isBlank ·) =
        (pieces.flatMap Piece.plainChars).filter (!Text.isBlank ·) := by
  refine ⟨piecesOf readMark? 0 line.toList, fun _ => spelled_iff, filterMap_ofPieces [],
    fun _ _ => imageIndex?_eq_some_iff, ?_, fun t ht => ?_, isChain_ofPieces [],
    letters_ofPieces []⟩
  · have hflush : flush = fun chars =>
        if chars.all Text.isBlank then [] else [.text (Text.trim (String.ofList chars))] :=
      funext flush_eq
    rw [segments, splitOnP_ofPieces, stretchesFrom_of_nil, hflush]
  · rcases mem_ofPieces ht with ⟨index, himage⟩ | ⟨chars, hchars⟩
    · cases himage
    · exact trimmed_of_mem_flush hchars

end DialogueSheet
