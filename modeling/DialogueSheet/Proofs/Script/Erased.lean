/-
# Lines without the marks that count no picture

A mark that counts no picture is left out.  That is not the same as if it had never been written:
what stands around it may spell another mark.  `[img:[img:9]1]` with one picture shows the text
`[img:1]`, while the line without the inner mark is the mark of the first picture.

A line has the segments of the line without these marks exactly when no mark is spelled by what
they part (`segments_erased_iff`).  If none is, each stretch of the line is cut as one plain
piece.  If one is, the line without the marks shows fewer letters: an opening bracket at least,
which is not blank, is no longer text.
-/
import DialogueSheet.Proofs.Script.Segments

namespace DialogueSheet
namespace Segment

/-- What the line has of a piece without the marks that count no picture. -/
def kept (imageCount : Nat) : Piece (List Char) → List Char
  | .plain chars => chars
  | .mark digits => if (imageIndex? imageCount digits).isSome then written digits else []

/-- The line without the marks that count no picture. -/
def erased (line : String) (imageCount : Nat) : String :=
  String.ofList ((piecesOf readMark? 0 line.toList).flatMap (kept imageCount))

/-- The number of the characters that are not blank. -/
def letters (chars : List Char) : Nat := chars.countP (!Text.isBlank ·)

variable {n : Nat} {pieces : List (Piece (List Char))}

/-! ### Cutting what is left -/

/-- What is left of a line, cut again, with text pending from before it. -/
def again (imageCount : Nat) (pending : List Char) (pieces : List (Piece (List Char))) :
    List (Piece (List Char)) :=
  piecesOf readMark? 0 (pending ++ pieces.flatMap (kept imageCount))

theorem again_nil (pending : List Char) : again n pending [] = piecesOf readMark? 0 pending := by
  rw [again, List.flatMap_nil, List.append_nil]

theorem again_plain (pending chars : List Char) :
    again n pending (.plain chars :: pieces) = again n (pending ++ chars) pieces := by
  rw [again, again, List.flatMap_cons, kept, List.append_assoc]

theorem again_mark_of_none {digits : List Char} (h : imageIndex? n digits = none)
    (pending : List Char) : again n pending (.mark digits :: pieces) = again n pending pieces := by
  rw [again, again, List.flatMap_cons, kept, h]
  rfl

/-- A mark that is left parts the line as before. -/
theorem again_mark_of_some {digits : List Char} {index : Nat}
    (h : imageIndex? n digits = some index) (hrun : IsRun digits) (pending : List Char) :
    again n pending (.mark digits :: pieces) =
      piecesOf readMark? 0 pending ++ .mark digits :: again n [] pieces := by
  have hkept : kept n (.mark digits) = written digits := by
    rw [kept, h]
    rfl
  rw [again, List.flatMap_cons, hkept, piecesOf_append_written hrun]
  rfl

/-! ### Fewer letters -/

theorem letters_append (a b : List Char) : letters (a ++ b) = letters a + letters b :=
  List.countP_append

theorem letters_written_pos (digits : List Char) : 0 < letters (written digits) :=
  List.countP_pos_iff.2 ⟨'[', List.mem_cons_self, by decide +kernel⟩

/-- Of the letters of a text its plain pieces have no more than all. -/
theorem letters_plainChars_le (pieces : List (Piece (List Char))) :
    letters (pieces.flatMap Piece.plainChars) ≤ letters (pieces.flatMap spelling) := by
  induction pieces with
  | nil => exact le_rfl
  | cons piece rest ih =>
    rw [List.flatMap_cons, List.flatMap_cons, letters_append, letters_append]
    cases piece with
    | plain chars => exact Nat.add_le_add_left ih _
    | mark digits => exact Nat.add_le_add (Nat.zero_le _) ih

/-- The plain pieces of a text have all of its letters only if no mark is in it. -/
theorem Spelled.unmarked_of_letters {chars : List Char} (h : Spelled chars pieces)
    (hall : letters chars ≤ letters (pieces.flatMap Piece.plainChars)) : Unmarked chars := by
  refine h.unmarked fun digits hmem => ?_
  obtain ⟨before, behind, rfl⟩ := List.append_of_mem hmem
  rw [← h.whole, List.flatMap_append, List.flatMap_append, List.flatMap_cons, List.flatMap_cons,
    spelling, Piece.plainChars, List.nil_append] at hall
  simp only [letters_append] at hall
  have hbefore := letters_plainChars_le before
  have hbehind := letters_plainChars_le behind
  have hmark := letters_written_pos digits
  omega

/-- Cut again, a text has no more letters in its plain pieces. -/
theorem letters_piecesOf_le (chars : List Char) :
    letters ((piecesOf readMark? 0 chars).flatMap Piece.plainChars) ≤ letters chars := by
  have hle := letters_plainChars_le (piecesOf readMark? 0 chars)
  rwa [(spelled_piecesOf chars).whole] at hle

/-- Without the marks that count no picture, the plain pieces have no more letters than they had,
and fewer if what was parted spells a mark. -/
theorem letters_again (hrun : ∀ digits, .mark digits ∈ pieces → IsRun digits)
    (pending : List Char) :
    letters ((again n pending pieces).flatMap Piece.plainChars) ≤
        letters (pending ++ pieces.flatMap Piece.plainChars) ∧
      (letters (pending ++ pieces.flatMap Piece.plainChars) ≤
          letters ((again n pending pieces).flatMap Piece.plainChars) →
        ∀ chars ∈ stretchesFrom n pending pieces, Unmarked chars) := by
  induction pieces generalizing pending with
  | nil =>
    rw [again_nil, List.flatMap_nil, List.append_nil, stretchesFrom_nil]
    refine ⟨letters_piecesOf_le pending, fun hall chars hchars => ?_⟩
    obtain rfl := List.mem_singleton.1 hchars
    exact (spelled_piecesOf chars).unmarked_of_letters hall
  | cons piece rest ih =>
    have hrest := ih fun digits hd => hrun digits (List.mem_cons_of_mem _ hd)
    cases piece with
    | plain chars =>
      rw [again_plain, stretchesFrom_plain, List.flatMap_cons, Piece.plainChars,
        ← List.append_assoc]
      exact hrest (pending ++ chars)
    | mark digits =>
      rw [List.flatMap_cons, Piece.plainChars, List.nil_append]
      cases hindex : imageIndex? n digits with
      | none =>
        rw [again_mark_of_none hindex, stretchesFrom_mark_of_none hindex]
        exact hrest pending
      | some index =>
        -- the mark parts the line, so neither side can make up for letters the other has lost
        obtain ⟨hle, hunmarked⟩ := hrest []
        have hpending := letters_piecesOf_le pending
        rw [again_mark_of_some hindex (hrun digits List.mem_cons_self),
          stretchesFrom_mark_of_some hindex, List.flatMap_append, List.flatMap_cons,
          Piece.plainChars, List.nil_append, letters_append, letters_append]
        rw [List.nil_append] at hle hunmarked
        refine ⟨Nat.add_le_add hpending hle, fun hall chars hchars => ?_⟩
        rcases List.mem_cons.1 hchars with rfl | hchars
        · exact (spelled_piecesOf chars).unmarked_of_letters (by omega)
        · exact hunmarked (by omega) chars hchars

/-! ### The same segments -/

/-- A text without marks is pending until a picture comes. -/
theorem ofPieces_unmarked {chars : List Char} (h : Unmarked chars)
    (behind : List (Piece (List Char))) :
    ofPieces n [] (piecesOf readMark? 0 chars ++ behind) = ofPieces n chars behind := by
  by_cases hnil : chars = []
  · rw [hnil]
    rfl
  · rw [piecesOf_of_unmarked h hnil]
    rfl

/-- When no stretch spells a mark, what is left of the line is cut at the marks that are left. -/
theorem ofPieces_again (hrun : ∀ digits, .mark digits ∈ pieces → IsRun digits)
    (pending : List Char) (hunmarked : ∀ chars ∈ stretchesFrom n pending pieces, Unmarked chars) :
    ofPieces n [] (again n pending pieces) = ofPieces n pending pieces := by
  induction pieces generalizing pending with
  | nil =>
    rw [stretchesFrom_nil] at hunmarked
    have hpending := ofPieces_unmarked (n := n) (hunmarked pending List.mem_cons_self) []
    rwa [List.append_nil, ← again_nil] at hpending
  | cons piece rest ih =>
    have hrest := ih fun digits hd => hrun digits (List.mem_cons_of_mem _ hd)
    cases piece with
    | plain chars =>
      rw [stretchesFrom_plain] at hunmarked
      rw [again_plain]
      exact hrest (pending ++ chars) hunmarked
    | mark digits =>
      cases hindex : imageIndex? n digits with
      | none =>
        rw [stretchesFrom_mark_of_none hindex] at hunmarked
        rw [again_mark_of_none hindex, ofPieces, hindex]
        exact hrest pending hunmarked
      | some index =>
        rw [stretchesFrom_mark_of_some hindex, List.forall_mem_cons] at hunmarked
        rw [again_mark_of_some hindex (hrun digits List.mem_cons_self),
          ofPieces_unmarked hunmarked.1, ofPieces, ofPieces, hindex]
        simp only [hrest [] hunmarked.2]

end Segment

open Segment in
/-- **Marks that count no picture** are as if they had never been written exactly when what they
part spells no mark. -/
theorem segments_erased_iff (line : String) (n : Nat) :
    segments (erased line n) n = segments line n ↔
      ∀ chars ∈ stretches n (piecesOf readMark? 0 line.toList), Unmarked chars := by
  have hrun := (spelled_piecesOf line.toList).run
  have hagain : segments (erased line n) n =
      ofPieces n [] (again n [] (piecesOf readMark? 0 line.toList)) := by
    rw [segments, erased, String.toList_ofList]
    rfl
  rw [hagain, segments, ← stretchesFrom_of_nil]
  constructor
  · intro hsame
    refine (letters_again hrun []).2 (le_of_eq ?_)
    have hletters := congrArg (fun l => (l.flatMap shown).filter (!Text.isBlank ·)) hsame
    simp only [letters_ofPieces, List.nil_append] at hletters
    simp only [letters, List.countP_eq_length_filter, List.nil_append, hletters]
  · exact ofPieces_again hrun []

/-- The line of the header. -/
theorem segments_erased_ne :
    ¬∀ line n, segments (Segment.erased line n) n = segments line n := by
  intro h
  have hsame : segments (Segment.erased "[img:[img:9]1]" 1) 1 = segments "[img:[img:9]1]" 1 :=
    h _ _
  revert hsame
  decide +kernel

end DialogueSheet
