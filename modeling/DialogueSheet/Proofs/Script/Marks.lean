/-
# Lines spelled by marks and the text between them

A mark is `[img:`, a run of decimal digits of any script, and `]`.  Its only opening bracket is
its first character, so no two marks overlap (`openBracket_notMem_tail`).  Therefore a line is
composed of marks and of stretches without marks in one way, and reading it from left to right
finds them (`spelled_iff`); and what stands before a mark is cut without regard to what stands
behind it (`piecesOf_append_written`).
-/
import DialogueSheet.Proofs.Markup.Cut
import DialogueSheet.Script.Segment
import Mathlib.Data.List.Chain

namespace DialogueSheet
namespace Segment

/-- The digits of a mark: at least one, of any script. -/
def IsRun (digits : List Char) : Prop :=
  digits ≠ [] ∧ ∀ c ∈ digits, Text.isDecimalDigit c = true

/-- A mark as it is written. -/
def written (digits : List Char) : List Char :=
  '[' :: 'i' :: 'm' :: 'g' :: ':' :: (digits ++ [']'])

/-- A text has no mark in it. -/
def Unmarked (chars : List Char) : Prop := ∀ digits, IsRun digits → ¬written digits <:+: chars

/-- A piece as it is written. -/
def spelling : Piece (List Char) → List Char
  | .plain chars => chars
  | .mark digits => written digits

/-- A text is composed of marks and of stretches without marks, as long as can be. -/
structure Spelled (chars : List Char) (pieces : List (Piece (List Char))) : Prop where
  whole : pieces.flatMap spelling = chars
  run : ∀ digits, .mark digits ∈ pieces → IsRun digits
  stretch : ∀ stretch, .plain stretch ∈ pieces → stretch ≠ [] ∧ Unmarked stretch
  apart : pieces.IsChain fun a b => a.mark?.isSome ∨ b.mark?.isSome

/-! ### Reading a mark -/

theorem length_written (digits : List Char) : (written digits).length = digits.length + 6 := by
  simp [written]

theorem written_ne_nil (digits : List Char) : written digits ≠ [] := List.cons_ne_nil _ _

/-- A mark opens no bracket behind its first character. -/
theorem openBracket_notMem_tail {digits : List Char} (h : IsRun digits) :
    '[' ∉ (written digits).tail := by
  have hopen : Text.isDecimalDigit '[' = false := by decide +kernel
  intro hmem
  have hdigit : '[' ∈ digits := by simpa [written] using hmem
  rw [h.2 _ hdigit] at hopen
  cases hopen

/-- A mark that starts in a text ends there when a bracket is opened behind the text. -/
theorem prefix_of_prefix_append {digits chars behind : List Char} (hrun : IsRun digits)
    (hchars : chars ≠ []) (hbehind : behind = [] ∨ behind.head? = some '[')
    (h : written digits <+: chars ++ behind) : written digits <+: chars := by
  rcases List.prefix_or_prefix_of_prefix h (List.prefix_append chars behind) with hin | hout
  · exact hin
  · obtain ⟨more, hmore⟩ := hout
    cases more with
    | nil =>
      rw [List.append_nil] at hmore
      rw [hmore]
    | cons c more =>
      rw [← hmore, List.prefix_append_right_inj] at h
      have hhead : behind.head? = some c := by
        obtain ⟨rest, rfl⟩ := h
        rfl
      have hopen : c = '[' := by
        rcases hbehind with hnil | hopen
        · simp [hnil] at hhead
        · exact Option.some.inj (hhead.symm.trans hopen)
      obtain ⟨first, chars, rfl⟩ := List.exists_cons_of_ne_nil hchars
      refine absurd ?_ (openBracket_notMem_tail hrun)
      rw [← hmore, ← hopen]
      simp

/-- **A mark is read where it is written.** -/
theorem readMark?_eq_some_iff {s digits : List Char} {length : Nat} :
    readMark? s = some (digits, length) ↔
      IsRun digits ∧ length = (written digits).length ∧ written digits <+: s := by
  constructor
  · intro h
    unfold readMark? at h
    split at h
    · rename_i rest
      simp only [drop_length_takeWhile] at h
      split at h
      · cases h
      · rename_i c tail behind hdigits hclose
        obtain ⟨rfl, rfl⟩ := Prod.mk.inj (Option.some.inj h)
        refine ⟨⟨by simp [hdigits], fun d hd => List.mem_takeWhile_imp hd⟩,
          (length_written _).symm, behind, ?_⟩
        have hrest := List.takeWhile_append_dropWhile (p := Text.isDecimalDigit) (l := rest)
        rw [hclose] at hrest
        simp [written, hrest]
      · cases h
    · cases h
  · rintro ⟨⟨hne, hdigits⟩, rfl, behind, rfl⟩
    have hclose : Text.isDecimalDigit ']' = false := by decide +kernel
    have htake := takeWhile_append_stop hdigits hclose behind
    have hspelled : written digits ++ behind =
        '[' :: 'i' :: 'm' :: 'g' :: ':' :: (digits ++ ']' :: behind) := by
      simp [written]
    rw [hspelled, length_written]
    simp only [readMark?, htake, List.drop_left]
    obtain ⟨c, tail, rfl⟩ := List.exists_cons_of_ne_nil hne
    rfl

theorem proper_readMark? : Proper readMark? := by
  intro s digits length h
  obtain ⟨-, rfl, hprefix⟩ := readMark?_eq_some_iff.1 h
  exact ⟨by simp [length_written], hprefix.length_le⟩

theorem isSome_readMark? {s : List Char} :
    (readMark? s).isSome = true ↔ ∃ digits, IsRun digits ∧ written digits <+: s := by
  constructor
  · intro h
    obtain ⟨⟨digits, length⟩, hread⟩ := Option.isSome_iff_exists.1 h
    obtain ⟨hrun, -, hprefix⟩ := readMark?_eq_some_iff.1 hread
    exact ⟨digits, hrun, hprefix⟩
  · rintro ⟨digits, hrun, hprefix⟩
    rw [readMark?_eq_some_iff.2 ⟨hrun, rfl, hprefix⟩]
    rfl

/-! ### Composing a line -/

/-- What is cut at its marks is composed of them and of stretches without marks. -/
theorem Spelled.of_cut {chars : List Char} {pieces : List (Piece (List Char))}
    (h : Cut readMark? chars pieces) : Spelled chars pieces := by
  induction h with
  | done => exact ⟨rfl, by simp, by simp, .nil⟩
  | @plain stretch rest pieces hne hnone hnext hrest ih =>
    have hunmarked : Unmarked stretch := by
      rintro digits hrun ⟨before, behind, hsplit⟩
      have hback : written digits ++ behind <:+ stretch := ⟨before, by simpa using hsplit⟩
      have hread := hnone _ hback (by simp [written_ne_nil])
      have hsome := isSome_readMark?.2 ⟨digits, hrun, (written digits).prefix_append
        (behind ++ rest)⟩
      rw [← List.append_assoc, hread] at hsome
      cases hsome
    refine ⟨?_, ?_, ?_, ?_⟩
    · rw [List.flatMap_cons, ih.whole]
      rfl
    · simpa using ih.run
    · rintro s hs
      rcases List.mem_cons.1 hs with hs | hs
      · obtain rfl := Piece.plain.inj hs
        exact ⟨hne, hunmarked⟩
      · exact ih.stretch s hs
    · refine List.isChain_cons.2 ⟨fun b hb => ?_, ih.apart⟩
      -- what follows a stretch starts with a mark
      cases hrest with
      | done => simp at hb
      | @plain stretch' rest' pieces' hne' hnone' _ _ =>
        have hread := hnone' stretch' (List.suffix_refl _) hne'
        rcases hnext with hnil | hsome
        · exact absurd (List.append_eq_nil_iff.1 hnil).1 hne'
        · rw [hread] at hsome
          cases hsome
      | mark =>
        obtain rfl := Option.some.inj hb
        exact .inr rfl
  | @mark chars rest digits pieces hne hread hrest ih =>
    obtain ⟨hrun, hlength, hprefix⟩ := readMark?_eq_some_iff.1 hread
    have hchars : written digits = chars := by
      obtain ⟨behind, hsplit⟩ := hprefix
      exact (List.append_inj hsplit hlength.symm).1
    refine ⟨?_, ?_, ?_, ?_⟩
    · rw [List.flatMap_cons, ih.whole, ← hchars]
      rfl
    · intro d hd
      rcases List.mem_cons.1 hd with hd | hd
      · obtain rfl := Piece.mark.inj hd
        exact hrun
      · exact ih.run d hd
    · simpa using ih.stretch
    · exact List.isChain_cons.2 ⟨fun _ _ => .inl rfl, ih.apart⟩

/-- What is composed of marks and stretches without marks is cut at the marks. -/
theorem Spelled.cut {chars : List Char} {pieces : List (Piece (List Char))}
    (h : Spelled chars pieces) : Cut readMark? chars pieces := by
  induction pieces generalizing chars with
  | nil =>
    rw [← h.whole]
    exact .done
  | cons piece pieces ih =>
    have hrest : Cut readMark? (pieces.flatMap spelling) pieces := ih ⟨rfl,
      fun d hd => h.run d (List.mem_cons_of_mem _ hd),
      fun s hs => h.stretch s (List.mem_cons_of_mem _ hs), (List.isChain_cons.1 h.apart).2⟩
    rw [← h.whole, List.flatMap_cons]
    cases piece with
    | plain stretch =>
      obtain ⟨hne, hunmarked⟩ := h.stretch stretch List.mem_cons_self
      -- the stretch is followed by a mark, if by anything
      have hnext : pieces.flatMap spelling = [] ∨
          ∃ digits behind, IsRun digits ∧ pieces.flatMap spelling = written digits ++ behind := by
        cases pieces with
        | nil => exact .inl rfl
        | cons next pieces =>
          cases next with
          | plain s => simpa [Piece.mark?] using (List.isChain_cons_cons.1 h.apart).1
          | mark digits =>
            exact .inr ⟨digits, pieces.flatMap spelling, h.run digits (by simp), rfl⟩
      refine .plain hne (fun back hback hback_ne => ?_) ?_ hrest
      · rw [← Option.not_isSome_iff_eq_none, isSome_readMark?]
        rintro ⟨digits, hrun, hprefix⟩
        have hbracket : pieces.flatMap spelling = [] ∨
            (pieces.flatMap spelling).head? = some '[' := by
          refine hnext.imp id ?_
          rintro ⟨digits', behind, -, heq⟩
          rw [heq]
          rfl
        have hin := prefix_of_prefix_append hrun hback_ne hbracket hprefix
        exact hunmarked digits hrun (hin.isInfix.trans hback.isInfix)
      · refine hnext.imp id ?_
        rintro ⟨digits, behind, hrun, heq⟩
        rw [heq]
        exact isSome_readMark?.2 ⟨digits, hrun, List.prefix_append ..⟩
    | mark digits =>
      have hrun := h.run digits List.mem_cons_self
      exact .mark (written_ne_nil digits)
        (readMark?_eq_some_iff.2 ⟨hrun, rfl, List.prefix_append ..⟩) hrest

/-- **A line is spelled in one way.** -/
theorem spelled_iff {chars : List Char} {pieces : List (Piece (List Char))} :
    Spelled chars pieces ↔ pieces = piecesOf readMark? 0 chars :=
  ⟨fun h => (cut_iff proper_readMark?).1 h.cut,
    fun h => .of_cut ((cut_iff proper_readMark?).2 h)⟩

theorem spelled_piecesOf (chars : List Char) : Spelled chars (piecesOf readMark? 0 chars) :=
  spelled_iff.2 rfl

/-! ### Parts of a line -/

/-- Two lines with a mark between them are spelled each on its own. -/
theorem Spelled.join {before behind digits : List Char}
    {pieces pieces' : List (Piece (List Char))} (h : Spelled before pieces) (hrun : IsRun digits)
    (h' : Spelled behind pieces') :
    Spelled (before ++ (written digits ++ behind)) (pieces ++ .mark digits :: pieces') where
  whole := by
    rw [List.flatMap_append, List.flatMap_cons, h.whole, h'.whole]
    rfl
  run d hd := by
    rcases List.mem_append.1 hd with hd | hd
    · exact h.run d hd
    rcases List.mem_cons.1 hd with hd | hd
    · obtain rfl := Piece.mark.inj hd
      exact hrun
    · exact h'.run d hd
  stretch s hs := by
    rcases List.mem_append.1 hs with hs | hs
    · exact h.stretch s hs
    · exact h'.stretch s (by simpa using hs)
  apart := by
    refine h.apart.append (List.isChain_cons.2 ⟨fun _ _ => .inl rfl, h'.apart⟩) fun _ _ b hb => ?_
    obtain rfl := Option.some.inj hb
    exact .inr rfl

/-- **A mark parts a line.** -/
theorem piecesOf_append_written {digits : List Char} (hrun : IsRun digits)
    (before behind : List Char) :
    piecesOf readMark? 0 (before ++ (written digits ++ behind)) =
      piecesOf readMark? 0 before ++ .mark digits :: piecesOf readMark? 0 behind :=
  (spelled_iff.1 ((spelled_piecesOf before).join hrun (spelled_piecesOf behind))).symm

theorem piecesOf_of_unmarked {chars : List Char} (h : Unmarked chars) (hne : chars ≠ []) :
    piecesOf readMark? 0 chars = [.plain chars] := by
  refine (spelled_iff.1 ⟨by simp [spelling], by simp, fun s hs => ?_, .singleton _⟩).symm
  obtain rfl := Piece.plain.inj (List.mem_singleton.1 hs)
  exact ⟨hne, h⟩

/-- A text whose pieces are all plain has no mark in it. -/
theorem Spelled.unmarked {chars : List Char} {pieces : List (Piece (List Char))}
    (h : Spelled chars pieces) (hplain : ∀ digits, .mark digits ∉ pieces) : Unmarked chars := by
  match pieces, h with
  | [], h =>
    rw [← h.whole]
    intro digits _ hinfix
    exact written_ne_nil digits (List.infix_nil.1 hinfix)
  | [.plain stretch], h =>
    have hwhole : stretch = chars := by simpa [spelling] using h.whole
    exact hwhole ▸ (h.stretch stretch List.mem_cons_self).2
  | .mark digits :: rest, _ => exact absurd List.mem_cons_self (hplain digits)
  | .plain _ :: .mark digits :: rest, _ =>
    exact absurd (List.mem_cons_of_mem _ List.mem_cons_self) (hplain digits)
  | .plain _ :: .plain _ :: rest, h =>
    have happart := (List.isChain_cons_cons.1 h.apart).1
    simp [Piece.mark?] at happart

end Segment
end DialogueSheet
