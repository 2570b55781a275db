/-
# Blank characters, trimming and lines

A character is blank when it has the property `White_Space`: 25 characters,
among them the no-break space and the ideographic space, but neither the
zero-width space nor the byte order mark.
-/

namespace DialogueSheet
namespace Text

/-- Whether a character is white space. -/
def isBlank (c : Char) : Bool :=
  let n := c.toNat
  (9 ≤ n && n ≤ 13) || n == 32 || n == 0x85 || n == 0xa0 || n == 0x1680
    || (0x2000 ≤ n && n ≤ 0x200a) || n == 0x2028 || n == 0x2029 || n == 0x202f
    || n == 0x205f || n == 0x3000

/-- The characters without the blank ones at the end. -/
def trimRight (s : List Char) : List Char := (s.reverse.dropWhile isBlank).reverse

/-- The characters without the blank ones at both ends. -/
def trimChars (s : List Char) : List Char := trimRight (s.dropWhile isBlank)

/-- The text without the blank characters at both ends. -/
def trim (s : String) : String := String.ofList (trimChars s.toList)

/-- Whether a text has nothing but blank characters. -/
def allBlank (s : String) : Bool := s.toList.all isBlank

/-- The pieces of a list between the places that hold `mark`; one more than there are marks. -/
def cutAt (mark : Char) : List Char → List (List Char)
  | [] => [[]]
  | c :: rest =>
    if c = mark then [] :: cutAt mark rest
    else match cutAt mark rest with
      | [] => [[c]]
      | piece :: pieces => (c :: piece) :: pieces

/-- The lines of a text, without their line feeds. -/
def lines (s : String) : List String := (cutAt '\n' s.toList).map String.ofList

/-- The part before the first blank character and the part after it; everything
and nothing when no character is blank. -/
def splitAtBlank (s : List Char) : List Char × List Char :=
  (s.takeWhile (!isBlank ·), (s.dropWhile (!isBlank ·)).drop 1)

/-- Whether `needle` occurs in `hay` as a run of characters. -/
def occursIn (needle : List Char) : List Char → Bool
  | [] => needle.isEmpty
  | c :: rest => needle.isPrefixOf (c :: rest) || occursIn needle rest

theorem occursIn_iff (needle hay : List Char) : occursIn needle hay = true ↔ needle <:+: hay := by
  induction hay with
  | nil => simp [occursIn]
  | cons c rest ih =>
    rw [occursIn, Bool.or_eq_true, List.isPrefixOf_iff_prefix, ih, List.infix_cons_iff]

/-- `hay` with every occurrence of `pattern` replaced, found from left to right
without overlap; `fuel` bounds the characters read. -/
def replaceFrom (pattern replacement : List Char) : Nat → List Char → List Char
  | 0, hay => hay
  | _, [] => []
  | fuel + 1, c :: rest =>
    if pattern.isPrefixOf (c :: rest) && !pattern.isEmpty then
      replacement ++ replaceFrom pattern replacement fuel ((c :: rest).drop pattern.length)
    else c :: replaceFrom pattern replacement fuel rest

/-- The text with every occurrence of `pattern` replaced. -/
def replace (s pattern replacement : String) : String :=
  String.ofList
    (replaceFrom pattern.toList replacement.toList s.toList.length s.toList)

theorem cutAt_ne_nil (mark : Char) (s : List Char) : cutAt mark s ≠ [] := by
  cases s with
  | nil => simp [cutAt]
  | cons c rest =>
    unfold cutAt
    split
    · simp
    · split <;> simp

theorem cutAt_eq_splitOn (mark : Char) (s : List Char) : cutAt mark s = s.splitOn mark := by
  induction s with
  | nil => simp [cutAt]
  | cons c rest ih =>
    have hne := cutAt_ne_nil mark rest
    rw [cutAt, List.splitOn_cons_eq_if_modifyHead, ← ih]
    by_cases hc : c = mark
    · simp [hc]
    · obtain ⟨piece, pieces, hcons⟩ := List.exists_cons_of_ne_nil hne
      simp [hc, hcons]

example : trim "\u3000 a b\u00a0" = "a b" := by decide +kernel
example : cutAt '\n' "a\n\nb\n".toList = ["a".toList, [], "b".toList, []] := by decide +kernel

end Text
end DialogueSheet
