/-
# Trimmed texts

A text without the blanks around it has no blanks around it (`trim_trim`), it is not blank
unless nothing is left of it (`allBlank_trim`), and it has all the letters of the text
(`filter_trimChars`).
-/
import DialogueSheet.Text.Blank
import Mathlib.Data.List.DropRight

namespace DialogueSheet
namespace Text

theorem trimChars_eq (s : List Char) : trimChars s = (s.dropWhile isBlank).rdropWhile isBlank :=
  rfl

theorem trimChars_trimChars (s : List Char) : trimChars (trimChars s) = trimChars s := by
  have hprefix : trimChars s <+: s.dropWhile isBlank := by
    rw [trimChars_eq]
    exact List.rdropWhile_prefix ..
  have hfront : (trimChars s).dropWhile isBlank = trimChars s := by
    cases htrim : trimChars s with
    | nil => rfl
    | cons c rest =>
      -- the first character is the first that is not blank
      obtain ⟨tail, htail⟩ := hprefix
      have hhead := List.head?_dropWhile_not isBlank s
      rw [← htail, htrim, List.cons_append, List.head?_cons] at hhead
      exact List.dropWhile_cons_of_neg (by simpa using hhead)
  calc trimChars (trimChars s)
      = (trimChars s).rdropWhile isBlank := by rw [trimChars_eq, hfront]
    _ = trimChars s := List.rdropWhile_idempotent ..

theorem trim_trim (s : String) : trim (trim s) = trim s := by
  have hchars : (trim s).toList = trimChars s.toList := String.toList_ofList
  rw [trim, hchars, trimChars_trimChars]
  rfl

/-- What is left of a text without the blanks around it ends with a letter. -/
theorem allBlank_trim {s : String} (h : trim s ≠ "") : allBlank (trim s) = false := by
  have hne : (s.toList.dropWhile isBlank).rdropWhile isBlank ≠ [] := fun hnil =>
    h (congrArg String.ofList hnil)
  refine List.all_eq_false.2 ⟨_, ?_, List.rdropWhile_last_not _ _ hne⟩
  rw [trim, String.toList_ofList]
  exact List.getLast_mem hne

/-- Nothing but blanks is taken away. -/
theorem filter_trimChars (s : List Char) :
    (trimChars s).filter (!isBlank ·) = s.filter (!isBlank ·) := by
  have hdrop : ∀ l : List Char, (l.dropWhile isBlank).filter (!isBlank ·) =
      l.filter (!isBlank ·) := by
    intro l
    induction l with
    | nil => rfl
    | cons c rest ih =>
      cases hc : isBlank c with
      | true => simpa [hc] using ih
      | false => simp [hc]
  rw [trimChars, trimRight, List.filter_reverse, hdrop, ← List.filter_reverse, List.reverse_reverse,
    hdrop]

/-- Nothing is left of the blank texts. -/
theorem trimChars_eq_nil_iff {s : List Char} : trimChars s = [] ↔ s.all isBlank = true := by
  constructor
  · intro h
    have hletters := filter_trimChars s
    rw [h, List.filter_nil, eq_comm, List.filter_eq_nil_iff] at hletters
    simpa using hletters
  · intro h
    have hnil : s.dropWhile isBlank = [] :=
      List.dropWhile_eq_nil_iff.2 (List.all_eq_true.1 h)
    rw [trimChars_eq, hnil]
    rfl

/-- A text without blanks is left as it is. -/
theorem trimChars_of_letters {s : List Char} (h : ∀ c ∈ s, isBlank c = false) :
    trimChars s = s := by
  have hdrop : ∀ l : List Char, (∀ c ∈ l, isBlank c = false) → l.dropWhile isBlank = l := by
    intro l hl
    cases l with
    | nil => rfl
    | cons c rest => exact List.dropWhile_cons_of_neg (by simp [hl c List.mem_cons_self])
  rw [trimChars, trimRight, hdrop s h, hdrop _ fun c hc => h c (List.mem_reverse.1 hc),
    List.reverse_reverse]

/-- Blanks around a text are taken away with the others. -/
theorem trimChars_append {before behind : List Char} (hbefore : ∀ c ∈ before, isBlank c = true)
    (hbehind : ∀ c ∈ behind, isBlank c = true) (s : List Char) :
    trimChars (before ++ s ++ behind) = trimChars s := by
  have hend : ∀ t : List Char, trimRight (t ++ behind) = trimRight t := by
    intro t
    rw [trimRight, List.reverse_append,
      List.dropWhile_append_of_pos fun c hc => hbehind c (List.mem_reverse.1 hc)]
    rfl
  rw [trimChars, trimChars, List.append_assoc, List.dropWhile_append_of_pos hbefore,
    List.dropWhile_append]
  split
  · rename_i hnone
    rw [List.isEmpty_iff.1 hnone, List.dropWhile_eq_nil_iff.2 hbehind]
  · exact hend _

/-! ### Replacing characters -/

theorem dropWhile_flatMap {p : Char → Bool} {f : Char → List Char} (hne : ∀ c, f c ≠ [])
    (hkind : ∀ c, ∀ d ∈ f c, p d = p c) (s : List Char) :
    (s.flatMap f).dropWhile p = (s.dropWhile p).flatMap f := by
  induction s with
  | nil => rfl
  | cons c rest ih =>
    rw [List.flatMap_cons]
    cases hc : p c with
    | true =>
      rw [List.dropWhile_append_of_pos fun d hd => (hkind c d hd).trans hc, ih,
        List.dropWhile_cons_of_pos hc]
    | false =>
      obtain ⟨d, ds, hd⟩ := List.exists_cons_of_ne_nil (hne c)
      have hfirst : p d = false := by
        rw [hkind c d (by rw [hd]; exact List.mem_cons_self), hc]
      rw [List.dropWhile_cons_of_neg (by simp [hc]), List.flatMap_cons, hd, List.cons_append,
        List.dropWhile_cons_of_neg (by simp [hfirst])]

/-- Characters may be replaced before or after the blanks around them are taken away, when blanks
go to blanks and letters to letters. -/
theorem trimChars_flatMap {f : Char → List Char} (hne : ∀ c, f c ≠ [])
    (hblank : ∀ c, ∀ d ∈ f c, isBlank d = isBlank c) (s : List Char) :
    trimChars (s.flatMap f) = (trimChars s).flatMap f := by
  have hreverse : ∀ l : List Char, ((l.flatMap f).reverse.dropWhile isBlank).reverse =
      ((l.reverse.dropWhile isBlank).reverse).flatMap f := by
    intro l
    have hback : List.reverse ∘ List.reverse ∘ f = f := funext fun c => List.reverse_reverse (f c)
    rw [List.reverse_flatMap, dropWhile_flatMap (f := List.reverse ∘ f) (by simpa using hne)
      (fun c d hd => hblank c d (List.mem_reverse.1 hd)), List.reverse_flatMap, hback]
  rw [trimChars, trimRight, dropWhile_flatMap hne hblank, hreverse]
  rfl

end Text
end DialogueSheet
