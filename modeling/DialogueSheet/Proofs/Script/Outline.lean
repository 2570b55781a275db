/-
# The outline of a script

The lines that are not blank keep their numbers (`mem_numberedLines`).  They fall into
the lead, which stands before the first command, and the sections, each a command line
with the lines up to the next command.  The types say that no command hides in a lead or
behind another command, and the outline of lines holds them all in their order
(`lines_ofLines`), so the outline is determined by the lines.
-/
import DialogueSheet.Script.Reading
import Mathlib.Data.List.Basic

namespace DialogueSheet
namespace Script

/-! ### Numbered lines -/

/-- The numbered lines are the trimmed lines of the script that are not blank, each with
its place among all lines, counted from 1. -/
theorem mem_numberedLines {script : String} {number : Nat} {text : List Char} :
    (number, text) ∈ numberedLines script ↔ text ≠ [] ∧ ∃ i line,
      (script.toList.splitOn '\n')[i]? = some line ∧ number = i + 1 ∧
        text = Text.trimChars line := by
  simp only [numberedLines, Text.cutAt_eq_splitOn, List.mem_filterMap, Prod.exists,
    List.mk_mem_zipIdx_iff_le_and_getElem?_sub]
  constructor
  · rintro ⟨line, n, ⟨hn, hline⟩, hkeep⟩
    split at hkeep
    · simp at hkeep
    · rename_i hblank
      simp only [Option.some.injEq, Prod.mk.injEq] at hkeep
      obtain ⟨rfl, rfl⟩ := hkeep
      exact ⟨by simpa using hblank, n - 1, line, hline, by omega, rfl⟩
  · rintro ⟨hne, i, line, hline, rfl, rfl⟩
    exact ⟨line, i + 1, ⟨by omega, hline⟩, by simp [hne]⟩

theorem pairwise_zipIdx {α : Type} (l : List α) (n : Nat) :
    (l.zipIdx n).Pairwise fun a b => a.2 < b.2 := by
  have h : (List.range' n l.length).Pairwise (· < ·) := List.pairwise_lt_range'
  rw [← List.zipIdx_map_snd n l, List.pairwise_map] at h
  exact h

/-- The numbers increase. -/
theorem pairwise_numberedLines (script : String) :
    (numberedLines script).Pairwise fun a b => a.1 < b.1 := by
  rw [numberedLines, List.pairwise_filterMap]
  refine (pairwise_zipIdx _ 1).imp fun {a b} hlt a' ha b' hb => ?_
  have hnumber : ∀ {k : List Char × Nat} {k' : Nat × List Char},
      (if (Text.trimChars k.1).isEmpty then none else some (k.2, Text.trimChars k.1)) = some k' →
        k'.1 = k.2 := by
    intro k k' h
    split at h
    · simp at h
    · rw [← Option.some.inj h]
  rw [hnumber ha, hnumber hb]
  exact hlt

/-! ### Sections -/

/-- A command line with the lines up to the next command. -/
structure Section where
  line : Nat × List Char
  role : Role
  rest : List Char
  body : List (Nat × List Char)
  isCommand : command? line.2 = some (role, rest)
  plain : ∀ l ∈ body, command? l.2 = none

/-- The texts of the lines behind the command. -/
def Section.texts (s : Section) : List String := s.body.map fun l => String.ofList l.2

/-- The lines before the first command and the sections. -/
structure Outline where
  lead : List (Nat × List Char)
  sections : List Section
  plain : ∀ l ∈ lead, command? l.2 = none

namespace Outline

/-- The outline with one more line in front. -/
def cons (l : Nat × List Char) (o : Outline) : Outline :=
  match h : command? l.2 with
  | some (role, rest) => ⟨[], ⟨l, role, rest, o.lead, h, o.plain⟩ :: o.sections, by simp⟩
  | none => ⟨l :: o.lead, o.sections, by simpa [h] using o.plain⟩

theorem cons_of_command {l : Nat × List Char} {role : Role} {rest : List Char}
    (h : command? l.2 = some (role, rest)) (o : Outline) :
    cons l o = ⟨[], ⟨l, role, rest, o.lead, h, o.plain⟩ :: o.sections, by simp⟩ := by
  unfold cons
  split
  · rename_i role' rest' h'
    obtain ⟨rfl, rfl⟩ : role' = role ∧ rest' = rest := by simpa [h] using h'.symm
    rfl
  · rename_i h'
    rw [h] at h'
    cases h'

theorem cons_of_plain {l : Nat × List Char} (h : command? l.2 = none) (o : Outline) :
    (cons l o).lead = l :: o.lead ∧ (cons l o).sections = o.sections := by
  unfold cons
  split
  · rename_i h'
    rw [h] at h'
    cases h'
  · exact ⟨rfl, rfl⟩

/-- The outline of lines. -/
def ofLines (lines : List (Nat × List Char)) : Outline :=
  lines.foldr cons ⟨[], [], by simp⟩

/-- All lines of an outline. -/
def lines (o : Outline) : List (Nat × List Char) :=
  o.lead ++ o.sections.flatMap fun s => s.line :: s.body

theorem lines_cons (l : Nat × List Char) (o : Outline) : (cons l o).lines = l :: o.lines := by
  cases h : command? l.2 with
  | some command => rw [cons_of_command h]; simp [lines]
  | none =>
    obtain ⟨hlead, hsections⟩ := cons_of_plain h o
    simp [lines, hlead, hsections]

/-- No line is lost, doubled or moved. -/
theorem lines_ofLines (ls : List (Nat × List Char)) : (ofLines ls).lines = ls := by
  induction ls with
  | nil => rfl
  | cons l ls ih =>
    calc (ofLines (l :: ls)).lines = l :: (ofLines ls).lines := lines_cons l (ofLines ls)
      _ = l :: ls := by rw [ih]

end Outline
end Script
end DialogueSheet
