/-
# Lower case once is lower case

No letter in lower case goes to another one, so lowering a text twice is lowering it once
(`lower_lower`).  Blank characters and other signs without case stay what they are, and no letter
becomes one of them (`lower_of_caseless`, `eq_of_mem_lower`).

The facts about single characters rest on three tests of the table of runs: what a run gives is
taken up by no run, is a character, and is none of the caseless ones.
-/
import DialogueSheet.Text.Blank
import DialogueSheet.Text.Casing

namespace DialogueSheet
namespace Text

/-- What the run from `first` to `last` gives lies outside of another run or between its steps. -/
def misses (first last step image : Nat) (run : CaseRun) : Bool :=
  run.2.1.blt image || (image + (last - first)).blt run.1 ||
    (run.2.2.1 == 2 && (step == 2 || first == last) && (image + run.1) % 2 == 1)

/-- The run neither takes up the code point nor gives it. -/
def avoids (n : Nat) : CaseRun → Bool
  | (first, last, _, image) =>
    (n < first || last < n) && (n < image || image + (last - first) < n)

/-- A character without case: none has it as its lower-case form but itself. -/
def Caseless (c : Char) : Prop :=
  c ≠ '\u0130' ∧ c ≠ '\u0307' ∧ lowerRuns.all (avoids c.toNat) = true

instance (c : Char) : Decidable (Caseless c) :=
  inferInstanceAs (Decidable (c ≠ '\u0130' ∧ c ≠ '\u0307' ∧ lowerRuns.all (avoids c.toNat) = true))

/-! ### The table of runs -/

theorem misses_lowerRuns : (lowerRuns.all fun (first, last, step, image) =>
    lowerRuns.all (misses first last step image)) = true := by
  decide +kernel

theorem isValidChar_lowerRuns : ∀ run ∈ lowerRuns,
    run.2.2.2 + (run.2.1 - run.1) < 0xd800 ∨
      (0xdfff < run.2.2.2 ∧ run.2.2.2 + (run.2.1 - run.1) < 0x110000) := by
  decide +kernel

theorem step_lowerRuns : ∀ run ∈ lowerRuns, run.2.2.1 = 1 ∨ run.2.2.1 = 2 := by
  decide +kernel

/-- A code point goes to the place in the image that it has in its run. -/
theorem caseImage?_eq_some {runs : List CaseRun} {n m : Nat} (h : caseImage? runs n = some m) :
    ∃ first last step image, (first, last, step, image) ∈ runs ∧ first ≤ n ∧ n ≤ last ∧
      (n - first) % step = 0 ∧ m = image + (n - first) := by
  obtain ⟨⟨first, last, step, image⟩, hrun, hm⟩ := List.exists_of_findSome?_eq_some h
  simp only [Option.ite_none_right_eq_some, Option.some.injEq] at hm
  exact ⟨first, last, step, image, hrun, hm.1.1, hm.1.2.1, hm.1.2.2, hm.2.symm⟩

theorem caseImage?_eq_none {runs : List CaseRun} {n : Nat}
    (h : ∀ first last step image, (first, last, step, image) ∈ runs →
      ¬(first ≤ n ∧ n ≤ last ∧ (n - first) % step = 0)) : caseImage? runs n = none := by
  rw [caseImage?, List.findSome?_eq_none_iff]
  rintro ⟨first, last, step, image⟩ hrun
  exact if_neg (h first last step image hrun)

/-- What a code point goes to is a character and goes nowhere else. -/
theorem caseImage?_lowerRuns {n m : Nat} (h : caseImage? lowerRuns n = some m) :
    m.isValidChar ∧ caseImage? lowerRuns m = none := by
  obtain ⟨first, last, step, image, hrun, hfirst, hlast, hstep, rfl⟩ := caseImage?_eq_some h
  constructor
  · have hvalid := isValidChar_lowerRuns _ hrun
    simp only at hvalid
    rw [Nat.isValidChar]
    omega
  · refine caseImage?_eq_none fun first' last' step' image' hrun' hin => ?_
    have hmisses := List.all_eq_true.1 (List.all_eq_true.1 misses_lowerRuns _ hrun) _ hrun'
    have hsteps := step_lowerRuns _ hrun
    simp only [misses, Bool.or_eq_true, Bool.and_eq_true, Nat.blt_eq, beq_iff_eq] at hmisses
    obtain ⟨hin_first, hin_last, hin_step⟩ := hin
    rcases hmisses with (hbehind | hbefore) | ⟨⟨rfl, hkind⟩, hodd⟩
    · omega
    · omega
    · rcases hkind with rfl | rfl <;> omega

theorem toNat_shiftCase {c : Char} {m : Nat} (h : caseImage? lowerRuns c.toNat = some m) :
    (shiftCase lowerRuns c).toNat = m := by
  rw [shiftCase, h]
  simp only
  rw [Char.ofNat, dif_pos (caseImage?_lowerRuns h).1]
  rfl

theorem shiftCase_of_none {c : Char} (h : caseImage? lowerRuns c.toNat = none) :
    shiftCase lowerRuns c = c := by
  rw [shiftCase, h]

theorem shiftCase_shiftCase (c : Char) :
    shiftCase lowerRuns (shiftCase lowerRuns c) = shiftCase lowerRuns c := by
  cases h : caseImage? lowerRuns c.toNat with
  | none => rw [shiftCase_of_none h, shiftCase_of_none h]
  | some m =>
    apply shiftCase_of_none
    rw [toNat_shiftCase h]
    exact (caseImage?_lowerRuns h).2

/-! ### Characters without case -/

theorem avoids_of_caseless {c : Char} (h : Caseless c) {first last step image : Nat}
    (hrun : (first, last, step, image) ∈ lowerRuns) :
    (c.toNat < first ∨ last < c.toNat) ∧
      (c.toNat < image ∨ image + (last - first) < c.toNat) := by
  have havoids := List.all_eq_true.1 h.2.2 _ hrun
  simpa [avoids] using havoids

/-- A character without case is its own lower-case form. -/
theorem lower_of_caseless {c : Char} (h : Caseless c) : lower c = [c] := by
  have hnone : caseImage? lowerRuns c.toNat = none :=
    caseImage?_eq_none fun first last step image hrun hin => by
      have houtside := (avoids_of_caseless h hrun).1
      omega
  rw [lower, if_neg h.1, shiftCase_of_none hnone]

/-- A character without case is the lower-case form of no other one. -/
theorem eq_of_mem_lower {c d : Char} (hd : Caseless d) (h : d ∈ lower c) : d = c := by
  unfold lower at h
  split at h
  · simp only [List.mem_cons, List.not_mem_nil, or_false] at h
    rcases h with rfl | rfl
    · exact absurd hd (by decide +kernel)
    · exact absurd rfl hd.2.1
  · obtain rfl := List.mem_singleton.1 h
    cases himage : caseImage? lowerRuns c.toNat with
    | none => exact shiftCase_of_none himage
    | some m =>
      obtain ⟨first, last, step, image, hrun, hfirst, hlast, -, hm⟩ := caseImage?_eq_some himage
      have houtside := (avoids_of_caseless hd hrun).2
      rw [toNat_shiftCase himage] at houtside
      omega

theorem lower_ne_nil (c : Char) : lower c ≠ [] := by
  unfold lower
  split <;> exact List.cons_ne_nil _ _

/-- **A character in lower case stays what it is.** -/
theorem lower_lower (c : Char) : (lower c).flatMap lower = lower c := by
  by_cases hdotted : c = '\u0130'
  · subst hdotted
    decide +kernel
  · have hlower : lower c = [shiftCase lowerRuns c] := if_neg hdotted
    have hplain : shiftCase lowerRuns c ≠ '\u0130' := by
      intro hshift
      cases himage : caseImage? lowerRuns c.toNat with
      | none => exact hdotted (by rw [← hshift, shiftCase_of_none himage])
      | some m =>
        obtain ⟨first, last, step, image, hrun, hfirst, hlast, -, hm⟩ := caseImage?_eq_some himage
        have hruns : ∀ run ∈ lowerRuns, avoids 0x130 run = true := by decide +kernel
        have havoids := hruns _ hrun
        have hnat := toNat_shiftCase himage
        rw [hshift] at hnat
        simp only [avoids, Bool.and_eq_true, Bool.or_eq_true, decide_eq_true_eq] at havoids
        have hcode : ('\u0130' : Char).toNat = 0x130 := rfl
        omega
    rw [hlower, List.flatMap_singleton, lower, if_neg hplain, shiftCase_shiftCase]

/-! ### Blank characters -/

/-- The code points of the blank characters. -/
def blanks : List Nat :=
  [9, 10, 11, 12, 13, 0x20, 0x85, 0xa0, 0x1680, 0x2000, 0x2001, 0x2002, 0x2003, 0x2004, 0x2005,
    0x2006, 0x2007, 0x2008, 0x2009, 0x200a, 0x2028, 0x2029, 0x202f, 0x205f, 0x3000]

theorem toNat_mem_blanks {c : Char} (h : isBlank c = true) : c.toNat ∈ blanks := by
  simp only [isBlank, Bool.or_eq_true, Bool.and_eq_true, decide_eq_true_eq, beq_iff_eq] at h
  simp only [blanks, List.mem_cons, List.not_mem_nil, or_false]
  omega

theorem caseless_of_isBlank {c : Char} (h : isBlank c = true) : Caseless c := by
  have hblanks : ∀ n ∈ blanks, n ≠ 0x130 ∧ n ≠ 0x307 ∧ lowerRuns.all (avoids n) = true := by
    decide +kernel
  obtain ⟨hdotted, hdot, hruns⟩ := hblanks _ (toNat_mem_blanks h)
  refine ⟨?_, ?_, hruns⟩
  · rintro rfl
    exact hdotted rfl
  · rintro rfl
    exact hdot rfl

/-- The lower-case form of a character is blank when the character is. -/
theorem isBlank_of_mem_lower {c d : Char} (h : d ∈ lower c) : isBlank d = isBlank c := by
  cases hd : isBlank d with
  | true => rw [← eq_of_mem_lower (caseless_of_isBlank hd) h, hd]
  | false =>
    cases hc : isBlank c with
    | false => rfl
    | true =>
      rw [lower_of_caseless (caseless_of_isBlank hc), List.mem_singleton] at h
      rw [h, hc] at hd
      cases hd

end Text
end DialogueSheet
