/-
# Placeholders as they are written

A placeholder is `<?`, a run of decimal digits of any script and `>`, or `<`, the letter of a
kind, `:`, a name and `>`.  The name is the shortest run on one line that is not empty and has a
`>` behind it: a `>` may begin the name, and then does not end it.  Two placeholders that start
at the same place are the same one, and the reader finds it (`read?_eq_some_iff`).

Placeholders may be written into each other: a name may hold the beginning of another one.  What
is found from left to right is therefore no matter of the parts alone, as `Cut` has it.
-/
import DialogueSheet.Proofs.Markup.Cut
import DialogueSheet.Markup.RichText

namespace DialogueSheet
namespace Placeholder

/-- A placeholder as it is written. -/
def written : Placeholder → List Char
  | parameter digits => '<' :: '?' :: (digits ++ ['>'])
  | effect kind name => '<' :: kind :: ':' :: (name ++ ['>'])

/-- What may stand in a placeholder: digits of any script, or a name on one line that a `>` may
begin and nowhere else be in. -/
def WellFormed : Placeholder → Prop
  | parameter digits => digits ≠ [] ∧ ∀ c ∈ digits, Text.isDecimalDigit c = true
  | effect kind name =>
    kind ∈ ['b', 'd', 'c', 's'] ∧ name ≠ [] ∧ '\n' ∉ name ∧ '>' ∉ name.tail

/-- A piece as it is written. -/
def spelling : Piece Placeholder → List Char
  | .plain chars => chars
  | .mark p => p.written

theorem written_parameter (digits : List Char) :
    (parameter digits).written = '<' :: '?' :: (digits ++ ['>']) := rfl

theorem written_effect (kind : Char) (name : List Char) :
    (effect kind name).written = '<' :: kind :: ':' :: (name ++ ['>']) := rfl

theorem written_ne_nil (p : Placeholder) : p.written ≠ [] := by
  cases p <;> exact List.cons_ne_nil _ _

theorem isSome_lookup_effectKinds {kind : Char} :
    (effectKinds.lookup kind).isSome = true ↔ kind ∈ ['b', 'd', 'c', 's'] := by
  simp [List.lookup_isSome_iff, effectKinds]

/-! ### Reading -/

theorem isDecimalDigit_close : Text.isDecimalDigit '>' = false := by decide +kernel

/-- **A placeholder is read where it is written.** -/
theorem read?_eq_some_iff {s : List Char} {p : Placeholder} {length : Nat} :
    read? s = some (p, length) ↔
      p.WellFormed ∧ length = p.written.length ∧ p.written <+: s := by
  constructor
  · intro h
    unfold read? at h
    simp only [drop_length_takeWhile] at h
    split at h
    · rename_i rest
      have hrest := List.takeWhile_append_dropWhile (p := Text.isDecimalDigit) (l := rest)
      split at h
      · cases h
      · rename_i c tail behind hdigits hclose
        obtain ⟨rfl, rfl⟩ := Prod.mk.inj (Option.some.inj h)
        refine ⟨⟨by simp [hdigits], fun d hd => List.mem_takeWhile_imp hd⟩,
          by simp [written_parameter], behind, ?_⟩
        rw [hclose] at hrest
        simp [written_parameter, hrest]
      · cases h
    · rename_i kind c rest _
      have hrest := List.takeWhile_append_dropWhile (p := fun d => d ≠ '>' ∧ d ≠ '\n') (l := rest)
      split at h
      · rename_i hstart
        split at h
        · rename_i behind hclose
          obtain ⟨rfl, rfl⟩ := Prod.mk.inj (Option.some.inj h)
          have hname : ∀ d ∈ rest.takeWhile fun d => d ≠ '>' ∧ d ≠ '\n', d ≠ '>' ∧ d ≠ '\n' :=
            fun d hd => by simpa using List.mem_takeWhile_imp hd
          refine ⟨⟨isSome_lookup_effectKinds.1 hstart.1, List.cons_ne_nil _ _, ?_, ?_⟩,
            by simp [written_effect], behind, ?_⟩
          · rintro hmem
            rcases List.mem_cons.1 hmem with hc | hmem
            · exact hstart.2 hc.symm
            · exact (hname _ hmem).2 rfl
          · exact fun hmem => (hname _ hmem).1 rfl
          · rw [hclose] at hrest
            simpa [written_effect] using hrest
        · cases h
      · cases h
    · cases h
  · rintro ⟨hp, rfl, behind, rfl⟩
    cases p with
    | parameter digits =>
      obtain ⟨hne, hdigits⟩ := hp
      have htake := takeWhile_append_stop hdigits isDecimalDigit_close behind
      have hspelled : (parameter digits).written ++ behind =
          '<' :: '?' :: (digits ++ '>' :: behind) := by simp [written_parameter]
      rw [hspelled]
      simp only [read?, htake, List.drop_left]
      obtain ⟨c, tail, rfl⟩ := List.exists_cons_of_ne_nil hne
      simp [written_parameter]
    | effect kind name =>
      obtain ⟨hkind, hne, hline, hclose⟩ := hp
      obtain ⟨c, tail, rfl⟩ := List.exists_cons_of_ne_nil hne
      have hname : ∀ d ∈ tail, decide (d ≠ '>' ∧ d ≠ '\n') = true := by
        intro d hd
        refine decide_eq_true ⟨?_, ?_⟩
        · rintro rfl
          exact hclose hd
        · rintro rfl
          exact hline (List.mem_cons_of_mem _ hd)
      have htake : (tail ++ '>' :: behind).takeWhile (fun d => d ≠ '>' ∧ d ≠ '\n') = tail :=
        takeWhile_append_stop hname (by decide) behind
      have hspelled : (effect kind (c :: tail)).written ++ behind =
          '<' :: kind :: ':' :: c :: (tail ++ '>' :: behind) := by simp [written_effect]
      have hlookup := isSome_lookup_effectKinds.2 hkind
      have hfirst : c ≠ '\n' := fun hc => hline (hc ▸ List.mem_cons_self)
      rw [hspelled, read?]
      · simp only [htake, List.drop_left, hlookup, hfirst, ne_eq, not_false_eq_true, and_self,
          if_true]
        simp [written_effect]
      · rintro rfl
        exact absurd hkind (by decide)

theorem proper_read? : Proper read? := by
  intro s p length h
  obtain ⟨-, rfl, hprefix⟩ := read?_eq_some_iff.1 h
  exact ⟨List.length_pos_of_ne_nil p.written_ne_nil, hprefix.length_le⟩

/-! ### Cutting -/

/-- The pieces of a text spell it; its marks are well formed and its stretches not empty. -/
theorem of_cut {s : List Char} {pieces : List (Piece Placeholder)} (h : Cut read? s pieces) :
    pieces.flatMap spelling = s ∧ (∀ p, .mark p ∈ pieces → p.WellFormed) ∧
      .plain [] ∉ pieces := by
  induction h with
  | done => simp
  | @plain chars rest pieces hne _ _ _ ih =>
    obtain ⟨hwhole, hmarks, hstretches⟩ := ih
    refine ⟨?_, by simpa using hmarks, ?_⟩
    · rw [List.flatMap_cons, hwhole]
      rfl
    · simpa [hstretches] using hne
  | @mark chars rest p pieces _ hread _ ih =>
    obtain ⟨hwhole, hmarks, hstretches⟩ := ih
    obtain ⟨hp, hlength, behind, hsplit⟩ := read?_eq_some_iff.1 hread
    obtain rfl : p.written = chars := (List.append_inj hsplit hlength.symm).1
    refine ⟨?_, ?_, by simpa using hstretches⟩
    · rw [List.flatMap_cons, hwhole]
      rfl
    · intro q hq
      rcases List.mem_cons.1 hq with hq | hq
      · exact Piece.mark.inj hq ▸ hp
      · exact hmarks q hq

end Placeholder
end DialogueSheet
