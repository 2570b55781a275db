/-
# Layouts that stop only at a text

A layout is computed from measured texts.  It measures one after the other and stops at the
first that cannot be measured; `StopsAt` says that nothing else stops it.
-/
import DialogueSheet.Layout.Resources
import DialogueSheet.Proofs.Typeset.Breaking
import Mathlib.Data.List.Forall2

namespace DialogueSheet

variable {ε α β : Type}

theorem bind_eq_ok_iff {x : Except ε α} {f : α → Except ε β} {b : β} :
    (x >>= f) = .ok b ↔ ∃ a, x = .ok a ∧ f a = .ok b := by
  cases x <;> simp [bind, Except.bind]

theorem bind_eq_error_iff {x : Except ε α} {f : α → Except ε β} {e : ε} :
    (x >>= f) = .error e ↔ x = .error e ∨ ∃ a, x = .ok a ∧ f a = .error e := by
  cases x <;> simp [bind, Except.bind]

/-- What was computed from a result tells that there is one. -/
theorem exists_ok_of_toOption {x : Except ε α} {f : α → β} {b : β}
    (h : x.toOption.map f = some b) : ∃ a, x = .ok a ∧ f a = b := by
  cases x with
  | error e => simp [Except.toOption] at h
  | ok a => exact ⟨a, rfl, Option.some.inj h⟩

/-- Results that all came about stand for the inputs in their order. -/
theorem forall₂_of_mapM_eq_ok {f : α → Except ε β} {xs : List α} {ys : List β}
    (h : xs.mapM f = .ok ys) : List.Forall₂ (fun x y => f x = .ok y) xs ys := by
  induction xs generalizing ys with
  | nil =>
    obtain rfl : [] = ys := Except.ok.inj h
    exact .nil
  | cons x xs ih =>
    rw [List.mapM_cons] at h
    obtain ⟨y, hy, hrest⟩ := bind_eq_ok_iff.1 h
    obtain ⟨ys', hys', hcons⟩ := bind_eq_ok_iff.1 hrest
    obtain rfl : y :: ys' = ys := Except.ok.inj hcons
    exact .cons hy (ih hys')

theorem exists_of_mem_mapM {f : α → Except ε β} {xs : List α} {ys : List β}
    (h : xs.mapM f = .ok ys) {y : β} (hy : y ∈ ys) : ∃ x ∈ xs, f x = .ok y := by
  have hall := forall₂_of_mapM_eq_ok h
  clear h
  induction hall with
  | nil => simp at hy
  | cons hxy _ ih =>
    rcases List.mem_cons.1 hy with rfl | hy
    · exact ⟨_, List.mem_cons_self, hxy⟩
    · obtain ⟨x, hx, hxy'⟩ := ih hy
      exact ⟨x, List.mem_cons_of_mem _ hx, hxy'⟩

theorem mapM_append_eq_ok_iff {f : α → Except ε β} {xs ys : List α} {zs : List β} :
    (xs ++ ys).mapM f = .ok zs ↔
      ∃ us vs, xs.mapM f = .ok us ∧ ys.mapM f = .ok vs ∧ zs = us ++ vs := by
  rw [List.mapM_append]
  constructor
  · intro h
    obtain ⟨us, hus, hrest⟩ := bind_eq_ok_iff.1 h
    obtain ⟨vs, hvs, hzs⟩ := bind_eq_ok_iff.1 hrest
    exact ⟨us, vs, hus, hvs, (Except.ok.inj hzs).symm⟩
  · rintro ⟨us, vs, hus, hvs, rfl⟩
    exact bind_eq_ok_iff.2 ⟨us, hus, bind_eq_ok_iff.2 ⟨vs, hvs, rfl⟩⟩

/-- A text that was set has the size that was measured for it. -/
theorem Resources.of_setText {r : Resources} {request : TextRequest} {t : SetText}
    (h : r.setText request = .ok t) : r.measure request = .ok t.size := by
  cases hsize : r.measure request with
  | ok size =>
    simp only [Resources.setText, hsize, Except.map] at h
    rw [← Except.ok.inj h]
  | error e => simp [Resources.setText, hsize, Except.map] at h

/-- Set in cells, a text has the size of its cells. -/
theorem Resources.size_of_setText {r : Resources} (hcells : r.measure = CellText.measure)
    {request : TextRequest} {t : SetText} (h : r.setText request = .ok t) :
    t.size = CellText.textSize request := by
  have hmeasure := of_setText h
  rw [hcells, CellText.measure] at hmeasure
  split at hmeasure
  · exact (Except.ok.inj hmeasure).symm
  · cases hmeasure

/-- Set in cells, a text in a width that a row of pixels can have is never refused. -/
theorem Resources.setText_of_cells {r : Resources} (hcells : r.measure = CellText.measure)
    {request : TextRequest} (hpos : 0 < request.maxWidth)
    (hwidth : ∀ c, CellText.advance request.size c ≤ request.maxWidth)
    (hline : 0 < CellText.lineHeight request.size)
    (hrow : request.maxWidth * 4 ≤ Size.maxRowBytes) :
    r.setText request = .ok ⟨request, CellText.textSize request⟩ := by
  obtain ⟨hwide, hhigh⟩ := CellText.textSize_pos hline
  have hle := CellText.textSize_width_le hpos hwidth
  rw [Nat.max_self] at hle
  have hfits : (CellText.textSize request).allocatable = true := by
    simp only [Size.allocatable, Bool.and_eq_true, bne_iff_ne, decide_eq_true_eq]
    omega
  simp [setText, hcells, CellText.measure, hfits, Except.map]

/-- When the computation stops, the measure failed at a text and this is why. -/
def StopsAt (measure : TextMeasure) (x : Except Failure α) : Prop :=
  ∀ e, x = .error e → ∃ r, measure r = .error e

namespace StopsAt

variable {measure : TextMeasure} {α β : Type}

theorem ok (a : α) : StopsAt measure (.ok a) := by
  intro e h
  cases h

theorem bind {x : Except Failure α} {f : α → Except Failure β} (hx : StopsAt measure x)
    (hf : ∀ a, StopsAt measure (f a)) : StopsAt measure (x >>= f) := by
  intro e h
  rcases bind_eq_error_iff.1 h with h | ⟨a, -, h⟩
  · exact hx e h
  · exact hf a e h

theorem mapM {f : α → Except Failure β} {xs : List α} (hf : ∀ a ∈ xs, StopsAt measure (f a)) :
    StopsAt measure (xs.mapM f) := by
  induction xs with
  | nil => exact ok []
  | cons x xs ih =>
    obtain ⟨hx, hxs⟩ := List.forall_mem_cons.1 hf
    rw [List.mapM_cons]
    exact hx.bind fun y => (ih hxs).bind fun ys => ok (y :: ys)

theorem setText (r : Resources) (request : TextRequest) :
    StopsAt r.measure (r.setText request) := by
  intro e h
  cases hsize : r.measure request with
  | ok size => simp [Resources.setText, hsize, Except.map] at h
  | error e' =>
    simp only [Resources.setText, hsize, Except.map] at h
    exact ⟨request, by rw [hsize, Except.error.inj h]⟩

end StopsAt
end DialogueSheet
