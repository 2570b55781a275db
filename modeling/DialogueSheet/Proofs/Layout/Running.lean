/-
# Runs of calls on a flow

A flow is called again and again: the cursor is moved, a row is padded, a batch is placed.
A batch that is refused leaves the flow as it was, and a run goes on behind it.

| call | moves the cursor by | adds |
| --- | --- | --- |
| `advance` | its height | nothing |
| `padRow` | what the row lacks of its least height | nothing |
| `place` | nothing | the batch, or nothing when it is refused |

`met` tells which flow every call of a run met, and `run_traced` what the run leaves: the
cursor has moved by all these moves and has stopped at the greatest 32-bit count, and the
primitives are those of the accepted batches, each at or below the cursor it met.
-/
import DialogueSheet.Proofs.Layout.Stacking
import Mathlib.Algebra.GroupWithZero.Nat

namespace DialogueSheet
namespace Flow

/-- A call on a flow. -/
inductive Call where
  | advance (height : Nat)
  | padRow (rowStart least : Nat)
  | place (batch : List Primitive)

/-- What a call answers, and the flow that it leaves. -/
def answer (f : Flow) : Call → Except Failure Unit × Flow
  | .advance height => (.ok (), f.advance height)
  | .padRow rowStart least => (.ok (), f.padRow rowStart least)
  | .place batch => f.place batch

/-- The flow after a call. -/
def after (f : Flow) (c : Call) : Flow := (f.answer c).2

/-- The flow after calls. -/
def run (f : Flow) (calls : List Call) : Flow := calls.foldl after f

/-- The calls of a run, each with the flow that it met. -/
def met : Flow → List Call → List (Flow × Call)
  | _, [] => []
  | f, c :: rest => (f, c) :: met (f.after c) rest

/-- How far a call is to move the cursor. -/
def move (f : Flow) : Call → Nat
  | .advance height => height
  | .padRow rowStart least => least - (f.cursor - rowStart)
  | .place _ => 0

/-- What a call adds to the primitives. -/
def added (f : Flow) : Call → List Primitive
  | .advance _ | .padRow .. => []
  | .place batch => if (f.place batch).1.isOk then batch else []

/-! ### A single call -/

/-- A batch is accepted when all of it lies at or below the cursor, and then recorded. -/
theorem place_of_below {f : Flow} {batch : List Primitive} (h : ∀ p ∈ batch, f.cursor ≤ p.top) :
    f.place batch = (.ok (), { f with primitives := f.primitives ++ batch }) := by
  have hnone : batch.find? (·.top < f.cursor) = none := by
    simpa [List.find?_eq_none] using h
  rw [place, hnone]

/-- A batch is refused for the first of its primitives that lies above the cursor. -/
theorem place_eq_error_iff {f : Flow} {batch : List Primitive} {e : Failure} :
    (f.place batch).1 = .error e ↔
      ∃ upper bad lower, batch = upper ++ bad :: lower ∧ (∀ p ∈ upper, f.cursor ≤ p.top) ∧
        bad.top < f.cursor ∧ e = .layout (.aboveCursor bad.top f.cursor) := by
  rw [place]
  cases hfound : batch.find? (·.top < f.cursor) with
  | none =>
    simp only [reduceCtorEq, false_iff]
    rintro ⟨upper, bad, lower, rfl, -, habove, -⟩
    have hbelow := List.find?_eq_none.1 hfound bad (by simp)
    exact hbelow (by simpa using habove)
  | some bad =>
    obtain ⟨habove, upper, lower, hbatch, hupper⟩ := List.find?_eq_some_iff_append.1 hfound
    have hbad : bad.top < f.cursor := by simpa using habove
    constructor
    · intro h
      obtain rfl := Except.error.inj h
      exact ⟨upper, bad, lower, hbatch, fun p hp => by simpa using hupper p hp, hbad, rfl⟩
    · rintro ⟨upper', bad', lower', hbatch', hupper', hbad', rfl⟩
      -- both splits end at the first primitive above the cursor
      have hfound' : batch.find? (·.top < f.cursor) = some bad' :=
        List.find?_eq_some_iff_append.2 ⟨by simpa using hbad', upper', lower', hbatch',
          fun p hp => by simpa using hupper' p hp⟩
      obtain rfl := Option.some.inj (hfound.symm.trans hfound')
      rfl

/-- A batch with a primitive above the cursor is refused, and the flow is as it was. -/
theorem place_of_above {f : Flow} {batch : List Primitive} (h : ∃ p ∈ batch, p.top < f.cursor) :
    (f.place batch).1.isOk = false ∧ (f.place batch).2 = f := by
  rw [place]
  cases hfound : batch.find? (·.top < f.cursor) with
  | none =>
    obtain ⟨p, hp, habove⟩ := h
    exact absurd (List.find?_eq_none.1 hfound p hp) (by simpa using habove)
  | some bad => exact ⟨rfl, rfl⟩

theorem below_or_above (f : Flow) (batch : List Primitive) :
    (∀ p ∈ batch, f.cursor ≤ p.top) ∨ ∃ p ∈ batch, p.top < f.cursor := by
  by_cases h : ∃ p ∈ batch, p.top < f.cursor
  · exact .inr h
  · exact .inl fun p hp => Nat.not_lt.1 fun habove => h ⟨p, hp, habove⟩

section
variable {f : Flow} {batch : List Primitive}

theorem after_of_above (h : ∃ p ∈ batch, p.top < f.cursor) : f.after (.place batch) = f :=
  (place_of_above h).2

theorem after_of_below (h : ∀ p ∈ batch, f.cursor ≤ p.top) :
    f.after (.place batch) = { f with primitives := f.primitives ++ batch } :=
  congrArg Prod.snd (place_of_below h)

theorem added_of_above (h : ∃ p ∈ batch, p.top < f.cursor) : f.added (.place batch) = [] := by
  simp [added, (place_of_above h).1]

theorem added_of_below (h : ∀ p ∈ batch, f.cursor ≤ p.top) : f.added (.place batch) = batch := by
  simp [added, place_of_below h, Except.isOk, Except.toBool]

end

/-- What a call does to the cursor. -/
theorem cursor_after {f : Flow} (hf : f.cursor ≤ Binary.maxCount) (c : Call) :
    (f.after c).cursor = min (f.cursor + f.move c) Binary.maxCount := by
  cases c with
  | advance height => rfl
  | padRow rowStart least =>
    have hafter : f.after (.padRow rowStart least) = f.padRow rowStart least := rfl
    rw [hafter, padRow, move]
    split
    · rfl
    · omega
  | place batch =>
    have hmove : f.move (.place batch) = 0 := rfl
    rw [hmove, Nat.add_zero, Nat.min_eq_left hf]
    rcases f.below_or_above batch with h | h
    · rw [after_of_below h]
    · rw [after_of_above h]

/-- What a call does to the primitives. -/
theorem primitives_after (f : Flow) (c : Call) :
    (f.after c).primitives = f.primitives ++ f.added c := by
  cases c with
  | advance height => simp [after, answer, added]
  | padRow rowStart least => simp [after, answer, added]
  | place batch =>
    rcases f.below_or_above batch with h | h
    · rw [after_of_below h, added_of_below h]
    · rw [after_of_above h, added_of_above h, List.append_nil]

/-- What a call adds lies at or below the cursor that it met. -/
theorem le_top_of_mem_added {f : Flow} {c : Call} {p : Primitive} (hp : p ∈ f.added c) :
    f.cursor ≤ p.top := by
  cases c with
  | advance height => simp [added] at hp
  | padRow rowStart least => simp [added] at hp
  | place batch =>
    rcases f.below_or_above batch with h | h
    · rw [added_of_below h] at hp
      exact h p hp
    · simp [added_of_above h] at hp

/-- A padded row has its least height, unless the cursor has come to its stop. -/
theorem le_cursor_padRow {f : Flow} {rowStart least : Nat} (hstart : rowStart ≤ f.cursor) :
    min (rowStart + least) Binary.maxCount ≤ (f.padRow rowStart least).cursor := by
  rw [padRow]
  split
  · rename_i hshort
    have hcursor : (f.advance (least - (f.cursor - rowStart))).cursor =
        min (f.cursor + (least - (f.cursor - rowStart))) Binary.maxCount := rfl
    omega
  · omega

/-- A row that has its least height is left alone. -/
theorem padRow_of_le {f : Flow} {rowStart least : Nat} (h : rowStart + least ≤ f.cursor) :
    f.padRow rowStart least = f := by
  rw [padRow]
  exact if_neg (by omega)

/-! ### Runs -/

theorem run_cons (f : Flow) (c : Call) (rest : List Call) :
    f.run (c :: rest) = (f.after c).run rest := rfl

theorem run_append (f : Flow) (earlier later : List Call) :
    f.run (earlier ++ later) = (f.run earlier).run later := List.foldl_append ..

/-- A call meets the flow that the calls before it lead to. -/
theorem mem_met_iff {f g : Flow} {c : Call} {calls : List Call} :
    (g, c) ∈ f.met calls ↔ ∃ earlier later, calls = earlier ++ c :: later ∧ g = f.run earlier := by
  induction calls generalizing f with
  | nil => simp [met]
  | cons first rest ih =>
    rw [met, List.mem_cons, ih]
    constructor
    · rintro (h | ⟨earlier, later, rfl, rfl⟩)
      · obtain ⟨rfl, rfl⟩ := Prod.mk.inj h
        exact ⟨[], rest, rfl, rfl⟩
      · exact ⟨first :: earlier, later, rfl, rfl⟩
    · rintro ⟨earlier, later, hcalls, rfl⟩
      cases earlier with
      | nil =>
        obtain ⟨rfl, rfl⟩ := List.cons.inj hcalls
        exact .inl rfl
      | cons _ earlier =>
        obtain ⟨rfl, rfl⟩ := List.cons.inj hcalls
        exact .inr ⟨earlier, later, rfl, rfl⟩

/-- The cursor of a run has moved by all the moves, or has come to its stop. -/
theorem cursor_run {f : Flow} (hf : f.cursor ≤ Binary.maxCount) (calls : List Call) :
    (f.run calls).cursor =
      min (f.cursor + ((f.met calls).map fun m => m.1.move m.2).sum) Binary.maxCount := by
  induction calls generalizing f with
  | nil => exact (Nat.min_eq_left hf).symm
  | cons c rest ih =>
    have hcursor := cursor_after hf c
    have hrest := ih (f := f.after c) (by omega)
    rw [run_cons, hrest, hcursor, met, List.map_cons, List.sum_cons]
    dsimp only
    omega

/-- The primitives of a run are those of its accepted batches, in the order of the calls. -/
theorem primitives_run (f : Flow) (calls : List Call) :
    (f.run calls).primitives =
      f.primitives ++ (f.met calls).flatMap fun m => m.1.added m.2 := by
  induction calls generalizing f with
  | nil => simp [run, met]
  | cons c rest ih =>
    rw [run_cons, ih, primitives_after, met, List.flatMap_cons, List.append_assoc]

theorem cursor_run_le {f : Flow} (hf : f.cursor ≤ Binary.maxCount) (calls : List Call) :
    (f.run calls).cursor ≤ Binary.maxCount := by
  rw [cursor_run hf]
  exact Nat.min_le_right ..

theorem le_cursor_run {f : Flow} (hf : f.cursor ≤ Binary.maxCount) (calls : List Call) :
    f.cursor ≤ (f.run calls).cursor := by
  rw [cursor_run hf]
  omega

/-- What a run leaves, told by its calls and the flows that they met. -/
structure Traced (opened : Flow) (calls : List Call) : Prop where
  /-- A call meets the flow that the calls before it lead to. -/
  met_iff : ∀ g c, (g, c) ∈ opened.met calls ↔
    ∃ earlier later, calls = earlier ++ c :: later ∧ g = opened.run earlier
  /-- The cursor never goes back. -/
  forward : ∀ earlier next later, calls = earlier ++ next ++ later →
    (opened.run earlier).cursor ≤ (opened.run (earlier ++ next)).cursor
  /-- The cursor has moved by all the moves, as far as it can go. -/
  cursor : (opened.run calls).cursor =
    min (opened.cursor + ((opened.met calls).map fun m => m.1.move m.2).sum) Binary.maxCount
  /-- A padded row has its least height, as far as the cursor can go. -/
  padded : ∀ g rowStart least, (g, .padRow rowStart least) ∈ opened.met calls →
    rowStart ≤ g.cursor →
      min (rowStart + least) Binary.maxCount ≤ (g.after (.padRow rowStart least)).cursor ∧
      (rowStart + least ≤ g.cursor → g.after (.padRow rowStart least) = g)
  /-- A batch is refused for its first primitive above the cursor, and for nothing else. -/
  refused : ∀ g batch, (g, .place batch) ∈ opened.met calls → ∀ e,
    (g.answer (.place batch)).1 = .error e ↔
      ∃ upper bad lower, batch = upper ++ bad :: lower ∧ (∀ p ∈ upper, g.cursor ≤ p.top) ∧
        bad.top < g.cursor ∧ e = .layout (.aboveCursor bad.top g.cursor)
  /-- A batch is accepted and all of it recorded behind what was there, or it has a primitive
  above the cursor and the flow is left as it was. -/
  atomic : ∀ g batch, (g, .place batch) ∈ opened.met calls →
    ((∃ p ∈ batch, p.top < g.cursor) → g.after (.place batch) = g ∧ g.added (.place batch) = []) ∧
    ((∀ p ∈ batch, g.cursor ≤ p.top) → g.added (.place batch) = batch ∧
      g.after (.place batch) = { g with primitives := g.primitives ++ batch })
  /-- The primitives are those of the accepted batches, in the order of the calls. -/
  primitives : (opened.run calls).primitives =
    opened.primitives ++ (opened.met calls).flatMap fun m => m.1.added m.2
  /-- Every primitive lies at or below the cursor that its batch met. -/
  below : ∀ m ∈ opened.met calls, ∀ p ∈ m.1.added m.2, m.1.cursor ≤ p.top

/-- **A run leaves what its calls ask for.** -/
theorem run_traced (width offset : Nat) (hoffset : offset ≤ Binary.maxCount)
    (calls : List Call) : Traced (start width offset) calls where
  met_iff _ _ := mem_met_iff
  forward earlier next later _ := by
    have hearlier := cursor_run_le (f := start width offset) hoffset earlier
    rw [run_append]
    exact le_cursor_run hearlier next
  cursor := cursor_run hoffset calls
  padded g rowStart least _ hstart := ⟨le_cursor_padRow hstart, padRow_of_le⟩
  refused g batch _ e := place_eq_error_iff
  atomic g batch _ := by
    constructor
    · exact fun habove => ⟨after_of_above habove, added_of_above habove⟩
    · exact fun hbelow => ⟨added_of_below hbelow, after_of_below hbelow⟩
  primitives := primitives_run _ calls
  below m _ p hp := le_top_of_mem_added hp

/-- The second batch is refused because of its second primitive, the short row is padded to its
least height, and the cursor comes to its stop. -/
theorem run_traced_of_refused :
    let line (top : Nat) := Primitive.ofShape (.rect 10 10 Color.black) 0 top
    let calls : List Call := [.place [line 10], .advance 20, .place [line 30, line 29],
      .padRow 10 72, .advance Binary.maxCount, .place [line Binary.maxCount]]
    10 ≤ Binary.maxCount ∧ ((start 100 10).run calls).cursor = Binary.maxCount ∧
      ((start 100 10).run (calls.take 4)).cursor = 82 ∧
      ((start 100 10).run calls).primitives.map Primitive.top = [10, Binary.maxCount] := by
  intro line calls
  have hoffset : 10 ≤ Binary.maxCount := by decide
  have htraced := run_traced 100 10 hoffset calls
  have hpadded := run_traced 100 10 hoffset (calls.take 4)
  refine ⟨hoffset, ?_, ?_, ?_⟩
  · rw [htraced.cursor]
    decide +kernel
  · rw [hpadded.cursor]
    decide +kernel
  · rw [htraced.primitives]
    decide +kernel

end Flow
end DialogueSheet
