/-
# What becomes of a reply

A download keeps a reply as it is, or as the PNG file of what it decodes to; or it refuses the
reply; or it loses the picture, when that has been decoded and cannot be stored
(`Download.verdict`).  Where the target can be written, the verdict alone decides what stands
there afterwards, and nothing else changes (`Download.keep_sets`), so that a tree of files stays
one (`Files.IsTree.sets`).  A second reply of the same kind finds nothing left to change
(`Verdict.leaves_leaves`).
-/
import DialogueSheet.Proofs.Files.Walking
import DialogueSheet.Sync.Transfer

namespace DialogueSheet

/-! ### One location changes -/

namespace Files

/-- Later files differ at one location at most, where an entry or nothing stands. -/
structure Sets (files : Files) (goal : Location) (entry : Option Entry) (later : Files) :
    Prop where
  working : later.working = files.working
  entry : ∀ l, later.found? l = if l = goal then entry else files.found? l

variable {files later : Files} {goal : Location} {path : String}

theorem Sets.refl (files : Files) (goal : Location) :
    files.Sets goal (files.found? goal) files where
  working := rfl
  entry l := by
    split
    · rename_i h
      rw [h]
    · rfl

theorem sets_put (hne : goal ≠ []) (content : FileContent) :
    files.Sets goal (some (.file content)) (files.put goal (.file content)) :=
  ⟨rfl, found?_put files hne (.file content)⟩

theorem lookup_filter_ne (entries : List (Location × Entry)) (l x : Location) :
    (entries.filter (·.1 ≠ l)).lookup x = if x = l then none else entries.lookup x := by
  induction entries with
  | nil => simp
  | cons entry rest ih =>
    obtain ⟨k, v⟩ := entry
    by_cases hk : k = l
    · subst hk
      rw [List.filter_cons_of_neg (by simp), ih, lookup_cons_eq_if]
      split <;> rfl
    · rw [List.filter_cons_of_pos (by simpa using hk), lookup_cons_eq_if, ih, lookup_cons_eq_if]
      by_cases hx : x = k
      · rw [if_pos hx, if_neg (hx ▸ hk), if_pos hx]
      · rw [if_neg hx, if_neg hx]

theorem ne_nil_of_not_directory (h : files.found? goal ≠ some .directory) : goal ≠ [] := by
  rintro rfl
  exact h rfl

/-- Where no directory stands, nothing is left by a removal. -/
theorem sets_remove (hgoal : files.locate? path = some goal)
    (hvacant : files.found? goal ≠ some .directory) : files.Sets goal none (files.remove path) := by
  have hne := ne_nil_of_not_directory hvacant
  simp only [remove, hgoal]
  cases hentry : files.found? goal with
  | none =>
    have hsame := Sets.refl files goal
    rwa [hentry] at hsame
  | some entry =>
    cases entry with
    | directory => exact absurd hentry hvacant
    | file content =>
      refine ⟨rfl, fun l => ?_⟩
      cases l with
      | nil => rw [if_neg hne.symm]; rfl
      | cons name names =>
        simp only [found?, List.isEmpty_cons, Bool.false_eq_true, if_false]
        exact lookup_filter_ne files.entries goal (name :: names)

/-- What comes or goes at the place of a file keeps a tree. -/
theorem IsTree.sets (h : files.IsTree) (hgoal : files.locate? path = some goal)
    (hvacant : files.found? goal ≠ some .directory) {entry : Option Entry}
    (hsets : files.Sets goal entry later) : later.IsTree := by
  have hplace : files.found? goal.dropLast = some .directory := by
    unfold locate? at hgoal
    split at hgoal
    · cases hgoal
    · exact ((h.follow? (h.startOf path) hgoal).resolve_left hvacant).2
  have hdirectory : ∀ l, files.found? l = some .directory → later.found? l = some .directory := by
    intro l hl
    rw [hsets.entry, if_neg, hl]
    rintro rfl
    exact hvacant hl
  refine ⟨hsets.working ▸ hdirectory _ h.working, fun l e hl => hdirectory _ ?_⟩
  rw [hsets.entry] at hl
  split at hl
  · rename_i hlgoal
    rwa [hlgoal]
  · exact h.above l e hl

end Files

/-! ### Verdicts -/

/-- The picture that a reply decodes to can be stored, if it decodes. -/
def Codec.Stores (K : Codec) (reply : Reply) : Prop :=
  ∀ content image, reply = .ok content → K.decode? content = some image →
    (K.encode? image).isSome = true

/-- What a download makes of a reply. -/
inductive Verdict where
  | kept (content : FileContent)
  | refused (e : Failure)
  /-- A picture has been decoded and cannot be stored. -/
  | lost

namespace Verdict

/-- The result of an attempt. -/
def result : Verdict → Except Failure Unit
  | kept _ => .ok ()
  | refused e => .error e
  | lost => .error (.picture .undecodable)

/-- What stands at the target after what stood there before. -/
def leaves (before : Option Entry) : Verdict → Option Entry
  | kept content => some (.file content)
  | refused _ => before
  | lost => none

theorem leaves_leaves (v : Verdict) (before : Option Entry) :
    v.leaves (v.leaves before) = v.leaves before := by
  cases v <;> rfl

theorem leaves_ne_directory (v : Verdict) {before : Option Entry}
    (h : before ≠ some .directory) : v.leaves before ≠ some .directory := by
  cases v with
  | kept content => simp [leaves]
  | refused e => exact h
  | lost => simp [leaves]

/-- Where nothing stood, something stands after a success only. -/
theorem leaves_none_isSome (v : Verdict) :
    (v.leaves none).isSome = v.result.toOption.isSome := by
  cases v <;> rfl

end Verdict

namespace Download

/-- The verdict of a download on a reply. -/
def verdict (K : Codec) (d : Download) : Reply → Verdict
  | .error fault => .refused (.network fault)
  | .ok content =>
    match sizeFault? maxDownloadBytes content.byteCount with
    | some file => .refused (.network (.tooLarge file))
    | none =>
      if d.isPicture then
        match K.decode? content with
        | none => .refused (.picture .undecodable)
        | some image =>
          match K.encode? image with
          | some png => .kept png
          | none => .lost
      else .kept content

variable {files : Files} {d : Download} {goal : Location}

/-- A target that can be written is treated by the verdict. -/
theorem keep_eq (K : Codec) (hgoal : files.locate? d.target = some goal)
    (hvacant : files.found? goal ≠ some .directory) (reply : Reply) :
    d.keep K files reply =
      match d.verdict K reply with
      | .kept content => (.ok (), files.put goal (.file content))
      | .refused e => (.error e, files)
      | .lost => (.error (.picture .undecodable), files.remove d.target) := by
  have hwrite : ∀ content, files.write? d.target content =
      some (files.put goal (.file content)) := fun content =>
    Files.write?_eq_some_iff.2 ⟨goal, hgoal, hvacant, rfl⟩
  cases reply with
  | error fault => rfl
  | ok content =>
    simp only [keep, verdict]
    cases sizeFault? maxDownloadBytes content.byteCount with
    | some file => rfl
    | none =>
      cases d.isPicture with
      | false => simp [hwrite]
      | true =>
        cases K.decode? content with
        | none => rfl
        | some image =>
          cases hencode : K.encode? image with
          | none => simp [hencode]
          | some png => simp [hencode, hwrite]

/-- **The verdict decides what an attempt comes to**, and what stands at the target afterwards. -/
theorem keep_sets (K : Codec) (hgoal : files.locate? d.target = some goal)
    (hvacant : files.found? goal ≠ some .directory) (reply : Reply) :
    ∃ later, d.keep K files reply = ((d.verdict K reply).result, later) ∧
      files.Sets goal ((d.verdict K reply).leaves (files.found? goal)) later := by
  rw [keep_eq K hgoal hvacant]
  cases d.verdict K reply with
  | kept content =>
    exact ⟨_, rfl, Files.sets_put (Files.ne_nil_of_not_directory hvacant) content⟩
  | refused e => exact ⟨_, rfl, .refl files goal⟩
  | lost => exact ⟨_, rfl, Files.sets_remove hgoal hvacant⟩

end Download
end DialogueSheet
