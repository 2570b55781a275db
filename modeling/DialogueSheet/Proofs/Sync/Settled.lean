/-
# What a crew leaves

A plan is separate on some files when its targets can be written, lie apart, and no download
changes whether another one is needed.  Then a download does the same whatever the others have
done before it.  `Crew.Sound` says of every moment what each download has come to and that
nothing but directories and targets has changed; one turn keeps it (`Crew.Sound.turn`), so a
whole schedule does (`Crew.Sound.run`).  When all are done, the results and the files are
determined by the files at the start and the verdicts on the answers of the remote
(`Crew.Sound.settled`).
-/
import DialogueSheet.Proofs.Sync.Crew
import DialogueSheet.Proofs.Sync.Kept
import DialogueSheet.Proofs.Sync.Targets

namespace DialogueSheet

namespace Download

/-- The download is not skipped. -/
def needed (files : Files) (d : Download) : Bool := d.force || !files.exists? d.target

/-- What a download comes to, by the files before all downloads and the answer to its URL. -/
def result (K : Codec) (files : Files) (answer : String → Reply) (d : Download) :
    Except Failure Outcome :=
  if d.needed files then (d.verdict K (answer d.url)).result.map fun () => .downloaded
  else .ok .skipped

theorem needed_of_force {files : Files} {d : Download} (h : d.force = true) :
    d.needed files = true := by
  simp [needed, h]

end Download

namespace Sync

variable {K : Codec} {files : Files} {plan : List Download} {answer : String → Reply}

/-! ### Separate plans -/

/-- Files after some downloads of a plan, but not one of the given target. -/
structure Touched (files : Files) (plan : List Download) (target : String) (later : Files) :
    Prop where
  tree : later.IsTree
  working : later.working = files.working
  entry : ∀ l, later.found? l = files.found? l ∨
    (∃ d ∈ plan, d.needed files = true ∧ l ∈ files.parentsOf d.target ∧
      later.found? l = some .directory) ∨
    ∃ d ∈ plan, d.needed files = true ∧ d.target ≠ target ∧ l = files.goalOf d.target

/-- The downloads of a plan do not get in each other's way. -/
structure Separate (files : Files) (plan : List Download) : Prop where
  tree : files.IsTree
  targets : (plan.map Download.target).Nodup
  ready : ∀ d ∈ plan, d.needed files = true → d.Ready files
  apart : ∀ d ∈ plan, ∀ e ∈ plan, d.needed files = true → e.needed files = true →
    files.goalOf d.target ∉ files.parentsOf e.target
  goals : ∀ d ∈ plan, ∀ e ∈ plan, d.needed files = true → e.needed files = true →
    files.goalOf d.target = files.goalOf e.target → d.target = e.target
  steady : ∀ d ∈ plan, d.force = false → ∀ later, Touched files plan d.target later →
    later.exists? d.target = files.exists? d.target

theorem Separate.index_eq (h : Separate files plan) {i j : Nat} {d e : Download}
    (hi : plan[i]? = some d) (hj : plan[j]? = some e) (htarget : d.target = e.target) : i = j := by
  obtain ⟨hlt, -⟩ := List.getElem?_eq_some_iff.1 hi
  refine (List.getElem?_inj (by rwa [List.length_map]) h.targets).1 ?_
  rw [List.getElem?_map, List.getElem?_map, hi, hj, Option.map_some, Option.map_some, htarget]

/-! ### Sound moments -/

/-- The directories of a target stand. -/
def Housed (files later : Files) (d : Download) : Prop :=
  ∀ l ∈ files.parentsOf d.target, later.found? l = some .directory

/-- A target can be written later when its directories stand and it is no directory. -/
theorem Housed.ready {later : Files} {d : Download} (h : Housed files later d)
    (hready : d.Ready files) (hworking : later.working = files.working)
    (hvacant : later.found? (files.goalOf d.target) ≠ some .directory) : d.Ready later where
  leads := hready.leads.of_working hworking
  fits := hready.fits
  free l hl content hfile := by
    rw [Files.parentsOf_eq hworking] at hl
    rw [h l hl] at hfile
    cases hfile
  apart := by
    rw [Files.parentsOf_eq hworking, Files.goalOf_eq hworking]
    exact hready.apart
  vacant := by
    rw [Files.goalOf_eq hworking]
    exact hvacant

/-- What stands at the target of a needed download when it is done. -/
def final (K : Codec) (files : Files) (answer : String → Reply) (d : Download) : Option Entry :=
  (d.verdict K (answer d.url)).leaves (files.found? (files.goalOf d.target))

/-- At the target there is what was there before, or already what is there at the end. -/
def Underway (K : Codec) (files : Files) (answer : String → Reply) (later : Files)
    (d : Download) : Prop :=
  later.found? (files.goalOf d.target) = files.found? (files.goalOf d.target) ∨
    later.found? (files.goalOf d.target) = final K files answer d

/-- An attempt ends at what is there at the end. -/
theorem Underway.leaves_eq {later : Files} {d : Download} (h : Underway K files answer later d) :
    (d.verdict K (answer d.url)).leaves (later.found? (files.goalOf d.target)) =
      final K files answer d := by
  rcases h with hsame | hfinal
  · rw [hsame, final]
  · rw [hfinal, final, Verdict.leaves_leaves]

/-- What a stage says of the files. -/
def Stage.Sound (K : Codec) (files : Files) (answer : String → Reply) (later : Files)
    (d : Download) : Stage → Prop
  | .waiting => d.needed files = true →
    later.found? (files.goalOf d.target) = files.found? (files.goalOf d.target)
  | .making => d.needed files = true ∧
    later.found? (files.goalOf d.target) = files.found? (files.goalOf d.target)
  | .asking _ => d.needed files = true ∧ Housed files later d ∧ Underway K files answer later d
  | .holding _ reply => d.needed files = true ∧ Housed files later d ∧
    Underway K files answer later d ∧ reply = answer d.url
  | .done result => result = d.result K files answer ∧
    (d.needed files = true → Housed files later d ∧
      later.found? (files.goalOf d.target) = final K files answer d)

/-- What is said of a download stays true of files in which its directories and its target have
not changed. -/
theorem Stage.Sound.mono {later later' : Files} {d : Download} {stage : Stage}
    (h : stage.Sound K files answer later d)
    (hdirectories : d.needed files = true → ∀ l ∈ files.parentsOf d.target,
      later.found? l = some .directory → later'.found? l = some .directory)
    (hgoal : d.needed files = true →
      later'.found? (files.goalOf d.target) = later.found? (files.goalOf d.target)) :
    stage.Sound K files answer later' d := by
  have hhoused : d.needed files = true → Housed files later d → Housed files later' d :=
    fun hneeded hhoused l hl => hdirectories hneeded l hl (hhoused l hl)
  have hunderway : d.needed files = true → Underway K files answer later d →
      Underway K files answer later' d := fun hneeded hunderway => by
    rw [Underway, hgoal hneeded]
    exact hunderway
  cases stage with
  | waiting => exact fun hneeded => (hgoal hneeded).trans (h hneeded)
  | making => exact ⟨h.1, (hgoal h.1).trans h.2⟩
  | asking more => exact ⟨h.1, hhoused h.1 h.2.1, hunderway h.1 h.2.2⟩
  | holding more reply => exact ⟨h.1, hhoused h.1 h.2.1, hunderway h.1 h.2.2.1, h.2.2.2⟩
  | done result =>
    refine ⟨h.1, fun hneeded => ?_⟩
    obtain ⟨hparents, hfinal⟩ := h.2 hneeded
    exact ⟨hhoused hneeded hparents, (hgoal hneeded).trans hfinal⟩

variable {σ : Type}

/-- What holds of a crew at every moment. -/
structure Crew.Sound (K : Codec) (files : Files) (answer : String → Reply) (plan : List Download)
    (c : Crew σ) : Prop where
  tree : c.files.IsTree
  working : c.files.working = files.working
  entry : ∀ l, c.files.found? l = files.found? l ∨
    (∃ d ∈ plan, d.needed files = true ∧ l ∈ files.parentsOf d.target ∧
      c.files.found? l = some .directory) ∨
    ∃ d ∈ plan, d.needed files = true ∧ l = files.goalOf d.target
  stage : ∀ i d, plan[i]? = some d → (c.stage i).Sound K files answer c.files d

/-- Before a download is done its target is at most underway. -/
theorem Stage.Sound.underway {later : Files} {d : Download} {stage : Stage}
    (h : stage.Sound K files answer later d) (hneeded : d.needed files = true) :
    Underway K files answer later d := by
  cases stage with
  | waiting => exact .inl (h hneeded)
  | making => exact .inl h.2
  | asking more => exact h.2.2
  | holding more reply => exact h.2.2.1
  | done result => exact .inr (h.2 hneeded).2

namespace Crew.Sound

variable {c : Crew σ} {d : Download}

theorem start {first : Files} (hsame : files.Same first)
    (htree : first.IsTree) (state : σ) :
    (Crew.start first state).Sound K files answer plan where
  tree := htree
  working := hsame.working.symm
  entry l := .inl (hsame.entry l).symm
  stage _ _ _ _ := (hsame.entry _).symm

/-- No file has come between a download and its target. -/
theorem free (hplan : Separate files plan) (h : c.Sound K files answer plan) (hd : d ∈ plan)
    (hneeded : d.needed files = true) : c.files.Free (files.parentsOf d.target) := by
  intro l hl content hfile
  rcases h.entry l with hsame | ⟨e, -, -, -, hdirectory⟩ | ⟨e, he, heneeded, rfl⟩
  · exact (hplan.ready d hd hneeded).free l hl content (hsame ▸ hfile)
  · rw [hdirectory] at hfile
    cases hfile
  · exact hplan.apart e he d hd heneeded hneeded hl

/-- No directory has come to stand at a target. -/
theorem vacant (hplan : Separate files plan) (h : c.Sound K files answer plan) (hd : d ∈ plan)
    (hneeded : d.needed files = true) :
    c.files.found? (files.goalOf d.target) ≠ some .directory := by
  have hvacant := (hplan.ready d hd hneeded).vacant
  obtain ⟨i, hi⟩ := List.mem_iff_getElem?.1 hd
  rcases (h.stage i d hi).underway hneeded with hsame | hfinal
  · rwa [hsame]
  · rw [hfinal]
    exact Verdict.leaves_ne_directory _ hvacant

/-- A download that has not begun is needed when it was at the start. -/
theorem skipped_iff (hplan : Separate files plan) (h : c.Sound K files answer plan) {i : Nat}
    (hi : plan[i]? = some d) (hwaiting : c.stage i = .waiting) :
    (!d.force && c.files.exists? d.target) = !d.needed files := by
  have hd := List.mem_of_getElem? hi
  have hsound := h.stage i d hi
  rw [hwaiting] at hsound
  have htouched : Touched files plan d.target c.files := by
    refine ⟨h.tree, h.working, fun l => ?_⟩
    rcases h.entry l with hsame | hdirectory | ⟨e, he, heneeded, rfl⟩
    · exact .inl hsame
    · exact .inr (.inl hdirectory)
    · by_cases htarget : e.target = d.target
      · obtain rfl := List.inj_on_of_nodup_map hplan.targets he hd htarget
        exact .inl (hsound heneeded)
      · exact .inr (.inr ⟨e, he, heneeded, htarget, rfl⟩)
  cases hforce : d.force with
  | true => simp [Download.needed, hforce]
  | false =>
    rw [hplan.steady d hd hforce _ htouched]
    simp [Download.needed, hforce]

/-- A download that changes nothing but its directories and its target leaves the others as
they are. -/
theorem advance (hplan : Separate files plan) (h : c.Sound K files answer plan) {i : Nat}
    (hi : plan[i]? = some d) {later : Files} {state : σ} {stage : Stage} (htree : later.IsTree)
    (hworking : later.working = c.files.working)
    (hentry : ∀ l, later.found? l = c.files.found? l ∨
      (d.needed files = true ∧ l ∈ files.parentsOf d.target ∧ later.found? l = some .directory) ∨
      d.needed files = true ∧ l = files.goalOf d.target)
    (hstage : stage.Sound K files answer later d) :
    (⟨later, state, Function.update c.stage i stage⟩ : Crew σ).Sound K files answer plan := by
  have hd := List.mem_of_getElem? hi
  refine ⟨htree, hworking.trans h.working, fun l => ?_, fun j e hj => ?_⟩
  · rcases hentry l with hsame | ⟨hneeded, hl, hdirectory⟩ | ⟨hneeded, hl⟩
    · simp only [hsame]
      exact h.entry l
    · exact .inr (.inl ⟨d, hd, hneeded, hl, hdirectory⟩)
    · exact .inr (.inr ⟨d, hd, hneeded, hl⟩)
  · have he := List.mem_of_getElem? hj
    by_cases hji : j = i
    · subst hji
      obtain rfl := Option.some.inj (hi.symm.trans hj)
      simpa only [Function.update_self] using hstage
    · simp only [Function.update_of_ne hji]
      refine (h.stage j e hj).mono (fun heneeded l hl hdirectory => ?_) fun heneeded => ?_
      · rcases hentry l with hsame | ⟨-, -, hdirectory⟩ | ⟨hneeded, rfl⟩
        · rwa [hsame]
        · exact hdirectory
        · exact absurd hl (hplan.apart d hd e he hneeded heneeded)
      · rcases hentry (files.goalOf e.target) with hsame | ⟨hneeded, hmem, -⟩ | ⟨hneeded, hgoal⟩
        · exact hsame
        · exact absurd hmem (hplan.apart e he d hd heneeded hneeded)
        · have htarget := hplan.goals e he d hd heneeded hneeded hgoal
          exact absurd (hplan.index_eq hj hi htarget) hji

/-- The directories of a needed download can always be made. -/
theorem making (hplan : Separate files plan) (h : c.Sound K files answer plan) (hd : d ∈ plan)
    (hneeded : d.needed files = true) :
    ∃ made, c.files.makeParents? d.target = some made ∧ made.IsTree ∧
      made.working = c.files.working ∧ ∀ l, made.found? l =
        if l ∈ files.parentsOf d.target then some .directory else c.files.found? l := by
  have hready := hplan.ready d hd hneeded
  have hparents := Files.parentsOf_eq h.working d.target
  obtain ⟨made, hmade⟩ := (hready.leads.of_working h.working).exists_makeParents? hready.fits
    (by rw [hparents]; exact h.free hplan hd hneeded)
  obtain ⟨-, -, hopened⟩ := Files.of_makeParents? hmade
  rw [hparents] at hopened
  exact ⟨made, hmade, h.tree.makeParents? hmade, hopened.working, hopened.entry⟩

/-- The target of a needed download can be written once its directories stand. -/
theorem locate?_eq (hplan : Separate files plan) (h : c.Sound K files answer plan) (hd : d ∈ plan)
    (hneeded : d.needed files = true) (hhoused : Housed files c.files d) :
    c.files.locate? d.target = some (files.goalOf d.target) := by
  have hleads := (hplan.ready d hd hneeded).leads.of_working h.working
  refine hleads.locate?_eq_some_iff.2 ⟨(Files.goalOf_eq h.working _).symm, ?_⟩
  rw [Files.parentsOf_eq h.working]
  exact List.forall_mem_cons.2 ⟨h.tree.startOf _, hhoused⟩

/-- A needed download keeps an answer to the end of its target, and gets in nobody's way. -/
theorem keeping (hplan : Separate files plan) (h : c.Sound K files answer plan) {i : Nat}
    (hi : plan[i]? = some d) (hneeded : d.needed files = true) (hhoused : Housed files c.files d)
    (hunderway : Underway K files answer c.files d) :
    ∃ later, d.keep K c.files (answer d.url) = ((d.verdict K (answer d.url)).result, later) ∧
      Housed files later d ∧
      later.found? (files.goalOf d.target) = final K files answer d ∧
      ∀ (state : σ) (stage : Stage), stage.Sound K files answer later d →
        (⟨later, state, Function.update c.stage i stage⟩ : Crew σ).Sound K files answer plan := by
  have hd := List.mem_of_getElem? hi
  have hlocated := h.locate?_eq hplan hd hneeded hhoused
  have hvacant := h.vacant hplan hd hneeded
  obtain ⟨later, hkeep, hsets⟩ := Download.keep_sets K hlocated hvacant (answer d.url)
  rw [hunderway.leaves_eq] at hsets
  refine ⟨later, hkeep, fun l hl => ?_, ?_, fun state stage hstage =>
    h.advance hplan hi (h.tree.sets hlocated hvacant hsets) hsets.working (fun l => ?_) hstage⟩
  · have hne : l ≠ files.goalOf d.target := fun heq =>
      hplan.apart d hd d hd hneeded hneeded (heq ▸ hl)
    rw [hsets.entry, if_neg hne]
    exact hhoused l hl
  · rw [hsets.entry, if_pos rfl]
  · rw [hsets.entry]
    split
    · rename_i hl
      exact .inr (.inr ⟨hneeded, hl⟩)
    · exact .inl rfl

variable {remote : Remote σ}

/-- **A turn keeps a crew sound.** -/
theorem turn (hplan : Separate files plan)
    (hremote : ∀ url state, (remote.reply url state).1 = answer url)
    (h : c.Sound K files answer plan) (i : Nat) :
    (c.turn K remote plan i).Sound K files answer plan := by
  cases hi : plan[i]? with
  | none =>
    have hidle : c.turn K remote plan i = c := by simp only [Crew.turn, hi]
    rw [hidle]
    exact h
  | some d =>
    have hd := List.mem_of_getElem? hi
    have hsound := h.stage i d hi
    rw [Crew.turn_of_getElem? hi]
    cases hstage : c.stage i with
    | waiting =>
      have hskipped := h.skipped_iff hplan hi hstage
      rw [hstage] at hsound
      simp only [Stage.turn, hskipped]
      cases hneeded : d.needed files with
      | true =>
        exact h.advance hplan hi h.tree rfl (fun _ => .inl rfl) ⟨hneeded, hsound hneeded⟩
      | false =>
        refine h.advance hplan hi h.tree rfl (fun _ => .inl rfl) ⟨?_, by simp [hneeded]⟩
        simp [Download.result, hneeded]
    | making =>
      rw [hstage] at hsound
      obtain ⟨hneeded, hgoal⟩ := hsound
      obtain ⟨made, hmade, htree, hworking, hentry⟩ := h.making hplan hd hneeded
      have hkeeps : made.found? (files.goalOf d.target) = files.found? (files.goalOf d.target) := by
        rw [hentry, if_neg (hplan.apart d hd d hd hneeded hneeded), hgoal]
      simp only [Stage.turn, hmade]
      refine h.advance hplan hi htree hworking (fun l => ?_)
        ⟨hneeded, fun l hl => ?_, .inl hkeeps⟩
      · rw [hentry]
        split
        · rename_i hl
          exact .inr (.inl ⟨hneeded, hl, rfl⟩)
        · exact .inl rfl
      · rw [hentry, if_pos hl]
    | asking more =>
      rw [hstage] at hsound
      obtain ⟨hneeded, hhoused, hunderway⟩ := hsound
      simp only [Stage.turn]
      exact h.advance hplan hi h.tree rfl (fun _ => .inl rfl)
        ⟨hneeded, hhoused, hunderway, hremote d.url c.state⟩
    | holding more reply =>
      rw [hstage] at hsound
      obtain ⟨hneeded, hhoused, hunderway, rfl⟩ := hsound
      obtain ⟨later, hkeep, hhoused', hfinal, hadvance⟩ :=
        h.keeping hplan hi hneeded hhoused hunderway
      have hdone : ∀ result, (d.verdict K (answer d.url)).result.map (fun () => .downloaded) =
          result → (Stage.done result).Sound K files answer later d := fun result hresult =>
        ⟨hresult.symm.trans (if_pos hneeded).symm, fun _ => ⟨hhoused', hfinal⟩⟩
      -- the same files are left, whether the download is done or asks again
      simp only [Stage.turn, hkeep]
      cases hresult : (d.verdict K (answer d.url)).result with
      | ok success =>
        exact hadvance _ _ (hdone _ (by rw [hresult]; rfl))
      | error e =>
        cases more with
        | zero => exact hadvance _ _ (hdone _ (by rw [hresult]; rfl))
        | succ more => exact hadvance _ _ ⟨hneeded, hhoused', .inr hfinal⟩
    | done result =>
      rw [hstage] at hsound
      simp only [Stage.turn]
      exact h.advance hplan hi h.tree rfl (fun _ => .inl rfl) hsound

/-- **A schedule keeps a crew sound.** -/
theorem run (hplan : Separate files plan)
    (hremote : ∀ url state, (remote.reply url state).1 = answer url)
    (h : c.Sound K files answer plan) (schedule : List Nat) :
    (c.run K remote plan schedule).Sound K files answer plan := by
  induction schedule generalizing c with
  | nil => exact h
  | cons i rest ih => exact ih (h.turn hplan hremote i)

end Crew.Sound

/-! ### When all are done -/

/-- The files that a plan leaves when all its downloads are done. -/
structure Settled (K : Codec) (files : Files) (answer : String → Reply) (plan : List Download)
    (later : Files) : Prop where
  tree : later.IsTree
  working : later.working = files.working
  housed : ∀ d ∈ plan, d.needed files = true → Housed files later d
  goal : ∀ d ∈ plan, d.needed files = true →
    later.found? (files.goalOf d.target) = final K files answer d
  others : ∀ l, (∀ d ∈ plan, d.needed files = true → l ∉ files.parentsOf d.target) →
    (∀ d ∈ plan, d.needed files = true → l ≠ files.goalOf d.target) →
      later.found? l = files.found? l

/-- A crew that is done has settled the plan, with the results that follow from the start. -/
theorem Crew.Sound.settled {c : Crew σ} (h : c.Sound K files answer plan)
    {results : List (Except Failure Outcome)} (hfinished : c.Finished plan results) :
    results = plan.map (Download.result K files answer) ∧
      Settled K files answer plan c.files := by
  have hsound : ∀ (i : Nat) (d : Download), plan[i]? = some d → ∃ r, results[i]? = some r ∧
      (Stage.done r).Sound K files answer c.files d := by
    intro i d hi
    obtain ⟨r, hr, hstage⟩ := hfinished.stage_eq (List.getElem?_eq_some_iff.1 hi).1
    exact ⟨r, hr, hstage ▸ h.stage i d hi⟩
  have hneeds : ∀ d ∈ plan, d.needed files = true → Housed files c.files d ∧
      c.files.found? (files.goalOf d.target) = final K files answer d := by
    intro d hd hneeded
    obtain ⟨i, hi⟩ := List.mem_iff_getElem?.1 hd
    obtain ⟨r, -, -, hneeds⟩ := hsound i d hi
    exact hneeds hneeded
  refine ⟨?_, h.tree, h.working, fun d hd hneeded => (hneeds d hd hneeded).1,
    fun d hd hneeded => (hneeds d hd hneeded).2, fun l hparents hgoals => ?_⟩
  · refine List.ext_getElem? fun i => ?_
    rw [List.getElem?_map]
    cases hi : plan[i]? with
    | none =>
      have hlength := hfinished.length_eq
      have hle := List.getElem?_eq_none_iff.1 hi
      exact List.getElem?_eq_none (by omega)
    | some d =>
      obtain ⟨r, hr, hresult, -⟩ := hsound i d hi
      rw [hr, hresult]
      rfl
  · rcases h.entry l with hsame | ⟨d, hd, hneeded, hl, -⟩ | ⟨d, hd, hneeded, hl⟩
    · exact hsame
    · exact absurd hl (hparents d hd hneeded)
    · exact absurd hl (hgoals d hd hneeded)

/-- **Whatever the schedule, a crew that is done has settled its plan.** -/
theorem Separate.settled {remote : Remote σ} (hplan : Separate files plan)
    (hremote : ∀ url state, (remote.reply url state).1 = answer url) {first : Files}
    (hsame : files.Same first) {state : σ} {schedule : List Nat}
    {results : List (Except Failure Outcome)}
    (hfinished : ((Crew.start first state).run K remote plan schedule).Finished plan results) :
    results = plan.map (Download.result K files answer) ∧
      Settled K files answer plan ((Crew.start first state).run K remote plan schedule).files :=
  ((Crew.Sound.start hsame (hplan.tree.of_same hsame) state).run hplan hremote
    schedule).settled hfinished

theorem Separate.runAll_settled {remote : Remote σ} (hplan : Separate files plan)
    (hremote : ∀ url state, (remote.reply url state).1 = answer url) {first : Files}
    (hsame : files.Same first) (state : σ) :
    (Download.runAll K remote plan first state).result =
        plan.map (Download.result K files answer) ∧
      Settled K files answer plan (Download.runAll K remote plan first state).files := by
  obtain ⟨schedule, hfinished, hfiles⟩ := Crew.exists_schedule_runAll K remote plan first state
  rw [← hfiles]
  exact hplan.settled hremote hsame hfinished

namespace Settled

variable {later : Files}

/-- What can stand at a location afterwards. -/
theorem entry_cases (h : Settled K files answer plan later) (l : Location) :
    later.found? l = files.found? l ∨
      (∃ d ∈ plan, d.needed files = true ∧ l ∈ files.parentsOf d.target ∧
        later.found? l = some .directory) ∨
      ∃ d ∈ plan, d.needed files = true ∧ l = files.goalOf d.target := by
  by_cases hparents : ∃ d ∈ plan, d.needed files = true ∧ l ∈ files.parentsOf d.target
  · obtain ⟨d, hd, hneeded, hl⟩ := hparents
    exact .inr (.inl ⟨d, hd, hneeded, hl, h.housed d hd hneeded l hl⟩)
  by_cases hgoals : ∃ d ∈ plan, d.needed files = true ∧ l = files.goalOf d.target
  · exact .inr (.inr hgoals)
  · exact .inl (h.others l (fun d hd hneeded hl => hparents ⟨d, hd, hneeded, hl⟩)
      fun d hd hneeded hl => hgoals ⟨d, hd, hneeded, hl⟩)

/-- A plan settles the same files in one way. -/
theorem same {a b : Files} (ha : Settled K files answer plan a)
    (hb : Settled K files answer plan b) : a.Same b := by
  refine ⟨ha.working.trans hb.working.symm, fun l => ?_⟩
  rcases ha.entry_cases l with hsame | ⟨d, hd, hneeded, hl, hdirectory⟩ | ⟨d, hd, hneeded, rfl⟩
  · rcases hb.entry_cases l with hsame' | ⟨d, hd, hneeded, hl, hdirectory⟩ | ⟨d, hd, hneeded, rfl⟩
    · rw [hsame, hsame']
    · rw [ha.housed d hd hneeded l hl, hdirectory]
    · rw [ha.goal d hd hneeded, hb.goal d hd hneeded]
  · rw [hdirectory, hb.housed d hd hneeded l hl]
  · rw [ha.goal d hd hneeded, hb.goal d hd hneeded]

/-- No directory comes to a target. -/
theorem vacant (hplan : Separate files plan) (h : Settled K files answer plan later)
    {d : Download} (hd : d ∈ plan) (hneeded : d.needed files = true) :
    later.found? (files.goalOf d.target) ≠ some .directory := by
  rw [h.goal d hd hneeded]
  exact Verdict.leaves_ne_directory _ (hplan.ready d hd hneeded).vacant

/-- A directory stays one. -/
theorem directory (hplan : Separate files plan) (h : Settled K files answer plan later)
    {l : Location} (hl : files.found? l = some .directory) : later.found? l = some .directory := by
  rcases h.entry_cases l with hsame | ⟨d, -, -, -, hdirectory⟩ | ⟨d, hd, hneeded, rfl⟩
  · rwa [hsame]
  · exact hdirectory
  · exact absurd hl (hplan.ready d hd hneeded).vacant

/-- What could be written can be written again. -/
theorem ready (hplan : Separate files plan) (h : Settled K files answer plan later)
    {d : Download} (hd : d ∈ plan) (hneeded : d.needed files = true) : d.Ready later :=
  (h.housed d hd hneeded).ready (hplan.ready d hd hneeded) h.working (h.vacant hplan hd hneeded)

/-- A plan that asks for no more than before has nothing left to change. -/
theorem again (h : Settled K files answer plan later)
    (hneeded : ∀ d ∈ plan, d.needed later = true → d.needed files = true) :
    Settled K later answer plan later where
  tree := h.tree
  working := rfl
  housed d hd hd' l hl := by
    rw [Files.parentsOf_eq h.working] at hl
    exact h.housed d hd (hneeded d hd hd') l hl
  goal d hd hd' := by
    have hgoal := h.goal d hd (hneeded d hd hd')
    rw [final, Files.goalOf_eq h.working, hgoal, final, Verdict.leaves_leaves]
  others _ _ _ := rfl

end Settled

end Sync
end DialogueSheet
