/-
# Downloads at the same time

A crew carries out the downloads of a plan in turns.  In one turn a download does one thing
that the others can see: it looks whether its target is there, makes the directories, asks the
remote or keeps a reply.  A schedule says whose turn it is, time after time.

Twelve turns of its own are what `Download.run` does to a download (`turns_whole`), and
`Download.runAll` is the schedule that takes the downloads one after the other
(`exists_schedule_runAll`).  Whoever gets that many turns is done, whatever the others do in
between (`exists_finished`).
-/
import DialogueSheet.Sync.Transfer
import Mathlib.Logic.Function.Basic
import Mathlib.Tactic.Choose

namespace DialogueSheet
namespace Sync

/-- How far a download has come. -/
inductive Stage where
  | waiting
  /-- The target is needed, and its directories come next. -/
  | making
  /-- The remote comes next, and may be asked so many times more after that. -/
  | asking (more : Nat)
  /-- A reply has come and is to be kept. -/
  | holding (more : Nat) (reply : Reply)
  | done (result : Except Failure Outcome)

variable {σ : Type} {K : Codec}

/-- One turn of a download. -/
def Stage.turn (K : Codec) (remote : Remote σ) (d : Download) (files : Files) (state : σ) :
    Stage → Stage × Files × σ
  | .waiting =>
    if !d.force && files.exists? d.target then (.done (.ok .skipped), files, state)
    else (.making, files, state)
  | .making =>
    match files.makeParents? d.target with
    | none => (.done (.error .file), files, state)
    | some made => (.asking (Download.maxAttempts - 1), made, state)
  | .asking more =>
    let (reply, state) := remote.reply d.url state
    (.holding more reply, files, state)
  | .holding more reply =>
    match d.keep K files reply, more with
    | (.ok (), written), _ => (.done (.ok .downloaded), written, state)
    | (.error e, left), 0 => (.done (.error e), left, state)
    | (.error _, left), more + 1 => (.asking more, left, state)
  | .done result => (.done result, files, state)

/-- The files and the remote that downloads share, and how far each has come, by its place in
the plan. -/
structure Crew (σ : Type) where
  files : Files
  state : σ
  stage : Nat → Stage

namespace Crew

/-- A crew that has done nothing. -/
def start (files : Files) (state : σ) : Crew σ := ⟨files, state, fun _ => .waiting⟩

/-- A turn of the download at a place of the plan. -/
def turn (K : Codec) (remote : Remote σ) (plan : List Download) (c : Crew σ) (i : Nat) : Crew σ :=
  match plan[i]? with
  | none => c
  | some d =>
    let (stage, files, state) := (c.stage i).turn K remote d c.files c.state
    ⟨files, state, Function.update c.stage i stage⟩

/-- The turns of a schedule. -/
def run (K : Codec) (remote : Remote σ) (plan : List Download) (c : Crew σ)
    (schedule : List Nat) : Crew σ :=
  schedule.foldl (turn K remote plan) c

/-- All downloads of the plan are done, with these results. -/
def Finished (plan : List Download) (results : List (Except Failure Outcome)) (c : Crew σ) :
    Prop :=
  (List.range plan.length).map c.stage = results.map Stage.done

variable {remote : Remote σ} {plan : List Download} {c : Crew σ}

theorem turn_of_getElem? {i : Nat} {d : Download} (h : plan[i]? = some d) :
    c.turn K remote plan i =
      ⟨((c.stage i).turn K remote d c.files c.state).2.1,
        ((c.stage i).turn K remote d c.files c.state).2.2,
        Function.update c.stage i ((c.stage i).turn K remote d c.files c.state).1⟩ := by
  simp only [turn, h]

theorem run_append (first second : List Nat) :
    c.run K remote plan (first ++ second) = (c.run K remote plan first).run K remote plan second :=
  List.foldl_append ..

theorem Finished.length_eq {results : List (Except Failure Outcome)}
    (h : c.Finished plan results) : results.length = plan.length := by
  simpa using (congrArg List.length h).symm

theorem Finished.stage_eq {results : List (Except Failure Outcome)} (h : c.Finished plan results)
    {i : Nat} (hi : i < plan.length) :
    ∃ r, results[i]? = some r ∧ c.stage i = .done r := by
  have hget := congrArg (·[i]?) h
  simp only [List.getElem?_map, List.getElem?_range hi, Option.map_some] at hget
  obtain ⟨r, hr, hdone⟩ := Option.map_eq_some_iff.1 hget.symm
  exact ⟨r, hr, hdone.symm⟩

/-! ### One download alone -/

/-- So many turns of a download that nothing comes between. -/
def turns (K : Codec) (remote : Remote σ) (d : Download) :
    Nat → Stage × Files × σ → Stage × Files × σ
  | 0, t => t
  | n + 1, (stage, files, state) => turns K remote d n (stage.turn K remote d files state)

theorem turns_done (d : Download) (n : Nat) (result : Except Failure Outcome) (files : Files)
    (state : σ) :
    turns K remote d n (.done result, files, state) = (.done result, files, state) := by
  induction n with
  | zero => rfl
  | succ n ih => exact ih

/-- A download that asks comes to what `Download.ask` comes to, two turns for each time. -/
theorem turns_asking (d : Download) (more : Nat) (files : Files) (state : σ) :
    turns K remote d (2 * (more + 1)) (.asking more, files, state) =
      (.done ((d.ask K remote files more state).result.map fun () => .downloaded),
        (d.ask K remote files more state).files, (d.ask K remote files more state).state) := by
  induction more generalizing files state with
  | zero =>
    simp only [turns, Stage.turn, Download.ask]
    rcases d.keep K files (remote.reply d.url state).1 with ⟨⟨e⟩ | ⟨⟩, left⟩ <;> rfl
  | succ more ih =>
    have hsteps : 2 * (more + 1 + 1) = 2 * (more + 1) + 1 + 1 := by omega
    rw [hsteps, turns, turns]
    simp only [Stage.turn, Download.ask]
    rcases d.keep K files (remote.reply d.url state).1 with ⟨⟨e⟩ | ⟨⟩, left⟩
    · exact ih left _
    · exact turns_done d _ _ left _

/-- The turns that take a download from its start to its end. -/
def wholeTurns : Nat := 2 * Download.maxAttempts + 2

/-- **A download alone does in its turns what `Download.run` does.** -/
theorem turns_whole (d : Download) (files : Files) (state : σ) :
    turns K remote d wholeTurns (.waiting, files, state) =
      (.done (d.run K remote files state).result, (d.run K remote files state).files,
        (d.run K remote files state).state) := by
  have hsteps : wholeTurns = 2 * (Download.maxAttempts - 1 + 1) + 1 + 1 := by decide
  rw [hsteps, turns, turns, Download.run]
  simp only [Stage.turn]
  by_cases hskip : (!d.force && files.exists? d.target) = true
  · simp only [hskip, if_true]
    exact turns_done d _ _ files state
  · simp only [hskip, Bool.false_eq_true, if_false]
    cases files.makeParents? d.target with
    | none => exact turns_done d _ _ files state
    | some made => exact turns_asking d _ made state

/-! ### One after the other -/

theorem run_replicate (K : Codec) (remote : Remote σ) {i : Nat} {d : Download}
    (h : plan[i]? = some d) (n : Nat) (c : Crew σ) :
    c.run K remote plan (List.replicate n i) =
      ⟨(turns K remote d n (c.stage i, c.files, c.state)).2.1,
        (turns K remote d n (c.stage i, c.files, c.state)).2.2,
        Function.update c.stage i (turns K remote d n (c.stage i, c.files, c.state)).1⟩ := by
  induction n generalizing c with
  | zero => simp [run, turns]
  | succ n ih =>
    have hstep : c.run K remote plan (List.replicate (n + 1) i) =
        (c.turn K remote plan i).run K remote plan (List.replicate n i) := rfl
    rw [hstep, ih, turn_of_getElem? h]
    simp [turns]

/-- The stages of a plan of which a first part is over and then come results. -/
def stagesFrom (first : Nat) (stage : Nat → Stage) (results : List (Except Failure Outcome))
    (i : Nat) : Stage :=
  if i < first then stage i else ((results[i - first]?).map Stage.done).getD .waiting

/-- The result of the next download joins the part that is over. -/
theorem stagesFrom_update (first : Nat) (stage : Nat → Stage) (result : Except Failure Outcome)
    (results : List (Except Failure Outcome)) :
    stagesFrom (first + 1) (Function.update stage first (.done result)) results =
      stagesFrom first stage (result :: results) := by
  funext i
  rcases Nat.lt_trichotomy i first with hlt | rfl | hgt
  · rw [stagesFrom, stagesFrom, if_pos (by omega), if_pos hlt,
      Function.update_of_ne (Nat.ne_of_lt hlt)]
  · rw [stagesFrom, stagesFrom, if_pos (by omega), if_neg (by omega), Function.update_self,
      Nat.sub_self]
    rfl
  · have hindex : i - first = i - (first + 1) + 1 := by omega
    rw [stagesFrom, stagesFrom, if_neg (by omega), if_neg (by omega), hindex,
      List.getElem?_cons_succ]

theorem exists_schedule_rest (K : Codec) (remote : Remote σ) (before rest : List Download)
    (c : Crew σ) (hwaiting : ∀ i, before.length ≤ i → c.stage i = .waiting) :
    ∃ schedule, c.run K remote (before ++ rest) schedule =
      ⟨(Download.runAll K remote rest c.files c.state).files,
        (Download.runAll K remote rest c.files c.state).state,
        stagesFrom before.length c.stage
          (Download.runAll K remote rest c.files c.state).result⟩ := by
  induction rest generalizing before c with
  | nil =>
    refine ⟨[], ?_⟩
    have hstages : stagesFrom before.length c.stage [] = c.stage := by
      funext i
      by_cases hi : i < before.length
      · simp [stagesFrom, hi]
      · simp [stagesFrom, hi, hwaiting i (by omega)]
    simp [run, Download.runAll, hstages]
  | cons d rest ih =>
    have hget : (before ++ d :: rest)[before.length]? = some d := by simp
    have hfirst := run_replicate K remote hget wholeTurns c
    rw [hwaiting _ (Nat.le_refl _), turns_whole] at hfirst
    have hlater : ∀ i, (before ++ [d]).length ≤ i → Function.update c.stage before.length
        (.done (d.run K remote c.files c.state).result) i = .waiting := by
      intro i hi
      rw [List.length_append, List.length_singleton] at hi
      rw [Function.update_of_ne (by omega), hwaiting i (by omega)]
    obtain ⟨schedule, hschedule⟩ := ih (before ++ [d])
      ⟨(d.run K remote c.files c.state).files, (d.run K remote c.files c.state).state,
        Function.update c.stage before.length (.done (d.run K remote c.files c.state).result)⟩
      hlater
    rw [← List.append_cons, List.length_append, List.length_singleton,
      stagesFrom_update] at hschedule
    refine ⟨List.replicate wholeTurns before.length ++ schedule, ?_⟩
    rw [run_append, hfirst, hschedule]
    rfl

theorem length_runAll (K : Codec) (remote : Remote σ) (plan : List Download) (files : Files)
    (state : σ) :
    (Download.runAll K remote plan files state).result.length = plan.length := by
  induction plan generalizing files state with
  | nil => rfl
  | cons d rest ih => exact congrArg (· + 1) (ih _ _)

/-- **`Download.runAll` is what a crew does that takes the plan one by one.** -/
theorem exists_schedule_runAll (K : Codec) (remote : Remote σ) (plan : List Download)
    (files : Files) (state : σ) :
    ∃ schedule, ((start files state).run K remote plan schedule).Finished plan
        (Download.runAll K remote plan files state).result ∧
      ((start files state).run K remote plan schedule).files =
        (Download.runAll K remote plan files state).files := by
  obtain ⟨schedule, hschedule⟩ := exists_schedule_rest K remote [] plan
    (start files state) fun _ _ => rfl
  rw [List.nil_append] at hschedule
  refine ⟨schedule, ?_, by rw [hschedule]; rfl⟩
  rw [hschedule, Finished]
  refine List.ext_getElem? fun i => ?_
  have hlength := length_runAll K remote plan files state
  by_cases hi : i < plan.length
  · have hresult : i < (Download.runAll K remote plan files state).result.length := by omega
    rw [List.getElem?_map, List.getElem?_range hi, List.getElem?_map,
      List.getElem?_eq_getElem hresult]
    simp [stagesFrom, start, List.getElem?_eq_getElem hresult]
  · rw [List.getElem?_eq_none (by simpa using hi), List.getElem?_eq_none (by simp; omega)]

/-! ### Turns that are left -/

/-- The turns that a download has left at most. -/
def turnsLeft : Stage → Nat
  | .waiting => wholeTurns
  | .making => wholeTurns - 1
  | .asking more => 2 * more + 2
  | .holding more _ => 2 * more + 1
  | .done _ => 0

theorem turnsLeft_turn (K : Codec) (remote : Remote σ) (d : Download) (files : Files) (state : σ)
    (stage : Stage) :
    turnsLeft (stage.turn K remote d files state).1 ≤ turnsLeft stage - 1 := by
  cases stage with
  | waiting =>
    simp only [Stage.turn]
    split
    · exact Nat.zero_le _
    · exact Nat.le_refl _
  | making =>
    simp only [Stage.turn]
    split
    · exact Nat.zero_le _
    · simp [turnsLeft, wholeTurns, Download.maxAttempts]
  | asking more => simp [Stage.turn, turnsLeft]
  | holding more reply =>
    rcases hkeep : d.keep K files reply with ⟨⟨e⟩ | ⟨⟩, left⟩
    · cases more with
      | zero => simp [Stage.turn, hkeep, turnsLeft]
      | succ more => simp [Stage.turn, hkeep, turnsLeft]; omega
    · simp [Stage.turn, hkeep, turnsLeft]
  | done result => simp [Stage.turn, turnsLeft]

theorem turnsLeft_run (K : Codec) (remote : Remote σ) {i : Nat} (hi : i < plan.length)
    (schedule : List Nat) (c : Crew σ) :
    turnsLeft ((c.run K remote plan schedule).stage i) ≤
      turnsLeft (c.stage i) - schedule.count i := by
  induction schedule generalizing c with
  | nil => exact Nat.le_refl _
  | cons j rest ih =>
    have hrest := ih (c.turn K remote plan j)
    have hstep : c.run K remote plan (j :: rest) =
        (c.turn K remote plan j).run K remote plan rest := rfl
    rw [hstep]
    by_cases hj : j = i
    · subst hj
      rw [turn_of_getElem? (List.getElem?_eq_getElem hi)] at hrest ⊢
      have hturn := turnsLeft_turn K remote plan[j] c.files c.state (c.stage j)
      simp only [Function.update_self] at hrest
      rw [List.count_cons_self]
      omega
    · have hkept : (c.turn K remote plan j).stage i = c.stage i := by
        unfold turn
        split
        · rfl
        · exact Function.update_of_ne (Ne.symm hj) ..
      rw [hkept] at hrest
      rw [List.count_cons_of_ne hj]
      exact hrest

theorem exists_done_of_turnsLeft {stage : Stage} (h : turnsLeft stage = 0) :
    ∃ r, stage = .done r := by
  cases stage with
  | done result => exact ⟨result, rfl⟩
  | waiting => simp [turnsLeft, wholeTurns] at h
  | making => simp [turnsLeft, wholeTurns, Download.maxAttempts] at h
  | asking more => simp [turnsLeft] at h
  | holding more reply => simp [turnsLeft] at h

/-- **Every download that gets its turns is done**, whatever comes between them. -/
theorem exists_finished (K : Codec) (remote : Remote σ) (plan : List Download) (files : Files)
    (state : σ) {schedule : List Nat} (h : ∀ i < plan.length, wholeTurns ≤ schedule.count i) :
    ∃ results, ((start files state).run K remote plan schedule).Finished plan results := by
  have hdone : ∀ i < plan.length, ∃ r,
      ((start files state).run K remote plan schedule).stage i = .done r := by
    intro i hi
    have hleft := turnsLeft_run K remote hi schedule (start files state)
    have hcount := h i hi
    have hstart : turnsLeft ((start files state).stage i) = wholeTurns := rfl
    exact exists_done_of_turnsLeft (by omega)
  have hnonempty : Nonempty (Except Failure Outcome) := ⟨.ok .skipped⟩
  choose! result hresult using hdone
  refine ⟨(List.range plan.length).map result, ?_⟩
  rw [Finished, List.map_map]
  exact List.map_congr_left fun i hi => hresult i (List.mem_range.1 hi)

end Crew
end Sync
end DialogueSheet
