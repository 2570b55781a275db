/-
# Downloads in any order

Both plans are separate: the data files on every tree on which they can be written, the
pictures once the way of the root stands, as it does after the data files
(`separate_dataPlan`, `separate_pictures`).  So whatever the order in which their downloads
take their turns, the results and the files are those of one download after the other
(`any_order`).
-/
import DialogueSheet.Proofs.Sync.Settled
import DialogueSheet.Sync.Run

namespace DialogueSheet
namespace Sync

variable {K : Codec} {files : Files} {plan : List Download} {answer : String → Reply}
  {root : AssetRoot}

/-! ### The plans are separate -/

/-- Downloads to equally deep targets are separate when what they look at is steady. -/
theorem separate_of_keptUnder {depth : Nat} (htree : files.IsTree)
    (htargets : (plan.map Download.target).Nodup)
    (hkept : ∀ d ∈ plan, KeptUnder root depth d)
    (hready : ∀ d ∈ plan, d.needed files = true → d.Ready files)
    (hsteady : ∀ d ∈ plan, d.force = false → ∀ later, Touched files plan d.target later →
      later.exists? d.target = files.exists? d.target) : Separate files plan where
  tree := htree
  targets := htargets
  ready := hready
  apart d hd e he hdneeded heneeded := by
    have hdready := hready d hd hdneeded
    refine (hkept d hd).goalOf_notMem_parentsOf (hkept e he) hdready.leads
      (hready e he heneeded).leads fun hway => ?_
    exact hdready.apart ((hkept d hd).wayOf_subset hdready.leads hway)
  goals d hd e he hdneeded heneeded hgoal :=
    (hkept d hd).target_eq (hkept e he) (hready d hd hdneeded).leads
      (hready e he heneeded).leads hgoal
  steady := hsteady

theorem separate_dataPlan {languages : List Language} (htree : files.IsTree)
    (hready : ∀ d ∈ dataPlan root languages, d.Ready files) :
    Separate files (dataPlan root languages) := by
  refine separate_of_keptUnder htree (nodup_targets_dataPlan root languages)
    (fun d => keptUnder_of_mem_dataPlan) (fun d hd _ => hready d hd) fun d hd hforce => ?_
  rw [force_of_mem_dataPlan hd] at hforce
  cases hforce

/-- The way of a root stands. -/
def Stands (files : Files) (root : AssetRoot) : Prop :=
  ∀ l ∈ files.wayOf root.path, files.found? l = some .directory

/-- Whether a picture is there does not depend on the others. -/
theorem exists?_of_touched (htree : files.IsTree) (hway : Stands files root)
    (hkept : ∀ d ∈ plan, KeptUnder root 0 d)
    (hready : ∀ d ∈ plan, d.needed files = true → d.Ready files) {d : Download} (hd : d ∈ plan)
    {later : Files} (h : Touched files plan d.target later) :
    later.exists? d.target = files.exists? d.target := by
  have hlater : Stands later root := by
    intro l hl
    rw [Files.wayOf_eq h.working] at hl
    have hdirectory := hway l hl
    rcases h.entry l with hsame | ⟨e, -, -, -, hdirectory⟩ | ⟨e, he, heneeded, -, rfl⟩
    · rwa [hsame]
    · exact hdirectory
    · exact absurd hdirectory (hready e he heneeded).vacant
  -- the entry at the target may only have become a directory that it was before
  have hentry : files.Leads d.target → (later.found? (files.goalOf d.target)).isSome =
      (files.found? (files.goalOf d.target)).isSome := by
    intro hleads
    rcases h.entry (files.goalOf d.target) with hsame | ⟨e, he, heneeded, hmem, hdirectory⟩ |
      ⟨e, he, heneeded, htarget, hgoal⟩
    · rw [hsame]
    · have heleads := (hready e he heneeded).leads
      rcases (hkept e he).mem_parentsOf heleads hmem with hmem | hlt
      · rw [hdirectory, hway _ hmem]
      · rw [(hkept d hd).length_goalOf hleads, (hkept e he).length_goalOf heleads] at hlt
        omega
    · have heleads := (hready e he heneeded).leads
      exact absurd ((hkept e he).target_eq (hkept d hd) heleads hleads hgoal.symm) htarget
  rw [Bool.eq_iff_iff, (hkept d hd).exists?_iff h.tree hlater, (hkept d hd).exists?_iff htree hway,
    Files.goalOf_eq h.working]
  constructor
  · rintro ⟨hleads, hsome⟩
    have hleads' := hleads.of_working h.working.symm
    exact ⟨hleads', hentry hleads' ▸ hsome⟩
  · rintro ⟨hleads, hsome⟩
    exact ⟨hleads.of_working h.working, (hentry hleads).symm ▸ hsome⟩

/-- Pictures are separate when the way of their root stands. -/
theorem separate_pictures (htree : files.IsTree) (hway : Stands files root)
    (htargets : (plan.map Download.target).Nodup) (hkept : ∀ d ∈ plan, KeptUnder root 0 d)
    (hready : ∀ d ∈ plan, d.needed files = true → d.Ready files) : Separate files plan :=
  separate_of_keptUnder htree htargets hkept hready fun _ hd _ _ htouched =>
    exists?_of_touched htree hway hkept hready hd htouched

theorem needed_of_mem_dataPlan {languages : List Language} {d : Download}
    (hd : d ∈ dataPlan root languages) (files : Files) : d.needed files = true :=
  Download.needed_of_force (force_of_mem_dataPlan hd)

/-- After the data files the way of the root stands. -/
theorem Settled.stands {languages : List Language} {later : Files}
    (hplan : Separate files (dataPlan root languages))
    (h : Settled K files answer (dataPlan root languages) later) : Stands later root := by
  have hd : dataDownload root .cn "students" ∈ dataPlan root languages :=
    mem_dataPlan.2 ⟨.cn, cn_mem_neededLanguages languages, "students", by decide +kernel, rfl⟩
  have hneeded := needed_of_mem_dataPlan hd files
  intro l hl
  rw [Files.wayOf_eq h.working] at hl
  have hway := (keptUnder_of_mem_dataPlan hd).wayOf_subset (hplan.ready _ hd hneeded).leads hl
  exact h.housed _ hd hneeded l hway

/-! ### Reports -/

theorem ofResults_total (results : List (Download × Except Failure Outcome)) :
    (SyncReport.ofResults results).downloaded + (SyncReport.ofResults results).skipped +
      (SyncReport.ofResults results).failed.length = results.length := by
  induction results with
  | nil => rfl
  | cons one rest ih =>
    obtain ⟨d, r⟩ := one
    simp only [SyncReport.ofResults, List.countP_cons, List.filterMap_cons, List.length_cons]
      at ih ⊢
    cases r with
    | error e =>
      have hnone : (Except.error e : Except Failure Outcome).toOption = none := rfl
      simp only [hnone, reduceCtorEq, decide_false, Bool.false_eq_true, if_false,
        Option.isNone_none, if_true, List.length_cons]
      omega
    | ok outcome =>
      have hsome : (Except.ok outcome : Except Failure Outcome).toOption = some outcome := rfl
      simp only [hsome, Option.isNone_some, Bool.false_eq_true, if_false]
      cases outcome <;> simp only [reduceCtorEq, Option.some.injEq, decide_true, decide_false,
        Bool.false_eq_true, if_true, if_false] <;> omega

/-- The URLs of downloads that fail, in their order. -/
theorem ofResults_failed (result : Download → Except Failure Outcome) (plan : List Download) :
    (SyncReport.ofResults (plan.zip (plan.map result))).failed =
      (plan.filter fun d => (result d).toOption.isNone).map Download.url := by
  induction plan with
  | nil => rfl
  | cons d rest ih =>
    simp only [SyncReport.ofResults, List.map_cons, List.zip_cons_cons, List.filterMap_cons,
      List.filter_cons] at ih ⊢
    cases (result d).toOption.isNone with
    | true => rw [if_pos rfl, if_pos rfl, ih, List.map_cons]
    | false => rw [if_neg Bool.false_ne_true, if_neg Bool.false_ne_true, ih]

/-- The URLs that fail in two plans, one after the other. -/
theorem ofResults_failed_append (result result' : Download → Except Failure Outcome)
    (plan plan' : List Download) :
    (SyncReport.ofResults ((plan ++ plan').zip (plan.map result ++ plan'.map result'))).failed =
      (plan.filter fun d => (result d).toOption.isNone).map Download.url ++
        (plan'.filter fun d => (result' d).toOption.isNone).map Download.url := by
  have hzip : (plan ++ plan').zip (plan.map result ++ plan'.map result') =
      plan.zip (plan.map result) ++ plan'.zip (plan'.map result') :=
    List.zip_append (List.length_map result).symm
  rw [← ofResults_failed, ← ofResults_failed, hzip]
  exact List.filterMap_append ..

/-- A run whose pictures can be planned, in its two parts. -/
theorem run_of_planned {σ : Type} {remote : Remote σ} (options : SyncOptions) {state : σ}
    {first second : Transfer (List (Except Failure Outcome)) σ} {pictures : List Download}
    (hfirst : Download.runAll K remote (dataPlan root options.languages) files state = first)
    (hplanned : plannedPictures first.files root options.force = .ok pictures)
    (hsecond : Download.runAll K remote pictures first.files first.state = second) :
    run K remote root options files state =
      ⟨.ok (.ofResults ((dataPlan root options.languages ++ pictures).zip
        (first.result ++ second.result))), second.files, second.state⟩ := by
  unfold run
  dsimp only
  rw [hfirst, hplanned]
  dsimp only
  rw [hsecond]

/-! ### Any order -/

/-- **The order of the downloads makes no difference.**  The remote answers by the URL alone,
and what is not skipped can be written. -/
theorem any_order {σ : Type} (K : Codec) (remote : Remote σ) (answer : String → Reply)
    (hremote : ∀ url state, (remote.reply url state).1 = answer url) (root : AssetRoot)
    (languages : List Language) (students : List Student) (items : List Item)
    (furniture : List Furniture) (force : Bool) (files : Files) (state : σ)
    (htree : files.IsTree)
    (hdata : ∀ d ∈ dataPlan root languages, d.Writable files)
    (hpictures : ∀ d ∈ picturePlan root students items furniture force,
      d.needed (Download.runAll K remote (dataPlan root languages) files state).files = true →
        d.Writable (Download.runAll K remote (dataPlan root languages) files state).files) :
    let data := dataPlan root languages
    let pictures := picturePlan root students items furniture force
    let first := Download.runAll K remote data files state
    let second := Download.runAll K remote pictures first.files first.state
    let report := SyncReport.ofResults ((data ++ pictures).zip (first.result ++ second.result))
    (data.map Download.target).Nodup ∧ (pictures.map Download.target).Nodup ∧
    (∀ (before : Files) state schedule results, files.Same before →
      ((Crew.start before state).run K remote data schedule).Finished data results →
        results = first.result ∧
          ((Crew.start before state).run K remote data schedule).files.Same first.files) ∧
    (∀ (before : Files) state schedule results, first.files.Same before →
      ((Crew.start before state).run K remote pictures schedule).Finished pictures results →
        results = second.result ∧
          ((Crew.start before state).run K remote pictures schedule).files.Same second.files) ∧
    (∀ (plan : List Download) (before : Files) state schedule,
      (∀ i < plan.length, Crew.wholeTurns ≤ schedule.count i) →
        ∃ results, ((Crew.start before state).run K remote plan schedule).Finished plan results) ∧
    report.downloaded + report.skipped + report.failed.length = data.length + pictures.length ∧
    report.failed =
      (data.filter fun d => (d.result K files answer).toOption.isNone).map Download.url ++
        (pictures.filter fun d => (d.result K first.files answer).toOption.isNone).map
          Download.url ∧
    (plannedPictures first.files root force = .ok pictures →
      run K remote root ⟨languages, force⟩ files state =
        ⟨.ok report, second.files, second.state⟩) := by
  intro data pictures first second report
  have hdataPlan : Separate files data := separate_dataPlan htree fun d hd =>
    (keptUnder_of_mem_dataPlan hd).ready (hdata d hd)
  obtain ⟨hfirst, hfirstSettled⟩ := hdataPlan.runAll_settled hremote (.refl files) state
  have hpicturePlan : Separate first.files pictures :=
    separate_pictures hfirstSettled.tree (hfirstSettled.stands hdataPlan)
      (nodup_targets_picturePlan ..) (fun _ hd => (of_mem_picturePlan hd).1)
      fun d hd hneeded => (of_mem_picturePlan hd).1.ready (hpictures d hd hneeded)
  obtain ⟨hsecond, hsecondSettled⟩ :=
    hpicturePlan.runAll_settled hremote (.refl first.files) first.state
  refine ⟨hdataPlan.targets, hpicturePlan.targets, ?_, ?_, ?_, ?_, ?_, ?_⟩
  · intro before state' schedule results hsame hfinished
    obtain ⟨hresults, hsettled⟩ := hdataPlan.settled hremote hsame hfinished
    exact ⟨hresults.trans hfirst.symm, hsettled.same hfirstSettled⟩
  · intro before state' schedule results hsame hfinished
    obtain ⟨hresults, hsettled⟩ := hpicturePlan.settled hremote hsame hfinished
    exact ⟨hresults.trans hsecond.symm, hsettled.same hsecondSettled⟩
  · intro plan before state' schedule hturns
    exact Crew.exists_finished K remote plan before state' hturns
  · rw [ofResults_total, List.length_zip, List.length_append, List.length_append, hfirst, hsecond,
      List.length_map, List.length_map, Nat.min_self]
  · simp only [report]
    rw [hfirst, hsecond, ofResults_failed_append]
  · intro hplanned
    exact run_of_planned ⟨languages, force⟩ rfl hplanned rfl

/-! ### A remote with little to give -/

/-- A remote that has no students and the icon of one terrain. -/
def scantAnswer (url : String) : Reply :=
  if url = urlOf "data/cn/students.json" then .ok (.text "[]")
  else if url = urlOf "images/ui/Terrain_Street.png" then .ok (.picture ⟨64, 64⟩ .png 2048)
  else .error (.other "404")

/-- The remote of these answers. -/
def scantRemote : Remote Unit := ⟨fun url state => (scantAnswer url, state)⟩

/-- An empty tree. -/
def noFiles : Files := ⟨[], []⟩

/-- What the data files leave of it under a root in the working directory. -/
def scantFiles : Files := ⟨[(["r"], .directory), (["r", "data"], .directory),
  (["r", "data", "cn"], .directory), (["r", "data", "cn", "students.json"], .file (.text "[]")),
  (["r", "data", "jp"], .directory)], []⟩

theorem scantRemote_reply (url : String) (state : Unit) :
    (scantRemote.reply url state).1 = scantAnswer url := rfl

theorem isTree_noFiles : noFiles.IsTree where
  working := rfl
  above l e h := by
    cases l with
    | nil => rfl
    | cons name names => simp [noFiles, Files.found?] at h

theorem scant_data_writable : ∀ d ∈ dataPlan ⟨"r"⟩ [.cn], d.Writable noFiles := by
  decide +kernel

theorem scant_data_files :
    (Download.runAll .bySize scantRemote (dataPlan ⟨"r"⟩ [.cn]) noFiles ()).files = scantFiles := by
  have hentries : (Download.runAll .bySize scantRemote (dataPlan ⟨"r"⟩ [.cn]) noFiles
      ()).files.entries = scantFiles.entries := by decide +kernel
  have hplan : Separate noFiles (dataPlan ⟨"r"⟩ [.cn]) := separate_dataPlan isTree_noFiles
    fun d hd => (keptUnder_of_mem_dataPlan hd).ready (scant_data_writable d hd)
  have hworking :=
    (hplan.runAll_settled (K := .bySize) scantRemote_reply (.refl noFiles) ()).2.working
  generalize (Download.runAll .bySize scantRemote (dataPlan ⟨"r"⟩ [.cn]) noFiles ()).files = files
    at *
  obtain ⟨entries, working⟩ := files
  exact congrArg₂ Files.mk hentries hworking

theorem scant_pictures_writable :
    ∀ d ∈ picturePlan ⟨"r"⟩ [] [] [] false, d.Writable scantFiles := by
  decide +kernel

/-- Each download of a plan takes its turns, the last one first. -/
def backwards (plan : List Download) : List Nat :=
  (List.range plan.length).reverse.flatMap (List.replicate Crew.wholeTurns)

theorem count_backwards {plan : List Download} {i : Nat} (hi : i < plan.length) :
    Crew.wholeTurns ≤ (backwards plan).count i := by
  have hmem : i ∈ (List.range plan.length).reverse := by simpa using hi
  obtain ⟨first, second, hsplit⟩ := List.append_of_mem hmem
  rw [backwards, hsplit, List.flatMap_append, List.flatMap_cons, List.count_append,
    List.count_append, List.count_replicate_self]
  omega

theorem finished_backwards {σ : Type} (K : Codec) (remote : Remote σ) (plan : List Download)
    (files : Files) (state : σ) : ∃ results,
      ((Crew.start files state).run K remote plan (backwards plan)).Finished plan results :=
  Crew.exists_finished K remote plan files state fun _ => count_backwards

/-- Ten data files and the pictures of nobody, each plan from its end. -/
theorem any_order_backwards :
    ∃ results results',
      ((Crew.start noFiles ()).run .bySize scantRemote (dataPlan ⟨"r"⟩ [.cn])
        (backwards (dataPlan ⟨"r"⟩ [.cn]))).Finished (dataPlan ⟨"r"⟩ [.cn]) results ∧
      ((Crew.start noFiles ()).run .bySize scantRemote (dataPlan ⟨"r"⟩ [.cn])
        (backwards (dataPlan ⟨"r"⟩ [.cn]))).files.Same scantFiles ∧
      ((Crew.start scantFiles ()).run .bySize scantRemote (picturePlan ⟨"r"⟩ [] [] [] false)
        (backwards (picturePlan ⟨"r"⟩ [] [] [] false))).Finished
          (picturePlan ⟨"r"⟩ [] [] [] false) results' ∧
      results' = (Download.runAll .bySize scantRemote (picturePlan ⟨"r"⟩ [] [] [] false) scantFiles
        (Download.runAll .bySize scantRemote (dataPlan ⟨"r"⟩ [.cn]) noFiles ()).state).result := by
  have hall := any_order .bySize scantRemote scantAnswer scantRemote_reply ⟨"r"⟩ [.cn] [] [] []
    false noFiles () isTree_noFiles scant_data_writable
    (by rw [scant_data_files]; exact fun d hd _ => scant_pictures_writable d hd)
  dsimp only at hall
  rw [scant_data_files] at hall
  obtain ⟨-, -, hdata, hpictures, -⟩ := hall
  obtain ⟨results, hresults⟩ :=
    finished_backwards .bySize scantRemote (dataPlan ⟨"r"⟩ [.cn]) noFiles ()
  obtain ⟨results', hresults'⟩ :=
    finished_backwards .bySize scantRemote (picturePlan ⟨"r"⟩ [] [] [] false) scantFiles ()
  exact ⟨results, results', hresults,
    (hdata noFiles () _ results (Files.Same.refl _) hresults).2, hresults',
    (hpictures scantFiles () _ results' (Files.Same.refl _) hresults').1⟩

end Sync
end DialogueSheet
