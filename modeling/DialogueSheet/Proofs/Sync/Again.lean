/-
# Bringing the assets up to date twice

A second run finds what the first one left.  The data files lie deeper than the pictures, so the
pictures have changed none of them (`Settled.entry_of_deeper`), and downloading them again
changes nothing.  Then the same tables ask for the same pictures.  Of these, a picture that was
kept or was there before is there now, and one that was not kept is still missing
(`result_again`).  So nothing is left to change, and the same URLs fail (`run_again`).
-/
import DialogueSheet.Proofs.Sync.AnyOrder

namespace DialogueSheet
namespace Sync

variable {K : Codec} {files later : Files} {plan : List Download} {answer : String → Reply}
  {root : AssetRoot}

/-! ### Targets that lie deeper -/

/-- A plan leaves alone what lies deeper than its targets. -/
theorem Settled.entry_of_deeper (hplan : Separate files plan)
    (h : Settled K files answer plan later) {depth depth' : Nat}
    (hkept : ∀ e ∈ plan, KeptUnder root depth e) (hlt : depth < depth') {d : Download}
    (hd : KeptUnder root depth' d) (hready : d.Ready files) :
    later.found? (files.goalOf d.target) = files.found? (files.goalOf d.target) := by
  have hdlength := hd.length_goalOf hready.leads
  rcases h.entry_cases (files.goalOf d.target) with hsame | ⟨e, he, hneeded, hmem, -⟩ |
    ⟨e, he, hneeded, hgoal⟩
  · exact hsame
  · have heleads := (hplan.ready e he hneeded).leads
    rcases (hkept e he).mem_parentsOf heleads hmem with hway | hshort
    · exact absurd (hd.wayOf_subset hready.leads hway) hready.apart
    · rw [(hkept e he).length_goalOf heleads] at hshort
      omega
  · have hlength := congrArg List.length hgoal
    rw [hdlength, (hkept e he).length_goalOf (hplan.ready e he hneeded).leads] at hlength
    omega

/-- A target with its directories stands where its path leads. -/
theorem at?_of_housed (htree : files.IsTree) {d : Download} (hready : d.Ready files)
    (hhoused : Housed files files d) : files.at? d.target = files.found? (files.goalOf d.target) :=
  hready.leads.at?_eq (List.forall_mem_cons.2 ⟨htree.startOf _, hhoused⟩)

/-- A plan that has nothing to change has nothing to change later, if its directories and its
targets are as they were. -/
theorem Settled.beside (h : Settled K files answer plan files)
    (hneeded : ∀ d ∈ plan, d.needed files = true) (htree : later.IsTree)
    (hworking : later.working = files.working)
    (hdirectory : ∀ l, files.found? l = some .directory → later.found? l = some .directory)
    (hgoal : ∀ d ∈ plan, later.found? (files.goalOf d.target) =
      files.found? (files.goalOf d.target)) : Settled K later answer plan later where
  tree := htree
  working := rfl
  housed d hd _ l hl := by
    rw [Files.parentsOf_eq hworking] at hl
    exact hdirectory l (h.housed d hd (hneeded d hd) l hl)
  goal d hd _ := by
    rw [final, Files.goalOf_eq hworking, hgoal d hd]
    exact h.goal d hd (hneeded d hd)
  others _ _ _ := rfl

/-! ### The data files again -/

/-- After the pictures the data files are as separate as before, stand as before, and leave
nothing to change. -/
theorem data_again {languages : List Language} {first : Files}
    (hplan : Separate files (dataPlan root languages))
    (hfirst : Settled K files answer (dataPlan root languages) first)
    (hkept : ∀ e ∈ plan, KeptUnder root 0 e) (hpictures : Separate first plan)
    (hlater : Settled K first answer plan later) :
    Separate later (dataPlan root languages) ∧
      Settled K later answer (dataPlan root languages) later ∧
      ∀ d ∈ dataPlan root languages, later.at? d.target = first.at? d.target := by
  have hready : ∀ d ∈ dataPlan root languages, d.Ready first := fun d hd =>
    hfirst.ready hplan hd (needed_of_mem_dataPlan hd files)
  have hfirst' := hfirst.again fun d hd _ => needed_of_mem_dataPlan hd files
  have hgoal : ∀ d ∈ dataPlan root languages, later.found? (first.goalOf d.target) =
      first.found? (first.goalOf d.target) := fun d hd =>
    hlater.entry_of_deeper hpictures hkept Nat.zero_lt_one (keptUnder_of_mem_dataPlan hd)
      (hready d hd)
  have hhoused : ∀ d ∈ dataPlan root languages, Housed first first d := fun d hd =>
    hfirst'.housed d hd (needed_of_mem_dataPlan hd first)
  have hready' : ∀ d ∈ dataPlan root languages, d.Ready later := by
    intro d hd
    have hlaterHoused : Housed first later d := fun l hl =>
      hlater.directory hpictures (hhoused d hd l hl)
    refine hlaterHoused.ready (hready d hd) hlater.working ?_
    rw [hgoal d hd]
    exact (hready d hd).vacant
  have hsettled := hfirst'.beside (fun d hd => needed_of_mem_dataPlan hd first) hlater.tree
    hlater.working (fun l => hlater.directory hpictures) hgoal
  refine ⟨separate_dataPlan hlater.tree hready', hsettled, fun d hd => ?_⟩
  rw [at?_of_housed hlater.tree (hready' d hd)
      (hsettled.housed d hd (needed_of_mem_dataPlan hd later)),
    Files.goalOf_eq hlater.working, hgoal d hd,
    at?_of_housed hfirst.tree (hready d hd) (hhoused d hd)]

/-- A data file comes to the same in all files. -/
theorem result_of_mem_dataPlan {languages : List Language} {d : Download}
    (hd : d ∈ dataPlan root languages) (files later : Files) (answer : String → Reply) :
    d.result K later answer = d.result K files answer := by
  rw [Download.result, Download.result, if_pos (needed_of_mem_dataPlan hd _),
    if_pos (needed_of_mem_dataPlan hd _)]

/-! ### The same pictures -/

theorem readText?_congr {languages : List Language} {a b : Files}
    (h : ∀ d ∈ dataPlan root languages, a.at? d.target = b.at? d.target) {language : Language}
    (hlanguage : language ∈ neededLanguages languages) {file : String} (hfile : file ∈ dataFiles) :
    a.readText? (root.dataFile language file) = b.readText? (root.dataFile language file) := by
  have hat : a.at? (root.dataFile language file) = b.at? (root.dataFile language file) :=
    h _ (mem_dataPlan.2 ⟨language, hlanguage, file, hfile, rfl⟩)
  rw [Files.readText?, Files.readText?, Files.read?, Files.read?, hat]

/-- The pictures are planned by what stands at the data files. -/
theorem plannedPictures_congr (languages : List Language) {a b : Files}
    (h : ∀ d ∈ dataPlan root languages, a.at? d.target = b.at? d.target) (force : Bool) :
    plannedPictures a root force = plannedPictures b root force := by
  -- the tables in Chinese are read, and their files are always among the needed ones
  have hread : ∀ file ∈ dataFiles,
      a.readText? (root.dataFile .cn file) = b.readText? (root.dataFile .cn file) := fun _ =>
    readText?_congr h (cn_mem_neededLanguages languages)
  have hstudents : table a root "students" Student.ofJson? =
      table b root "students" Student.ofJson? := by
    unfold table
    rw [hread "students" (by decide)]
  have hitems : tableRows a root .cn "items" Item.ofJson? =
      tableRows b root .cn "items" Item.ofJson? := by
    rw [tableRows, tableRows, hread "items" (by decide)]
  have hfurniture : tableRows a root .cn "furniture" Furniture.ofJson? =
      tableRows b root .cn "furniture" Furniture.ofJson? := by
    rw [tableRows, tableRows, hread "furniture" (by decide)]
  rw [plannedPictures, plannedPictures, hstudents, hitems, hfurniture]

theorem of_plannedPictures_eq_ok {force : Bool} {pictures : List Download}
    (h : plannedPictures files root force = .ok pictures) :
    (pictures.map Download.target).Nodup ∧
      ∀ d ∈ pictures, KeptUnder root 0 d ∧ d.force = force := by
  unfold plannedPictures at h
  cases hstudents : table files root "students" Student.ofJson? with
  | error e =>
    rw [hstudents] at h
    cases h
  | ok students =>
    rw [hstudents] at h
    obtain rfl := Except.ok.inj h
    exact ⟨nodup_targets_picturePlan .., fun d => of_mem_picturePlan⟩

/-! ### The pictures again -/

theorem Settled.stands_later (hway : Stands files root) (hplan : Separate files plan)
    (h : Settled K files answer plan later) : Stands later root := by
  intro l hl
  rw [Files.wayOf_eq h.working] at hl
  exact h.directory hplan (hway l hl)

section Pictures

variable (hkept : ∀ d ∈ plan, KeptUnder root 0 d) (hway : Stands files root)
  (hplan : Separate files plan) (h : Settled K files answer plan later)
include hkept hway hplan h

/-- What is not needed is there, and still is there afterwards. -/
theorem exists?_of_not_needed {d : Download} (hd : d ∈ plan) (hneeded : d.needed files = false) :
    later.exists? d.target = true := by
  have hexists : files.exists? d.target = true := by
    simpa using (Bool.or_eq_false_iff.1 hneeded).2
  rw [(hkept d hd).exists?_iff hplan.tree hway] at hexists
  rw [(hkept d hd).exists?_iff h.tree (h.stands_later hway hplan),
    Files.goalOf_eq h.working]
  obtain ⟨hleads, hentry⟩ := hexists
  refine ⟨hleads.of_working h.working, ?_⟩
  rcases h.entry_cases (files.goalOf d.target) with hsame | ⟨e, -, -, -, hdirectory⟩ |
    ⟨e, he, heneeded, hgoal⟩
  · rwa [hsame]
  · rw [hdirectory]
    rfl
  · -- a download that has changed the target would be this one
    have htarget := (hkept d hd).target_eq (hkept e he) hleads (hplan.ready e he heneeded).leads
      hgoal
    obtain rfl := List.inj_on_of_nodup_map hplan.targets hd he htarget
    rw [hneeded] at heneeded
    cases heneeded

/-- A target is needed again only if it was needed. -/
theorem needed_of_needed {d : Download} (hd : d ∈ plan) (hneeded : d.needed later = true) :
    d.needed files = true := by
  by_contra hsettled
  rw [Bool.not_eq_true] at hsettled
  have hforce := (Bool.or_eq_false_iff.1 hsettled).1
  have hexists := exists?_of_not_needed hkept hway hplan h hd hsettled
  simp [Download.needed, hforce, hexists] at hneeded

/-- A target that was missing is there afterwards if its download has succeeded. -/
theorem exists?_again {d : Download} (hd : d ∈ plan) (hneeded : d.needed files = true)
    (hmissing : files.exists? d.target = false) :
    later.exists? d.target = (d.verdict K (answer d.url)).result.toOption.isSome := by
  have hleads := (hplan.ready d hd hneeded).leads
  have hnone : files.found? (files.goalOf d.target) = none := by
    have hexists : ¬files.exists? d.target = true := by simp [hmissing]
    rw [(hkept d hd).exists?_iff hplan.tree hway] at hexists
    simpa using fun hsome => hexists ⟨hleads, hsome⟩
  rw [Bool.eq_iff_iff, (hkept d hd).exists?_iff h.tree (h.stands_later hway hplan),
    Files.goalOf_eq h.working, h.goal d hd hneeded, final, hnone, Verdict.leaves_none_isSome]
  exact and_iff_right (hleads.of_working h.working)

/-- **A picture comes to the same again**, except that without force it is skipped unless it
fails again. -/
theorem result_again {d : Download} (hd : d ∈ plan) :
    d.result K later answer =
      if d.force then d.result K files answer
      else (d.result K files answer).map fun _ => .skipped := by
  cases hforce : d.force with
  | true =>
    rw [if_pos rfl, Download.result, Download.result,
      if_pos (Download.needed_of_force hforce), if_pos (Download.needed_of_force hforce)]
  | false =>
    rw [if_neg Bool.false_ne_true, Download.result, Download.result]
    cases hneeded : d.needed files with
    | false =>
      have hagain : ¬ d.needed later = true := fun hagain => by
        rw [needed_of_needed hkept hway hplan h hd hagain] at hneeded
        cases hneeded
      rw [if_neg hagain, if_neg Bool.false_ne_true]
      rfl
    | true =>
      have hmissing : files.exists? d.target = false := by
        simpa [Download.needed, hforce] using hneeded
      have hlater := exists?_again hkept hway hplan h hd hneeded hmissing
      rw [if_pos rfl, Download.needed, hforce, hlater]
      cases (d.verdict K (answer d.url)).result with
      | ok success => rfl
      | error e => rfl

/-- The pictures are as separate as before, and there is nothing to change. -/
theorem pictures_again : Separate later plan ∧ Settled K later answer plan later := by
  have hneeded : ∀ d ∈ plan, d.needed later = true → d.needed files = true := fun d hd =>
    needed_of_needed hkept hway hplan h hd
  exact ⟨separate_pictures h.tree (h.stands_later hway hplan) hplan.targets hkept
    fun d hd hd' => h.ready hplan hd (hneeded d hd hd'), h.again hneeded⟩

end Pictures

/-! ### A second run -/

theorem planned_of_run {σ : Type} {remote : Remote σ} {options : SyncOptions} {state : σ}
    {report : SyncReport} (h : (run K remote root options files state).result = .ok report) :
    ∃ pictures, plannedPictures
      (Download.runAll K remote (dataPlan root options.languages) files state).files root
        options.force = .ok pictures := by
  unfold run at h
  dsimp only at h
  generalize plannedPictures
    (Download.runAll K remote (dataPlan root options.languages) files state).files root
      options.force = planned at h
  cases planned with
  | error e => cases h
  | ok pictures => exact ⟨pictures, rfl⟩

/-- **A second run changes nothing.**  It plans the same pictures, the same URLs fail, and
without force every picture is skipped unless it fails again. -/
theorem run_again {σ : Type} (K : Codec) (remote : Remote σ) (answer : String → Reply)
    (hremote : ∀ url state, (remote.reply url state).1 = answer url) (root : AssetRoot)
    (options : SyncOptions) (files : Files) (state state' : σ) (htree : files.IsTree)
    (hdata : ∀ d ∈ dataPlan root options.languages, d.Writable files)
    (hpictures : ∀ pictures, plannedPictures
        (Download.runAll K remote (dataPlan root options.languages) files state).files root
          options.force = .ok pictures →
      ∀ d ∈ pictures, d.needed
          (Download.runAll K remote (dataPlan root options.languages) files state).files = true →
        d.Writable (Download.runAll K remote (dataPlan root options.languages) files state).files)
    (report : SyncReport) (hreport : (run K remote root options files state).result = .ok report) :
    let data := dataPlan root options.languages
    let once := run K remote root options files state
    let twice := run K remote root options once.files state'
    let first := Download.runAll K remote data files state
    let first' := Download.runAll K remote data once.files state'
    ∃ pictures report',
      plannedPictures first.files root options.force = .ok pictures ∧
      plannedPictures first'.files root options.force = .ok pictures ∧
      twice.result = .ok report' ∧
      twice.files.Same once.files ∧
      report'.failed = report.failed ∧
      (let second := Download.runAll K remote pictures first.files first.state
       let second' := Download.runAll K remote pictures first'.files first'.state
       report = .ofResults ((data ++ pictures).zip (first.result ++ second.result)) ∧
       report' = .ofResults ((data ++ pictures).zip (first'.result ++ second'.result)) ∧
       first'.result = first.result ∧
       (options.force = true → second'.result = second.result) ∧
       (options.force = false →
         second'.result = second.result.map fun r => r.map fun _ => .skipped)) := by
  intro data once twice first first'
  obtain ⟨pictures, hplanned⟩ := planned_of_run hreport
  obtain ⟨hnodup, hkept⟩ := of_plannedPictures_eq_ok hplanned
  have hkeptUnder : ∀ d ∈ pictures, KeptUnder root 0 d := fun d hd => (hkept d hd).1
  -- the first run
  have hdataPlan : Separate files data := separate_dataPlan htree fun d hd =>
    (keptUnder_of_mem_dataPlan hd).ready (hdata d hd)
  obtain ⟨hfirst, hfirstSettled⟩ := hdataPlan.runAll_settled hremote (.refl files) state
  have hway : Stands first.files root := hfirstSettled.stands hdataPlan
  have hpicturePlan : Separate first.files pictures :=
    separate_pictures hfirstSettled.tree hway hnodup hkeptUnder fun d hd hneeded =>
      (hkeptUnder d hd).ready (hpictures pictures hplanned d hd hneeded)
  obtain ⟨hsecond, hsecondSettled⟩ :=
    hpicturePlan.runAll_settled hremote (.refl first.files) first.state
  have honce := run_of_planned options rfl hplanned rfl
  have honceFiles : once.files =
      (Download.runAll K remote pictures first.files first.state).files :=
    congrArg Transfer.files honce
  have honceReport := Except.ok.inj (hreport.symm.trans (congrArg Transfer.result honce))
  rw [← honceFiles] at hsecondSettled
  -- the data files of the second run
  obtain ⟨hdataPlan', hdataSettled, hat⟩ :=
    data_again hdataPlan hfirstSettled hkeptUnder hpicturePlan hsecondSettled
  obtain ⟨hfirst', hfirstSettled'⟩ :=
    hdataPlan'.runAll_settled hremote (.refl once.files) state'
  have hsame : once.files.Same first'.files := hdataSettled.same hfirstSettled'
  have hfirstResult : first'.result = first.result := by
    rw [hfirst, hfirst']
    exact List.map_congr_left fun d hd => result_of_mem_dataPlan hd _ _ answer
  have hplanned' : plannedPictures first'.files root options.force = .ok pictures := by
    rw [← hplanned]
    refine plannedPictures_congr options.languages (fun d hd => ?_) options.force
    rw [← hsame.at?_eq, hat d hd]
  -- the pictures of the second run
  obtain ⟨hpicturePlan', hpicturesSettled⟩ :=
    pictures_again hkeptUnder hway hpicturePlan hsecondSettled
  obtain ⟨hsecond', hsecondSettled'⟩ :=
    hpicturePlan'.runAll_settled hremote hsame first'.state
  have htwice := run_of_planned options rfl hplanned' rfl
  have htwiceFiles : twice.files =
      (Download.runAll K remote pictures first'.files first'.state).files :=
    congrArg Transfer.files htwice
  have hresult : ∀ d ∈ pictures, d.result K once.files answer =
      if options.force then d.result K first.files answer
      else (d.result K first.files answer).map fun _ => .skipped := by
    intro d hd
    rw [← (hkept d hd).2]
    exact result_again hkeptUnder hway hpicturePlan hsecondSettled hd
  refine ⟨pictures, _, hplanned, hplanned', congrArg Transfer.result htwice, ?_, ?_, honceReport,
    rfl, hfirstResult, fun hforce => ?_, fun hforce => ?_⟩
  · rw [htwiceFiles]
    exact hsecondSettled'.same hpicturesSettled
  · rw [honceReport, hfirstResult, hfirst, hsecond, hsecond', ofResults_failed_append,
      ofResults_failed_append]
    congr 2
    refine List.filter_congr fun d hd => ?_
    rw [hresult d hd]
    cases options.force with
    | true => rfl
    | false => cases d.result K first.files answer <;> rfl
  · rw [hsecond, hsecond']
    refine List.map_congr_left fun d hd => ?_
    rw [hresult d hd, if_pos hforce]
  · rw [hsecond, hsecond', List.map_map]
    refine List.map_congr_left fun d hd => ?_
    rw [hresult d hd, hforce, if_neg Bool.false_ne_true]
    rfl

theorem scant_planned :
    plannedPictures scantFiles ⟨"r"⟩ false = .ok (picturePlan ⟨"r"⟩ [] [] [] false) := by
  have hstudents : table scantFiles ⟨"r"⟩ "students" Student.ofJson? = .ok [] := by
    decide +kernel
  have hitems : tableRows scantFiles ⟨"r"⟩ .cn "items" Item.ofJson? = [] := by decide +kernel
  have hfurniture : tableRows scantFiles ⟨"r"⟩ .cn "furniture" Furniture.ofJson? = [] := by
    decide +kernel
  rw [plannedPictures, hstudents, hitems, hfurniture]
  rfl

/-- A remote with little to give, asked twice. -/
theorem run_again_scant :
    ∃ report report',
      (run .bySize scantRemote ⟨"r"⟩ ⟨[.cn], false⟩ noFiles ()).result = .ok report ∧
      (run .bySize scantRemote ⟨"r"⟩ ⟨[.cn], false⟩
        (run .bySize scantRemote ⟨"r"⟩ ⟨[.cn], false⟩ noFiles ()).files ()).result = .ok report' ∧
      (run .bySize scantRemote ⟨"r"⟩ ⟨[.cn], false⟩
        (run .bySize scantRemote ⟨"r"⟩ ⟨[.cn], false⟩ noFiles ()).files ()).files.Same
          (run .bySize scantRemote ⟨"r"⟩ ⟨[.cn], false⟩ noFiles ()).files ∧
      report'.failed = report.failed := by
  have hplanned : plannedPictures
      (Download.runAll .bySize scantRemote (dataPlan ⟨"r"⟩ [.cn]) noFiles ()).files ⟨"r"⟩ false =
        .ok (picturePlan ⟨"r"⟩ [] [] [] false) := by
    rw [scant_data_files]
    exact scant_planned
  have honce := run_of_planned ⟨[.cn], false⟩ rfl hplanned rfl
  have hreport := congrArg Transfer.result honce
  obtain ⟨-, report', -, -, htwice, hsame, hfailed, -⟩ := run_again .bySize scantRemote scantAnswer
    scantRemote_reply ⟨"r"⟩ ⟨[.cn], false⟩ noFiles () () isTree_noFiles scant_data_writable
    (fun pictures h => by
      obtain rfl := Except.ok.inj (hplanned.symm.trans h)
      rw [scant_data_files]
      exact fun d hd _ => scant_pictures_writable d hd) _ hreport
  exact ⟨_, report', hreport, htwice, hsame, hfailed⟩

end Sync
end DialogueSheet
