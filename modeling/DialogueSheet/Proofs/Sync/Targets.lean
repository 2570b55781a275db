/-
# Where downloads go

The targets of a plan differ (`nodup_targets_dataPlan`, `nodup_targets_picturePlan`), and all
lie equally deep below the root.  So no target is a directory on the way to another one
(`goalOf_notMem_parentsOf`): downloads of one plan share directories and nothing else.
-/
import DialogueSheet.Proofs.Files.Joined
import DialogueSheet.Sync.Transfer
import Mathlib.Data.List.Nodup

namespace DialogueSheet

/-! ### What can be written -/

/-- The directories of the target can be made, and then the target can be written. -/
def Download.Writable (files : Files) (d : Download) : Prop :=
  ∃ made, files.makeParents? d.target = some made ∧
    ∀ content, (made.write? d.target content).isSome = true

/-- Whether a target can be written does not depend on what is written. -/
theorem Download.writable_iff {files : Files} {d : Download} :
    d.Writable files ↔ (match files.makeParents? d.target with
      | none => false
      | some made =>
        match made.locate? d.target with
        | none => false
        | some goal => made.found? goal ≠ some .directory) = true := by
  have hcontent : Nonempty FileContent := ⟨.text ""⟩
  unfold Writable
  cases files.makeParents? d.target with
  | none => simp
  | some made =>
    cases hgoal : made.locate? d.target with
    | none => simp [Files.write?, hgoal]
    | some goal => by_cases hplace : made.found? goal = some .directory <;>
        simp [Files.write?, hgoal, hplace]

instance (files : Files) (d : Download) : Decidable (d.Writable files) :=
  decidable_of_iff _ Download.writable_iff.symm

/-- What it takes to write a target, said of the files before its directories are made. -/
structure Download.Ready (files : Files) (d : Download) : Prop where
  leads : files.Leads d.target
  fits : Files.ParentsFit d.target
  free : files.Free (files.parentsOf d.target)
  apart : files.goalOf d.target ∉ files.parentsOf d.target
  vacant : files.found? (files.goalOf d.target) ≠ some .directory

theorem Download.Ready.of_writable {files : Files} {d : Download} {last : String}
    (hparts : Files.pathParts d.target = Files.parentParts d.target ++ [last])
    (h : d.Writable files) : d.Ready files := by
  obtain ⟨made, hmade, hwrite⟩ := h
  obtain ⟨written, hwritten⟩ := Option.isSome_iff_exists.1 (hwrite (.text ""))
  obtain ⟨hfits, hfree, hopened⟩ := Files.of_makeParents? hmade
  have hleads : made.Leads d.target := by
    obtain ⟨goal, hgoal, -, -⟩ := Files.write?_eq_some_iff.1 hwritten
    exact .of_locate? hparts hgoal
  obtain ⟨-, hvacant, -⟩ := hleads.write?_eq_some_iff.1 hwritten
  rw [Files.goalOf_eq hopened.working, hopened.entry] at hvacant
  have hapart : files.goalOf d.target ∉ files.parentsOf d.target := fun hmem =>
    hvacant (if_pos hmem)
  rw [if_neg hapart] at hvacant
  exact ⟨hleads.of_working hopened.working.symm, hfits, hfree, hapart, hvacant⟩

namespace Sync

/-- The target lies in a directory, so many names below the root. -/
def KeptUnder (root : AssetRoot) (depth : Nat) (d : Download) : Prop :=
  ∃ names directory last, (∀ n ∈ names ++ [directory, last], IsPlain n) ∧
    names.length = depth ∧ d.target = under root.path (names ++ [directory, last])

namespace KeptUnder

variable {root : AssetRoot} {depth : Nat} {files : Files} {d e : Download}

theorem ready (h : KeptUnder root depth d) (hwritable : d.Writable files) : d.Ready files := by
  obtain ⟨names, directory, last, hplain, -, htarget⟩ := h
  have hparts : Files.pathParts d.target = Files.parentParts d.target ++ [last] := by
    rw [htarget, Files.pathParts_under (by simp) hplain, Files.parentParts_under hplain]
    simp
  exact .of_writable hparts hwritable

/-- The way to a target: that of the root, and then no further than to its directory. -/
theorem mem_parentsOf (h : KeptUnder root depth d) (hleads : files.Leads d.target) {l : Location}
    (hl : l ∈ files.parentsOf d.target) :
    l ∈ files.wayOf root.path ∨ l.length < (files.goalOf d.target).length := by
  obtain ⟨names, directory, last, hplain, -, htarget⟩ := h
  rw [htarget] at hleads hl ⊢
  obtain ⟨hparents, hgoal⟩ := Files.under_spec hplain hleads
  rw [hparents] at hl
  rcases List.mem_append.1 hl with hl | hl
  · exact .inl hl
  · obtain ⟨taken, htaken, -, rfl⟩ := Files.mem_down hl
    have hlength := htaken.length_le
    rw [hgoal]
    simp only [List.length_append, List.length_cons, List.length_nil] at hlength ⊢
    omega

theorem wayOf_subset (h : KeptUnder root depth d) (hleads : files.Leads d.target) :
    files.wayOf root.path ⊆ files.parentsOf d.target := by
  obtain ⟨names, directory, last, hplain, -, htarget⟩ := h
  rw [htarget] at hleads ⊢
  rw [(Files.under_spec hplain hleads).1]
  exact List.subset_append_left ..

theorem length_goalOf (h : KeptUnder root depth d) (hleads : files.Leads d.target) :
    (files.goalOf d.target).length = (files.baseOf root.path).length + depth + 2 := by
  obtain ⟨names, directory, last, hplain, hdepth, htarget⟩ := h
  rw [htarget] at hleads ⊢
  rw [(Files.under_spec hplain hleads).2]
  simp only [List.length_append, List.length_cons, List.length_nil, hdepth]
  omega

/-- No target stands in the way of one that lies as deep. -/
theorem goalOf_notMem_parentsOf (hd : KeptUnder root depth d) (he : KeptUnder root depth e)
    (hdleads : files.Leads d.target) (heleads : files.Leads e.target)
    (hway : files.goalOf d.target ∉ files.wayOf root.path) :
    files.goalOf d.target ∉ files.parentsOf e.target := by
  intro hmem
  rcases he.mem_parentsOf heleads hmem with hmem | hlt
  · exact hway hmem
  · rw [hd.length_goalOf hdleads, he.length_goalOf heleads] at hlt
    omega

/-- Targets that lie as deep are the same when they lie at the same location. -/
theorem target_eq (hd : KeptUnder root depth d) (he : KeptUnder root depth e)
    (hdleads : files.Leads d.target) (heleads : files.Leads e.target)
    (h : files.goalOf d.target = files.goalOf e.target) : d.target = e.target := by
  obtain ⟨names, directory, last, hplain, -, htarget⟩ := hd
  obtain ⟨names', directory', last', hplain', -, htarget'⟩ := he
  rw [htarget] at hdleads h ⊢
  rw [htarget'] at heleads h ⊢
  rw [(Files.under_spec hplain hdleads).2, (Files.under_spec hplain' heleads).2] at h
  rw [List.append_cancel_left h]

/-- In a tree in which the way of the root stands, a target is there when its location is. -/
theorem exists?_iff (h : KeptUnder root 0 d) (htree : files.IsTree)
    (hway : ∀ l ∈ files.wayOf root.path, files.found? l = some .directory) :
    files.exists? d.target = true ↔
      files.Leads d.target ∧ (files.found? (files.goalOf d.target)).isSome = true := by
  obtain ⟨names, directory, last, hplain, hdepth, htarget⟩ := h
  obtain rfl := List.length_eq_zero_iff.1 hdepth
  rw [htarget]
  constructor
  · intro hexists
    obtain ⟨goal, hgoal⟩ := Files.exists_locate? hexists
    have hparts : Files.pathParts (under root.path ([] ++ [directory, last])) =
        Files.parentParts (under root.path ([] ++ [directory, last])) ++ [last] := by
      rw [Files.pathParts_under (by simp) hplain, Files.parentParts_under hplain]
      simp
    have hleads := Files.Leads.of_locate? hparts hgoal
    obtain ⟨-, hall⟩ := hleads.locate?_eq_some_iff.1 hgoal
    refine ⟨hleads, ?_⟩
    rw [hleads.exists?_eq hall] at hexists
    exact hexists
  · rintro ⟨hleads, hentry⟩
    obtain ⟨hparents, hgoal⟩ := Files.under_spec hplain hleads
    have hall : ∀ l ∈ files.startOf (under root.path ([] ++ [directory, last])) ::
        files.parentsOf (under root.path ([] ++ [directory, last])),
        files.found? l = some .directory := by
      intro l hl
      rcases List.mem_cons.1 hl with rfl | hl
      · exact htree.startOf _
      rw [hparents] at hl
      rcases List.mem_append.1 hl with hl | hl
      · exact hway l hl
      · -- the directory of the target stands above it
        obtain rfl := List.mem_singleton.1 hl
        obtain ⟨e, he⟩ := Option.isSome_iff_exists.1 hentry
        have habove := htree.above _ e he
        rw [hgoal] at habove
        have hdrop : (files.baseOf root.path ++ ([] ++ [directory, last])).dropLast =
            files.baseOf root.path ++ [directory] := by
          rw [List.nil_append, List.append_cons, List.dropLast_concat]
        rwa [hdrop] at habove
    rw [hleads.exists?_eq hall]
    exact hentry

end KeptUnder

/-! ### The plan of the data files -/

theorem isPlain_code (language : Language) : IsPlain language.code := by
  cases language <;> decide +kernel

theorem code_injective : Function.Injective Language.code := by
  have hfound : ∀ l : Language, Language.all.find? (·.code = l.code) = some l := by
    intro l
    cases l <;> decide +kernel
  intro l l' h
  have hl := hfound l
  rw [h, hfound l'] at hl
  exact (Option.some.inj hl).symm

theorem isPlain_file : ∀ file ∈ dataFiles, IsPlain (file ++ ".json") := by decide +kernel

theorem cn_mem_neededLanguages (languages : List Language) : .cn ∈ neededLanguages languages := by
  rw [neededLanguages, List.mem_eraseDups]
  exact List.mem_cons_self

theorem mem_dataPlan {root : AssetRoot} {languages : List Language} {d : Download} :
    d ∈ dataPlan root languages ↔
      ∃ language ∈ neededLanguages languages, ∃ file ∈ dataFiles,
        d = dataDownload root language file := by
  simp [dataPlan, eq_comm]

theorem keptUnder_dataDownload (root : AssetRoot) (language : Language) {file : String}
    (hfile : file ∈ dataFiles) : KeptUnder root 1 (dataDownload root language file) := by
  refine ⟨["data"], language.code, file ++ ".json", fun n hn => ?_, rfl, rfl⟩
  simp only [List.cons_append, List.nil_append, List.mem_cons, List.not_mem_nil, or_false] at hn
  rcases hn with rfl | rfl | rfl
  · decide +kernel
  · exact isPlain_code language
  · exact isPlain_file file hfile

theorem keptUnder_of_mem_dataPlan {root : AssetRoot} {languages : List Language} {d : Download}
    (h : d ∈ dataPlan root languages) : KeptUnder root 1 d := by
  obtain ⟨language, -, file, hfile, rfl⟩ := mem_dataPlan.1 h
  exact keptUnder_dataDownload root language hfile

theorem force_of_mem_dataPlan {root : AssetRoot} {languages : List Language} {d : Download}
    (h : d ∈ dataPlan root languages) : d.force = true := by
  obtain ⟨language, -, file, -, rfl⟩ := mem_dataPlan.1 h
  rfl

theorem dataFile_injective {root : AssetRoot} {l l' : Language} {file file' : String}
    (hfile : file ∈ dataFiles) (hfile' : file' ∈ dataFiles)
    (h : root.dataFile l file = root.dataFile l' file') : l = l' ∧ file = file' := by
  have hplain : ∀ (l : Language) (file : String), file ∈ dataFiles →
      ∀ n ∈ ["data", l.code, file ++ ".json"], IsPlain n := by
    intro l file hfile n hn
    simp only [List.mem_cons, List.not_mem_nil, or_false] at hn
    rcases hn with rfl | rfl | rfl
    · decide +kernel
    · exact isPlain_code l
    · exact isPlain_file file hfile
  have hparts := congrArg Files.pathParts
    (show under root.path ["data", l.code, file ++ ".json"] =
      under root.path ["data", l'.code, file' ++ ".json"] from h)
  rw [Files.pathParts_under (by simp) (hplain l file hfile),
    Files.pathParts_under (by simp) (hplain l' file' hfile')] at hparts
  have hnames := List.append_cancel_left hparts
  simp only [List.cons.injEq, true_and, and_true] at hnames
  exact ⟨code_injective hnames.1, String.append_left_inj _ |>.1 hnames.2⟩

theorem nodup_eraseDups {α : Type} [DecidableEq α] (l : List α) : l.eraseDups.Nodup := by
  induction hn : l.length using Nat.strongRecOn generalizing l with
  | _ n ih =>
    cases l with
    | nil => simp
    | cons a rest =>
      rw [List.eraseDups_cons, List.nodup_cons]
      refine ⟨?_, ih _ ?_ _ rfl⟩
      · simp [List.mem_eraseDups]
      · have hle := List.length_filter_le (fun b => !b == a) rest
        rw [List.length_cons] at hn
        omega

/-- **No two data files have one target.** -/
theorem nodup_targets_dataPlan (root : AssetRoot) (languages : List Language) :
    ((dataPlan root languages).map Download.target).Nodup := by
  have htargets : (dataPlan root languages).map Download.target =
      (neededLanguages languages).flatMap fun l => dataFiles.map (root.dataFile l) := by
    simp [dataPlan, List.map_flatMap, Function.comp_def, dataDownload]
  have hfiles : dataFiles.Nodup := by decide +kernel
  rw [htargets, List.nodup_flatMap]
  refine ⟨fun l _ => hfiles.map_on fun file hfile file' hfile' h =>
    (dataFile_injective hfile hfile' h).2, ?_⟩
  refine (nodup_eraseDups _).pairwise_of_forall_ne fun l _ l' _ hne => ?_
  intro target htarget htarget'
  obtain ⟨file, hfile, rfl⟩ := List.mem_map.1 htarget
  obtain ⟨file', hfile', h⟩ := List.mem_map.1 htarget'
  exact hne (dataFile_injective hfile hfile' h.symm).1

/-! ### The plan of the pictures -/

theorem freshTargets_spec (taken : List String) (downloads : List Download) :
    (freshTargets taken downloads).Sublist downloads ∧
      ((freshTargets taken downloads).map Download.target).Nodup ∧
      ∀ d ∈ freshTargets taken downloads, d.target ∉ taken := by
  induction downloads generalizing taken with
  | nil => simp [freshTargets]
  | cons d rest ih =>
    rw [freshTargets]
    split
    · obtain ⟨hsub, hnodup, hfresh⟩ := ih taken
      exact ⟨hsub.cons d, hnodup, hfresh⟩
    · rename_i htaken
      obtain ⟨hsub, hnodup, hfresh⟩ := ih (d.target :: taken)
      refine ⟨hsub.cons_cons d, ?_, List.forall_mem_cons.2 ⟨by simpa using htaken, fun e he => ?_⟩⟩
      · rw [List.map_cons, List.nodup_cons]
        refine ⟨fun hmem => ?_, hnodup⟩
        obtain ⟨e, he, heq⟩ := List.mem_map.1 hmem
        exact hfresh e he (heq ▸ List.mem_cons_self)
      · exact fun hmem => hfresh e he (List.mem_cons_of_mem _ hmem)

/-- **No two pictures have one target.** -/
theorem nodup_targets_picturePlan (root : AssetRoot) (students : List Student)
    (items : List Item) (furniture : List Furniture) (force : Bool) :
    ((picturePlan root students items furniture force).map Download.target).Nodup :=
  (freshTargets_spec [] _).2.1

theorem isPlain_directory (kind : AssetKind) : IsPlain kind.directory := by
  cases kind <;> decide +kernel

/-- A name that can become an asset stays in its directory. -/
theorem isPlain_png {name : String} (h : nameFault? name = none) : IsPlain (name ++ ".png") := by
  have hslash : '/' ∉ name.toList := by
    intro hmem
    unfold nameFault? at h
    simp only [List.contains_eq_mem, hmem, decide_true, Bool.or_true, Bool.true_or, if_true] at h
    split at h <;> cases h
  have hlength : 4 ≤ (name ++ ".png").toList.length := by
    rw [String.toList_append, List.length_append]
    exact Nat.le_add_left ..
  have hshort : ∀ short : String, short.toList.length < 4 → name ++ ".png" ≠ short := by
    rintro short hlt rfl
    omega
  refine ⟨hshort "" (by decide), hshort "." (by decide), hshort ".." (by decide), ?_⟩
  rw [String.toList_append, List.mem_append]
  rintro (hmem | hmem)
  · exact hslash hmem
  · exact absurd hmem (by decide)

theorem of_mem_picturePlan {root : AssetRoot} {students : List Student} {items : List Item}
    {furniture : List Furniture} {force : Bool} {d : Download}
    (h : d ∈ picturePlan root students items furniture force) :
    KeptUnder root 0 d ∧ d.force = force := by
  have hmem := (freshTargets_spec [] _).1.subset h
  obtain ⟨p, -, hp⟩ := List.mem_filterMap.1 hmem
  unfold pictureDownload? AssetRoot.assetPath at hp
  cases hname : nameFault? p.name with
  | some fault => simp [hname] at hp
  | none =>
    rw [hname] at hp
    obtain rfl := Option.some.inj hp
    refine ⟨⟨[], p.kind.directory, p.name ++ ".png", fun n hn => ?_, rfl, rfl⟩, rfl⟩
    simp only [List.nil_append, List.mem_cons, List.not_mem_nil, or_false] at hn
    rcases hn with rfl | rfl
    · exact isPlain_directory p.kind
    · exact isPlain_png hname

end Sync
end DialogueSheet
