/-
# The paths of assets

| name | path of the asset |
| --- | --- |
| blank | none: the name is refused |
| with `..`, a slash, a backslash or a null character | none: the name is refused |
| any other | the root, the directory of the kind, and the name with `.png` |

A name is joined behind a directory, so it could lead anywhere but for its slashes: a name that
starts with one would stand alone, and `..` would go up again.  A name that is accepted makes one
component with its `.png`, whatever else it holds (`pathComponents_joinPath`), so the file lies in
the directory of its kind and nowhere else, and two accepted requests of one path are the same
(`assetPath_spec`).
-/
import DialogueSheet.Proofs.Sync.Covering

namespace DialogueSheet

/-! ### Joined paths -/

namespace Files

/-- The parts of a path that is not empty: those that stay when a name is joined to it, and an
empty one at most. -/
theorem pathParts_eq_leadParts {base : String} (h : base ≠ "") :
    leadParts base ≠ [] ∧ ∃ rest, (rest = [] ∨ rest = [""]) ∧
      pathParts base = leadParts base ++ rest := by
  have hne : pathParts base ≠ [] := by
    simpa [pathParts] using Text.cutAt_ne_nil '/' base.toList
  by_cases hlast : base.toList.getLast? = some '/'
  · obtain ⟨init, hinit⟩ : ∃ init, base.toList = init ++ ['/'] :=
      ⟨_, (List.dropLast_append_getLast? _ hlast).symm⟩
    have hparts : pathParts base = (Text.cutAt '/' init).map String.ofList ++ [""] := by
      rw [pathParts, hinit, cutAt_append_cons]
      simp [Text.cutAt]
    have hlead : leadParts base = (Text.cutAt '/' init).map String.ofList := by
      rw [leadParts, if_neg h, if_pos hlast, hparts, List.dropLast_concat]
    rw [hlead]
    exact ⟨by simpa using Text.cutAt_ne_nil '/' init, [""], .inr rfl, hparts⟩
  · have hlead : leadParts base = pathParts base := by rw [leadParts, if_neg h, if_neg hlast]
    rw [hlead]
    exact ⟨hne, [], .inl rfl, (List.append_nil _).symm⟩

/-- A path with one part more leads one step further, from a directory. -/
theorem follow?_concat_eq_some_iff {files : Files} {location goal : Location}
    {parts : List String} {last : String} :
    files.follow? location (parts ++ [last]) = some goal ↔
      ∃ directory, files.follow? location parts = some directory ∧
        files.found? directory = some .directory ∧ step? directory last = some goal := by
  induction parts generalizing location with
  | nil =>
    simp only [List.nil_append, follow?, Option.some.injEq, exists_eq_left']
    split
    · rename_i hdirectory
      cases step? location last <;> simp [hdirectory]
    · rename_i hdirectory
      simp [hdirectory]
  | cons part rest ih =>
    simp only [List.cons_append, follow?]
    split
    · cases step? location part with
      | none => simp
      | some next => exact ih
    · simp

end Files

/-- A joined path ends in what is joined. -/
theorem exists_joinPath_eq_append (base : String) {name : String} (h : IsPlain name) :
    ∃ front, joinPath base name = front ++ name := by
  rcases Files.joinPath_cases base h with ⟨-, hjoin⟩ | ⟨-, -, hjoin⟩ | ⟨-, -, hjoin⟩
  · exact ⟨"", by rw [hjoin, String.empty_append]⟩
  · exact ⟨base, hjoin⟩
  · exact ⟨base ++ "/", hjoin⟩

theorem joinPath_ne_empty (base : String) {name : String} (h : IsPlain name) :
    joinPath base name ≠ "" := by
  obtain ⟨front, hfront⟩ := exists_joinPath_eq_append base h
  intro hempty
  have hchars := congrArg String.toList (hfront.symm.trans hempty)
  rw [String.toList_append] at hchars
  exact h.ne_empty (String.toList_eq_nil_iff.1 (List.append_eq_nil_iff.1 hchars).2)

/-- A slash comes between a directory that a path names and what is joined to it. -/
theorem joinPath_joinPath (base : String) {directory name : String} (hdirectory : IsPlain directory)
    (hname : IsPlain name) :
    joinPath (joinPath base directory) name = joinPath base directory ++ "/" ++ name := by
  have hlast : (joinPath base directory).toList.getLast? ≠ some '/' := by
    obtain ⟨front, hfront⟩ := exists_joinPath_eq_append base hdirectory
    rw [hfront]
    exact Files.getLast?_toList_append front hdirectory
  rcases Files.joinPath_cases (joinPath base directory) hname with ⟨h, -⟩ | ⟨-, h, -⟩ | ⟨-, -, h⟩
  · exact absurd h (joinPath_ne_empty base hdirectory)
  · exact absurd h hlast
  · exact h

theorem PathComponent.ofPart?_of_plain {name : String} (h : IsPlain name) :
    PathComponent.ofPart? name = some (.name name) := by
  simp [PathComponent.ofPart?, h.ne_empty, h.ne_dot, h.ne_dots]

/-- **A plain name that is joined to a path is one component behind those of the path.** -/
theorem pathComponents_joinPath (base : String) {name : String} (h : IsPlain name) :
    pathComponents (joinPath base name) = pathComponents base ++ [.name name] := by
  have hparts := Files.pathParts_joinPath base h
  have hpart := PathComponent.ofPart?_of_plain h
  by_cases hbase : base = ""
  · subst hbase
    have hjoin : joinPath "" name = name := by simp [joinPath]
    have hhead := Files.head?_ne_slash h
    have hempty : pathComponents "" = [] := by decide +kernel
    rw [hjoin] at hparts ⊢
    rw [hempty]
    simp [pathComponents, hparts, Files.leadParts, hhead, h.ne_dot, hpart]
  · -- the path and the joined one start with the same parts
    obtain ⟨hlead, rest, hrest, hbaseParts⟩ := Files.pathParts_eq_leadParts hbase
    obtain ⟨first, later, hcons⟩ := List.exists_cons_of_ne_nil hlead
    have hhead : (joinPath base name).toList.head? = base.toList.head? := by
      obtain ⟨c, tail, hchars⟩ := List.exists_cons_of_ne_nil (mt String.toList_eq_nil_iff.1 hbase)
      rcases Files.joinPath_cases base h with ⟨h, -⟩ | ⟨-, -, h⟩ | ⟨-, -, h⟩
      · exact absurd h hbase
      all_goals simp [h, hchars]
    have hfirst : (Files.leadParts base ++ [name]).head? = (Files.pathParts base).head? := by
      rw [hbaseParts, hcons]
      rfl
    have hkept : (Files.pathParts base).filterMap PathComponent.ofPart? =
        (Files.leadParts base).filterMap PathComponent.ofPart? := by
      rw [hbaseParts, List.filterMap_append]
      rcases hrest with rfl | rfl
      · exact List.append_nil _
      · exact List.append_nil _
    unfold pathComponents
    dsimp only
    rw [hparts, hfirst, hhead, hkept, List.filterMap_append, List.append_assoc]
    simp [hpart]

/-! ### Refused names -/

/-- A name has nothing but blanks. -/
def IsBlankName (name : String) : Prop := ∀ c ∈ name.toList, Text.isBlank c = true

/-- A name could lead out of a directory. -/
def Strays (name : String) : Prop :=
  ['.', '.'] <:+: name.toList ∨ '/' ∈ name.toList ∨ '\\' ∈ name.toList ∨ '\x00' ∈ name.toList

theorem allBlank_iff {name : String} : Text.allBlank name = true ↔ IsBlankName name :=
  List.all_eq_true

theorem strays_iff {name : String} :
    (Text.occursIn ['.', '.'] name.toList || name.toList.contains '/' ||
      name.toList.contains '\\' || name.toList.contains '\x00') = true ↔ Strays name := by
  simp only [Bool.or_eq_true, Text.occursIn_iff, List.contains_iff_mem, Strays, or_assoc]

instance (name : String) : Decidable (IsBlankName name) := decidable_of_iff _ allBlank_iff

instance (name : String) : Decidable (Strays name) := decidable_of_iff _ strays_iff

theorem nameFault?_cases (name : String) :
    IsBlankName name ∧ nameFault? name = some .blank ∨
      ¬IsBlankName name ∧ Strays name ∧ nameFault? name = some .traversal ∨
      ¬IsBlankName name ∧ ¬Strays name ∧ nameFault? name = none := by
  rw [← allBlank_iff, ← strays_iff]
  unfold nameFault?
  dsimp only
  split
  · rename_i h
    exact .inl ⟨h, rfl⟩
  · rename_i h
    split
    · rename_i h'
      exact .inr (.inl ⟨h, h', rfl⟩)
    · rename_i h'
      exact .inr (.inr ⟨h, h', rfl⟩)

/-! ### Accepted names -/

/-- The components of the path above a path: all but the last, if the last is not the top. -/
def parentComponents? (path : String) : Option (List PathComponent) :=
  match (pathComponents path).getLast? with
  | none | some .top => none
  | some _ => some (pathComponents path).dropLast

namespace AssetRoot

/-- A path is that of an asset in the directory of its kind. -/
structure Keeps (root : AssetRoot) (kind : AssetKind) (name path : String) : Prop where
  text : path = root.directory kind ++ "/" ++ (name ++ ".png")
  /-- The name with its ending is one component behind the directory. -/
  components : pathComponents path =
    pathComponents root.path ++ [.name kind.directory, .name (name ++ ".png")]
  /-- The path above is that of the directory. -/
  parent : parentComponents? path = some (pathComponents (root.directory kind))
  /-- The directory is also what is made for the file. -/
  made : Files.parentParts path = Files.pathParts (root.directory kind)
  /-- Wherever the path leads, the file lies in the directory that the path above leads to. -/
  location : ∀ (files : Files) (location : Location), files.locate? path = some location →
    ∃ directory, files.locate? (root.directory kind) = some directory ∧
      files.found? directory = some .directory ∧ location = directory ++ [name ++ ".png"]

theorem isPlain_parts (kind : AssetKind) {name : String} (h : nameFault? name = none) :
    ∀ n ∈ [kind.directory, name ++ ".png"], IsPlain n :=
  List.forall_mem_cons.2 ⟨Sync.isPlain_directory kind,
    List.forall_mem_singleton.2 (Sync.isPlain_png h)⟩

theorem keeps_of_accepted (root : AssetRoot) (kind : AssetKind) {name : String}
    (h : nameFault? name = none) :
    root.Keeps kind name (joinPath (root.directory kind) (name ++ ".png")) := by
  have hdirectory := Sync.isPlain_directory kind
  have hfile := Sync.isPlain_png h
  have habove : pathComponents (root.directory kind) =
      pathComponents root.path ++ [.name kind.directory] := pathComponents_joinPath _ hdirectory
  have hcomponents : pathComponents (joinPath (root.directory kind) (name ++ ".png")) =
      pathComponents (root.directory kind) ++ [.name (name ++ ".png")] :=
    pathComponents_joinPath _ hfile
  have hparts : Files.pathParts (joinPath (root.directory kind) (name ++ ".png")) =
      Files.pathParts (root.directory kind) ++ [name ++ ".png"] := by
    rw [Files.pathParts_joinPath _ hfile, directory, Files.leadParts_joinPath _ hdirectory]
  have htext := joinPath_joinPath root.path hdirectory hfile
  constructor
  case text => exact htext
  case components => rw [hcomponents, habove, List.append_assoc]; rfl
  case parent => simp [parentComponents?, hcomponents]
  case made =>
    have hmade : Files.parentParts (under root.path ([] ++ [kind.directory, name ++ ".png"])) =
        Files.leadParts root.path ++ ([] ++ [kind.directory]) :=
      Files.parentParts_under (isPlain_parts kind h)
    have hlead : Files.pathParts (root.directory kind) =
        Files.leadParts root.path ++ [kind.directory] := Files.pathParts_joinPath _ hdirectory
    rw [hlead]
    exact hmade
  case location =>
    intro files location hlocation
    have hstart : files.startOf (joinPath (root.directory kind) (name ++ ".png")) =
        files.startOf (root.directory kind) := Files.startOf_joinPath _ hfile
    unfold Files.locate? at hlocation ⊢
    split at hlocation
    · cases hlocation
    · rename_i hfits
      have hshort : ¬(root.directory kind = "" ∨
          Files.maxPathBytes < (root.directory kind).utf8ByteSize) := by
        rintro (hempty | hlong)
        · exact joinPath_ne_empty root.path hdirectory hempty
        · refine hfits (.inr ?_)
          rw [directory] at hlong ⊢
          rw [htext, String.utf8ByteSize_append, String.utf8ByteSize_append]
          omega
      rw [hstart, hparts, Files.follow?_concat_eq_some_iff] at hlocation
      obtain ⟨above, habove, hstands, hstep⟩ := hlocation
      rw [if_neg hshort]
      exact ⟨above, habove, hstands, Files.step?_of_plain hfile hstep⟩

/-- Accepted names whose paths have the same components are the same name of the same kind. -/
theorem eq_of_pathComponents_eq {root : AssetRoot} {kind kind' : AssetKind}
    {name name' path path' : String} (h : root.assetPath kind name = .ok path)
    (h' : root.assetPath kind' name' = .ok path')
    (hsame : pathComponents path' = pathComponents path) : kind' = kind ∧ name' = name := by
  obtain ⟨hfault, rfl⟩ := assetPath_eq_ok_iff.1 h
  obtain ⟨hfault', rfl⟩ := assetPath_eq_ok_iff.1 h'
  have hkeeps := keeps_of_accepted root kind hfault
  have hkeeps' := keeps_of_accepted root kind' hfault'
  have hnames := hkeeps'.components.symm.trans (hsame.trans hkeeps.components)
  have hnames := List.append_cancel_left hnames
  simp only [List.cons.injEq, PathComponent.name.injEq, and_true] at hnames
  exact ⟨directory_injective hnames.1, String.append_left_inj _ |>.1 hnames.2⟩

/-- **An accepted name stays in the directory of its kind.**  A name that is blank or could lead
out of a directory is refused, before any path is made and any file is looked at. -/
theorem assetPath_spec (root : AssetRoot) (kind : AssetKind) (name : String) :
    (IsBlankName name → root.assetPath kind name = .error .blank) ∧
    (¬IsBlankName name → Strays name → root.assetPath kind name = .error .traversal) ∧
    (IsBlankName name ∨ Strays name →
      ∀ (α : Type) (decoded? : String → Option α) (cache : Cache α),
        cache.get decoded? root kind name = (cache, none)) ∧
    (¬IsBlankName name → ¬Strays name →
      ∃ path, root.assetPath kind name = .ok path ∧ root.Keeps kind name path ∧
        ∀ kind' name' path', root.assetPath kind' name' = .ok path' →
          pathComponents path' = pathComponents path → kind' = kind ∧ name' = name) := by
  have hrefused : ∀ fault, nameFault? name = some fault →
      root.assetPath kind name = .error fault := by
    intro fault hfault
    simp [assetPath, hfault]
  have hget : ∀ fault, root.assetPath kind name = .error fault →
      ∀ (α : Type) (decoded? : String → Option α) (cache : Cache α),
        cache.get decoded? root kind name = (cache, none) := by
    intro fault hfault α decoded? cache
    simp [Cache.get, hfault]
  rcases nameFault?_cases name with ⟨hblank, hfault⟩ | ⟨hblank, hstrays, hfault⟩ |
    ⟨hblank, hstrays, hfault⟩
  · exact ⟨fun _ => hrefused _ hfault, fun hnot => absurd hblank hnot,
      fun _ => hget _ (hrefused _ hfault), fun hnot => absurd hblank hnot⟩
  · exact ⟨fun h => absurd h hblank, fun _ _ => hrefused _ hfault,
      fun _ => hget _ (hrefused _ hfault), fun _ hnot => absurd hstrays hnot⟩
  · refine ⟨fun h => absurd h hblank, fun _ h => absurd h hstrays,
      fun h => (h.elim hblank hstrays).elim, fun _ _ => ?_⟩
    have hpath : root.assetPath kind name =
        .ok (joinPath (root.directory kind) (name ++ ".png")) := by
      simp [assetPath, hfault]
    exact ⟨_, hpath, keeps_of_accepted root kind hfault, fun _ _ _ hpath' hsame =>
      eq_of_pathComponents_eq hpath hpath' hsame⟩

/-- A name of blanks, dots and a drive is accepted below a root with slashes and dots in it. -/
theorem assetPath_spec_of_drive :
    let root : AssetRoot := ⟨"./srv//../a/"⟩
    let name := " .c:.水 "
    ¬IsBlankName name ∧ ¬Strays name ∧ Strays "..\\x" ∧ IsBlankName "\u3000" ∧
      root.assetPath .icon name = .ok "./srv//../a/icons/ .c:.水 .png" ∧
      pathComponents "./srv//../a/icons/ .c:.水 .png" =
        [.here, .name "srv", .up, .name "a", .name "icons", .name " .c:.水 .png"] ∧
      root.assetPath .icon "..\\x" = .error .traversal ∧
      root.assetPath .icon "\u3000" = .error .blank := by
  intro root name
  have hblank : ¬IsBlankName name := by decide +kernel
  have hstrays : ¬Strays name := by decide +kernel
  have hdots : Strays "..\\x" := by decide +kernel
  have hdotsBlank : ¬IsBlankName "..\\x" := by decide +kernel
  have hspace : IsBlankName "\u3000" := by decide +kernel
  obtain ⟨-, -, -, haccepted⟩ := assetPath_spec root .icon name
  obtain ⟨path, hpath, hkeeps, -⟩ := haccepted hblank hstrays
  have htext : path = "./srv//../a/icons/ .c:.水 .png" := by
    rw [hkeeps.text]
    decide +kernel
  refine ⟨hblank, hstrays, hdots, hspace, htext ▸ hpath, ?_,
    (assetPath_spec root .icon "..\\x").2.1 hdotsBlank hdots,
    (assetPath_spec root .icon "\u3000").1 hspace⟩
  rw [← htext, hkeeps.components]
  decide +kernel

end AssetRoot
end DialogueSheet
