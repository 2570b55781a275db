/-
# Paths under a root

A path that is joined from a root and plain names has the parts of the root and then these
names (`pathParts_under`).  It leads along the way of the root to its base and from there
straight down (`under_spec`), so two such paths of as many names never stand in each other's
way.
-/
import DialogueSheet.Proofs.Files.Walking

namespace DialogueSheet

/-- A name that is one part of a path and leads down. -/
structure IsPlain (name : String) : Prop where
  ne_empty : name ≠ ""
  ne_dot : name ≠ "."
  ne_dots : name ≠ ".."
  no_slash : '/' ∉ name.toList

instance (name : String) : Decidable (IsPlain name) :=
  decidable_of_iff (name ≠ "" ∧ name ≠ "." ∧ name ≠ ".." ∧ '/' ∉ name.toList)
    ⟨fun h => ⟨h.1, h.2.1, h.2.2.1, h.2.2.2⟩, fun h => ⟨h.1, h.2, h.3, h.4⟩⟩

/-- The path of names below a base, one in the other. -/
def under (base : String) (names : List String) : String := names.foldl joinPath base

namespace Files

variable {files : Files}

/-! ### Parts -/

theorem cutAt_of_notMem {mark : Char} {s : List Char} (h : mark ∉ s) :
    Text.cutAt mark s = [s] := by
  induction s with
  | nil => rfl
  | cons c rest ih =>
    obtain ⟨hc, hrest⟩ := List.ne_and_not_mem_of_not_mem_cons h
    rw [Text.cutAt, if_neg (Ne.symm hc), ih hrest]

theorem cutAt_append_cons {mark : Char} (first second : List Char) :
    Text.cutAt mark (first ++ mark :: second) =
      Text.cutAt mark first ++ Text.cutAt mark second := by
  induction first with
  | nil => simp [Text.cutAt]
  | cons c rest ih =>
    rw [List.cons_append, Text.cutAt, Text.cutAt, ih]
    by_cases hc : c = mark
    · simp [hc]
    · obtain ⟨piece, pieces, hcons⟩ := List.exists_cons_of_ne_nil (Text.cutAt_ne_nil mark rest)
      simp [hc, hcons]

/-- The parts of a path that stay when a name is joined to it. -/
def leadParts (base : String) : List String :=
  if base = "" then []
  else if base.toList.getLast? = some '/' then (pathParts base).dropLast
  else pathParts base

theorem pathParts_of_plain {name : String} (h : IsPlain name) : pathParts name = [name] := by
  simp [pathParts, cutAt_of_notMem h.no_slash]

theorem pathParts_append_slash (base : String) {name : String} (h : IsPlain name) :
    pathParts (base ++ "/" ++ name) = pathParts base ++ [name] := by
  have hchars : (base ++ "/" ++ name).toList = base.toList ++ '/' :: name.toList := by simp
  rw [pathParts, hchars, cutAt_append_cons, cutAt_of_notMem h.no_slash]
  simp [pathParts]

theorem getLast?_toList_append (base : String) {name : String} (h : IsPlain name) :
    (base ++ name).toList.getLast? ≠ some '/' := by
  rw [String.toList_append, List.getLast?_append]
  cases hlast : name.toList.getLast? with
  | none =>
    have hempty : name.toList = [] := List.getLast?_eq_none_iff.1 hlast
    exact absurd (String.toList_eq_nil_iff.1 hempty) h.ne_empty
  | some c =>
    intro hslash
    have hmem : c ∈ name.toList := List.mem_of_getLast? hlast
    rw [Option.some_or] at hslash
    rw [Option.some.inj hslash] at hmem
    exact h.no_slash hmem

theorem head?_ne_slash {name : String} (h : IsPlain name) : name.toList.head? ≠ some '/' :=
  fun hhead => h.no_slash (List.mem_of_head? hhead)

/-- The forms that a joined path can have. -/
theorem joinPath_cases (base : String) {name : String} (h : IsPlain name) :
    base = "" ∧ joinPath base name = name ∨
      base ≠ "" ∧ base.toList.getLast? = some '/' ∧ joinPath base name = base ++ name ∨
      base ≠ "" ∧ base.toList.getLast? ≠ some '/' ∧ joinPath base name = base ++ "/" ++ name := by
  have hhead := head?_ne_slash h
  by_cases hbase : base = ""
  · exact .inl ⟨hbase, by simp [joinPath, hbase]⟩
  by_cases hlast : base.toList.getLast? = some '/'
  · exact .inr (.inl ⟨hbase, hlast, by simp [joinPath, hhead, hbase, hlast]⟩)
  · exact .inr (.inr ⟨hbase, hlast, by simp [joinPath, hhead, hbase, hlast]⟩)

theorem pathParts_joinPath (base : String) {name : String} (h : IsPlain name) :
    pathParts (joinPath base name) = leadParts base ++ [name] := by
  rcases joinPath_cases base h with ⟨rfl, hjoin⟩ | ⟨hbase, hlast, hjoin⟩ | ⟨hbase, hlast, hjoin⟩
  · rw [hjoin, pathParts_of_plain h]
    rfl
  · -- the base is some path with a slash behind it
    obtain ⟨init, hinit⟩ : ∃ init, base.toList = init ++ ['/'] :=
      ⟨_, (List.dropLast_append_getLast? _ hlast).symm⟩
    have hchars : (base ++ name).toList = init ++ '/' :: name.toList := by
      simp [hinit]
    rw [hjoin, leadParts, if_neg hbase, if_pos hlast, pathParts, hchars, cutAt_append_cons,
      cutAt_of_notMem h.no_slash, pathParts, hinit, cutAt_append_cons]
    simp [Text.cutAt]
  · rw [hjoin, pathParts_append_slash base h, leadParts, if_neg hbase, if_neg hlast]

theorem leadParts_joinPath (base : String) {name : String} (h : IsPlain name) :
    leadParts (joinPath base name) = pathParts (joinPath base name) := by
  have hne : ∀ first : String, first ++ name ≠ "" := by
    intro first hempty
    have hname := congrArg String.toList hempty
    rw [String.toList_append] at hname
    have hnil := (List.append_eq_nil_iff.1 hname).2
    exact h.ne_empty (String.toList_eq_nil_iff.1 hnil)
  rcases joinPath_cases base h with ⟨rfl, hjoin⟩ | ⟨hbase, hlast, hjoin⟩ | ⟨hbase, hlast, hjoin⟩
  · have hlast := getLast?_toList_append "" h
    rw [String.empty_append] at hlast
    rw [hjoin, leadParts, if_neg h.ne_empty, if_neg hlast]
  · rw [hjoin, leadParts, if_neg (hne base), if_neg (getLast?_toList_append _ h)]
  · rw [hjoin, leadParts, if_neg (hne _), if_neg (getLast?_toList_append _ h)]

theorem startOf_joinPath (base : String) {name : String} (h : IsPlain name) :
    files.startOf (joinPath base name) = files.startOf base := by
  have hhead := head?_ne_slash h
  rcases joinPath_cases base h with ⟨rfl, hjoin⟩ | ⟨hbase, hlast, hjoin⟩ | ⟨hbase, hlast, hjoin⟩
  · simp [hjoin, startOf, hhead]
  all_goals
    obtain ⟨c, rest, hcons⟩ := List.exists_cons_of_ne_nil
      (fun hnil => hbase (String.toList_eq_nil_iff.1 hnil))
    simp [hjoin, startOf, hcons]

/-! ### Names under a base -/

/-- **A path under a base has the parts of the base and then its names.** -/
theorem pathParts_under {base : String} {names : List String} (hne : names ≠ [])
    (hplain : ∀ n ∈ names, IsPlain n) : pathParts (under base names) = leadParts base ++ names := by
  induction names generalizing base with
  | nil => exact absurd rfl hne
  | cons n rest ih =>
    have hn := hplain n List.mem_cons_self
    cases rest with
    | nil => exact pathParts_joinPath base hn
    | cons n' rest' =>
      have hrest : pathParts (under (joinPath base n) (n' :: rest')) =
          leadParts (joinPath base n) ++ n' :: rest' :=
        ih (by simp) fun x hx => hplain x (List.mem_cons_of_mem _ hx)
      rw [leadParts_joinPath base hn, pathParts_joinPath base hn] at hrest
      simpa [under] using hrest

theorem startOf_under (base : String) {names : List String} (hplain : ∀ n ∈ names, IsPlain n) :
    files.startOf (under base names) = files.startOf base := by
  induction names generalizing base with
  | nil => rfl
  | cons n rest ih =>
    rw [under, List.foldl_cons]
    exact (ih (joinPath base n) fun x hx => hplain x (List.mem_cons_of_mem _ hx)).trans
      (startOf_joinPath base (hplain n List.mem_cons_self))

theorem trimParts_concat (parts : List String) {name : String} (h : IsPlain name) :
    trimParts (parts ++ [name]) = parts ++ [name] := by
  simp [trimParts, h.ne_empty, h.ne_dot]

/-- Two names or more: the directories of the path are those of the base and of all names but
the last. -/
theorem parentParts_under {base : String} {names : List String} {directory last : String}
    (hplain : ∀ n ∈ names ++ [directory, last], IsPlain n) :
    parentParts (under base (names ++ [directory, last])) =
      leadParts base ++ (names ++ [directory]) := by
  have hlast : IsPlain last := hplain last (by simp)
  have hdirectory : IsPlain directory := hplain directory (by simp)
  have hparts : pathParts (under base (names ++ [directory, last])) =
      (leadParts base ++ names ++ [directory]) ++ [last] := by
    rw [pathParts_under (by simp) hplain]
    simp
  rw [parentParts, hparts, trimParts_concat _ hlast, List.dropLast_concat,
    trimParts_concat _ hdirectory, List.append_assoc]

/-! ### Ways -/

/-- The locations below `location` that names lead through. -/
def down : Location → List String → List Location
  | _, [] => []
  | location, name :: rest => (location ++ [name]) :: down (location ++ [name]) rest

theorem step?_of_plain {location next : Location} {name : String} (h : IsPlain name)
    (hnext : step? location name = some next) : next = location ++ [name] := by
  unfold step? at hnext
  rw [if_neg (by simp [h.ne_empty, h.ne_dot]), if_neg h.ne_dots] at hnext
  split at hnext
  · exact (Option.some.inj hnext).symm
  · cases hnext

theorem walk?_of_plain {location : Location} {names : List String}
    (hplain : ∀ n ∈ names, IsPlain n) {walk : List Location}
    (h : walk? location names = some walk) : walk = down location names := by
  induction names generalizing location walk with
  | nil => exact (Option.some.inj h).symm
  | cons n rest ih =>
    obtain ⟨next, later, hnext, hlater, rfl⟩ := walk?_cons_eq_some_iff.1 h
    obtain rfl := step?_of_plain (hplain n List.mem_cons_self) hnext
    rw [down, ih (fun x hx => hplain x (List.mem_cons_of_mem _ hx)) hlater]

theorem down_concat (location : Location) (names : List String) (last : String) :
    down location (names ++ [last]) = down location names ++ [location ++ names ++ [last]] := by
  induction names generalizing location with
  | nil => simp [down]
  | cons n rest ih => simp [down, ih]

theorem mem_down {location x : Location} {names : List String} (h : x ∈ down location names) :
    ∃ taken, taken <+: names ∧ taken ≠ [] ∧ x = location ++ taken := by
  induction names generalizing location with
  | nil => simp [down] at h
  | cons n rest ih =>
    rcases List.mem_cons.1 h with rfl | h
    · exact ⟨[n], by simp, by simp, rfl⟩
    · obtain ⟨taken, htaken, -, rfl⟩ := ih h
      exact ⟨n :: taken, List.cons_prefix_cons.2 ⟨rfl, htaken⟩, by simp, by simp⟩

/-- The way of a base, and where it comes to. -/
def wayOf (files : Files) (base : String) : List Location :=
  (walk? (files.startOf base) (leadParts base)).getD []

/-- Where a base lies. -/
def baseOf (files : Files) (base : String) : Location :=
  arrival (files.startOf base) (files.wayOf base)

theorem wayOf_eq {made : Files} (h : made.working = files.working) (base : String) :
    made.wayOf base = files.wayOf base := by
  rw [wayOf, wayOf, startOf_eq files made h]

/-- A path under a base leads along the way of the base and then down. -/
theorem under_spec {base : String} {names : List String} {directory last : String}
    (hplain : ∀ n ∈ names ++ [directory, last], IsPlain n)
    (h : files.Leads (under base (names ++ [directory, last]))) :
    files.parentsOf (under base (names ++ [directory, last])) =
        files.wayOf base ++ down (files.baseOf base) (names ++ [directory]) ∧
      files.goalOf (under base (names ++ [directory, last])) =
        files.baseOf base ++ (names ++ [directory, last]) := by
  have hwhole := h.whole
  rw [pathParts_under (by simp) hplain, startOf_under base hplain,
    walk?_append_eq_some_iff] at hwhole
  obtain ⟨way, below, hway, hbelow, heq⟩ := hwhole
  have hwayOf : files.wayOf base = way := by rw [wayOf, hway]; rfl
  have hbaseOf : files.baseOf base = arrival (files.startOf base) way := by rw [baseOf, hwayOf]
  have hdown := walk?_of_plain hplain hbelow
  have hsplit : names ++ [directory, last] = (names ++ [directory]) ++ [last] := by simp
  rw [hdown, hsplit, down_concat, ← List.append_assoc, ← hbaseOf] at heq
  obtain ⟨hparents, hgoal⟩ := List.append_inj' heq rfl
  rw [hsplit, hwayOf, hparents, List.singleton_inj.1 hgoal, List.append_assoc]
  exact ⟨rfl, rfl⟩

end Files
end DialogueSheet
