/-
# The names of buffs

| name | buff |
| --- | --- |
| `MaxHP`, `MaxHP_Base` | flat |
| `MaxHP_Coefficient` | of the coefficient |

No name of a stat holds an underscore, so a name is cut behind the stat and not within it, and
the stat of a buff and its kind can be told from the name (`parseBuff?_of_names`,
`names_of_parseBuff?`).  No name of a stat starts another one, nor is it another one in lower case;
so a text that comes close to a name is none (`Misspelled`, `parseBuff?_known`).
-/
import DialogueSheet.Student.StatKey
import Mathlib.Data.List.Nodup
import Mathlib.Data.List.TakeWhile

namespace DialogueSheet

/-- The text is a name of a buff of this kind on this stat. -/
def BuffKind.Names (kind : BuffKind) (key : StatKey) (name : String) : Prop :=
  match kind with
  | .flat => name = key.name ∨ name = key.name ++ "_Base"
  | .coefficient => name = key.name ++ "_Coefficient"
  | .separated => False

/-- The text is a name of a buff on this stat. -/
def StatKey.IsNamedBy (key : StatKey) (name : String) : Prop :=
  name = key.name ∨ name = key.name ++ "_Base" ∨ name = key.name ++ "_Coefficient"

instance (key : StatKey) (name : String) : Decidable (key.IsNamedBy name) := by
  unfold StatKey.IsNamedBy
  infer_instance

theorem StatKey.isNamedBy_iff {key : StatKey} {name : String} :
    key.IsNamedBy name ↔ ∃ kind : BuffKind, kind.Names key name := by
  constructor
  · rintro (h | h | h)
    · exact ⟨.flat, .inl h⟩
    · exact ⟨.flat, .inr h⟩
    · exact ⟨.coefficient, h⟩
  · rintro ⟨kind, h⟩
    cases kind with
    | flat => exact h.imp_right .inl
    | separated => exact h.elim
    | coefficient => exact .inr (.inr h)

/-! ### Stats -/

theorem StatKey.ofName?_name (key : StatKey) : StatKey.ofName? key.name = some key := by
  cases key <;> decide +kernel

theorem StatKey.ofName?_eq_some_iff {key : StatKey} {name : String} :
    StatKey.ofName? name = some key ↔ name = key.name := by
  constructor
  · intro h
    simpa [eq_comm] using List.find?_some h
  · rintro rfl
    exact key.ofName?_name

theorem StatKey.underscore_notMem_name (key : StatKey) : '_' ∉ key.name.toList := by
  cases key <;> decide +kernel

/-! ### Cutting at the first underscore -/

theorem splitAtUnderscore_eq (name : String) :
    splitAtUnderscore name =
      match name.toList.dropWhile (· ≠ '_') with
      | [] => (name, none)
      | _ :: rest =>
        (String.ofList (name.toList.takeWhile (· ≠ '_')), some (String.ofList rest)) := by
  have hjoin : name.toList.takeWhile (· ≠ '_') ++ name.toList.dropWhile (· ≠ '_') = name.toList :=
    List.takeWhile_append_dropWhile
  have hdrop : name.toList.drop (name.toList.takeWhile (· ≠ '_')).length =
      name.toList.dropWhile (· ≠ '_') := by
    have hleft := @List.drop_left _ (name.toList.takeWhile (· ≠ '_'))
      (name.toList.dropWhile (· ≠ '_'))
    rwa [hjoin] at hleft
  rw [← hdrop]
  rfl

theorem not_underscore {stat : List Char} (h : '_' ∉ stat) : ∀ c ∈ stat, decide (c ≠ '_') = true :=
  fun _ hc => decide_eq_true fun heq => h (heq ▸ hc)

theorem splitAtUnderscore_stat {stat : String} (h : '_' ∉ stat.toList) :
    splitAtUnderscore stat = (stat, none) := by
  have hrest : stat.toList.dropWhile (· ≠ '_') = [] :=
    List.dropWhile_eq_nil_iff.2 (not_underscore h)
  rw [splitAtUnderscore_eq, hrest]

theorem splitAtUnderscore_ending {stat : String} (h : '_' ∉ stat.toList) (ending : String) :
    splitAtUnderscore (stat ++ "_" ++ ending) = (stat, some ending) := by
  have hchars : (stat ++ "_" ++ ending).toList = stat.toList ++ '_' :: ending.toList := by simp
  have hrest : (stat.toList ++ '_' :: ending.toList).dropWhile (· ≠ '_') =
      '_' :: ending.toList := by
    rw [List.dropWhile_append_of_pos (not_underscore h)]
    exact List.dropWhile_cons_of_neg (by simp)
  have hfirst : (stat.toList ++ '_' :: ending.toList).takeWhile (· ≠ '_') = stat.toList := by
    rw [List.takeWhile_append_of_pos (not_underscore h)]
    simp
  rw [splitAtUnderscore_eq, hchars, hrest, hfirst, String.ofList_toList]
  dsimp only
  rw [String.ofList_toList]

/-- The two parts of a name make up the name. -/
theorem eq_of_splitAtUnderscore {name stat : String} {ending : Option String}
    (h : splitAtUnderscore name = (stat, ending)) :
    name = ending.elim stat fun e => stat ++ "_" ++ e := by
  have hjoin : name.toList.takeWhile (· ≠ '_') ++ name.toList.dropWhile (· ≠ '_') = name.toList :=
    List.takeWhile_append_dropWhile
  have hhead := List.head?_dropWhile_not (fun c : Char => c ≠ '_') name.toList
  rw [splitAtUnderscore_eq] at h
  cases hrest : name.toList.dropWhile (· ≠ '_') with
  | nil =>
    rw [hrest] at h
    obtain ⟨rfl, rfl⟩ := Prod.mk.inj h
    rfl
  | cons c rest =>
    rw [hrest] at h hjoin hhead
    obtain ⟨rfl, rfl⟩ := Prod.mk.inj h
    -- what is left of the name starts with the underscore
    obtain rfl : c = '_' := by simpa using hhead
    exact String.toList_inj.1 (hjoin.symm.trans (by simp))

/-! ### Names of buffs -/

theorem parseBuff?_of_names {kind : BuffKind} {key : StatKey} {name : String}
    (h : kind.Names key name) : parseBuff? name = some (key, kind) := by
  have hkey := key.underscore_notMem_name
  have hplain : parseBuff? key.name = some (key, .flat) := by
    simp [parseBuff?, splitAtUnderscore_stat hkey, key.ofName?_name, BuffKind.ofEnding?]
  have hended : ∀ (ending : String) (kind : BuffKind),
      BuffKind.ofEnding? (some ending) = some kind →
        parseBuff? (key.name ++ ("_" ++ ending)) = some (key, kind) := by
    intro ending kind hkind
    rw [← String.append_assoc]
    simp [parseBuff?, splitAtUnderscore_ending hkey, key.ofName?_name, hkind]
  cases kind with
  | flat =>
    rcases h with rfl | rfl
    · exact hplain
    · exact hended "Base" .flat rfl
  | separated => exact h.elim
  | coefficient =>
    obtain rfl := h
    exact hended "Coefficient" .coefficient rfl

theorem names_of_parseBuff? {kind : BuffKind} {key : StatKey} {name : String}
    (h : parseBuff? name = some (key, kind)) : kind.Names key name := by
  cases hsplit : splitAtUnderscore name with
  | mk stat ending =>
  have hname := eq_of_splitAtUnderscore hsplit
  simp only [parseBuff?, hsplit] at h
  split at h
  · rename_i hstat hending
    obtain ⟨rfl, rfl⟩ := Prod.mk.inj (Option.some.inj h)
    rw [StatKey.ofName?_eq_some_iff.1 hstat] at hname
    unfold BuffKind.ofEnding? at hending
    split at hending
    · obtain rfl := Option.some.inj hending
      exact .inl hname
    · obtain rfl := Option.some.inj hending
      exact .inr (hname.trans (String.append_assoc ..))
    · obtain rfl := Option.some.inj hending
      exact hname.trans (String.append_assoc ..)
    · cases hending
  · cases h

/-- A name is known as a buff on a stat when it is one of its names. -/
theorem exists_parseBuff?_iff {key : StatKey} {name : String} :
    (∃ kind, parseBuff? name = some (key, kind)) ↔ key.IsNamedBy name := by
  rw [StatKey.isNamedBy_iff]
  exact exists_congr fun kind => ⟨names_of_parseBuff?, parseBuff?_of_names⟩

/-- A name is that of buffs on one stat only. -/
theorem StatKey.IsNamedBy.unique {key k : StatKey} {name : String} (h : key.IsNamedBy name)
    (hk : k.IsNamedBy name) : key = k := by
  obtain ⟨kind, hkind⟩ := exists_parseBuff?_iff.2 h
  obtain ⟨kind', hkind'⟩ := exists_parseBuff?_iff.2 hk
  rw [hkind] at hkind'
  exact (Prod.mk.inj (Option.some.inj hkind')).1

/-! ### Texts that come close to a name -/

namespace StatKey

theorem mem_all (key : StatKey) : key ∈ all := by
  cases key <;> decide

/-- No name of a stat starts another one. -/
theorem eq_of_begins {key k : StatKey} (h : key.name.toList <+: k.name.toList) : key = k := by
  have hapart : ∀ key ∈ all, ∀ k ∈ all,
      key.name.toList.isPrefixOf k.name.toList = true → key = k := by decide +kernel
  exact hapart key key.mem_all k k.mem_all (List.isPrefixOf_iff_prefix.2 h)

/-- The names of stats differ in more than the case of their letters. -/
theorem eq_of_lower {key k : StatKey}
    (h : key.name.toList.map Char.toLower = k.name.toList.map Char.toLower) : key = k := by
  have hapart : (all.map fun key => key.name.toList.map Char.toLower).Nodup := by decide +kernel
  exact List.inj_on_of_nodup_map hapart key.mem_all k.mem_all h

/-- What may follow the name of a stat in the name of a buff on it. -/
def tails : List String := ["", "_Base", "_Coefficient"]

theorem isNamedBy_iff_tail {key : StatKey} {name : String} :
    key.IsNamedBy name ↔ ∃ tail ∈ tails, name = key.name ++ tail := by
  simp [IsNamedBy, tails]

theorem IsNamedBy.count_le {key : StatKey} {name : String} (h : key.IsNamedBy name) :
    name.toList.count '_' ≤ 1 := by
  obtain ⟨tail, htail, rfl⟩ := isNamedBy_iff_tail.1 h
  have hshort : ∀ tail ∈ tails, tail.toList.count '_' ≤ 1 := by decide +kernel
  rw [String.toList_append, List.count_append, List.count_eq_zero.2 key.underscore_notMem_name,
    Nat.zero_add]
  exact hshort tail htail

/-- Behind the name of a stat, only the tail of a name of a buff makes one. -/
theorem IsNamedBy.tail_mem {key k : StatKey} {tail : String} (h : k.IsNamedBy (key.name ++ tail)) :
    tail ∈ tails := by
  obtain ⟨tail', htail', hname⟩ := isNamedBy_iff_tail.1 h
  have hchars : key.name.toList ++ tail.toList = k.name.toList ++ tail'.toList := by
    rw [← String.toList_append, ← String.toList_append, hname]
  -- of two stats that both start the text, one starts the other
  have hkey : key = k := by
    rcases List.prefix_or_prefix_of_prefix (List.prefix_append key.name.toList tail.toList)
      (hchars ▸ List.prefix_append k.name.toList tail'.toList) with hprefix | hprefix
    · exact eq_of_begins hprefix
    · exact (eq_of_begins hprefix).symm
  rw [hkey, List.append_cancel_left_eq, String.toList_inj] at hchars
  rwa [hchars]

end StatKey

/-- No other character is an underscore in lower case. -/
theorem underscore_of_toLower {c : Char} (h : c.toLower = '_') : c = '_' := by
  unfold Char.toLower at h
  split at h
  · rename_i hupper
    have hlow : 65 ≤ c.toNat := UInt32.le_iff_toNat_le.1 hupper.1
    have hhigh : c.toNat ≤ 90 := UInt32.le_iff_toNat_le.1 hupper.2
    have hcode : (c.toNat + 32) % 4294967296 = 95 := congrArg Char.toNat h
    omega
  · exact h

/-- In lower case as well, the name of the stat is what stands before the first underscore. -/
theorem StatKey.takeWhile_lower (key : StatKey) {tail : String} (htail : tail ∈ tails) :
    ((key.name ++ tail).toList.map Char.toLower).takeWhile (· ≠ '_') =
      key.name.toList.map Char.toLower := by
  have hkey : '_' ∉ key.name.toList.map Char.toLower := by
    intro hmem
    obtain ⟨c, hc, hlower⟩ := List.mem_map.1 hmem
    exact key.underscore_notMem_name (underscore_of_toLower hlower ▸ hc)
  have hstart : ∀ tail ∈ tails, (tail.toList.map Char.toLower).takeWhile (· ≠ '_') = [] := by
    decide +kernel
  rw [String.toList_append, List.map_append, List.takeWhile_append_of_pos (not_underscore hkey),
    hstart tail htail, List.append_nil]

/-- Names of buffs that differ in nothing but the case of their letters are the same. -/
theorem StatKey.IsNamedBy.eq_of_lower {key k : StatKey} {name known : String}
    (h : key.IsNamedBy name) (hknown : k.IsNamedBy known)
    (hlower : name.toList.map Char.toLower = known.toList.map Char.toLower) : name = known := by
  obtain ⟨tail, htail, rfl⟩ := isNamedBy_iff_tail.1 h
  obtain ⟨tail', htail', rfl⟩ := isNamedBy_iff_tail.1 hknown
  have hkey : key = k := StatKey.eq_of_lower (by
    rw [← key.takeWhile_lower htail, ← k.takeWhile_lower htail', hlower])
  have htails : ∀ tail ∈ tails, ∀ tail' ∈ tails,
      tail.toList.map Char.toLower = tail'.toList.map Char.toLower → tail = tail' := by
    decide +kernel
  rw [hkey, String.toList_append, String.toList_append, List.map_append, List.map_append,
    List.append_cancel_left_eq] at hlower
  rw [hkey, htails tail htail tail' htail' hlower]

/-- A text that comes close to the name of a buff. -/
inductive Misspelled (name : String) : Prop
  /-- It has more than one underscore. -/
  | underscores (several : 1 < name.toList.count '_')
  /-- It is a name but for the case of its letters. -/
  | otherCase {known : String} {key : StatKey} {kind : BuffKind} (names : kind.Names key known)
      (lower_eq : name.toList.map Char.toLower = known.toList.map Char.toLower)
      (ne : name ≠ known)
  /-- It starts with the name of a stat, with anything else behind it. -/
  | otherTail {key : StatKey} {tail : String} (starts : name = key.name ++ tail)
      (tail_ne : tail ≠ "" ∧ tail ≠ "_Base" ∧ tail ≠ "_Coefficient")

theorem Misspelled.not_names {name : String} (h : Misspelled name) (key : StatKey)
    (kind : BuffKind) : ¬kind.Names key name := by
  intro hnames
  have hkey : key.IsNamedBy name := StatKey.isNamedBy_iff.2 ⟨kind, hnames⟩
  cases h with
  | underscores hseveral => exact absurd hkey.count_le (Nat.not_le.2 hseveral)
  | otherCase hknown hlower hne =>
    exact hne (hkey.eq_of_lower (StatKey.isNamedBy_iff.2 ⟨_, hknown⟩) hlower)
  | otherTail hstarts htail =>
    subst hstarts
    have hmem := hkey.tail_mem
    simp [StatKey.tails, htail] at hmem

/-- **A text is read as a buff exactly if it names it**: a stat alone or with `_Base` behind it, or
with `_Coefficient`.  It names one buff only, and a text that just comes close to a name is none. -/
theorem parseBuff?_known (name : String) :
    (∀ key kind, parseBuff? name = some (key, kind) ↔ kind.Names key name) ∧
    (parseBuff? name = none ↔ ∀ key : StatKey, ¬key.IsNamedBy name) ∧
    (∀ (key k : StatKey) (kind other : BuffKind), kind.Names key name → other.Names k name →
      key = k ∧ kind = other) ∧
    (Misspelled name → parseBuff? name = none) := by
  have hread : ∀ key kind, parseBuff? name = some (key, kind) ↔ kind.Names key name :=
    fun key kind => ⟨names_of_parseBuff?, parseBuff?_of_names⟩
  have hnone : parseBuff? name = none ↔ ∀ key : StatKey, ¬key.IsNamedBy name := by
    simp only [← exists_parseBuff?_iff, Option.eq_none_iff_forall_ne_some, not_exists, Prod.forall]
  refine ⟨hread, hnone, fun key k kind other h hother => ?_, fun h => hnone.2 fun key hkey => ?_⟩
  · have hsame := ((hread key kind).2 h).symm.trans ((hread k other).2 hother)
    exact Prod.mk.inj (Option.some.inj hsame)
  · obtain ⟨kind, hkind⟩ := StatKey.isNamedBy_iff.1 hkey
    exact h.not_names key kind hkind

/-- A name of each form, and a text that misses one in each way. -/
theorem parseBuff?_known_of_each :
    parseBuff? "Range" = some (.range, .flat) ∧
    parseBuff? "ExtendCCDuration_Base" = some (.extendCCDuration, .flat) ∧
    parseBuff? "DamagedRatio_Coefficient" = some (.damagedRatio, .coefficient) ∧
    parseBuff? "Range_Base_" = none ∧ parseBuff? "RANGE_base" = none ∧
    parseBuff? "AmmoCounts" = none := by
  refine ⟨?_, ?_, ?_, ?_, ?_, ?_⟩
  · exact ((parseBuff?_known _).1 _ _).2 (.inl rfl)
  · exact ((parseBuff?_known _).1 _ _).2 (.inr (by decide +kernel))
  · have hname : "DamagedRatio_Coefficient" = StatKey.damagedRatio.name ++ "_Coefficient" := by
      decide +kernel
    exact ((parseBuff?_known _).1 _ _).2 hname
  · exact (parseBuff?_known _).2.2.2 (.underscores (by decide +kernel))
  · have hnames : BuffKind.flat.Names .range "Range_Base" := .inr (by decide +kernel)
    exact (parseBuff?_known _).2.2.2 (.otherCase hnames (by decide +kernel) (by decide +kernel))
  · have hstarts : "AmmoCounts" = StatKey.ammoCount.name ++ "s" := by decide +kernel
    exact (parseBuff?_known _).2.2.2 (.otherTail hstarts (by decide +kernel))

end DialogueSheet
