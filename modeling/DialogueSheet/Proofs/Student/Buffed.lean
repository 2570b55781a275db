/-
# Stats under buffs

Steps change the stats of a student one after the other.

| step | adds | is about |
| --- | --- | --- |
| `buff` | a buff on a stat | this stat |
| `named` | a buff by its name | the stat of the name, or none when the name is unknown |
| `bond` | the bonuses of bond levels, by their names | the stats of these names |

A step leaves a stat that it is not about as it was (`spares_apply`), and what it makes of a stat
hangs on nothing but this stat (`local_apply`).  So a run makes of a stat what those steps make of
it that are about it (`line_run_filter`).  The weapon of a student counts as buffs
as well, and none of them touches a base value (`run_buffed`).
-/
import DialogueSheet.Proofs.Student.Named
import DialogueSheet.Student.Stats

namespace DialogueSheet
namespace StudentStats

/-- A step that changes stats. -/
inductive Step where
  | buff (key : StatKey) (kind : BuffKind) (amount : Binary64)
  | named (name : String) (amount : Binary64)
  /-- The bonuses of the bond levels below `level`. -/
  | bond (student : Student) (level : Nat)
deriving DecidableEq

namespace Step

/-- The step is about a stat. -/
def IsAbout (key : StatKey) : Step → Prop
  | .buff k _ _ => k = key
  | .named name _ => key.IsNamedBy name
  | .bond student level => ∃ bonus ∈ bondStats student level, key.IsNamedBy bonus.1

instance (key : StatKey) : DecidablePred (IsAbout key)
  | .buff k _ _ => inferInstanceAs (Decidable (k = key))
  | .named name _ => inferInstanceAs (Decidable (key.IsNamedBy name))
  | .bond student level =>
    inferInstanceAs (Decidable (∃ bonus ∈ bondStats student level, key.IsNamedBy bonus.1))

/-- The single buffs of a step. -/
def parts : Step → List Step
  | .buff key kind amount => [.buff key kind amount]
  | .named name amount => [.named name amount]
  | .bond student level =>
    (bondStats student level).map fun bonus => .named bonus.1 bonus.2

end Step

/-- The stats with bonuses, one after the other. -/
def addBonuses (s : StudentStats) (bonuses : List (String × Binary64)) : StudentStats :=
  bonuses.foldl (fun s (name, amount) => (s.addNamedBuff name amount).2) s

/-- The stats after a step. -/
def apply (s : StudentStats) : Step → StudentStats
  | .buff key kind amount => s.addBuff key kind amount
  | .named name amount => (s.addNamedBuff name amount).2
  | .bond student level => s.addBonuses (bondStats student level)

/-- The stats after steps. -/
def run (s : StudentStats) (steps : List Step) : StudentStats := steps.foldl apply s

/-- The values of a stat are the same in both. -/
def Agree (s t : StudentStats) (key : StatKey) : Prop :=
  s.base key = t.base key ∧ s.total key = t.total key ∧ s.totalText key = t.totalText key

variable {s t : StudentStats} {key : StatKey}

theorem Agree.of_line (h : s.line key = t.line key) : s.Agree t key := by
  have htotal : s.total key = t.total key := by simp only [total, h]
  exact ⟨by simp only [base, h], htotal, by simp only [totalText, htotal]⟩

/-! ### What a change makes of one stat -/

/-- What a change makes of a stat hangs on nothing but this stat, and its base value stays. -/
structure Local (key : StatKey) (change : StudentStats → StudentStats) : Prop where
  line : ∀ s t : StudentStats, s.line key = t.line key → (change s).line key = (change t).line key
  base : ∀ s : StudentStats, ((change s).line key).base = (s.line key).base

/-- A change leaves a stat as it was. -/
def Spares (key : StatKey) (change : StudentStats → StudentStats) : Prop :=
  ∀ s : StudentStats, (change s).line key = s.line key

theorem Spares.local {change : StudentStats → StudentStats} (h : Spares key change) :
    Local key change where
  line s t hst := by rw [h, h, hst]
  base s := by rw [h]

section
variable {α : Type} {change : StudentStats → α → StudentStats} {changes : List α}

theorem Local.foldl (h : ∀ a ∈ changes, Local key (change · a)) :
    Local key fun s => changes.foldl change s := by
  induction changes with
  | nil => exact ⟨fun _ _ hst => hst, fun _ => rfl⟩
  | cons a rest ih =>
    have hfirst := h a List.mem_cons_self
    have hrest := ih fun b hb => h b (List.mem_cons_of_mem _ hb)
    exact ⟨fun s t hst => hrest.line _ _ (hfirst.line s t hst),
      fun s => (hrest.base _).trans (hfirst.base s)⟩

theorem Spares.foldl (h : ∀ a ∈ changes, Spares key (change · a)) :
    Spares key fun s => changes.foldl change s := by
  induction changes with
  | nil => exact fun _ => rfl
  | cons a rest ih =>
    have hfirst := h a List.mem_cons_self
    have hrest := ih fun b hb => h b (List.mem_cons_of_mem _ hb)
    exact fun s => (hrest _).trans (hfirst s)

end

theorem spares_addBuff {k : StatKey} (h : k ≠ key) (kind : BuffKind) (amount : Binary64) :
    Spares key (addBuff · k kind amount) :=
  fun _ => if_neg (Ne.symm h)

theorem local_addBuff (key k : StatKey) (kind : BuffKind) (amount : Binary64) :
    Local key (addBuff · k kind amount) := by
  by_cases h : k = key
  · subst h
    have hline : ∀ s : StudentStats,
        (s.addBuff k kind amount).line k = (s.line k).addBuff kind amount := fun _ => if_pos rfl
    have hbase : ∀ line : StatLine, (line.addBuff kind amount).base = line.base := by
      intro line
      cases kind <;> rfl
    exact ⟨fun s t hst => by rw [hline, hline, hst], fun s => by rw [hline, hbase]⟩
  · exact (spares_addBuff h kind amount).local

/-- A buff by its name is the buff that the name denotes, or nothing when it denotes none. -/
theorem addNamedBuff_cases (name : String) (amount : Binary64) :
    (∃ k kind, StatKey.IsNamedBy k name ∧ ∀ s : StudentStats,
      s.addNamedBuff name amount = (true, s.addBuff k kind amount)) ∨
      (∀ k : StatKey, ¬k.IsNamedBy name) ∧ ∀ s : StudentStats,
        s.addNamedBuff name amount = (false, s) := by
  cases hparse : parseBuff? name with
  | some buff =>
    obtain ⟨k, kind⟩ := buff
    refine .inl ⟨k, kind, exists_parseBuff?_iff.1 ⟨kind, hparse⟩, fun s => ?_⟩
    simp [addNamedBuff, hparse]
  | none =>
    refine .inr ⟨fun k hk => ?_, fun s => by simp [addNamedBuff, hparse]⟩
    obtain ⟨kind, hkind⟩ := exists_parseBuff?_iff.2 hk
    rw [hparse] at hkind
    cases hkind

theorem local_addNamedBuff (key : StatKey) (name : String) (amount : Binary64) :
    Local key fun s => (s.addNamedBuff name amount).2 := by
  rcases addNamedBuff_cases name amount with ⟨k, kind, -, hbuff⟩ | ⟨-, hnone⟩
  · simp only [hbuff]
    exact local_addBuff key k kind amount
  · simp only [hnone]
    exact ⟨fun _ _ hst => hst, fun _ => rfl⟩

theorem spares_addNamedBuff {name : String} (h : ¬key.IsNamedBy name) (amount : Binary64) :
    Spares key fun s => (s.addNamedBuff name amount).2 := by
  rcases addNamedBuff_cases name amount with ⟨k, kind, hk, hbuff⟩ | ⟨-, hnone⟩
  · simp only [hbuff]
    have hne : k ≠ key := by
      rintro rfl
      exact h hk
    exact spares_addBuff hne kind amount
  · simp only [hnone]
    exact fun _ => rfl

/-! ### Steps -/

theorem local_apply (key : StatKey) (step : Step) : Local key (apply · step) := by
  cases step with
  | buff k kind amount => exact local_addBuff key k kind amount
  | named name amount => exact local_addNamedBuff key name amount
  | bond student level => exact .foldl fun bonus _ => local_addNamedBuff key bonus.1 bonus.2

/-- **A step leaves a stat that it is not about as it was.** -/
theorem spares_apply {step : Step} (h : ¬step.IsAbout key) : Spares key (apply · step) := by
  cases step with
  | buff k kind amount => exact spares_addBuff h kind amount
  | named name amount => exact spares_addNamedBuff h amount
  | bond student level =>
    exact .foldl fun bonus hbonus => spares_addNamedBuff (fun hname => h ⟨bonus, hbonus, hname⟩) _

/-! ### Runs -/

theorem run_append (s : StudentStats) (earlier later : List Step) :
    s.run (earlier ++ later) = (s.run earlier).run later := List.foldl_append ..

/-- Of a run, only the steps about a stat count for it. -/
theorem line_run_filter (s : StudentStats) (steps : List Step) (key : StatKey) :
    (s.run steps).line key = (s.run (steps.filter (·.IsAbout key))).line key := by
  induction steps generalizing s with
  | nil => rfl
  | cons step rest ih =>
    by_cases habout : step.IsAbout key
    · rw [List.filter_cons_of_pos (by simpa using habout)]
      exact ih (s.apply step)
    · rw [List.filter_cons_of_neg (by simpa using habout)]
      have hrest : Local key fun s => run s rest := .foldl fun step _ => local_apply key step
      exact (hrest.line _ _ (spares_apply habout s)).trans (ih s)

theorem run_parts (s : StudentStats) (step : Step) : s.run step.parts = s.apply step := by
  cases step with
  | buff key kind amount => rfl
  | named name amount => rfl
  | bond student level =>
    simp only [run, Step.parts, List.foldl_map]
    rfl

/-- A run takes single buffs one after the other. -/
theorem run_flatMap_parts (s : StudentStats) (steps : List Step) :
    s.run (steps.flatMap Step.parts) = s.run steps := by
  induction steps generalizing s with
  | nil => rfl
  | cons step rest ih =>
    rw [List.flatMap_cons, run_append, run_parts, ih]
    rfl

theorem base_run (s : StudentStats) (steps : List Step) (key : StatKey) :
    (s.run steps).base key = s.base key := by
  have hrun : Local key fun s => run s steps := .foldl fun step _ => local_apply key step
  simp only [base, hrun.base s]

/-- The total of a stat is not negative, but for the ratio of damage taken. -/
theorem total_nonneg (s : StudentStats) (h : key ≠ .damagedRatio) : 0 ≤ s.total key := by
  simp only [total, h, if_false]
  exact Int.le_max_right ..

/-- The base value of a student stays as it was under the buffs of the weapon. -/
theorem base_ofStudent (student : Student) (level stars : Nat) (key : StatKey) :
    (ofStudent student level stars).base key =
      (baseValue student.numbers level stars key).toInt64 := by
  have hadd : ∀ (s : StudentStats) (k : StatKey) (kind : BuffKind) (amount : Binary64),
      (s.addBuff k kind amount).base key = s.base key := by
    intro s k kind amount
    simp only [base, (local_addBuff key k kind amount).base s]
  unfold ofStudent
  cases student.weapon with
  | none => rfl
  | some w =>
    dsimp only
    split
    · rw [hadd, hadd, hadd]
      rfl
    · rfl

/-- What a run makes of a stat. -/
structure Buffed (built : StudentStats) (steps : List Step) (key : StatKey) : Prop where
  /-- Only the steps about the stat count. -/
  own : (built.run steps).Agree (built.run (steps.filter (·.IsAbout key))) key
  /-- The single buffs of the steps make the run, and only those on the stat count. -/
  parts : built.run (steps.flatMap Step.parts) = built.run steps ∧
    (built.run steps).Agree
      (built.run ((steps.flatMap Step.parts).filter (·.IsAbout key))) key
  /-- The base value stays. -/
  base : (built.run steps).base key = built.base key
  /-- A name is reported as known when it is a name of a stat's buffs. -/
  known : ∀ earlier name amount later,
    steps.flatMap Step.parts = earlier ++ .named name amount :: later →
      (((built.run earlier).addNamedBuff name amount).1 = true ↔
        ∃ k : StatKey, k.IsNamedBy name)
  /-- An unknown name is reported and changes nothing. -/
  unknown : ∀ earlier name amount later,
    steps.flatMap Step.parts = earlier ++ .named name amount :: later →
      (∀ k : StatKey, ¬k.IsNamedBy name) →
        ((built.run earlier).addNamedBuff name amount).1 = false ∧
          built.run (earlier ++ [.named name amount]) = built.run earlier
  /-- The total is not negative, but for the ratio of damage taken. -/
  nonneg : key ≠ .damagedRatio → 0 ≤ (built.run steps).total key

/-- **Buffs on different stats do not interfere.** -/
theorem run_buffed (student : Student) (level stars : Nat) (steps : List Step) (key : StatKey) :
    (ofStudent student level stars).base key =
        (baseValue student.numbers level stars key).toInt64 ∧
      Buffed (ofStudent student level stars) steps key := by
  refine ⟨base_ofStudent student level stars key, ?_⟩
  generalize ofStudent student level stars = built
  constructor
  case own => exact .of_line (line_run_filter built steps key)
  case parts =>
    have hparts := run_flatMap_parts built steps
    refine ⟨hparts, .of_line ?_⟩
    rw [← hparts]
    exact line_run_filter built _ key
  case base => exact base_run built steps key
  case known =>
    intro earlier name amount _ _
    rcases addNamedBuff_cases name amount with ⟨k, kind, hk, hbuff⟩ | ⟨hnone, hsame⟩
    · simp only [hbuff, true_iff]
      exact ⟨k, hk⟩
    · simp [hsame, hnone]
  case unknown =>
    intro earlier name amount _ _ hunknown
    rcases addNamedBuff_cases name amount with ⟨k, -, hk, -⟩ | ⟨-, hsame⟩
    · exact absurd hk (hunknown k)
    · rw [run_append, hsame]
      exact ⟨rfl, congrArg Prod.snd (hsame _)⟩
  case nonneg => exact total_nonneg _

/-- Of five steps two are about health, one of them the bonuses of a bond with an unknown name
among them, and an attack that falls below nothing is held at nothing. -/
theorem run_buffed_of_five :
    let weapon : Weapon := { health := ⟨100, 199⟩, levelUp := "Standard" }
    let student : Student := {
      numbers := { health := ⟨2000, 20000⟩, attack := ⟨100, 1000⟩ }
      weapon := some weapon
      bondStatNames := ["MaxHP", "Charisma"]
      bondStatValues := [[10, 1]] }
    let built := ofStudent student 1 5
    let bond : Step := .bond student 5
    let health : Step := .named "MaxHP_Coefficient" 1000
    let steps : List Step := [.named "AttackPower_Coefficient" (-5000), bond,
      .buff .attackPower .separated (-300), health, .named "MaxHP_" 1]
    steps.filter (·.IsAbout .maxHP) = [bond, health] ∧
      (built.run steps).Agree (built.run [bond, health]) .maxHP ∧
      (built.run steps).base .maxHP = 2700 ∧ (built.run steps).totalText .maxHP = .ok "3,178" ∧
      (∀ k : StatKey, ¬k.IsNamedBy "MaxHP_") ∧
      (built.run steps) = built.run (steps.take 4) ∧
      StatKey.attackPower ≠ .damagedRatio ∧ 0 ≤ (built.run steps).total .attackPower := by
  intro weapon student built bond health steps
  have habout : steps.filter (·.IsAbout .maxHP) = [bond, health] := by decide +kernel
  have hnames : ∀ k : StatKey, ¬k.IsNamedBy "MaxHP_" := by
    intro k
    cases k <;> decide +kernel
  have hratio : StatKey.attackPower ≠ .damagedRatio := by decide
  obtain ⟨hbase, hhealth⟩ := run_buffed student 1 5 steps .maxHP
  obtain ⟨-, hattack⟩ := run_buffed student 1 5 steps .attackPower
  have hown := hhealth.own
  rw [habout] at hown
  refine ⟨habout, hown, ?_, ?_, hnames, ?_, hratio, hattack.nonneg hratio⟩
  · rw [hhealth.base, hbase]
    decide +kernel
  · rw [hown.2.2]
    decide +kernel
  · rw [← hhealth.parts.1]
    have hparts : steps.flatMap Step.parts =
        (steps.take 4).flatMap Step.parts ++ .named "MaxHP_" 1 :: [] := by decide +kernel
    rw [hparts, (hhealth.unknown _ _ _ _ hparts hnames).2]
    exact run_flatMap_parts built (steps.take 4)

end StudentStats
end DialogueSheet
