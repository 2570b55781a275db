/-
# Names with a number behind them

A name that finds nobody is read as a base with a number behind it (`Numbered`): all the
digits at its end belong to the number, so the base does not end in a digit.

| the base finds | the number | the command |
| --- | --- | --- |
| nobody | any | is a fault |
| one student | any, even one out of range | is this student's |
| several | `k` from 1 to their count | is the `k`-th's |
| several | any other | is a fault |

`openBlock_of_nobody` says so of every command; the second row is not what a number out of
range should come to (`openBlock_alone_takes_any`).
-/
import DialogueSheet.Proofs.Script.Reading
import Mathlib.Data.List.DropRight

namespace DialogueSheet

theorem isSome_digitValue? (c : Char) : (digitValue? c).isSome = c.isDigit := by
  have hdigit : ('0' ≤ c ∧ c ≤ '9') ↔ c.isDigit = true := by
    simp [Char.isDigit, Char.le_def, UInt32.le_iff_toNat_le]
  unfold digitValue?
  split
  · rename_i h
    exact (hdigit.1 h).symm
  · rename_i h
    exact (Bool.eq_false_iff.2 fun hc => h (hdigit.2 hc)).symm

/-- A digit behind others counts once, and those before it ten times. -/
theorem natOfDigits_concat (digits : List Char) (d : Char) :
    natOfDigits (digits ++ [d]) = 10 * natOfDigits digits + (digitValue? d).getD 0 := by
  simp [natOfDigits, List.foldl_append]

namespace Script

/-! ### Reading a number off the end of a name -/

/-- A name is a base, which does not end in a digit, with a run of digits behind it. -/
structure Numbered (name base : String) (k : Nat) : Prop where
  base_ne : base ≠ ""
  base_end : ∀ c, base.toList.getLast? = some c → c.isDigit = false
  digits : ∃ digits, digits ≠ [] ∧ (∀ d ∈ digits, d.isDigit = true) ∧
    name.toList = base.toList ++ digits ∧ natOfDigits digits = k

/-- A list is parted before the run at its end in one way. -/
theorem rdropWhile_append {p : Char → Bool} {front run : List Char}
    (hfront : ∀ c, front.getLast? = some c → p c = false) (hrun : ∀ c ∈ run, p c = true) :
    (front ++ run).rdropWhile p = front ∧ (front ++ run).rtakeWhile p = run := by
  have hrun' : ∀ c ∈ run.reverse, p c = true := fun c hc => hrun c (List.mem_reverse.1 hc)
  have hhead : ∀ c, front.reverse.head? = some c → p c = false := fun c hc =>
    hfront c (by simpa using hc)
  have hfrontStop : front.reverse.dropWhile p = front.reverse ∧
      front.reverse.takeWhile p = [] := by
    cases hcases : front.reverse with
    | nil => simp
    | cons c rest =>
      have hc : p c = false := hhead c (by rw [hcases]; rfl)
      simp [hc]
  constructor
  · rw [List.rdropWhile, List.reverse_append, List.dropWhile_append_of_pos hrun',
      hfrontStop.1, List.reverse_reverse]
  · rw [List.rtakeWhile, List.reverse_append, List.takeWhile_append_of_pos hrun',
      hfrontStop.2, List.append_nil, List.reverse_reverse]

theorem splitIndex?_eq (name : String) : splitIndex? name =
    let base := name.toList.rdropWhile Char.isDigit
    let digits := name.toList.rtakeWhile Char.isDigit
    if base = [] ∨ digits = [] ∨ maxIndex < natOfDigits digits then none
    else some (String.ofList base, natOfDigits digits) := by
  have hdrop (l : List Char) : l.drop (l.takeWhile Char.isDigit).length =
      l.dropWhile Char.isDigit := by
    calc l.drop (l.takeWhile Char.isDigit).length
        = (l.takeWhile Char.isDigit ++ l.dropWhile Char.isDigit).drop
            (l.takeWhile Char.isDigit).length := by rw [List.takeWhile_append_dropWhile]
      _ = l.dropWhile Char.isDigit := List.drop_left
  simp only [splitIndex?, isSome_digitValue?, List.length_reverse, hdrop, List.isEmpty_iff]
  rfl

theorem splitIndex?_eq_some_iff {name base : String} {k : Nat} :
    splitIndex? name = some (base, k) ↔ Numbered name base k ∧ k ≤ maxIndex := by
  rw [splitIndex?_eq]
  constructor
  · intro h
    simp only at h
    split at h
    · cases h
    · rename_i hread
      obtain ⟨rfl, rfl⟩ : _ ∧ _ := by simpa using h
      have hbase : name.toList.rdropWhile Char.isDigit ≠ [] := fun hnil => hread (Or.inl hnil)
      have hdigits : name.toList.rtakeWhile Char.isDigit ≠ [] := fun hnil =>
        hread (Or.inr (Or.inl hnil))
      refine ⟨⟨by simpa using hbase, fun c hc => ?_, _, hdigits, ?_, ?_, rfl⟩, by omega⟩
      · have hlast := List.rdropWhile_last_not Char.isDigit name.toList hbase
        rw [String.toList_ofList, List.getLast?_eq_some_getLast hbase] at hc
        rw [← Option.some.inj hc]
        simpa using hlast
      · intro d hd
        exact List.mem_takeWhile_imp (List.mem_reverse.1 hd)
      · rw [String.toList_ofList, List.rdropWhile_append_rtakeWhile]
  · rintro ⟨⟨hbase, hend, digits, hne, hdigits, hname, rfl⟩, hmax⟩
    obtain ⟨hdrop, htake⟩ := rdropWhile_append hend hdigits
    have hbase' : base.toList ≠ [] := mt String.toList_eq_nil_iff.1 hbase
    simp only [hname, hdrop, htake]
    rw [if_neg (by simp [hbase', hne]; omega), String.ofList_toList]

/-- A name is read with a number behind it in one way. -/
theorem Numbered.unique {name base base' : String} {k k' : Nat} (h : Numbered name base k)
    (h' : Numbered name base' k') : base = base' ∧ k = k' := by
  obtain ⟨-, hend, digits, -, hdigits, hname, rfl⟩ := h
  obtain ⟨-, hend', digits', -, hdigits', hname', rfl⟩ := h'
  obtain ⟨hdrop, htake⟩ := rdropWhile_append hend hdigits
  obtain ⟨hdrop', htake'⟩ := rdropWhile_append hend' hdigits'
  rw [← hname] at hdrop htake
  rw [← hname'] at hdrop' htake'
  have hbase : base.toList = base'.toList := hdrop.symm.trans hdrop'
  exact ⟨String.toList_inj.1 hbase, by rw [← htake, ← htake']⟩

/-! ### Whom a number picks -/

/-- The number picks the student among those found, counted from 1; a student found alone
is picked by every number. -/
def Picked (found : List Student) (k : Nat) (who : Student) : Prop :=
  (1 ≤ k ∧ found[k - 1]? = some who) ∨ found = [who]

theorem pick_eq_singleton_iff_picked {found : List Student} {k : Nat} {who : Student} :
    pick found k = [who] ↔ Picked found k who := by
  have hsucc : (∃ i, k = i + 1 ∧ found[i]? = some who) ↔ 1 ≤ k ∧ found[k - 1]? = some who := by
    constructor
    · rintro ⟨i, rfl, hi⟩
      exact ⟨by omega, hi⟩
    · rintro ⟨hk, hi⟩
      exact ⟨k - 1, by omega, hi⟩
  rw [pick_eq_singleton_iff, hsucc, Picked, or_comm]

/-- A number out of range picks nobody among several. -/
theorem not_picked {found : List Student} {k : Nat} {who : Student}
    (hk : k = 0 ∨ found.length < k) (hfound : found.length ≠ 1) : ¬Picked found k who := by
  rintro (⟨hpos, hget⟩ | rfl)
  · obtain ⟨hlt, -⟩ := List.getElem?_eq_some_iff.1 hget
    omega
  · exact hfound rfl

/-- The student of a name that finds nobody is picked by the number behind its base. -/
theorem studentOf_of_nobody {c : Catalog} {given : List Student} {name : String}
    (hnobody : c.findByName name given = []) {who : Student} :
    studentOf c given name = .ok who ↔ ∃ base k, Numbered name base k ∧ k ≤ maxIndex ∧
      Picked (c.findByName base given) k who := by
  cases hsplit : splitIndex? name with
  | none =>
    have hrefused : studentOf c given name = .error (.unknownName name) := by
      simp [studentOf, hnobody, hsplit, onlyOne]
    rw [hrefused]
    constructor
    · intro h
      cases h
    · rintro ⟨base, k, hread, hmax, -⟩
      rw [splitIndex?_eq_some_iff.2 ⟨hread, hmax⟩] at hsplit
      cases hsplit
  | some reading =>
    obtain ⟨base, k⟩ := reading
    obtain ⟨hread, hmax⟩ := splitIndex?_eq_some_iff.1 hsplit
    have hpick : studentOf c given name = onlyOne base (pick (c.findByName base given) k) := by
      simp [studentOf, hnobody, hsplit]
    rw [hpick, onlyOne_eq_ok_iff, pick_eq_singleton_iff_picked]
    constructor
    · intro h
      exact ⟨base, k, hread, hmax, h⟩
    · rintro ⟨base', k', hread', -, h⟩
      obtain ⟨rfl, rfl⟩ := hread.unique hread'
      exact h

/-- A command that opens no block leaves a fault with the number of its line. -/
theorem parse_eq_error_of_openBlock {c : Catalog} {given : List Student} {script : String}
    {s : Section} (hs : s ∈ (outline script).sections) {fault : LineFault}
    (h : openBlock c given s.role s.rest = .error fault) :
    ∃ faults, parse c given script = .error faults ∧ .atLine s.line.1 fault ∈ faults := by
  have hnote : s.note? c given = some (s.line.1, fault) := by
    simp [Section.note?, Section.opened, h, Except.map]
  have hmem : (s.line.1, fault) ∈ (outline script).notes c given :=
    List.mem_append_right _ (List.mem_filterMap.2 ⟨s, hs, hnote⟩)
  exact ⟨_, parse_eq_error_iff.2 (Or.inr ⟨List.ne_nil_of_mem hmem, rfl⟩),
    List.mem_map.2 ⟨_, hmem, rfl⟩⟩

theorem openBlock_eq_ok_iff {c : Catalog} {given : List Student} {role : Role}
    {rest name text : List Char} (hrole : role = .speaker ∨ role = .banner)
    (hparted : Parted rest name text) (hname : name ≠ []) {b : Block} :
    openBlock c given role rest = .ok b ↔
      ∃ who, studentOf c given (String.ofList name) = .ok who ∧ ofStudent role text who = b := by
  rw [openBlock_ofStudent hrole hparted, if_neg (by simpa using hname), map_eq_ok_iff]

/-- The command of a name that finds nobody is taken by the number behind its base. -/
theorem openBlock_picked {c : Catalog} {given : List Student} {role : Role}
    {rest name text : List Char} (hrole : role = .speaker ∨ role = .banner)
    (hparted : Parted rest name text) (hname : name ≠ [])
    (hnobody : c.findByName (String.ofList name) given = []) (b : Block) :
    openBlock c given role rest = .ok b ↔
      ∃ base k who, Numbered (String.ofList name) base k ∧ k ≤ maxIndex ∧
        Picked (c.findByName base given) k who ∧ b = ofStudent role text who := by
  rw [openBlock_eq_ok_iff hrole hparted hname]
  constructor
  · rintro ⟨who, hwho, rfl⟩
    obtain ⟨base, k, hread, hmax, hpicked⟩ := (studentOf_of_nobody hnobody).1 hwho
    exact ⟨base, k, who, hread, hmax, hpicked, rfl⟩
  · rintro ⟨base, k, who, hread, hmax, hpicked, rfl⟩
    exact ⟨who, (studentOf_of_nobody hnobody).2 ⟨base, k, hread, hmax, hpicked⟩, rfl⟩

/-- **A name that finds nobody is taken by its number.**  The command of a speaker or a
banner opens a block exactly when its name is a base with a number behind it and the number
is that of one of those whom the base finds, or the base finds one student alone; the block
is this student's.  A number out of range of the several or none whom the base finds is a
fault of its line. -/
theorem openBlock_of_nobody {c : Catalog} {given : List Student} {role : Role}
    {rest name text : List Char} (hrole : role = .speaker ∨ role = .banner)
    (hparted : Parted rest name text) (hname : name ≠ [])
    (hnobody : c.findByName (String.ofList name) given = []) :
    (∀ b, openBlock c given role rest = .ok b ↔
      ∃ base k who, Numbered (String.ofList name) base k ∧ k ≤ maxIndex ∧
        ((1 ≤ k ∧ (c.findByName base given)[k - 1]? = some who) ∨
          c.findByName base given = [who]) ∧ b = ofStudent role text who) ∧
    (∀ base k, Numbered (String.ofList name) base k →
      (k = 0 ∨ (c.findByName base given).length < k) → (c.findByName base given).length ≠ 1 →
      ∃ fault, openBlock c given role rest = .error fault ∧
        ∀ script, ∀ s ∈ (outline script).sections, s.role = role → s.rest = rest →
          ∃ faults, parse c given script = .error faults ∧ .atLine s.line.1 fault ∈ faults) := by
  have hopen := openBlock_picked hrole hparted hname hnobody
  refine ⟨hopen, fun base k hread hk hfound => ?_⟩
  cases hcommand : openBlock c given role rest with
  | ok b =>
    obtain ⟨base', k', who, hread', -, hpicked, -⟩ := (hopen b).1 hcommand
    obtain ⟨rfl, rfl⟩ := hread.unique hread'
    exact absurd hpicked (not_picked hk hfound)
  | error fault =>
    refine ⟨fault, rfl, fun script s hs hsrole hsrest => ?_⟩
    rw [← hsrole, ← hsrest] at hcommand
    exact parse_eq_error_of_openBlock hs hcommand

/-- Of three students the second is picked, and a fourth is a fault. -/
theorem openBlock_second_of_three :
    let c := Catalog.ofRecords [{ id := 1, name := "Hoshino (Swimsuit)" },
      { id := 2, name := "Hoshino (Armed)" }, { id := 3, name := "Hoshino (New Year)" }]
    c.findByName "Hoshino2" [] = [] ∧ c.findByName "Hoshino4" [] = [] ∧
      openBlock c [] .speaker "Hoshino2 hi".toList =
        .ok (.speaker ⟨2, "Hoshino (Armed)", .cn⟩ ["hi"]) ∧
      ∃ fault, openBlock c [] .speaker "Hoshino4 hi".toList = .error fault := by
  intro c
  have hsecond : c.findByName "Hoshino2" [] = [] := by decide +kernel
  have hfourth : c.findByName "Hoshino4" [] = [] := by decide +kernel
  have hparted : Parted "Hoshino2 hi".toList "Hoshino2".toList "hi".toList :=
    parted_iff.2 (by decide +kernel)
  have hparted' : Parted "Hoshino4 hi".toList "Hoshino4".toList "hi".toList :=
    parted_iff.2 (by decide +kernel)
  have hread : Numbered "Hoshino2" "Hoshino" 2 :=
    (splitIndex?_eq_some_iff.1 (by decide +kernel)).1
  have hread' : Numbered "Hoshino4" "Hoshino" 4 :=
    (splitIndex?_eq_some_iff.1 (by decide +kernel)).1
  refine ⟨hsecond, hfourth, ?_, ?_⟩
  · refine ((openBlock_of_nobody (Or.inl rfl) hparted (by decide) hsecond).1 _).2
      ⟨"Hoshino", 2, { id := 2, name := "Hoshino (Armed)", language := some .cn }, hread,
        by decide, Or.inl ⟨by decide, by decide +kernel⟩, by decide +kernel⟩
  · obtain ⟨fault, hfault, -⟩ := (openBlock_of_nobody (Or.inl rfl) hparted' (by decide)
      hfourth).2 "Hoshino" 4 hread' (Or.inr (by decide +kernel)) (by decide +kernel)
    exact ⟨fault, hfault⟩

/-- The ninth of one student is no student, yet a command that names it opens a block. -/
theorem openBlock_alone_takes_any :
    ¬∀ (c : Catalog) (given : List Student) (role : Role) (rest name text : List Char)
      (b : Block), (role = .speaker ∨ role = .banner) → Parted rest name text →
      c.findByName (String.ofList name) given = [] → openBlock c given role rest = .ok b →
      ∃ base digits who, base ≠ [] ∧ digits ≠ [] ∧ (∀ d ∈ digits, d.isDigit = true) ∧
        name = base ++ digits ∧ 1 ≤ natOfDigits digits ∧
        (c.findByName (String.ofList base) given)[natOfDigits digits - 1]? = some who ∧
        b = ofStudent role text who := by
  intro h
  let c := Catalog.ofRecords [{ id := 1, name := "Aru" }]
  obtain ⟨base, digits, who, -, hne, hdigits, hname, -, hwho, -⟩ :=
    h c [] .speaker "aru9 hi".toList "aru9".toList "hi".toList (.speaker ⟨1, "Aru", .cn⟩ ["hi"])
      (Or.inl rfl) (parted_iff.2 (by decide +kernel)) (by decide +kernel) (by decide +kernel)
  have hbase : base = "aru9".toList.take base.length := by rw [hname]; simp
  have hrest : digits = "aru9".toList.drop base.length := by rw [hname]; simp
  have hlength : base.length < 4 := by
    have hsum : "aru9".toList.length = base.length + digits.length := by
      rw [hname, List.length_append]
    have hpos : 0 < digits.length := List.length_pos_iff.2 hne
    have hfour : "aru9".toList.length = 4 := by decide
    omega
  generalize base.length = n at hbase hrest hlength
  subst hbase hrest
  -- a run that is longer than `9` holds the letter before it
  have hletter : n ≠ 0 ∧ n ≠ 1 ∧ n ≠ 2 := by
    refine ⟨?_, ?_, ?_⟩ <;> rintro rfl <;> exact absurd (hdigits 'u' (by decide)) (by decide)
  obtain rfl : n = 3 := by omega
  have hnone : (c.findByName (String.ofList ("aru9".toList.take 3)) [])[
      natOfDigits ("aru9".toList.drop 3) - 1]? = none := by decide +kernel
  rw [hnone] at hwho
  cases hwho

end Script
end DialogueSheet
