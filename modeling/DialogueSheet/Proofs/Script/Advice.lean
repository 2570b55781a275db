/-
# The advice to put a number behind a name

A name that means a few students is refused with their list, numbered from 1, and the advice
to put a number behind the name.  The digits at the end of a name all belong to the number,
so what the advised name comes to depends on how the name itself ends:

| the name | with `k` behind it is | picks |
| --- | --- | --- |
| does not end in a digit | the name with `k` | the `k`-th of the list |
| is a base with `m` behind it | the base with `10 m + k` | one of those whom the base finds |
| has only digits | no base with a number | nobody |

`openBlock_advised` says so for every command that is refused with such a list.  A student
whom the base finds need not be the one on the list (`openBlock_advised_another`).
-/
import DialogueSheet.Proofs.Script.Numbered

namespace DialogueSheet
namespace Script

/-! ### The list -/

theorem onlyOne_eq_ambiguous {name listedName : String} {found : List Student}
    {listed : List String} (h : onlyOne name found = .error (.ambiguous listedName listed)) :
    listedName = name ∧ listed = found.map Student.name ∧ 2 ≤ found.length ∧
      found.length ≤ maxListed := by
  match found with
  | [] => cases h
  | [s] => cases h
  | s :: t :: rest =>
    simp only [onlyOne] at h
    split at h
    · cases h
    · rename_i hlength
      obtain ⟨rfl, rfl⟩ : _ ∧ _ := by simpa using h
      exact ⟨rfl, rfl, by simp, by omega⟩

/-- The list is of those whom the listed name finds; this is the name of the command or its
base. -/
theorem studentOf_eq_ambiguous {c : Catalog} {given : List Student} {name listedName : String}
    {listed : List String}
    (h : studentOf c given name = .error (.ambiguous listedName listed)) :
    listed = (c.findByName listedName given).map Student.name ∧
      (c.findByName listedName given).length ≤ maxListed ∧
      (listedName = name ∨ ∃ k, Numbered name listedName k) := by
  simp only [studentOf] at h
  split at h
  · rename_i base k hempty hsplit
    obtain ⟨rfl, hlisted, hseveral, hfew⟩ := onlyOne_eq_ambiguous h
    -- a number that picks one student leaves no list
    have hpick : pick (c.findByName listedName given) k = c.findByName listedName given := by
      cases k with
      | zero => rfl
      | succ i =>
        cases hi : (c.findByName listedName given)[i]? with
        | none => simp [pick, hi]
        | some who => simp [pick, hi] at hseveral
    rw [hpick] at hlisted hfew
    exact ⟨hlisted, hfew, Or.inr ⟨k, (splitIndex?_eq_some_iff.1 hsplit).1⟩⟩
  · obtain ⟨rfl, hlisted, -, hfew⟩ := onlyOne_eq_ambiguous h
    exact ⟨hlisted, hfew, Or.inl rfl⟩

/-! ### One more digit behind a name -/

theorem digit_of_lt_ten {k : Nat} (hk : k < 10) :
    (toString k).toList = [Nat.digitChar k] ∧ (Nat.digitChar k).isDigit = true ∧
      digitValue? (Nat.digitChar k) = some k ∧ Text.isBlank (Nat.digitChar k) = false := by
  revert k
  decide +kernel

theorem numbered_digit {name : String} {k : Nat} (hk : k < 10) (hname : name ≠ "")
    (hend : ∀ d, name.toList.getLast? = some d → d.isDigit = false) :
    Numbered (name ++ toString k) name k := by
  obtain ⟨htext, hdigit, hvalue, -⟩ := digit_of_lt_ten hk
  exact ⟨hname, hend, [Nat.digitChar k], by simp, by simpa using hdigit,
    by rw [String.toList_append, htext], by simp [natOfDigits, hvalue]⟩

theorem Numbered.digit {name base : String} {m k : Nat} (hk : k < 10) (h : Numbered name base m) :
    Numbered (name ++ toString k) base (10 * m + k) := by
  obtain ⟨htext, hdigit, hvalue, -⟩ := digit_of_lt_ten hk
  obtain ⟨hbase, hend, digits, -, hdigits, hname, rfl⟩ := h
  refine ⟨hbase, hend, digits ++ [Nat.digitChar k], by simp, ?_, ?_, ?_⟩
  · intro d hd
    rcases List.mem_append.1 hd with hd | hd
    · exact hdigits d hd
    · rw [List.mem_singleton.1 hd]
      exact hdigit
  · rw [String.toList_append, hname, htext, List.append_assoc]
  · rw [natOfDigits_concat, hvalue]
    rfl

/-- A name of digits alone has no base. -/
theorem not_numbered {name base : String} {k : Nat}
    (hdigits : ∀ d ∈ name.toList, d.isDigit = true) : ¬Numbered name base k := by
  rintro ⟨hbase, hend, digits, -, -, hname, -⟩
  have hne : base.toList ≠ [] := mt String.toList_eq_nil_iff.1 hbase
  have hlast := hend _ (List.getLast?_eq_some_getLast hne)
  have hmem : base.toList.getLast hne ∈ name.toList := by
    rw [hname]
    exact List.mem_append_left _ (List.getLast_mem hne)
  rw [hdigits _ hmem] at hlast
  cases hlast

theorem digits_concat {name : String} {k : Nat} (hk : k < 10)
    (hdigits : ∀ d ∈ name.toList, d.isDigit = true) :
    ∀ d ∈ (name ++ toString k).toList, d.isDigit = true := by
  obtain ⟨htext, hdigit, -, -⟩ := digit_of_lt_ten hk
  intro d hd
  rw [String.toList_append, htext] at hd
  rcases List.mem_append.1 hd with hd | hd
  · exact hdigits d hd
  · rw [List.mem_singleton.1 hd]
    exact hdigit

/-! ### The advised command -/

/-- The rest of a command with another name in front of the same text. -/
def renamed (rest : List Char) (name : String) : List Char :=
  name.toList ++ rest.dropWhile (!Text.isBlank ·)

theorem parted_renamed {rest name text : List Char} (h : Parted rest name text) {other : String}
    (hother : ∀ c ∈ other.toList, Text.isBlank c = false) :
    Parted (renamed rest other) other.toList text := by
  unfold renamed
  cases h with
  | whole hname =>
    have hdrop : rest.dropWhile (!Text.isBlank ·) = [] :=
      List.dropWhile_eq_nil_iff.2 (by simpa using hname)
    rw [hdrop, List.append_nil]
    exact .whole hother
  | @atBlank name tail blank hname hblank =>
    have hdrop : (name ++ blank :: tail).dropWhile (!Text.isBlank ·) = blank :: tail := by
      rw [List.dropWhile_append_of_pos (by simpa using hname)]
      simp [hblank]
    rw [hdrop]
    exact .atBlank hother hblank

theorem Parted.name_not_blank {rest name text : List Char} (h : Parted rest name text) :
    ∀ c ∈ name, Text.isBlank c = false := by
  cases h with
  | whole hname => exact hname
  | atBlank hname _ => exact hname

/-- A command that is refused with a list is a speaker's or a banner's, and names the list. -/
theorem of_openBlock_eq_ambiguous {c : Catalog} {given : List Student} {role : Role}
    {rest : List Char} {listedName : String} {listed : List String}
    (h : openBlock c given role rest = .error (.ambiguous listedName listed)) :
    ∃ name text, (role = .speaker ∨ role = .banner) ∧ Parted rest name text ∧ name ≠ [] ∧
      studentOf c given (String.ofList name) = .error (.ambiguous listedName listed) := by
  have hparted : Parted rest (Text.splitAtBlank rest).1
      (Text.trimChars (Text.splitAtBlank rest).2) := parted_iff.2 ⟨rfl, rfl⟩
  have hrole : role = .speaker ∨ role = .banner := by
    cases role with
    | speaker => exact Or.inl rfl
    | banner => exact Or.inr rfl
    | counterpart => cases h
    | choices => cases h
  refine ⟨_, _, hrole, hparted, ?_⟩
  rw [openBlock_ofStudent hrole hparted] at h
  split at h
  · cases h
  · rename_i hname
    refine ⟨by simpa using hname, ?_⟩
    cases hstudent : studentOf c given (String.ofList (Text.splitAtBlank rest).1) with
    | ok who => rw [hstudent] at h; cases h
    | error fault => rw [hstudent] at h; exact congrArg Except.error (Except.error.inj h)

/-- The listed name is the front of the name in the command. -/
theorem exists_listedName_append {c : Catalog} {given : List Student} {name : List Char}
    {listedName : String} {listed : List String} (hname : name ≠ [])
    (h : studentOf c given (String.ofList name) = .error (.ambiguous listedName listed)) :
    listedName ≠ "" ∧ ∃ digits, name = listedName.toList ++ digits := by
  obtain ⟨-, -, rfl | ⟨k, hread⟩⟩ := studentOf_eq_ambiguous h
  · exact ⟨by simpa using hname, [], by simp⟩
  · obtain ⟨digits, -, -, hdigits, -⟩ := hread.digits
    exact ⟨hread.base_ne, digits, by simpa using hdigits⟩

/-- The advised command is taken by the number behind the advised name. -/
theorem openBlock_renamed {c : Catalog} {given : List Student} {role : Role}
    {rest name text : List Char} {listedName : String} {listed : List String}
    (hrole : role = .speaker ∨ role = .banner) (hparted : Parted rest name text)
    (hname : name ≠ [])
    (h : studentOf c given (String.ofList name) = .error (.ambiguous listedName listed)) {k : Nat}
    (hk : k < 10) (hnobody : c.findByName (listedName ++ toString k) given = []) (b : Block) :
    openBlock c given role (renamed rest (listedName ++ toString k)) = .ok b ↔
      ∃ base k' who, Numbered (listedName ++ toString k) base k' ∧ k' ≤ maxIndex ∧
        Picked (c.findByName base given) k' who ∧ b = ofStudent role text who := by
  obtain ⟨hne, digits, hfront⟩ := exists_listedName_append hname h
  obtain ⟨htext, -, -, hblank⟩ := digit_of_lt_ten hk
  have hadvised : ∀ ch ∈ (listedName ++ toString k).toList, Text.isBlank ch = false := by
    intro ch hch
    rw [String.toList_append, htext] at hch
    rcases List.mem_append.1 hch with hch | hch
    · exact hparted.name_not_blank ch (hfront ▸ List.mem_append_left _ hch)
    · rw [List.mem_singleton.1 hch]
      exact hblank
  have hopen := openBlock_picked hrole (parted_renamed hparted hadvised) (by simp [hne])
    (by rwa [String.ofList_toList]) b
  rwa [String.ofList_toList] at hopen

/-- **What the advised name comes to.**  The list is of those whom the listed name finds.
When the name with the number `i + 1` behind it finds nobody, the command with this name
picks the student with this number on the list, unless the listed name ends in a digit: then
its own digits count too, and there is no base when it has nothing but digits. -/
theorem openBlock_advised {c : Catalog} {given : List Student} {role : Role} {rest : List Char}
    {listedName : String} {listed : List String}
    (h : openBlock c given role rest = .error (.ambiguous listedName listed)) :
    ∃ name text, Parted rest name text ∧
      listed = (c.findByName listedName given).map Student.name ∧
      ∀ i who, (c.findByName listedName given)[i]? = some who →
        c.findByName (listedName ++ toString (i + 1)) given = [] →
        ((∀ d, listedName.toList.getLast? = some d → d.isDigit = false) →
          openBlock c given role (renamed rest (listedName ++ toString (i + 1))) =
            .ok (ofStudent role text who)) ∧
        (∀ base m, Numbered listedName base m → ∀ b,
          openBlock c given role (renamed rest (listedName ++ toString (i + 1))) = .ok b ↔
            10 * m + (i + 1) ≤ maxIndex ∧ ∃ other,
              ((c.findByName base given)[10 * m + i]? = some other ∨
                c.findByName base given = [other]) ∧ b = ofStudent role text other) ∧
        ((∀ d ∈ listedName.toList, d.isDigit = true) →
          ∃ fault, openBlock c given role (renamed rest (listedName ++ toString (i + 1))) =
            .error fault) := by
  obtain ⟨name, text, hrole, hparted, hname, hstudent⟩ := of_openBlock_eq_ambiguous h
  obtain ⟨hlisted, hfew, -⟩ := studentOf_eq_ambiguous hstudent
  refine ⟨name, text, hparted, hlisted, fun i who hwho hnobody => ?_⟩
  have hi : i + 1 < 10 := by
    obtain ⟨hlt, -⟩ := List.getElem?_eq_some_iff.1 hwho
    have hmax : maxListed = 5 := rfl
    omega
  have hopen := openBlock_renamed hrole hparted hname hstudent hi hnobody
  refine ⟨fun hend => ?_, fun base m hread b => ?_, fun hdigits => ?_⟩
  · have hread := numbered_digit hi (exists_listedName_append hname hstudent).1 hend
    exact (hopen _).2 ⟨listedName, i + 1, who, hread, hi.le.trans (by decide),
      Or.inl ⟨by omega, hwho⟩, rfl⟩
  · have hread' := hread.digit hi
    constructor
    · intro hb
      obtain ⟨base', k, other, hother, hk, hpicked, rfl⟩ := (hopen b).1 hb
      obtain ⟨rfl, rfl⟩ := hread'.unique hother
      exact ⟨hk, other, hpicked.imp_left And.right, rfl⟩
    · rintro ⟨hk, other, hpicked, rfl⟩
      exact (hopen _).2 ⟨base, _, other, hread', hk,
        hpicked.imp_left fun hget => ⟨by omega, hget⟩, rfl⟩
  · cases hcommand : openBlock c given role (renamed rest (listedName ++ toString (i + 1))) with
    | ok b =>
      obtain ⟨base, k, -, hread, -⟩ := (hopen b).1 hcommand
      exact absurd hread (not_numbered (digits_concat hi hdigits))
    | error fault => exact ⟨fault, rfl⟩

/-- The second of the three who are listed is picked by `2`. -/
theorem openBlock_advised_second :
    let c := Catalog.ofRecords [{ id := 1, name := "Hoshino (Swimsuit)" },
      { id := 2, name := "Hoshino (Armed)" }, { id := 3, name := "Hoshino (New Year)" }]
    openBlock c [] .banner "hoshino its story".toList = .error (.ambiguous "hoshino"
      ["Hoshino (Swimsuit)", "Hoshino (Armed)", "Hoshino (New Year)"]) ∧
    openBlock c [] .banner "hoshino2 its story".toList =
      .ok (.banner ⟨2, "Hoshino (Armed)", .cn⟩ "its story") := by
  intro c
  have hrefused : openBlock c [] .banner "hoshino its story".toList = .error (.ambiguous "hoshino"
      ["Hoshino (Swimsuit)", "Hoshino (Armed)", "Hoshino (New Year)"]) := by decide +kernel
  obtain ⟨name, text, hparted, -, hadvised⟩ := openBlock_advised hrefused
  obtain ⟨rfl, rfl⟩ := parted_iff.1 hparted
  have hend : ∀ d, "hoshino".toList.getLast? = some d → d.isDigit = false := by
    intro d hd
    have hlast : "hoshino".toList.getLast? = some 'o' := by decide +kernel
    obtain rfl := Option.some.inj (hlast.symm.trans hd)
    rfl
  have hsecond := (hadvised 1 { id := 2, name := "Hoshino (Armed)", language := some .cn }
    (by decide +kernel) (by decide +kernel)).1 hend
  exact ⟨hrefused, hsecond.trans (by decide +kernel)⟩

/-- The second of the two who are listed for `Unit0` is not picked by `Unit02`: this is the
second whom `Unit` finds. -/
theorem openBlock_advised_another :
    ¬∀ (c : Catalog) (given : List Student) (role : Role) (rest : List Char)
      (listedName : String) (listed : List String),
      openBlock c given role rest = .error (.ambiguous listedName listed) →
      ∀ i who, (c.findByName listedName given)[i]? = some who →
        c.findByName (listedName ++ toString (i + 1)) given = [] →
        ∃ text, openBlock c given role (renamed rest (listedName ++ toString (i + 1))) =
          .ok (ofStudent role text who) := by
  intro h
  let c := Catalog.ofRecords [{ id := 1, name := "Unit X" }, { id := 2, name := "Unit0 Red" },
    { id := 3, name := "Unit0 Blue" }]
  obtain ⟨text, hblue⟩ := h c [] .speaker "Unit0 hi".toList "Unit0" ["Unit0 Red", "Unit0 Blue"]
    (by decide +kernel) 1 { id := 3, name := "Unit0 Blue", language := some .cn }
    (by decide +kernel) (by decide +kernel)
  have hred : openBlock c [] .speaker (renamed "Unit0 hi".toList "Unit02") =
      .ok (.speaker ⟨2, "Unit0 Red", .cn⟩ ["hi"]) := by decide +kernel
  have hboth := Except.ok.inj (hred.symm.trans hblue)
  simp [ofStudent, Student.ref] at hboth

end Script
end DialogueSheet
