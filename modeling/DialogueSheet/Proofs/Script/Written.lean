/-
# What a section of a script writes

| a section opens with | it writes |
| --- | --- |
| `/S name text` | the student's lines: `text` unless it is empty, then the lines behind |
| `/T text` | the reader's lines: `text` unless it is empty, then the lines behind |
| `/O option` | the choices: `option`, even an empty one, then the lines behind |
| `/K name text` | a caption: `text`, or the usual one when it is empty, then the lines behind |

A name ends at the first blank (`Parted`), and it must belong to one student (`Names`).
`Written` says this section by section; opening a block by the command and adding the
lines to it comes to the same (`written_of_opened`, `opened_of_written`).
-/
import DialogueSheet.Proofs.Script.Outline
import Mathlib.Data.List.TakeWhile

namespace DialogueSheet

/-- The block with more lines. -/
def Block.addLines (b : Block) (lines : List String) : Block :=
  lines.foldl (fun b line => b.addLine line) b

namespace Block

/-- Every block but a banner puts further lines behind those it has. -/
theorem addLines_append {f : List String → Block}
    (hf : ∀ lines line, (f lines).addLine line = f (lines ++ [line])) (lines more : List String) :
    (f lines).addLines more = f (lines ++ more) := by
  induction more generalizing lines with
  | nil => simp [addLines]
  | cons line more ih =>
    calc (f lines).addLines (line :: more)
        = (f (lines ++ [line])).addLines more := by rw [← hf]; rfl
      _ = f (lines ++ line :: more) := by rw [ih]; simp

/-- A banner puts further lines on lines of their own behind its caption. -/
theorem addLines_banner (who : StudentRef) (caption : String) (more : List String) :
    (banner who caption).addLines more =
      banner who (String.intercalate "\n" (caption :: more)) := by
  induction more generalizing caption with
  | nil => rfl
  | cons line more ih =>
    calc (banner who caption).addLines (line :: more)
        = (banner who (caption ++ "\n" ++ line)).addLines more := rfl
      _ = banner who (String.intercalate "\n" (caption :: line :: more)) := by rw [ih]; rfl

end Block

namespace Script

/-- A text parted at its first blank: the name before it and the trimmed text behind. -/
inductive Parted : (rest name text : List Char) → Prop where
  | whole {name : List Char} (hname : ∀ c ∈ name, Text.isBlank c = false) : Parted name name []
  | atBlank {name tail : List Char} {blank : Char} (hname : ∀ c ∈ name, Text.isBlank c = false)
      (hblank : Text.isBlank blank = true) :
      Parted (name ++ blank :: tail) name (Text.trimChars tail)

theorem parted_iff {rest name text : List Char} : Parted rest name text ↔
    name = (Text.splitAtBlank rest).1 ∧ text = Text.trimChars (Text.splitAtBlank rest).2 := by
  constructor
  · intro h
    cases h with
    | whole hname =>
      have htake : rest.takeWhile (!Text.isBlank ·) = rest :=
        List.takeWhile_eq_self_iff.2 (by simpa using hname)
      have hdrop : rest.dropWhile (!Text.isBlank ·) = [] :=
        List.dropWhile_eq_nil_iff.2 (by simpa using hname)
      simp [Text.splitAtBlank, htake, hdrop, Text.trimChars, Text.trimRight]
    | @atBlank name tail blank hname hblank =>
      have hpos : ∀ c ∈ name, (!Text.isBlank c) = true := by simpa using hname
      simp [Text.splitAtBlank, List.takeWhile_append_of_pos hpos,
        List.dropWhile_append_of_pos hpos, hblank]
  · rintro ⟨rfl, rfl⟩
    have hname : ∀ c ∈ rest.takeWhile (!Text.isBlank ·), Text.isBlank c = false := fun c hc => by
      simpa using List.mem_takeWhile_imp hc
    cases htail : rest.dropWhile (!Text.isBlank ·) with
    | nil =>
      have hwhole : rest.takeWhile (!Text.isBlank ·) = rest := by
        have happend := List.takeWhile_append_dropWhile (p := (!Text.isBlank ·)) (l := rest)
        rwa [htail, List.append_nil] at happend
      rw [hwhole] at hname
      have hnil : Text.trimChars [] = [] := rfl
      simpa [Text.splitAtBlank, htail, hwhole, hnil] using Parted.whole hname
    | cons blank tail =>
      have hblank : Text.isBlank blank = true := by
        have h := List.head?_dropWhile_not (p := (!Text.isBlank ·)) rest
        simpa [htail] using h
      have hparted : Parted _ _ (Text.trimChars tail) := .atBlank hname hblank
      rw [← htail, List.takeWhile_append_dropWhile] at hparted
      simpa [Text.splitAtBlank, htail] using hparted

/-- A name belongs to one student: a search for it finds nobody else, or it finds nobody
and the name is that of a student with a number behind it. -/
inductive Names (c : Catalog) (given : List Student) (name : String) (who : Student) : Prop where
  | alone (hfound : c.findByName name given = [who]) : Names c given name who
  | numbered {base : String} {i : Nat} (hnone : c.findByName name given = [])
      (hsplit : splitIndex? name = some (base, i + 1))
      (hwho : (c.findByName base given)[i]? = some who) : Names c given name who
  | numberedAlone {base : String} {index : Nat} (hnone : c.findByName name given = [])
      (hsplit : splitIndex? name = some (base, index))
      (hfound : c.findByName base given = [who]) : Names c given name who

theorem onlyOne_eq_ok_iff {name : String} {found : List Student} {who : Student} :
    onlyOne name found = .ok who ↔ found = [who] := by
  match found with
  | [] => simp [onlyOne]
  | [s] => simp [onlyOne]
  | s :: t :: rest =>
    simp only [onlyOne]
    split <;> simp

theorem pick_eq_singleton_iff {found : List Student} {index : Nat} {who : Student} :
    pick found index = [who] ↔
      found = [who] ∨ ∃ i, index = i + 1 ∧ found[i]? = some who := by
  cases index with
  | zero => simp [pick]
  | succ i =>
    cases hi : found[i]? with
    | none => simp [pick, hi]
    | some s =>
      have hpick : pick found (i + 1) = [s] := by simp [pick, hi]
      rw [hpick]
      constructor
      · intro h
        exact Or.inr ⟨i, rfl, by rw [hi, List.singleton_inj.1 h]⟩
      · rintro (rfl | ⟨j, hj, hwho⟩)
        · cases i <;> simp_all
        · obtain rfl : i = j := Nat.succ.inj hj
          rw [List.singleton_inj]
          exact Option.some.inj (hi.symm.trans hwho)

theorem studentOf_eq_ok_iff {c : Catalog} {given : List Student} {name : String}
    {who : Student} : studentOf c given name = .ok who ↔ Names c given name who := by
  constructor
  · intro h
    simp only [studentOf] at h
    split at h
    · rename_i base index hempty hsplit
      have hnone : c.findByName name given = [] := List.isEmpty_iff.1 hempty
      rcases pick_eq_singleton_iff.1 (onlyOne_eq_ok_iff.1 h) with hfound | ⟨i, rfl, hwho⟩
      · exact .numberedAlone hnone hsplit hfound
      · exact .numbered hnone hsplit hwho
    · exact .alone (onlyOne_eq_ok_iff.1 h)
  · intro h
    cases h with
    | alone hfound => simp [studentOf, hfound, onlyOne]
    | numbered hnone hsplit hwho =>
      have hpick := pick_eq_singleton_iff.2 (Or.inr ⟨_, rfl, hwho⟩)
      simp [studentOf, hnone, hsplit, onlyOne_eq_ok_iff.2 hpick]
    | @numberedAlone base index hnone hsplit hfound =>
      have hpick : pick (c.findByName base given) index = [who] :=
        pick_eq_singleton_iff.2 (Or.inl hfound)
      simp [studentOf, hnone, hsplit, onlyOne_eq_ok_iff.2 hpick]

/-- The block that a section writes. -/
inductive Written (c : Catalog) (given : List Student) (s : Section) : Block → Prop where
  | speaker {name text : List Char} {who : Student} (hrole : s.role = .speaker)
      (hparted : Parted s.rest name text) (hname : name ≠ [])
      (hwho : Names c given (String.ofList name) who) :
      Written c given s (.speaker who.ref (initialLines text ++ s.texts))
  | counterpart (hrole : s.role = .counterpart) :
      Written c given s (.counterpart (initialLines s.rest ++ s.texts))
  | choices (hrole : s.role = .choices) :
      Written c given s (.choices (String.ofList s.rest :: s.texts))
  | emptyBanner {name : List Char} {who : Student} (hrole : s.role = .banner)
      (hparted : Parted s.rest name []) (hname : name ≠ [])
      (hwho : Names c given (String.ofList name) who) :
      Written c given s (.banner who.ref
        (String.intercalate "\n" (Block.defaultCaption who.name :: s.texts)))
  | banner {name text : List Char} {who : Student} (hrole : s.role = .banner)
      (hparted : Parted s.rest name text) (hname : name ≠ [])
      (hwho : Names c given (String.ofList name) who) (htext : text ≠ []) :
      Written c given s (.banner who.ref (String.intercalate "\n" (String.ofList text :: s.texts)))

/-- What becomes of a section: its block, or the fault of its command. -/
def Section.opened (c : Catalog) (given : List Student) (s : Section) : Except LineFault Block :=
  (openBlock c given s.role s.rest).map (·.addLines s.texts)

theorem map_eq_ok_iff {ε α β : Type} {f : α → β} {x : Except ε α} {b : β} :
    x.map f = .ok b ↔ ∃ a, x = .ok a ∧ f a = b := by
  cases x <;> simp [Except.map]

/-- The block that a command opens for a student. -/
def ofStudent (role : Role) (text : List Char) (who : Student) : Block :=
  if role = .banner then
    .banner who.ref (if text.isEmpty then Block.defaultCaption who.name else String.ofList text)
  else .speaker who.ref (initialLines text)

theorem openBlock_ofStudent {c : Catalog} {given : List Student} {role : Role}
    {rest name text : List Char} (hrole : role = .speaker ∨ role = .banner)
    (hparted : Parted rest name text) : openBlock c given role rest =
      if name.isEmpty then .error .noName
      else (studentOf c given (String.ofList name)).map (ofStudent role text) := by
  obtain ⟨rfl, rfl⟩ := parted_iff.1 hparted
  rcases hrole with rfl | rfl <;> rfl

theorem addLines_ofStudent_speaker (text : List Char) (who : Student) (more : List String) :
    (ofStudent .speaker text who).addLines more =
      .speaker who.ref (initialLines text ++ more) :=
  Block.addLines_append (f := Block.speaker who.ref) (fun _ _ => rfl) _ _

theorem written_of_opened {c : Catalog} {given : List Student} {s : Section} {b : Block}
    (h : s.opened c given = .ok b) : Written c given s b := by
  have hparted : Parted s.rest (Text.splitAtBlank s.rest).1
      (Text.trimChars (Text.splitAtBlank s.rest).2) := parted_iff.2 ⟨rfl, rfl⟩
  obtain ⟨opened, hopened, rfl⟩ := map_eq_ok_iff.1 h
  cases hrole : s.role with
  | counterpart =>
    rw [hrole] at hopened
    rw [← Except.ok.inj hopened,
      Block.addLines_append (f := Block.counterpart) (fun _ _ => rfl)]
    exact .counterpart hrole
  | choices =>
    rw [hrole] at hopened
    rw [← Except.ok.inj hopened, Block.addLines_append (f := Block.choices) (fun _ _ => rfl)]
    exact .choices hrole
  | speaker =>
    rw [hrole, openBlock_ofStudent (Or.inl rfl) hparted] at hopened
    split at hopened
    · cases hopened
    · rename_i hname
      obtain ⟨who, hwho, rfl⟩ := map_eq_ok_iff.1 hopened
      rw [addLines_ofStudent_speaker]
      exact .speaker hrole hparted (by simpa using hname) (studentOf_eq_ok_iff.1 hwho)
  | banner =>
    rw [hrole, openBlock_ofStudent (Or.inr rfl) hparted] at hopened
    split at hopened
    · cases hopened
    · rename_i hname
      obtain ⟨who, hwho, rfl⟩ := map_eq_ok_iff.1 hopened
      rw [studentOf_eq_ok_iff] at hwho
      rw [ofStudent, if_pos rfl, Block.addLines_banner]
      split
      · rename_i htext
        rw [List.isEmpty_iff.1 htext] at hparted
        exact .emptyBanner hrole hparted (by simpa using hname) hwho
      · rename_i htext
        exact .banner hrole hparted (by simpa using hname) hwho (by simpa using htext)

theorem opened_of_written {c : Catalog} {given : List Student} {s : Section} {b : Block}
    (h : Written c given s b) : s.opened c given = .ok b := by
  rw [Section.opened, map_eq_ok_iff]
  cases h with
  | counterpart hrole =>
    refine ⟨.counterpart (initialLines s.rest), by rw [hrole]; rfl, ?_⟩
    exact Block.addLines_append (f := Block.counterpart) (fun _ _ => rfl) _ _
  | choices hrole =>
    refine ⟨.choices [String.ofList s.rest], by rw [hrole]; rfl, ?_⟩
    exact Block.addLines_append (f := Block.choices) (fun _ _ => rfl) _ _
  | speaker hrole hparted hname hwho =>
    refine ⟨_, ?_, addLines_ofStudent_speaker _ _ _⟩
    rw [hrole, openBlock_ofStudent (Or.inl rfl) hparted, if_neg (by simpa using hname),
      studentOf_eq_ok_iff.2 hwho]
    rfl
  | emptyBanner hrole hparted hname hwho =>
    refine ⟨_, ?_, Block.addLines_banner _ _ _⟩
    rw [hrole, openBlock_ofStudent (Or.inr rfl) hparted, if_neg (by simpa using hname),
      studentOf_eq_ok_iff.2 hwho]
    rfl
  | banner hrole hparted hname hwho htext =>
    refine ⟨_, ?_, Block.addLines_banner _ _ _⟩
    rw [hrole, openBlock_ofStudent (Or.inr rfl) hparted, if_neg (by simpa using hname),
      studentOf_eq_ok_iff.2 hwho]
    simp [Except.map, ofStudent, htext]

end Script
end DialogueSheet
