/-
# Reading a script by its outline

`Script.parse` reads line by line with one block open.  What it comes to is said on the
outline: every line of the lead and every command that cannot open a block is noted with
its number; a script without notes is the blocks that its sections write, and a script
with notes is refused with just these (`parse_outline`).  The step from the lines to the
outline is `close_foldl_read`, which holds of any state: what is open takes the lines up
to the first command, and each section adds its block or its note.

A script of blank lines has nothing to note.  It is refused for having no command, with
one message that names no line (`parse_blank_unnumbered`).
-/
import DialogueSheet.Proofs.Script.Written
import Mathlib.Data.List.Forall2

namespace DialogueSheet
namespace Script

/-! ### What is noted -/

/-- A fault with the number of its line. -/
abbrev Note := Nat × LineFault

/-- The note on a line that no command stands before. -/
def leadNote (l : Nat × List Char) : Note := (l.1, .noCommand (String.ofList (l.2.take 2)))

/-- The note on a section whose command cannot open a block. -/
def Section.note? (c : Catalog) (given : List Student) (s : Section) : Option Note :=
  match s.opened c given with
  | .ok _ => none
  | .error fault => some (s.line.1, fault)

/-- The notes on a script, by its outline. -/
def Outline.notes (c : Catalog) (given : List Student) (o : Outline) : List Note :=
  o.lead.map leadNote ++ o.sections.filterMap (Section.note? c given)

/-- The fault that a note reports. -/
def Note.fault (n : Note) : ScriptFault := .atLine n.1 n.2

/-- The blocks of a script, by its outline. -/
def Outline.blocks (c : Catalog) (given : List Student) (o : Outline) : List Block :=
  o.sections.filterMap fun s => (s.opened c given).toOption

/-! ### Reading line by line -/

/-- The block that is open, with the lines up to the next command. -/
def Current.blocks (lines : List (Nat × List Char)) : Current → List Block
  | .block b => [b.addLines (lines.map fun l => String.ofList l.2)]
  | _ => []

/-- The notes on the lines up to the next command. -/
def Current.notes (lines : List (Nat × List Char)) : Current → List Note
  | .nothing => lines.map leadNote
  | _ => []

theorem close_eq (s : State) :
    s.close = { s with current := .nothing, blocks := s.blocks ++ s.current.blocks [] } := by
  obtain ⟨current, blocks, faults, hasCommand⟩ := s
  cases current <;> simp [State.close, Current.blocks, Block.addLines]

theorem command_ok (s : State) (number : Nat) (b : Block) :
    s.command number (.ok b) = ⟨.block b, s.blocks ++ s.current.blocks [], s.faults, true⟩ := by
  rw [State.command, close_eq]

theorem command_error (s : State) (number : Nat) (fault : LineFault) :
    s.command number (.error fault) = ⟨.refused, s.blocks ++ s.current.blocks [],
      s.faults ++ [Note.fault (number, fault)], true⟩ := by
  rw [State.command, close_eq]
  rfl

@[simp] theorem Current.notes_nil (current : Current) : current.notes [] = [] := by
  cases current <;> rfl

@[simp] theorem Current.notes_block (lines : List (Nat × List Char)) (b : Block) :
    (Current.block b).notes lines = [] := rfl

@[simp] theorem Current.notes_refused (lines : List (Nat × List Char)) :
    Current.refused.notes lines = [] := rfl

/-- **Reading lines adds what their outline says.**  The lines up to the first command go
to the block that is open; the induction on the lines takes any state, since the outline
of the later lines is read from whatever the first line leaves open. -/
theorem close_foldl_read (c : Catalog) (given : List Student) (ls : List (Nat × List Char)) :
    ∀ s : State, (ls.foldl (State.read c given) s).close =
      { current := .nothing
        blocks := s.blocks ++ s.current.blocks (Outline.ofLines ls).lead
          ++ (Outline.ofLines ls).blocks c given
        faults := s.faults ++ (s.current.notes (Outline.ofLines ls).lead
          ++ (Outline.ofLines ls).sections.filterMap (Section.note? c given)).map Note.fault
        hasCommand := s.hasCommand || !(Outline.ofLines ls).sections.isEmpty } := by
  induction ls with
  | nil =>
    intro s
    rw [List.foldl_nil, close_eq]
    simp [Outline.ofLines, Outline.blocks]
  | cons l ls ih =>
    intro s
    have hofLines : Outline.ofLines (l :: ls) = Outline.cons l (Outline.ofLines ls) := rfl
    rw [List.foldl_cons, ih, hofLines]
    cases h : command? l.2 with
    | none =>
      have hread : State.read c given s l = s.proceed l.1 l.2 := by rw [State.read, h]
      obtain ⟨hlead, hsections⟩ := Outline.cons_of_plain h (Outline.ofLines ls)
      obtain ⟨current, blocks, faults, hasCommand⟩ := s
      rw [hread, Outline.blocks, Outline.blocks, hlead, hsections]
      cases current <;>
        simp [State.proceed, State.report, Current.blocks, Current.notes, Block.addLines,
          leadNote, Note.fault]
    | some command =>
      obtain ⟨role, rest⟩ := command
      have hread : State.read c given s l = s.command l.1 (openBlock c given role rest) := by
        rw [State.read, h]
      rw [hread, Outline.cons_of_command h]
      cases hopen : openBlock c given role rest with
      | ok b =>
        rw [command_ok]
        simp [Outline.blocks, Section.opened, Section.note?, Section.texts, hopen, Except.map,
          Except.toOption, Current.blocks]
      | error fault =>
        rw [command_error]
        simp [Outline.blocks, Section.opened, Section.note?, hopen, Except.map,
          Except.toOption, Current.blocks]

/-- The outline of a script. -/
def outline (script : String) : Outline := .ofLines (numberedLines script)

theorem parse_eq (c : Catalog) (given : List Student) (script : String) :
    parse c given script =
      if ((outline script).notes c given).isEmpty then
        if (outline script).sections.isEmpty then .error [.empty]
        else .ok ((outline script).blocks c given)
      else .error (((outline script).notes c given).map Note.fault) := by
  have hclose := close_foldl_read c given (numberedLines script) State.start
  rw [parse, State.finish, hclose]
  cases hsections : (outline script).sections <;>
    simp_all [outline, State.start, Current.blocks, Current.notes, Outline.notes]

/-! ### The verdict on a script -/

theorem note?_cases (c : Catalog) (given : List Student) (s : Section) :
    ((∃ b, Written c given s b) ∧ s.note? c given = none) ∨
      ((¬∃ b, Written c given s b) ∧ ∃ fault, s.note? c given = some (s.line.1, fault)) := by
  cases hopened : s.opened c given with
  | ok b => exact Or.inl ⟨⟨b, written_of_opened hopened⟩, by simp [Section.note?, hopened]⟩
  | error fault =>
    refine Or.inr ⟨?_, fault, by simp [Section.note?, hopened]⟩
    rintro ⟨b, hb⟩
    rw [opened_of_written hb] at hopened
    cases hopened

theorem notes_eq_nil_iff {c : Catalog} {given : List Student} {o : Outline} :
    o.notes c given = [] ↔ o.lead = [] ∧ ∀ s ∈ o.sections, ∃ b, Written c given s b := by
  have hnote : ∀ s : Section, s.note? c given = none ↔ ∃ b, Written c given s b := fun s => by
    rcases note?_cases c given s with ⟨hb, hnone⟩ | ⟨hb, fault, hsome⟩
    · exact ⟨fun _ => hb, fun _ => hnone⟩
    · exact ⟨fun h => by simp [hsome] at h, fun h => absurd h hb⟩
  simp only [Outline.notes, List.append_eq_nil_iff, List.map_eq_nil_iff, List.filterMap_eq_nil_iff,
    hnote]

theorem forall₂_written {c : Catalog} {given : List Student} {sections : List Section}
    (h : ∀ s ∈ sections, ∃ b, Written c given s b) :
    List.Forall₂ (Written c given) sections
      (sections.filterMap fun s => (s.opened c given).toOption) := by
  induction sections with
  | nil => exact .nil
  | cons s sections ih =>
    obtain ⟨b, hb⟩ := h s List.mem_cons_self
    rw [List.filterMap_cons_some (b := b) (by rw [opened_of_written hb]; rfl)]
    exact .cons hb (ih fun t ht => h t (List.mem_cons_of_mem _ ht))

theorem notes_numbers_sublist (c : Catalog) (given : List Student) (o : Outline) :
    ((o.notes c given).map Prod.fst).Sublist (o.lines.map Prod.fst) := by
  have hsections : ∀ sections : List Section,
      ((sections.filterMap (Section.note? c given)).map Prod.fst).Sublist
        ((sections.flatMap fun s => s.line :: s.body).map Prod.fst) := by
    intro sections
    induction sections with
    | nil => exact List.Sublist.refl _
    | cons s sections ih =>
      have hbody := ih.trans (List.sublist_append_right (s.body.map Prod.fst) _)
      rcases note?_cases c given s with ⟨-, hnone⟩ | ⟨-, fault, hsome⟩
      · rw [List.filterMap_cons_none hnone]
        simpa using hbody.cons s.line.1
      · rw [List.filterMap_cons_some hsome]
        simpa using hbody.cons_cons s.line.1
  have hlead : (o.lead.map leadNote).map Prod.fst = o.lead.map Prod.fst := by
    simp [leadNote, Function.comp_def]
  rw [Outline.notes, Outline.lines, List.map_append, List.map_append, hlead]
  exact (hsections o.sections).append_left _

/-- The notes stand in the order of their lines. -/
theorem pairwise_notes (c : Catalog) (given : List Student) (script : String) :
    ((outline script).notes c given).Pairwise fun m n => m.1 < n.1 := by
  have hnumbers : ((numberedLines script).map Prod.fst).Pairwise (· < ·) :=
    List.pairwise_map.2 (pairwise_numberedLines script)
  have hsublist := notes_numbers_sublist c given (outline script)
  rw [outline, Outline.lines_ofLines] at hsublist
  exact List.pairwise_map.1 (hnumbers.sublist hsublist)

theorem parse_eq_ok_iff {c : Catalog} {given : List Student} {script : String}
    {blocks : List Block} : parse c given script = .ok blocks ↔
      (outline script).sections ≠ [] ∧ (outline script).notes c given = [] ∧
        (outline script).blocks c given = blocks := by
  rw [parse_eq]
  by_cases hnotes : (outline script).notes c given = [] <;>
    by_cases hsections : (outline script).sections = [] <;> simp [hnotes, hsections]

theorem parse_eq_error_iff {c : Catalog} {given : List Student} {script : String}
    {faults : List ScriptFault} : parse c given script = .error faults ↔
      (numberedLines script = [] ∧ [ScriptFault.empty] = faults) ∨
        ((outline script).notes c given ≠ [] ∧
          ((outline script).notes c given).map Note.fault = faults) := by
  have hblank : numberedLines script = [] ↔
      (outline script).notes c given = [] ∧ (outline script).sections = [] := by
    rw [← Outline.lines_ofLines (numberedLines script), ← outline, notes_eq_nil_iff,
      Outline.lines, List.append_eq_nil_iff, List.flatMap_eq_nil_iff]
    constructor
    · rintro ⟨hlead, hsections⟩
      have hnil : (outline script).sections = [] :=
        List.eq_nil_iff_forall_not_mem.2 fun s hs => by simpa using hsections s hs
      exact ⟨⟨hlead, by simp [hnil]⟩, hnil⟩
    · rintro ⟨⟨hlead, -⟩, hnil⟩
      exact ⟨hlead, by simp [hnil]⟩
  rw [parse_eq, hblank]
  by_cases hnotes : (outline script).notes c given = [] <;>
    by_cases hsections : (outline script).sections = [] <;> simp [hnotes, hsections]

/-- The numbered messages on a script. -/
def messages (c : Catalog) (given : List Student) (script : String) : List String :=
  ((outline script).notes c given).map fun n =>
    "line " ++ toString n.1 ++ ": " ++ n.2.message

/-- **A script is judged by its outline.**  The outline holds the numbered lines, each
once and in order.  The script is accepted exactly when it has a section, no lead, and
every section writes a block; then its blocks are these.  Otherwise there is one numbered
message for each line of the lead and each section that writes none, in the order of the
lines, or, when all lines are blank, one message without a number. -/
theorem parse_outline (c : Catalog) (given : List Student) (script : String) :
    (outline script).lines = numberedLines script ∧
    (∀ number text, (number, text) ∈ numberedLines script ↔ text ≠ [] ∧ ∃ i line,
      (script.toList.splitOn '\n')[i]? = some line ∧ number = i + 1 ∧
        text = Text.trimChars line) ∧
    (numberedLines script).Pairwise (fun a b => a.1 < b.1) ∧
    ((∃ blocks, parse c given script = .ok blocks) ↔
      (outline script).sections ≠ [] ∧ (outline script).lead = [] ∧
        ∀ s ∈ (outline script).sections, ∃ b, Written c given s b) ∧
    (∀ blocks, parse c given script = .ok blocks →
      List.Forall₂ (Written c given) (outline script).sections blocks) ∧
    (∀ faults, parse c given script = .error faults →
      faults.map ScriptFault.message = if numberedLines script = [] then
        ["script contains no command lines"] else messages c given script) ∧
    ((outline script).notes c given).Pairwise (fun m n => m.1 < n.1) ∧
    (∀ s : Section, ((∃ b, Written c given s b) ∧ s.note? c given = none) ∨
      ((¬∃ b, Written c given s b) ∧ ∃ fault, s.note? c given = some (s.line.1, fault))) := by
  refine ⟨Outline.lines_ofLines _, fun number text => mem_numberedLines,
    pairwise_numberedLines script, ?_, ?_, ?_, pairwise_notes c given script,
    note?_cases c given⟩
  · constructor
    · rintro ⟨blocks, h⟩
      obtain ⟨hsections, hnotes, -⟩ := parse_eq_ok_iff.1 h
      exact ⟨hsections, notes_eq_nil_iff.1 hnotes⟩
    · rintro ⟨hsections, hopen⟩
      exact ⟨_, parse_eq_ok_iff.2 ⟨hsections, notes_eq_nil_iff.2 hopen, rfl⟩⟩
  · intro blocks h
    obtain ⟨-, hnotes, rfl⟩ := parse_eq_ok_iff.1 h
    exact forall₂_written (notes_eq_nil_iff.1 hnotes).2
  · intro faults h
    rcases parse_eq_error_iff.1 h with ⟨hblank, rfl⟩ | ⟨hnotes, rfl⟩
    · rw [if_pos hblank]
      rfl
    · rw [if_neg, messages, List.map_map]
      · rfl
      · intro hblank
        apply hnotes
        rw [outline, hblank]
        rfl

/-- A script of blank lines has nothing to note, yet one message, and this has no number. -/
theorem parse_blank_unnumbered :
    ¬∀ (c : Catalog) (given : List Student) (script : String) (faults : List ScriptFault),
      parse c given script = .error faults →
        faults.map ScriptFault.message = messages c given script := by
  intro h
  have hempty := h (.ofRecords []) [] "" [.empty] rfl
  have hnil : messages (.ofRecords []) [] "" = [] := rfl
  rw [hnil] at hempty
  cases hempty

end Script
end DialogueSheet
