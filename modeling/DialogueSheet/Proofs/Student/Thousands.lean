/-
# Integers in groups of three digits

The digits of an integer are cut from the right into groups of three; what is left in front is the
first group.

| integer | text |
| --- | --- |
| `650` | `650` |
| `-1234567` | `-1,234,567` |
| `-9223372036854775808` | `-9,223,372,036,854,775,808` |

The text is known by its groups: it is the only one that is so grouped behind its sign and is the
decimal text of the integer once the commas are gone (`groupThousands_grouped`).
-/
import DialogueSheet.Student.Stats
import Mathlib

-- Mathlib is taken whole for `Int.toInt?_repr`: no single module of it brings the lemma along.

namespace DialogueSheet

/-- Groups of digits, one to three digits in the first and three in each other. -/
structure ThousandGroups (first : List Char) (others : List (List Char)) : Prop where
  first_ne_nil : first ≠ []
  length_first_le : first.length ≤ 3
  length_eq : ∀ group ∈ others, group.length = 3
  digits : ∀ c ∈ first ++ others.flatten, c.isDigit = true

/-- The text behind its minus sign, or the whole text when there is none in front. -/
def unsigned : List Char → List Char
  | '-' :: text => text
  | text => text

/-- The text is made of such groups behind its sign, with commas between them. -/
def Grouped (text : List Char) : Prop :=
  ∃ first others, (unsigned text).splitOn ',' = first :: others ∧ ThousandGroups first others

theorem unsigned_cases (text : List Char) :
    text = '-' :: unsigned text ∨ unsigned text = text := by
  unfold unsigned
  split
  · exact .inl rfl
  · exact .inr rfl

theorem unsigned_of_notMem {text : List Char} (h : '-' ∉ text) : unsigned text = text := by
  rcases unsigned_cases text with hsign | hsame
  · rw [hsign] at h
    exact absurd List.mem_cons_self h
  · exact hsame

theorem intercalate_cons_eq (first : List Char) (others : List (List Char)) :
    [','].intercalate (first :: others) = first ++ others.flatMap (',' :: ·) := by
  induction others generalizing first with
  | nil => simp
  | cons group others ih => simp [List.intercalate_cons_cons, ih]

namespace ThousandGroups

/-- A run of digits is cut into groups from the right. -/
theorem exists_flatten {digits : List Char} (hne : digits ≠ [])
    (hdigits : ∀ c ∈ digits, c.isDigit = true) :
    ∃ first others, ThousandGroups first others ∧ first ++ others.flatten = digits := by
  induction digits with
  | nil => exact absurd rfl hne
  | cons c digits ih =>
    by_cases hlast : digits = []
    · subst hlast
      exact ⟨[c], [], ⟨by simp, by simp, by simp, hdigits⟩, rfl⟩
    · obtain ⟨first, others, h, rfl⟩ := ih hlast fun d hd => hdigits d (List.mem_cons_of_mem _ hd)
      -- the digit goes to the group in front if there is room, else it starts a group of its own
      by_cases hroom : first.length < 3
      · exact ⟨c :: first, others, ⟨by simp, hroom, h.length_eq, hdigits⟩, rfl⟩
      · refine ⟨[c], first :: others, ⟨by simp, by simp, fun group hgroup => ?_, hdigits⟩, rfl⟩
        rcases List.mem_cons.1 hgroup with rfl | hgroup
        · have hle := h.length_first_le
          omega
        · exact h.length_eq group hgroup

variable {first : List Char} {others : List (List Char)} (h : ThousandGroups first others)
include h

theorem comma_notMem {group : List Char} (hgroup : group ∈ first :: others) : ',' ∉ group := by
  intro hcomma
  have hmem : ',' ∈ first ++ others.flatten := by
    rw [← List.flatten_cons]
    exact List.mem_flatten_of_mem hgroup hcomma
  exact absurd (h.digits ',' hmem) (by decide)

theorem nil_notMem : [] ∉ first :: others := by
  intro hnil
  rcases List.mem_cons.1 hnil with hfirst | hother
  · exact h.first_ne_nil hfirst.symm
  · exact absurd (h.length_eq [] hother) (by decide)

/-- The groups between commas are told apart again. -/
theorem splitOn_eq : ([','].intercalate (first :: others)).splitOn ',' = first :: others :=
  List.splitOn_intercalate ',' (fun _ hgroup => h.comma_notMem hgroup) (List.cons_ne_nil _ _)

/-- Without the commas, the groups are the digits. -/
theorem filter_eq : ([','].intercalate (first :: others)).filter (· ≠ ',') =
    first ++ others.flatten := by
  have hkept : ∀ group ∈ first :: others, group.filter (· ≠ ',') = group := fun group hgroup =>
    List.filter_eq_self.2 fun c hc => decide_eq_true fun hcomma =>
      h.comma_notMem hgroup (hcomma ▸ hc)
  have hothers : others.flatMap (fun group => (',' :: group).filter (· ≠ ',')) =
      others.flatMap id :=
    List.flatMap_congr fun group hgroup => by
      simpa using hkept group (List.mem_cons_of_mem _ hgroup)
  rw [intercalate_cons_eq, List.filter_append, hkept first List.mem_cons_self, List.filter_flatMap,
    hothers, List.flatMap_id]

theorem minus_notMem : '-' ∉ [','].intercalate (first :: others) := by
  intro hminus
  have hmem : '-' ∈ first ++ others.flatten := by
    rw [← h.filter_eq]
    exact List.mem_filter.2 ⟨hminus, by decide⟩
  exact absurd (h.digits '-' hmem) (by decide)

/-- No comma stands at an end of a text that is split into the groups. -/
theorem ends_ne_comma {text : List Char} (htext : text.splitOn ',' = first :: others) :
    text.head? ≠ some ',' ∧ text.getLast? ≠ some ',' := by
  have hnil := h.nil_notMem
  rw [← htext] at hnil
  constructor
  · intro hhead
    obtain ⟨tail, rfl⟩ := List.head?_eq_some_iff.1 hhead
    exact hnil (List.splitOn_append_cons_self [] tail ▸ List.mem_cons_self)
  · intro hlast
    obtain ⟨start, rfl⟩ := List.getLast?_eq_some_iff.1 hlast
    exact hnil (List.splitOn_append_cons_self start [] ▸ List.mem_append_right _ (by simp))

end ThousandGroups

theorem Grouped.ends_ne_comma {text : List Char} (h : Grouped text) :
    text.head? ≠ some ',' ∧ text.getLast? ≠ some ',' := by
  obtain ⟨first, others, hsplit, hgroups⟩ := h
  obtain ⟨hhead, hlast⟩ := hgroups.ends_ne_comma hsplit
  rcases unsigned_cases text with hsign | hsame
  · rw [hsign]
    refine ⟨by simp, fun hcomma => ?_⟩
    rw [List.getLast?_cons, Option.some.injEq] at hcomma
    cases hend : (unsigned text).getLast? with
    | none =>
      rw [hend] at hcomma
      exact absurd hcomma (by decide)
    | some c =>
      rw [hend] at hcomma hlast
      exact hlast (congrArg some hcomma)
  · rw [hsame] at hhead hlast
    exact ⟨hhead, hlast⟩

namespace StudentStats

/-! ### Where the commas stand -/

theorem length_flatten_mod {groups : List (List Char)}
    (h : ∀ group ∈ groups, group.length = 3) : groups.flatten.length % 3 = 0 := by
  rw [List.length_flatten, List.map_congr_left h]
  simp

theorem groupDigits_false_cons (c : Char) (rest : List Char) :
    groupDigits false (c :: rest) =
      if (rest.length + 1) % 3 = 0 then ',' :: c :: groupDigits false rest
      else c :: groupDigits false rest := by
  simp [groupDigits]

/-- Less than three digits in front of whole groups get no comma. -/
theorem groupDigits_short {digits rest : List Char} (hrest : rest.length % 3 = 0)
    (hdigits : digits.length < 3) :
    groupDigits false (digits ++ rest) = digits ++ groupDigits false rest := by
  induction digits with
  | nil => rfl
  | cons c digits ih =>
    rw [List.length_cons] at hdigits
    have hno : ¬((digits ++ rest).length + 1) % 3 = 0 := by
      rw [List.length_append]
      omega
    rw [List.cons_append, groupDigits_false_cons, if_neg hno, ih (by omega), List.cons_append]

/-- A comma stands in front of every group of three. -/
theorem groupDigits_flatten {groups : List (List Char)}
    (h : ∀ group ∈ groups, group.length = 3) :
    groupDigits false groups.flatten = groups.flatMap (',' :: ·) := by
  induction groups with
  | nil => rfl
  | cons group groups ih =>
    have hothers : ∀ other ∈ groups, other.length = 3 := fun other hother =>
      h other (List.mem_cons_of_mem _ hother)
    have hwhole := length_flatten_mod hothers
    have hgroup := h group List.mem_cons_self
    cases group with
    | nil => cases hgroup
    | cons c pair =>
      have hpair : pair.length = 2 := Nat.succ.inj hgroup
      have hcomma : ((pair ++ groups.flatten).length + 1) % 3 = 0 := by
        rw [List.length_append]
        omega
      rw [List.flatten_cons, List.cons_append, groupDigits_false_cons, if_pos hcomma,
        groupDigits_short hwhole (by omega), ih hothers, List.flatMap_cons]
      rfl

/-- **Commas stand between the groups**, and nowhere else. -/
theorem groupDigits_eq {first : List Char} {others : List (List Char)}
    (h : ThousandGroups first others) :
    groupDigits true (first ++ others.flatten) = [','].intercalate (first :: others) := by
  have hlength := h.length_first_le
  rw [intercalate_cons_eq]
  cases first with
  | nil => exact absurd rfl h.first_ne_nil
  | cons c digits =>
    rw [List.length_cons] at hlength
    have hrun : groupDigits false (digits ++ others.flatten) =
        digits ++ others.flatMap (',' :: ·) := by
      rw [groupDigits_short (length_flatten_mod h.length_eq) (by omega),
        groupDigits_flatten h.length_eq]
    exact congrArg (c :: ·) hrun

/-! ### Signs -/

theorem isDigit_of_mem_decimalDigits {n : Nat} {c : Char} (hc : c ∈ decimalDigits n) :
    c.isDigit = true :=
  Nat.isDigit_of_mem_toDigits (by decide) (by decide) hc

theorem toList_toString (n : Int) :
    (toString n).toList =
      if n < 0 then '-' :: decimalDigits n.natAbs else decimalDigits n.natAbs := by
  cases n with
  | ofNat n =>
    have hnat : ¬Int.ofNat n < 0 := by simp
    rw [if_neg hnat]
    exact Nat.toList_repr
  | negSucc n =>
    rw [if_pos (Int.negSucc_lt_zero n)]
    change ("-" ++ (n + 1).repr).toList = _
    rw [String.toList_append, Nat.toList_repr]
    rfl

theorem grouped_groupThousands (n : Int) : Grouped (groupThousands n) ∧
    (groupThousands n).filter (· ≠ ',') = (toString n).toList := by
  have hne : decimalDigits n.natAbs ≠ [] := Nat.toDigits_ne_nil
  obtain ⟨first, others, h, hjoin⟩ :=
    ThousandGroups.exists_flatten hne fun c hc => isDigit_of_mem_decimalDigits hc
  have hgroups :
      groupDigits true (decimalDigits n.natAbs) = [','].intercalate (first :: others) := by
    rw [← hjoin, groupDigits_eq h]
  rw [toList_toString, groupThousands, hgroups]
  split
  · refine ⟨⟨first, others, h.splitOn_eq, h⟩, ?_⟩
    rw [List.filter_cons_of_pos (by decide), h.filter_eq, hjoin]
  · refine ⟨⟨first, others, ?_, h⟩, ?_⟩
    · rw [unsigned_of_notMem h.minus_notMem, h.splitOn_eq]
    · rw [h.filter_eq, hjoin]

theorem eq_groupThousands {n : Int} {text : List Char} (hgrouped : Grouped text)
    (htext : text.filter (· ≠ ',') = (toString n).toList) : text = groupThousands n := by
  obtain ⟨first, others, hsplit, h⟩ := hgrouped
  have hjoin : unsigned text = [','].intercalate (first :: others) := by
    rw [← hsplit, List.intercalate_splitOn]
  have hdigits : (unsigned text).filter (· ≠ ',') = first ++ others.flatten := by
    rw [hjoin, h.filter_eq]
  have hgroups : groupDigits true (first ++ others.flatten) = unsigned text := by
    rw [groupDigits_eq h, hjoin]
  rw [toList_toString] at htext
  rw [groupThousands]
  rcases unsigned_cases text with hsign | hsame
  · rw [hsign, List.filter_cons_of_pos (by decide), hdigits] at htext
    split at htext
    · rw [if_pos ‹_›, ← (List.cons.inj htext).2, hgroups, ← hsign]
    · -- the digits have no sign
      have hdigit := isDigit_of_mem_decimalDigits (htext ▸ List.mem_cons_self)
      exact absurd hdigit (by decide)
  · rw [hsame] at hdigits hgroups
    rw [hdigits] at htext
    split at htext
    · have hdigit := h.digits '-' (htext ▸ List.mem_cons_self)
      exact absurd hdigit (by decide)
    · rw [if_neg ‹_›, ← htext, hgroups]

/-- **An integer is written as its decimal text in groups of three digits.**  No other text has
these groups behind its sign and these characters without the commas.  So no comma stands at an end
of it, and it reads back as the integer. -/
theorem groupThousands_grouped (n : Int) :
    (∀ text, Grouped text ∧ text.filter (· ≠ ',') = (toString n).toList ↔
      text = groupThousands n) ∧
    (groupThousands n).head? ≠ some ',' ∧ (groupThousands n).getLast? ≠ some ',' ∧
    (String.ofList ((groupThousands n).filter (· ≠ ','))).toInt? = some n := by
  obtain ⟨hgrouped, htext⟩ := grouped_groupThousands n
  obtain ⟨hhead, hlast⟩ := hgrouped.ends_ne_comma
  refine ⟨fun text => ⟨fun h => eq_groupThousands h.1 h.2, ?_⟩, hhead, hlast, ?_⟩
  · rintro rfl
    exact ⟨hgrouped, htext⟩
  · rw [htext, String.ofList_toList]
    exact Int.toInt?_repr n

example : groupThousands (-9223372036854775808) = "-9,223,372,036,854,775,808".toList := by
  decide +kernel

end StudentStats
end DialogueSheet
