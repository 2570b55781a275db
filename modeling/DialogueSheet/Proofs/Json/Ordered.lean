/-
# Objects have their fields in order

A field is put in front of the first one with a greater key, in the place of one with its own
key.  So an object that is read from a text has its fields in ascending order of their keys
and no key twice (`ordered_of_parse?`), in whatever order the text has them.
-/
import DialogueSheet.Json.Reader
import Mathlib.Data.List.Lex

namespace DialogueSheet
namespace Json

/-- The code points of a key. -/
def codes (key : String) : List Nat := key.toList.map Char.toNat

/-- The keys ascend by the first code point that differs. -/
def Ordered (fields : List (String × Json)) : Prop :=
  fields.Pairwise fun f g => codes f.1 < codes g.1

theorem codes_injective : Function.Injective codes := by
  intro s t h
  have hchar : Function.Injective Char.toNat := fun _ _ => Char.toNat_inj.1
  exact String.toList_inj.1 (List.map_injective_iff.2 hchar h)

theorem keyBefore_iff {s t : List Char} :
    keyBefore s t = true ↔ s.map Char.toNat < t.map Char.toNat := by
  induction s generalizing t with
  | nil => cases t <;> simp [keyBefore]
  | cons a s ih =>
    cases t with
    | nil => simp [keyBefore]
    | cons b t =>
      rw [keyBefore, List.map_cons, List.map_cons, List.cons_lt_cons_iff, ← ih]
      by_cases hab : a.toNat = b.toNat
      · simp [hab]
      · simp [hab]

theorem mem_putField {key : String} {value : Json} {fields : List (String × Json)}
    {f : String × Json} (h : f ∈ putField key value fields) : f = (key, value) ∨ f ∈ fields := by
  induction fields with
  | nil => simpa [putField] using h
  | cons g rest ih =>
    obtain ⟨k, v⟩ := g
    rw [putField] at h
    split at h
    · rcases List.mem_cons.1 h with rfl | h
      · exact .inl rfl
      · exact .inr (List.mem_cons_of_mem _ h)
    · split at h
      · exact List.mem_cons.1 h
      · rcases List.mem_cons.1 h with rfl | h
        · exact .inr List.mem_cons_self
        · exact (ih h).imp_right (List.mem_cons_of_mem _)

/-- A field that is put in its place leaves all of them in order. -/
theorem Ordered.putField {fields : List (String × Json)} (h : Ordered fields) (key : String)
    (value : Json) : Ordered (putField key value fields) := by
  induction fields with
  | nil => simp [Json.putField, Ordered]
  | cons g rest ih =>
    obtain ⟨k, v⟩ := g
    obtain ⟨hbelow, hrest⟩ := List.pairwise_cons.1 h
    rw [Json.putField]
    split
    · rename_i hkey
      exact List.pairwise_cons.2 ⟨fun f hf => hkey ▸ hbelow f hf, hrest⟩
    · rename_i hkey
      split
      · rename_i hbefore
        have hlt : codes key < codes k := keyBefore_iff.1 hbefore
        refine List.pairwise_cons.2 ⟨List.forall_mem_cons.2 ⟨hlt, fun f hf => ?_⟩, h⟩
        exact hlt.trans (hbelow f hf)
      · rename_i hbefore
        have hlt : codes k < codes key := by
          refine lt_of_le_of_ne (not_lt.1 fun h => hbefore (keyBefore_iff.2 h)) fun heq => ?_
          exact hkey (codes_injective heq)
        refine List.pairwise_cons.2 ⟨fun f hf => ?_, ih hrest⟩
        rcases mem_putField hf with rfl | hf
        · exact hlt
        · exact hbelow f hf

theorem Ordered.foldl_putField {fields : List (String × Json)} (h : Ordered fields)
    (pairs : List (String × Json)) :
    Ordered (pairs.foldl (fun acc (k, v) => Json.putField k v acc) fields) := by
  induction pairs generalizing fields with
  | nil => exact h
  | cons pair rest ih => exact ih (h.putField pair.1 pair.2)

theorem ordered_ofFields {pairs fields : List (String × Json)}
    (h : ofFields pairs = .object fields) : Ordered fields := by
  have hempty : Ordered [] := .nil
  obtain rfl := Json.object.inj h
  exact hempty.foldl_putField pairs

/-- A number is the value of a literal. -/
theorem exists_literal {s rest : List Char} {v : Json} (h : readNumber s = some (v, rest)) :
    ∃ l : Literal, l.value? = some v := by
  unfold readNumber at h
  dsimp only at h
  split at h -- on the sign
  all_goals
    split at h
    · cases h
    · obtain ⟨fraction, -, h⟩ := Option.bind_eq_some_iff.1 h
      obtain ⟨power, -, h⟩ := Option.bind_eq_some_iff.1 h
      obtain ⟨value, hvalue, h⟩ := Option.bind_eq_some_iff.1 h
      obtain ⟨rfl, -⟩ := Prod.mk.inj (Option.some.inj h)
      exact ⟨_, hvalue⟩

theorem value?_ne_object (l : Literal) (fields : List (String × Json)) :
    l.value? ≠ some (.object fields) := by
  intro h
  rw [Literal.value?] at h
  repeat' split at h
  all_goals simp at h

theorem ordered_of_readValue {depth : Nat} {s rest : List Char} {fields : List (String × Json)}
    (h : readValue depth s = some (.object fields, rest)) : Ordered fields := by
  unfold readValue at h
  split at h
  · cases h
  · cases h
  · cases h
  · simp at h
  · -- a list
    split at h
    · cases h
    · split at h
      · cases h
      · simp at h
  · -- an object
    split at h
    · cases h
    · split at h
      · obtain ⟨hempty, -⟩ := Prod.mk.inj (Option.some.inj h)
        obtain rfl := Json.object.inj hempty
        exact .nil
      · obtain ⟨⟨pairs, rest'⟩, -, hpairs⟩ := Option.map_eq_some_iff.1 h
        exact ordered_ofFields (Prod.mk.inj hpairs).1
  · obtain ⟨l, hl⟩ := exists_literal h
    exact absurd hl (value?_ne_object l fields)

/-- **An object that is read has its keys in ascending order.** -/
theorem ordered_of_parse? {text : String} {fields : List (String × Json)}
    (h : parse? text = some (.object fields)) : Ordered fields := by
  rw [parse?] at h
  split at h
  · rename_i v rest hread
    split at h
    · obtain rfl := Option.some.inj h
      exact ordered_of_readValue hread
    · cases h
  · cases h

end Json
end DialogueSheet
