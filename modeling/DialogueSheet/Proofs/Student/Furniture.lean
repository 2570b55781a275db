/-
# The furniture of a student

The member of the furniture may hold any value.  A record is read with it as without it, and its
furniture is the ids of the value: those of its leaves that are whole numbers of 32 bits, from left
to right (`furniture_flattened`).

| member | furniture |
| --- | --- |
| `[[1001, 1002], [1003]]` | 1001, 1002, 1003 |
| `[1001, [[-1, "1002"]], 1003.0, 1001]` | 1001, 1001 |
| `1001` | 1001 |
| `{"a": 1001}`, `null` | none |
-/
import DialogueSheet.Proofs.Json.Leaves

namespace DialogueSheet

namespace Json

/-! ### Members that differ in one -/

theorem lookup_putField (key other : String) (value : Json) (fields : List (String × Json)) :
    (putField key value fields).lookup other =
      if other = key then some value else fields.lookup other := by
  induction fields with
  | nil => grind [putField]
  | cons field rest ih =>
    obtain ⟨k, v⟩ := field
    rw [putField]
    -- in the place of the field, in front of it or behind it
    split
    · grind
    · split <;> grind

theorem lookup_zip_set {names : List String} (hnames : names.Nodup) {items : List Json} {i : Nat}
    {name : String} (hname : names[i]? = some name) (hi : i < items.length) (value : Json)
    (other : String) :
    (names.zip (items.set i value)).lookup other =
      if other = name then some value else (names.zip items).lookup other := by
  induction names generalizing items i with
  | nil => simp at hname
  | cons first names ih =>
    obtain ⟨hfirst, hrest⟩ := List.nodup_cons.1 hnames
    cases items with
    | nil => simp at hi
    | cons item items =>
      cases i with
      | zero =>
        obtain rfl := Option.some.inj hname
        rw [List.set_cons_zero, List.zip_cons_cons, List.zip_cons_cons]
        grind
      | succ i =>
        have hne : name ≠ first := by
          rintro rfl
          exact hfirst (List.mem_of_getElem? hname)
        have hlookup := ih hrest hname (Nat.lt_of_succ_lt_succ hi)
        rw [List.set_cons_succ, List.zip_cons_cons, List.zip_cons_cons]
        grind

theorem member_congr {α : Type} {m changed : List (String × Json)} {name : String}
    (h : changed.lookup name = m.lookup name) (default : α) (item : Json → Option α) :
    member changed name default item = member m name default item := by
  rw [member, member, h]

end Json

/-- A step that gives the same in both readings leaves their difference to the later ones. -/
theorem bind_eq_map_bind {α β γ : Type} {x y : Option α} {f : α → Option γ} {f' : α → Option β}
    {g : β → γ} (hxy : x = y) (h : ∀ a, f a = (f' a).map g) : x >>= f = (y >>= f').map g := by
  subst hxy
  cases x with
  | none => rfl
  | some a => exact h a

namespace Student

variable {m changed : List (String × Json)} {v : Json}

theorem numbersOf?_congr
    (h : ∀ name ≠ "FurnitureInteraction", changed.lookup name = m.lookup name) :
    numbersOf? changed = numbersOf? m := by
  have hmember {α : Type} (name : String) (hne : name ≠ "FurnitureInteraction") (default : α)
      (item : Json → Option α) : Json.member changed name default item =
        Json.member m name default item :=
    Json.member_congr (h name hne) default item
  simp only [numbersOf?, Json.growthMembers, Json.numberMember, Json.optionalMember, hmember,
    ne_eq, String.reduceEq, not_false_eq_true]

/-- With another value in the member of the furniture, a record is read the same but for its
furniture. -/
theorem ofJson?_of_lookup {r r' : Json} (hm : r.members? memberNames = some m)
    (hchanged : r'.members? memberNames = some changed)
    (h : ∀ name, changed.lookup name =
      if name = "FurnitureInteraction" then some v else m.lookup name) :
    ofJson? r' = (ofJson? r).map fun s => { s with furniture := v.flatIds } := by
  have hothers : ∀ name ≠ "FurnitureInteraction", changed.lookup name = m.lookup name :=
    fun name hne => (h name).trans (if_neg hne)
  have hnew :
      Json.member changed "FurnitureInteraction" [] (some ∘ Json.flatIds) = some v.flatIds := by
    rw [Json.member, h, if_pos rfl]
    rfl
  obtain ⟨ids, hold⟩ :
      ∃ ids, Json.member m "FurnitureInteraction" [] (some ∘ Json.flatIds) = some ids := by
    rw [Json.member]
    split <;> exact ⟨_, rfl⟩
  unfold ofJson?
  rw [hm, hchanged]
  dsimp only [Option.bind_eq_bind, Option.bind_some]
  -- the members in front of the furniture are the same
  repeat refine bind_eq_map_bind (Json.member_congr (hothers _ (by decide)) _ _) fun _ => ?_
  rw [hnew, hold]
  dsimp only [Option.bind_some]
  -- and so are those behind it
  repeat refine bind_eq_map_bind (Json.member_congr (hothers _ (by decide)) _ _) fun _ => ?_
  exact bind_eq_map_bind (numbersOf?_congr hothers) fun _ => rfl

theorem ofJson?_putField (v : Json) (fields : List (String × Json)) :
    ofJson? (.object (Json.putField "FurnitureInteraction" v fields)) =
      (ofJson? (.object fields)).map fun s => { s with furniture := v.flatIds } :=
  ofJson?_of_lookup rfl rfl fun other => Json.lookup_putField "FurnitureInteraction" other v fields

theorem ofJson?_set (v : Json) {items : List Json} {i : Nat}
    (hname : memberNames[i]? = some "FurnitureInteraction") (hi : i < items.length) :
    ofJson? (.list (items.set i v)) =
      (ofJson? (.list items)).map fun s => { s with furniture := v.flatIds } := by
  by_cases hlength : items.length ≤ memberNames.length
  · have hm : (Json.list items).members? memberNames = some (memberNames.zip items) :=
      if_pos hlength
    have hset : (Json.list (items.set i v)).members? memberNames =
        some (memberNames.zip (items.set i v)) := if_pos (by rwa [List.length_set])
    have hnames : memberNames.Nodup := by decide +kernel
    exact ofJson?_of_lookup hm hset fun other => Json.lookup_zip_set hnames hname hi v other
  · have hm : (Json.list items).members? memberNames = none := if_neg hlength
    have hset : (Json.list (items.set i v)).members? memberNames = none :=
      if_neg (by rwa [List.length_set])
    rw [ofJson?, hset, ofJson?, hm]
    rfl

/-- **The furniture of a student is the ids under its member, from left to right.**  Whatever stands
there is read, and changes nothing else in how the record is read.  Only the leaves and their order
count, not the arrays around them, and two arrays joined have the ids of the one and then those of
the other. -/
theorem furniture_flattened (v : Json) :
    (∀ fields, ofJson? (.object (Json.putField "FurnitureInteraction" v fields)) =
      (ofJson? (.object fields)).map fun s => { s with furniture := v.flatIds }) ∧
    (∀ items i, memberNames[i]? = some "FurnitureInteraction" → i < items.length →
      ofJson? (.list (items.set i v)) =
        (ofJson? (.list items)).map fun s => { s with furniture := v.flatIds }) ∧
    (∀ ids : List Nat, v.LeftToRight Json.IsId (ids.map fun n : Nat => .whole n) ↔
      ids = v.flatIds) ∧
    (∃ leaves, v.LeftToRight Json.IsLeaf leaves ∧
      ∀ w : Json, w.LeftToRight Json.IsLeaf leaves → w.flatIds = v.flatIds) ∧
    ∀ xs ys,
      (Json.list (xs ++ ys)).flatIds = (Json.list xs).flatIds ++ (Json.list ys).flatIds := by
  refine ⟨ofJson?_putField v, fun items i hname hi => ofJson?_set v hname hi, fun ids => ?_,
    ⟨v.leaves, v.leftToRight_leaves, fun w hw => ?_⟩, fun xs ys => ?_⟩
  · constructor
    · intro h
      have hwhole : Function.Injective fun n : Nat => Json.whole n :=
        fun _ _ heq => Int.ofNat.inj (Json.whole.inj heq)
      exact hwhole.list_map (h.unique v.leftToRight_flatIds)
    · rintro rfl
      exact v.leftToRight_flatIds
  · rw [← Json.flatMap_leaves w, ← Json.flatMap_leaves v, w.leftToRight_leaves.unique hw]
  · rw [Json.flatIds_list, Json.flatIds_list, Json.flatIds_list, List.flatMap_append]

/-- A record that ends with its furniture, and the same leaves without the arrays around them. -/
theorem furniture_flattened_of_mixed :
    let v : Json := .list [.list [.whole 1001, .whole (-1), .list [.whole 1002]], .text "1003",
      .list [], .real 1004.5, .list [.whole 4294967295, .whole 4294967296],
      .object [("a", .whole 1005)], .whole 1001]
    let w : Json := .list [.whole 1001, .whole (-1), .whole 1002, .text "1003", .real 1004.5,
      .whole 4294967295, .whole 4294967296, .object [("a", .whole 1005)], .whole 1001]
    let items : List Json := [.whole 5] ++ List.replicate 6 (.text "Aru") ++
      [.null, .text "", .text "", .whole 3] ++ List.replicate 7 (.text "") ++ [.bool false] ++
      List.replicate 3 .null ++ [.list [], .null, .null] ++ List.replicate 4 (.list [])
    memberNames[28]? = some "FurnitureInteraction" ∧ 28 < items.length ∧
      (ofJson? (.list (items.set 28 v))).map furniture = some [1001, 1002, 4294967295, 1001] ∧
      w.LeftToRight Json.IsLeaf v.leaves ∧ w.flatIds = v.flatIds := by
  intro v w items
  obtain ⟨-, harray, -, ⟨leaves, hleaves, hsame⟩, -⟩ := furniture_flattened v
  have hname : memberNames[28]? = some "FurnitureInteraction" := by decide +kernel
  have hlength : 28 < items.length := by decide +kernel
  have hw : w.LeftToRight Json.IsLeaf v.leaves := w.leftToRight_leaves
  refine ⟨hname, hlength, ?_, hw, hsame w (hleaves.unique v.leftToRight_leaves ▸ hw)⟩
  rw [harray items 28 hname hlength]
  decide +kernel

end Student
end DialogueSheet
