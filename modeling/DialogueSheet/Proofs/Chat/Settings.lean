/-
# What settings leave

A call of `set` is refused for its key or its value alone, whatever is set already
(`set_result`).  A refused call changes nothing (`set_of_refused`), and an accepted one puts
what its value reads as under its key and leaves the other keys alone (`set_of_accepted`).  So
every key holds what the last accepted call for it has put there, or what it held at first
(`held_settled`).

Settings in pairs and settings in an object come to such calls, the fields of an object in
the order of their keys.
-/
import DialogueSheet.Chat.Config
import DialogueSheet.Proofs.Json.Ordered
import DialogueSheet.Proofs.Text.Trimmed

namespace DialogueSheet

/-- What is held under a key. -/
def ConfigKey.Held : ConfigKey → Type
  | .title | .storyTitle | .optionTitle => String
  | .titleBackground => Color
  | .titleIcon => TitleIcon

namespace ChatConfig

/-- What a chat holds under a key. -/
def held (c : ChatConfig) : (k : ConfigKey) → k.Held
  | .title => c.title
  | .titleBackground => c.titleBackground
  | .titleIcon => c.titleIcon
  | .storyTitle => c.storyTitle
  | .optionTitle => c.optionTitle

/-- A chat that holds something else under one key. -/
def holding (c : ChatConfig) : (k : ConfigKey) → k.Held → ChatConfig
  | .title, text => { c with title := text }
  | .titleBackground, color => { c with titleBackground := color }
  | .titleIcon, icon => { c with titleIcon := icon }
  | .storyTitle, text => { c with storyTitle := text }
  | .optionTitle, text => { c with optionTitle := text }

variable (loadIcon : String → Except Failure TitleIcon)

/-- What a value without the blanks around it reads as under a key. -/
def read : (k : ConfigKey) → String → Except ValueFault k.Held
  | .title, value | .storyTitle, value | .optionTitle, value => .ok value
  | .titleBackground, value =>
    match Color.ofHex? value with
    | some color => .ok color
    | none => .error .noColor
  | .titleIcon, value => (loadIcon value).mapError .icon

/-- What a call with a key and a value puts under a key, if it is accepted. -/
def accepted? (k : ConfigKey) (call : String × String) : Option k.Held :=
  if ConfigKey.ofName? call.1 = some k ∧ Text.trim call.2 ≠ "" then
    (read loadIcon k (Text.trim call.2)).toOption
  else none

/-- Why a call with a key and a value is refused, if it is. -/
def refusal? (call : String × String) : Option ConfigWarning :=
  match ConfigKey.ofName? call.1 with
  | none => some (.unknownKey call.1)
  | some k =>
    if Text.trim call.2 = "" then some (.blankValue call.1)
    else
      match read loadIcon k (Text.trim call.2) with
      | .ok _ => none
      | .error fault => some (.invalidValue call.1 (Text.trim call.2) fault)

/-- What is set after a call. -/
def settle (c : ChatConfig) (call : String × String) : ChatConfig :=
  (c.set loadIcon call.1 call.2).2

/-- What is set after calls. -/
def settled (c : ChatConfig) (calls : List (String × String)) : ChatConfig :=
  calls.foldl (settle loadIcon) c

/-- What can come to be set by calls, from what holds before anything is set. -/
inductive Reachable : ChatConfig → Prop
  | standard : Reachable .standard
  | set {c : ChatConfig} (loadIcon : String → Except Failure TitleIcon) (key value : String)
      (h : Reachable c) : Reachable (c.set loadIcon key value).2

/-- No text is blank, and none has blanks around it. -/
def Neat (c : ChatConfig) : Prop :=
  ∀ text ∈ [c.title, c.storyTitle, c.optionTitle],
    Text.allBlank text = false ∧ Text.trim text = text

variable {loadIcon}

/-! ### A single call -/

section
variable {c : ChatConfig}

theorem held_holding (k : ConfigKey) (v : k.Held) : (c.holding k v).held k = v := by
  cases k <;> rfl

theorem held_holding_of_ne {k k' : ConfigKey} (h : k' ≠ k) (v : k.Held) :
    (c.holding k v).held k' = c.held k' := by
  cases k <;> cases k' <;> first | rfl | exact absurd rfl h

theorem assign_eq (c : ChatConfig) (k : ConfigKey) (value : String) :
    c.assign loadIcon k value =
      match read loadIcon k value with
      | .ok v => (.ok (), c.holding k v)
      | .error fault => (.error fault, c) := by
  cases k with
  | title => rfl
  | storyTitle => rfl
  | optionTitle => rfl
  | titleBackground =>
    simp only [assign, read]
    cases Color.ofHex? value <;> rfl
  | titleIcon =>
    simp only [assign, read]
    cases loadIcon value <;> rfl

theorem accepted?_eq_some_iff {k : ConfigKey} {call : String × String} {v : k.Held} :
    accepted? loadIcon k call = some v ↔ ConfigKey.ofName? call.1 = some k ∧
      Text.trim call.2 ≠ "" ∧ read loadIcon k (Text.trim call.2) = .ok v := by
  rw [accepted?]
  by_cases hcall : ConfigKey.ofName? call.1 = some k ∧ Text.trim call.2 ≠ ""
  · rw [if_pos hcall]
    cases hread : read loadIcon k (Text.trim call.2) <;> simp [Except.toOption, hcall]
  · rw [if_neg hcall]
    simp only [reduceCtorEq, false_iff]
    rintro ⟨hkey, hvalue, -⟩
    exact hcall ⟨hkey, hvalue⟩

/-- A call is refused, or accepted for one key. -/
theorem refused_or_accepted (loadIcon : String → Except Failure TitleIcon)
    (call : String × String) :
    (∃ w, refusal? loadIcon call = some w) ∨
      refusal? loadIcon call = none ∧ ∃ k v, accepted? loadIcon k call = some v := by
  unfold refusal?
  cases hkey : ConfigKey.ofName? call.1 with
  | none => exact .inl ⟨_, rfl⟩
  | some k =>
    by_cases hvalue : Text.trim call.2 = ""
    · exact .inl ⟨_, if_pos hvalue⟩
    · simp only [if_neg hvalue]
      cases hread : read loadIcon k (Text.trim call.2) with
      | error fault => exact .inl ⟨_, rfl⟩
      | ok v => exact .inr ⟨rfl, k, v, accepted?_eq_some_iff.2 ⟨hkey, hvalue, hread⟩⟩

/-- **A refused call changes nothing.** -/
theorem set_of_refused {call : String × String} {w : ConfigWarning}
    (h : refusal? loadIcon call = some w) (c : ChatConfig) :
    c.set loadIcon call.1 call.2 = (.error w, c) := by
  unfold refusal? at h
  unfold set
  cases hkey : ConfigKey.ofName? call.1 with
  | none =>
    simp only [hkey, Option.some.injEq] at h
    rw [← h]
  | some k =>
    simp only [hkey] at h
    by_cases hvalue : Text.trim call.2 = ""
    · simp only [if_pos hvalue, Option.some.injEq] at h ⊢
      rw [← h]
    · simp only [if_neg hvalue, assign_eq] at h ⊢
      cases hread : read loadIcon k (Text.trim call.2) with
      | ok v => simp [hread] at h
      | error fault =>
        simp only [hread, Option.some.injEq] at h
        rw [← h]
        rfl

/-- **An accepted call puts what its value reads as under its key.** -/
theorem set_of_accepted {k : ConfigKey} {call : String × String} {v : k.Held}
    (h : accepted? loadIcon k call = some v) (c : ChatConfig) :
    c.set loadIcon call.1 call.2 = (.ok (), c.holding k v) := by
  obtain ⟨hkey, hvalue, hread⟩ := accepted?_eq_some_iff.1 h
  simp [set, hkey, hvalue, assign_eq, hread, Except.mapError]

/-- **A call is refused for its key or its value, whatever is set already.** -/
theorem set_result (loadIcon : String → Except Failure TitleIcon) (c : ChatConfig)
    (call : String × String) :
    (c.set loadIcon call.1 call.2).1 =
      match refusal? loadIcon call with
      | some w => .error w
      | none => .ok () := by
  rcases refused_or_accepted loadIcon call with ⟨w, hw⟩ | ⟨hnone, k, v, hv⟩
  · rw [set_of_refused hw, hw]
  · rw [set_of_accepted hv, hnone]

/-- What a call leaves under a key. -/
theorem held_settle (call : String × String) (k : ConfigKey) :
    (settle loadIcon c call).held k = (accepted? loadIcon k call).getD (c.held k) := by
  rw [settle]
  rcases refused_or_accepted loadIcon call with ⟨w, hw⟩ | ⟨-, k', v, hv⟩
  · have hnone : accepted? loadIcon k call = none := by
      refine Option.eq_none_iff_forall_not_mem.2 fun v hv => ?_
      have hset := (set_of_refused hw c).symm.trans (set_of_accepted hv c)
      cases congrArg Prod.fst hset
    rw [set_of_refused hw, hnone, Option.getD_none]
  · rw [set_of_accepted hv]
    by_cases hk : k = k'
    · subst hk
      rw [held_holding, hv, Option.getD_some]
    · have hnone : accepted? loadIcon k call = none := by
        refine Option.eq_none_iff_forall_not_mem.2 fun w hw => hk ?_
        have hkey := (accepted?_eq_some_iff.1 hw).1
        exact Option.some.inj (hkey.symm.trans (accepted?_eq_some_iff.1 hv).1)
      rw [held_holding_of_ne hk, hnone, Option.getD_none]

/-- A text that is accepted is not blank and has no blanks around it. -/
theorem Neat.holding {k : ConfigKey} {call : String × String} {v : k.Held} (hc : c.Neat)
    (h : accepted? loadIcon k call = some v) : (c.holding k v).Neat := by
  obtain ⟨-, hvalue, hread⟩ := accepted?_eq_some_iff.1 h
  have hneat := And.intro (Text.allBlank_trim hvalue) (Text.trim_trim call.2)
  simp only [Neat, List.forall_mem_cons] at hc ⊢
  obtain ⟨htitle, hstory, hoption, -⟩ := hc
  cases k with
  | title =>
    obtain rfl : Text.trim call.2 = v := Except.ok.inj hread
    exact ⟨hneat, hstory, hoption, by simp⟩
  | storyTitle =>
    obtain rfl : Text.trim call.2 = v := Except.ok.inj hread
    exact ⟨htitle, hneat, hoption, by simp⟩
  | optionTitle =>
    obtain rfl : Text.trim call.2 = v := Except.ok.inj hread
    exact ⟨htitle, hstory, hneat, by simp⟩
  | titleBackground => exact ⟨htitle, hstory, hoption, by simp⟩
  | titleIcon => exact ⟨htitle, hstory, hoption, by simp⟩

/-! ### Calls one after the other -/

theorem settled_cons (call : String × String) (rest : List (String × String)) :
    c.settled loadIcon (call :: rest) = (settle loadIcon c call).settled loadIcon rest := rfl

theorem settled_concat (calls : List (String × String)) (call : String × String) :
    c.settled loadIcon (calls ++ [call]) = settle loadIcon (c.settled loadIcon calls) call := by
  simp [settled]

/-- **A key holds what the last accepted call for it has put there.** -/
theorem held_settled (calls : List (String × String)) (k : ConfigKey) :
    (c.settled loadIcon calls).held k =
      ((calls.filterMap (accepted? loadIcon k)).getLast?).getD (c.held k) := by
  induction calls generalizing c with
  | nil => rfl
  | cons call rest ih =>
    rw [settled_cons, ih, held_settle]
    cases haccepted : accepted? loadIcon k call with
    | none => rw [List.filterMap_cons_none haccepted, Option.getD_none]
    | some v =>
      rw [List.filterMap_cons_some haccepted, List.getLast?_cons, Option.getD_some,
        Option.getD_some]

theorem Reachable.neat (h : Reachable c) : c.Neat := by
  induction h with
  | standard =>
    unfold Neat
    decide +kernel
  | set loadIcon key value _ ih =>
    rcases refused_or_accepted loadIcon (key, value) with ⟨w, hw⟩ | ⟨-, k, v, hv⟩
    · rwa [set_of_refused hw]
    · rw [set_of_accepted hv]
      exact ih.holding hv

theorem Reachable.settled (h : Reachable c) (calls : List (String × String)) :
    Reachable (c.settled loadIcon calls) := by
  induction calls generalizing c with
  | nil => exact h
  | cons call rest ih => exact ih (.set loadIcon call.1 call.2 h)

/-- The warnings are the refusals. -/
theorem warningsFrom_set (c : ChatConfig) (call : String × String)
    (rest : List (String × String)) :
    warningsFrom (c.set loadIcon call.1 call.2).1 (rest.filterMap (refusal? loadIcon)) =
      (call :: rest).filterMap (refusal? loadIcon) := by
  rw [set_result]
  cases hrefusal : refusal? loadIcon call with
  | some w => rw [List.filterMap_cons_some hrefusal, warningsFrom]
  | none => rw [List.filterMap_cons_none hrefusal, warningsFrom]

/-- Settings in pairs are calls in their order, and their warnings are the refusals. -/
theorem apply_eq (calls : List (String × String)) :
    c.apply loadIcon calls = (c.settled loadIcon calls, calls.filterMap (refusal? loadIcon)) := by
  induction calls generalizing c with
  | nil => rfl
  | cons call rest ih =>
    rw [settled_cons, ← warningsFrom_set c call rest]
    simp only [apply, ih]
    rfl

end

/-! ### The fields of an object -/

/-- The call that a field of an object comes to, if it is a text. -/
def fieldCall? (field : String × Json) : Option (String × String) :=
  field.2.text?.map (field.1, ·)

variable (loadIcon) in
/-- Why a field of an object is refused, if it is. -/
def fieldRefusal? (field : String × Json) : Option ConfigWarning :=
  match field.2 with
  | .text value => refusal? loadIcon (field.1, value)
  | v => some (.invalidValue field.1 v.render .noText)

/-- The fields of an object are calls in their order, as far as they are texts, and their
warnings are the refusals. -/
theorem applyFields_eq (c : ChatConfig) (fields : List (String × Json)) :
    c.applyFields loadIcon fields =
      (c.settled loadIcon (fields.filterMap fieldCall?),
        fields.filterMap (fieldRefusal? loadIcon)) := by
  induction fields generalizing c with
  | nil => rfl
  | cons field rest ih =>
    obtain ⟨key, v⟩ := field
    cases v with
    | text value =>
      have hcall : fieldCall? (key, .text value) = some (key, value) := rfl
      rw [List.filterMap_cons_some hcall, settled_cons]
      simp only [applyFields, ih]
      have hresult := set_result loadIcon c (key, value)
      cases hrefusal : refusal? loadIcon (key, value) with
      | some w =>
        have hfield : fieldRefusal? loadIcon (key, .text value) = some w := hrefusal
        rw [hrefusal] at hresult
        rw [List.filterMap_cons_some hfield, hresult]
        rfl
      | none =>
        have hfield : fieldRefusal? loadIcon (key, .text value) = none := hrefusal
        rw [hrefusal] at hresult
        rw [List.filterMap_cons_none hfield, hresult]
        rfl
    | _ =>
      simp [applyFields, ih, List.filterMap_cons, fieldCall?, fieldRefusal?, Json.text?,
        warningsFrom]

/-! ### What is left in the end -/

/-- What calls leave of what was set before. -/
structure Kept (loadIcon : String → Except Failure TitleIcon) (c : ChatConfig)
    (calls : List (String × String)) : Prop where
  /-- A refused call changes nothing, and is refused whatever was set before it. -/
  refused : ∀ earlier call later w, calls = earlier ++ call :: later →
    (((c.settled loadIcon earlier).set loadIcon call.1 call.2).1 = .error w ↔
      refusal? loadIcon call = some w) ∧
    (refusal? loadIcon call = some w →
      (c.settled loadIcon earlier).set loadIcon call.1 call.2 =
        (.error w, c.settled loadIcon earlier) ∧
      c.settled loadIcon (earlier ++ [call]) = c.settled loadIcon earlier)
  /-- An accepted call changes what is held under its own key and nothing else. -/
  accepted : ∀ earlier call later, calls = earlier ++ call :: later →
    refusal? loadIcon call = none → ∃ k v, ConfigKey.ofName? call.1 = some k ∧
      read loadIcon k (Text.trim call.2) = .ok v ∧
      (c.settled loadIcon earlier).set loadIcon call.1 call.2 =
        (.ok (), c.settled loadIcon (earlier ++ [call])) ∧
      (c.settled loadIcon (earlier ++ [call])).held k = v ∧
      ∀ k', k' ≠ k → (c.settled loadIcon (earlier ++ [call])).held k' =
        (c.settled loadIcon earlier).held k'
  /-- A key holds what the last accepted call for it has put there, or what it held before. -/
  last : ∀ k, (c.settled loadIcon calls).held k =
    ((calls.filterMap (accepted? loadIcon k)).getLast?).getD (c.held k)
  /-- No text is blank or has blanks around it. -/
  neat : (c.settled loadIcon calls).Neat
  /-- Settings in pairs are these calls, and their warnings are the refusals. -/
  applied : c.apply loadIcon calls = (c.settled loadIcon calls, calls.filterMap (refusal? loadIcon))

/-- How settings are read from a text. -/
structure ReadFrom (loadIcon : String → Except Failure TitleIcon) (raw : String) : Prop where
  /-- The fields of an object have their keys in ascending order.  Those that are texts are
  calls in this order, and every field that is refused gives a warning. -/
  object : ∀ fields, Json.parse? raw = some (.object fields) → Json.Ordered fields ∧
    ofJsonText loadIcon raw = .ok ((standard.apply loadIcon (fields.filterMap fieldCall?)).1,
      fields.filterMap (fieldRefusal? loadIcon))
  /-- What is no object is refused. -/
  notObject : ∀ v, Json.parse? raw = some v → (∀ fields, v ≠ .object fields) →
    ofJsonText loadIcon raw = .error .notAnObject
  /-- What is no value is refused. -/
  malformed : Json.parse? raw = none → ofJsonText loadIcon raw = .error .data

theorem readFrom (loadIcon : String → Except Failure TitleIcon) (raw : String) :
    ReadFrom loadIcon raw where
  object fields h := by
    refine ⟨Json.ordered_of_parse? h, ?_⟩
    rw [ofJsonText, h, apply_eq]
    exact congrArg Except.ok (applyFields_eq standard fields)
  notObject v h hv := by
    rw [ofJsonText, h]
    cases v with
    | object fields => exact absurd rfl (hv fields)
    | _ => rfl
  malformed h := by rw [ofJsonText, h]

/-- **Settings keep what they do not change.** -/
theorem settings_kept (loadIcon : String → Except Failure TitleIcon) {c : ChatConfig}
    (hc : Reachable c) (calls : List (String × String)) :
    Kept loadIcon c calls ∧ ∀ raw, ReadFrom loadIcon raw := by
  refine ⟨⟨fun earlier call later w _ => ⟨?_, fun hrefused => ?_⟩,
    fun earlier call later _ hnone => ?_, held_settled calls, (hc.settled calls).neat,
    apply_eq calls⟩, readFrom loadIcon⟩
  · rw [set_result]
    cases refusal? loadIcon call <;> simp
  · have hset := set_of_refused hrefused (c.settled loadIcon earlier)
    refine ⟨hset, ?_⟩
    rw [settled_concat, settle, hset]
  · obtain ⟨k, v, hv⟩ : ∃ k v, accepted? loadIcon k call = some v := by
      rcases refused_or_accepted loadIcon call with ⟨w, hw⟩ | ⟨-, haccepted⟩
      · rw [hw] at hnone
        cases hnone
      · exact haccepted
    have hset := set_of_accepted hv (c.settled loadIcon earlier)
    have hsettled : c.settled loadIcon (earlier ++ [call]) =
        (c.settled loadIcon earlier).holding k v := by
      rw [settled_concat, settle, hset]
    obtain ⟨hkey, -, hread⟩ := accepted?_eq_some_iff.1 hv
    rw [hsettled]
    exact ⟨k, v, hkey, hread, hset, held_holding k v, fun k' hk' => held_holding_of_ne hk' v⟩

/-- A title, a key that is not known, a blank text, no color, a color and another title. -/
theorem settings_kept_of_six :
    let loadIcon : String → Except Failure TitleIcon := fun _ => .error .file
    let calls := [("title", " Schale "), ("subtitle", "x"), ("optionTitle", " "),
      ("titleBackground", "pink"), ("titleBackground", "#123456"), ("title", "Momo")]
    let c := standard.settled loadIcon calls
    Reachable standard ∧ c.title = "Momo" ∧ c.titleBackground = Color.ofWord 0x123456 ∧
      c.optionTitle = standard.optionTitle ∧
      (standard.apply loadIcon calls).2 = [.unknownKey "subtitle", .blankValue "optionTitle",
        .invalidValue "titleBackground" "pink" .noColor] := by
  intro loadIcon calls c
  have hkept := (settings_kept loadIcon .standard calls).1
  have htitles : @Eq (List String) (calls.filterMap (accepted? loadIcon .title))
      ["Schale", "Momo"] := by decide +kernel
  have hcolors : @Eq (List Color) (calls.filterMap (accepted? loadIcon .titleBackground))
      [Color.ofWord 0x123456] := by decide +kernel
  have hoptions : @Eq (List String) (calls.filterMap (accepted? loadIcon .optionTitle)) [] := by
    decide +kernel
  refine ⟨.standard, ?_, ?_, ?_, ?_⟩
  · exact (hkept.last .title).trans
      (congrArg (fun texts : List String => texts.getLast?.getD standard.title) htitles)
  · exact (hkept.last .titleBackground).trans (congrArg
      (fun colors : List Color => colors.getLast?.getD standard.titleBackground) hcolors)
  · exact (hkept.last .optionTitle).trans
      (congrArg (fun texts : List String => texts.getLast?.getD standard.optionTitle) hoptions)
  · rw [hkept.applied]
    decide +kernel

end ChatConfig
end DialogueSheet
