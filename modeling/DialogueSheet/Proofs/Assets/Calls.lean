/-
# Calls that share a cache

Workers ask for pictures at the same time: for the one at a path, for the one of a kind and a
name, or for several at once.  Every picture is a call of its own.  In one turn a call takes one
step: it looks into the cache, decodes its file or publishes what it decoded.  A schedule says
whose turn it is, time after time, and what the files decode to at that time.

Two calls for a path may both find nothing published and then decode different files.  They still
agree.  A step changes the cache only where nothing is published (`Call.Step.answer?_cases`), so
what is published stays (`Assets.answer?_run`); and a call that ends takes its answer out of the
cache and not from its own file (`Call.Step.answer?_of_done`).  So each path has one answer, and
the call that first published it had decoded that (`Assets.exists_publishes`).
-/
import DialogueSheet.Assets.Cache
import DialogueSheet.Proofs.Json.Rows

namespace DialogueSheet

/-- What a worker asks for. -/
inductive PictureRequest where
  | load (path : String)
  | get (kind : AssetKind) (name : String)
  | prefetch (pictures : List (AssetKind × String))

/-- The path of each picture of a request, in the order of the answers; nothing for a refused
name. -/
def PictureRequest.paths (root : AssetRoot) : PictureRequest → List (Option String)
  | .load path => [some path]
  | .get kind name => [(root.assetPath kind name).toOption]
  | .prefetch pictures => pictures.map fun (kind, name) => (root.assetPath kind name).toOption

/-- A picture, by its request and its place in that request. -/
structure Place where
  request : Nat
  picture : Nat
deriving DecidableEq

variable {α : Type}

/-- A turn: whose it is, and what the files decode to at that time. -/
structure Turn (α : Type) where
  place : Place
  decoded? : String → Option α

/-- The cache that workers share, and the calls of each request; there is none for a refused
name. -/
structure Assets (α : Type) where
  cache : Cache α
  calls : List (List (Option (Call α)))

/-! ### One step -/

theorem Cache.publish_of_some {cache : Cache α} {path : String} {answer : Option α}
    (h : cache.answer? path = some answer) (loaded : Option α) :
    cache.publish path loaded = cache := by
  rw [publish, h]

theorem Cache.answer?_publish {cache : Cache α} {path : String}
    (h : cache.answer? path = none) (loaded : Option α) (other : String) :
    (cache.publish path loaded).answer? other =
      if pathComponents other = pathComponents path then some loaded else cache.answer? other := by
  rw [publish, h]
  unfold answer?
  rw [List.lookup_cons]
  by_cases hsame : pathComponents other = pathComponents path
  · simp [hsame]
  · simp [hsame, beq_eq_false_iff_ne.2 hsame]

namespace Call

/-- All that a step can do: what it makes of the cache and of the stage of the call at a path. -/
inductive Step (decoded? : String → Option α) (cache : Cache α) (path : String) :
    CallStage α → Cache α → CallStage α → Prop where
  | found (answer : Option α) (h : cache.answer? path = some answer) :
      Step decoded? cache path .check cache (.done answer)
  | missed (h : cache.answer? path = none) : Step decoded? cache path .check cache .decode
  | decoded : Step decoded? cache path .decode cache (.publish (decoded? path))
  /-- Another call has published the path. -/
  | late (loaded answer : Option α) (h : cache.answer? path = some answer) :
      Step decoded? cache path (.publish loaded) cache (.done answer)
  | first (loaded : Option α) (h : cache.answer? path = none) :
      Step decoded? cache path (.publish loaded) (cache.publish path loaded) (.done loaded)
  | ended (answer : Option α) : Step decoded? cache path (.done answer) cache (.done answer)

theorem step_spec (decoded? : String → Option α) (cache : Cache α) (call : Call α) :
    ∃ cache' stage, call.step decoded? cache = (cache', ⟨call.path, stage⟩) ∧
      Step decoded? cache call.path call.stage cache' stage := by
  obtain ⟨path, stage⟩ := call
  cases stage with
  | check =>
    cases h : cache.answer? path with
    | some answer => exact ⟨cache, .done answer, by simp [step, h], .found answer h⟩
    | none => exact ⟨cache, .decode, by simp [step, h], .missed h⟩
  | decode => exact ⟨cache, .publish (decoded? path), rfl, .decoded⟩
  | publish loaded =>
    cases h : cache.answer? path with
    | some answer =>
      refine ⟨cache, .done answer, ?_, .late loaded answer h⟩
      simp [step, Cache.publish_of_some h, h]
    | none =>
      refine ⟨cache.publish path loaded, .done loaded, ?_, .first loaded h⟩
      simp [step, Cache.answer?_publish h]
  | done answer => exact ⟨cache, .done answer, rfl, .ended answer⟩

theorem path_step (decoded? : String → Option α) (cache : Cache α) (call : Call α) :
    (call.step decoded? cache).2.path = call.path := by
  obtain ⟨_, _, hstep, -⟩ := step_spec decoded? cache call
  rw [hstep]

/-- The steps that a call has left at most. -/
def stepsLeft : CallStage α → Nat
  | .check => 3
  | .decode => 2
  | .publish _ => 1
  | .done _ => 0

theorem exists_done_of_stepsLeft {stage : CallStage α} (h : stepsLeft stage = 0) :
    ∃ answer, stage = .done answer := by
  cases stage with
  | done answer => exact ⟨answer, rfl⟩
  | _ => simp [stepsLeft] at h

namespace Step

variable {decoded? : String → Option α} {cache cache' : Cache α} {path : String}
  {stage stage' : CallStage α}

/-- A step leaves the answer for a path, or it is the one that publishes it. -/
theorem answer?_cases (h : Step decoded? cache path stage cache' stage') (other : String) :
    cache'.answer? other = cache.answer? other ∨
      cache.answer? other = none ∧ pathComponents path = pathComponents other ∧
        ∃ loaded, stage = .publish loaded ∧ stage' = .done loaded ∧
          cache'.answer? other = some loaded := by
  cases h with
  | first loaded hnone =>
    rw [Cache.answer?_publish hnone]
    by_cases hsame : pathComponents other = pathComponents path
    · refine .inr ⟨?_, hsame.symm, loaded, rfl, rfl, if_pos hsame⟩
      rwa [Cache.answer?, hsame]
    · exact .inl (if_neg hsame)
  | _ => exact .inl rfl

/-- A step that ends a call takes the answer out of the cache. -/
theorem answer?_of_done (h : Step decoded? cache path stage cache' stage') {answer : Option α}
    (hdone : stage' = .done answer) :
    stage = .done answer ∨ cache'.answer? path = some answer := by
  cases h with
  | found _ hcache | late _ _ hcache =>
    injection hdone with hdone
    exact .inr (hdone ▸ hcache)
  | first _ hnone =>
    injection hdone with hdone
    exact .inr (by rw [Cache.answer?_publish hnone, if_pos rfl, hdone])
  | ended => exact .inl hdone
  | missed | decoded => cases hdone

/-- What a call is about to publish is what its file has just decoded to. -/
theorem eq_of_publish (h : Step decoded? cache path stage cache' stage') {loaded : Option α}
    (hpublish : stage' = .publish loaded) : loaded = decoded? path := by
  cases h with
  | decoded =>
    injection hpublish with hpublish
    exact hpublish.symm
  | _ => cases hpublish

theorem stepsLeft_le (h : Step decoded? cache path stage cache' stage') :
    stepsLeft stage' ≤ stepsLeft stage - 1 := by
  cases h <;> simp [stepsLeft]

end Step
end Call

/-! ### Turns -/

namespace Assets

/-- Nothing is published, and no call has begun. -/
def start (root : AssetRoot) (requests : List PictureRequest) : Assets α :=
  ⟨.empty, requests.map fun request => (request.paths root).map (·.map Call.start)⟩

/-- The call for a picture. -/
def call? (assets : Assets α) (place : Place) : Option (Call α) :=
  assets.calls[place.request]?.bind fun calls => calls[place.picture]?.join

/-- The call at a place takes one step. -/
def turn (assets : Assets α) (t : Turn α) : Assets α :=
  match assets.call? t.place with
  | none => assets
  | some call =>
    let (cache, call) := call.step t.decoded? assets.cache
    ⟨cache, assets.calls.modify t.place.request (·.set t.place.picture (some call))⟩

/-- The turns of a schedule. -/
def run (assets : Assets α) (schedule : List (Turn α)) : Assets α := schedule.foldl turn assets

/-- The answer for a picture, when its call has ended; there is no picture of a refused name. -/
def ended? : Option (Call α) → Option (Option α)
  | none => some none
  | some call => call.answer?

/-- The answers of a request, when all its calls have ended. -/
def answers? (assets : Assets α) (request : Nat) : Option (List (Option α)) :=
  assets.calls[request]?.bind (·.mapM ended?)

variable {root : AssetRoot} {requests : List PictureRequest} {schedule : List (Turn α)}
  {assets : Assets α} {t : Turn α}

theorem run_concat (schedule : List (Turn α)) (t : Turn α) :
    assets.run (schedule ++ [t]) = (assets.run schedule).turn t := by
  simp [run]

theorem run_append (first second : List (Turn α)) :
    assets.run (first ++ second) = (assets.run first).run second := List.foldl_append ..

theorem call?_start {place : Place} {call : Call α}
    (h : (start root requests).call? place = some call) : call.stage = .check := by
  simp only [call?, start, List.getElem?_map, Option.bind_eq_some_iff, Option.map_eq_some_iff,
    Option.join_eq_some_iff] at h
  obtain ⟨_, ⟨request, -, rfl⟩, hcall⟩ := h
  rw [List.getElem?_map] at hcall
  obtain ⟨path?, -, hpath⟩ := Option.map_eq_some_iff.1 hcall
  obtain ⟨path, -, rfl⟩ := Option.map_eq_some_iff.1 hpath
  rfl

/-- The calls after one of them has become another. -/
theorem call?_modify {calls : List (List (Option (Call α)))} {cache : Cache α} {place : Place}
    {call : Call α} (h : call? ⟨cache, calls⟩ place = some call) (cache' : Cache α)
    (new : Call α) (other : Place) :
    call? ⟨cache', calls.modify place.request (·.set place.picture (some new))⟩ other =
      if other = place then some new else call? ⟨cache, calls⟩ other := by
  obtain ⟨i, j⟩ := place
  obtain ⟨i', j'⟩ := other
  obtain ⟨slots, hslots, hslot⟩ := Option.bind_eq_some_iff.1 h
  have hj : j < slots.length := by
    by_contra hout
    simp [List.getElem?_eq_none (Nat.le_of_not_lt hout)] at hslot
  dsimp only at hslots hslot
  simp only [call?, List.getElem?_modify, Place.mk.injEq]
  by_cases hi : i = i'
  · subst hi
    rw [hslots]
    by_cases hj' : j' = j
    · subst hj'
      simp [hj]
    · simp [hj', Ne.symm hj']
  · simp [hi, Ne.symm hi]

/-- A turn is one step of the call at its place, if there is one. -/
theorem turn_spec (assets : Assets α) (t : Turn α) :
    assets.call? t.place = none ∧ assets.turn t = assets ∨
      ∃ path stage stage', assets.call? t.place = some ⟨path, stage⟩ ∧
        Call.Step t.decoded? assets.cache path stage (assets.turn t).cache stage' ∧
        ∀ place, (assets.turn t).call? place =
          if place = t.place then some ⟨path, stage'⟩ else assets.call? place := by
  cases h : assets.call? t.place with
  | none => exact .inl ⟨rfl, by rw [turn, h]⟩
  | some call =>
    obtain ⟨path, stage⟩ := call
    obtain ⟨cache', stage', hstep, hspec⟩ := Call.step_spec t.decoded? assets.cache ⟨path, stage⟩
    have hturn : assets.turn t = ⟨cache',
        assets.calls.modify t.place.request (·.set t.place.picture (some ⟨path, stage'⟩))⟩ := by
      rw [turn, h]
      simp only [hstep]
    rw [hturn]
    exact .inr ⟨path, stage, stage', rfl, hspec, call?_modify h cache' _⟩

/-! ### What is published stays -/

theorem answer?_turn {path : String} {answer : Option α}
    (h : assets.cache.answer? path = some answer) (t : Turn α) :
    (assets.turn t).cache.answer? path = some answer := by
  rcases turn_spec assets t with ⟨-, hturn⟩ | ⟨_, _, _, -, hstep, -⟩
  · rwa [hturn]
  · rcases hstep.answer?_cases path with hsame | ⟨hnone, -⟩
    · exact hsame.trans h
    · rw [h] at hnone
      cases hnone

/-- **What is published stays**, whatever turns come after it. -/
theorem answer?_run {path : String} {answer : Option α}
    (h : assets.cache.answer? path = some answer) (schedule : List (Turn α)) :
    (assets.run schedule).cache.answer? path = some answer := by
  induction schedule generalizing assets with
  | nil => exact h
  | cons t rest ih => exact ih (answer?_turn h t)

/-- The calls that have ended have the published answers. -/
def Answered (assets : Assets α) : Prop :=
  ∀ place path answer, assets.call? place = some ⟨path, .done answer⟩ →
    assets.cache.answer? path = some answer

theorem Answered.turn (h : assets.Answered) (t : Turn α) : (assets.turn t).Answered := by
  intro place path answer hcall
  rcases turn_spec assets t with ⟨-, hturn⟩ | ⟨own, stage, stage', hown, hstep, hcalls⟩
  · rw [hturn] at hcall ⊢
    exact h place path answer hcall
  · rw [hcalls] at hcall
    split at hcall
    · -- the call whose turn it was
      simp only [Option.some.injEq, Call.mk.injEq] at hcall
      obtain ⟨rfl, hdone⟩ := hcall
      rcases hstep.answer?_of_done hdone with rfl | hcache
      · exact answer?_turn (h t.place own answer hown) t
      · exact hcache
    · exact answer?_turn (h place path answer hcall) t

theorem Answered.run (h : assets.Answered) (schedule : List (Turn α)) :
    (assets.run schedule).Answered := by
  induction schedule generalizing assets with
  | nil => exact h
  | cons t rest ih => exact ih (h.turn t)

theorem answered_start (root : AssetRoot) (requests : List PictureRequest) :
    (start root requests : Assets α).Answered := by
  intro place path answer hcall
  cases call?_start hcall

/-! ### Who published it -/

/-- What has come about in a schedule has come about in one of its turns. -/
theorem exists_turn {P : Assets α → Prop} (hbefore : ¬P assets)
    (hafter : P (assets.run schedule)) :
    ∃ earlier t later, schedule = earlier ++ t :: later ∧ ¬P (assets.run earlier) ∧
      P (assets.run (earlier ++ [t])) := by
  induction schedule generalizing assets with
  | nil => exact absurd hafter hbefore
  | cons t rest ih =>
    by_cases hturn : P (assets.turn t)
    · exact ⟨[], t, rest, rfl, hbefore, hturn⟩
    · obtain ⟨earlier, u, later, rfl, hu⟩ := ih hturn hafter
      exact ⟨t :: earlier, u, later, rfl, hu⟩

/-- A call that is about to publish has decoded its file in an earlier turn. -/
theorem exists_decoded {place : Place} {path : String} {loaded : Option α}
    (h : ((start root requests).run schedule).call? place = some ⟨path, .publish loaded⟩) :
    ∃ before t after, schedule = before ++ t :: after ∧ t.place = place ∧
      loaded = t.decoded? path := by
  have hstart : (start root requests).call? place ≠ some ⟨path, .publish loaded⟩ := by
    intro hcall
    cases call?_start hcall
  obtain ⟨before, t, after, rfl, hbefore, hafter⟩ :=
    exists_turn (P := fun assets => assets.call? place = some ⟨path, .publish loaded⟩) hstart h
  rw [run_concat] at hafter
  rcases turn_spec ((start root requests).run before) t with
    ⟨-, hturn⟩ | ⟨own, stage, stage', -, hstep, hcalls⟩
  · rw [hturn] at hafter
    exact absurd hafter hbefore
  · rw [hcalls] at hafter
    split at hafter
    · rename_i hplace
      simp only [Option.some.injEq, Call.mk.injEq] at hafter
      obtain ⟨rfl, hpublish⟩ := hafter
      exact ⟨before, t, after, rfl, hplace.symm, hstep.eq_of_publish hpublish⟩
    · exact absurd hafter hbefore

/-- A turn is the first to publish a path: the call whose turn it is has decoded its own file in
an earlier turn, and its answer is now that of the path. -/
structure Publishes (assets : Assets α) (earlier : List (Turn α)) (t : Turn α) (path : String)
    (answer : Option α) : Prop where
  before : (assets.run earlier).cache.answer? path = none
  after : (assets.run (earlier ++ [t])).cache.answer? path = some answer
  publisher : ∃ own, pathComponents own = pathComponents path ∧
    (assets.run earlier).call? t.place = some ⟨own, .publish answer⟩ ∧
    (assets.run (earlier ++ [t])).call? t.place = some ⟨own, .done answer⟩ ∧
    ∃ first u between, earlier = first ++ u :: between ∧ u.place = t.place ∧
      answer = u.decoded? own

theorem exists_publishes {path : String} {answer : Option α}
    (h : ((start root requests).run schedule).cache.answer? path = some answer) :
    ∃ earlier t later, schedule = earlier ++ t :: later ∧
      (start root requests).Publishes earlier t path answer := by
  have hstart : (start root requests : Assets α).cache.answer? path ≠ some answer := by
    intro hnone
    cases hnone
  obtain ⟨earlier, t, later, rfl, hbefore, hafter⟩ :=
    exists_turn (P := fun assets => assets.cache.answer? path = some answer) hstart h
  refine ⟨earlier, t, later, rfl, ?_⟩
  rcases turn_spec ((start root requests).run earlier) t with
    ⟨-, hturn⟩ | ⟨own, stage, stage', hown, hstep, hcalls⟩
  · rw [run_concat, hturn] at hafter
    exact absurd hafter hbefore
  · rw [← run_concat] at hstep hcalls
    rcases hstep.answer?_cases path with hsame | ⟨hnone, hpath, loaded, rfl, rfl, hloaded⟩
    · exact absurd (hsame.symm.trans hafter) hbefore
    · obtain rfl := Option.some.inj (hloaded.symm.trans hafter)
      exact ⟨hnone, hafter, own, hpath, hown, by rw [hcalls, if_pos rfl], exists_decoded hown⟩

/-! ### The answers of a request -/

/-- The paths of all calls, request by request. -/
def paths (assets : Assets α) : List (List (Option String)) :=
  assets.calls.map (·.map (·.map Call.path))

theorem paths_start (root : AssetRoot) (requests : List PictureRequest) :
    (start root requests : Assets α).paths = requests.map (·.paths root) := by
  simp only [paths, start, List.map_map]
  refine List.map_congr_left fun request _ => ?_
  simp only [Function.comp_apply, List.map_map]
  conv_rhs => rw [← List.map_id (request.paths root)]
  refine List.map_congr_left fun path? _ => ?_
  cases path? <;> rfl

theorem paths_turn (assets : Assets α) (t : Turn α) : (assets.turn t).paths = assets.paths := by
  unfold turn
  split
  · rfl
  · rename_i call hcall
    obtain ⟨slots, hslots, hslot⟩ := Option.bind_eq_some_iff.1 hcall
    have hslot : slots[t.place.picture]? = some (some call) := Option.join_eq_some_iff.1 hslot
    refine List.ext_getElem? fun i => ?_
    simp only [paths, List.getElem?_map, List.getElem?_modify]
    by_cases hi : t.place.request = i
    · subst hi
      simp only [if_true, hslots, Option.map_eq_map, Option.map_some, List.map_set,
        Call.path_step, Option.some.injEq]
      refine List.ext_getElem? fun j => ?_
      rw [List.getElem?_set, List.getElem?_map]
      by_cases hj : t.place.picture = j
      · subst hj
        have hlength := (List.getElem?_eq_some_iff.1 hslot).1
        rw [if_pos rfl, List.length_map, if_pos hlength, hslot]
        rfl
      · simp [hj]
    · simp [hi]

theorem paths_run (assets : Assets α) (schedule : List (Turn α)) :
    (assets.run schedule).paths = assets.paths := by
  induction schedule generalizing assets with
  | nil => rfl
  | cons t rest ih => exact (ih (assets.turn t)).trans (paths_turn assets t)

/-- The answer for the path of a picture; a refused name has no picture. -/
def Gives (assets : Assets α) : Option String → Option α → Prop
  | none, answer => answer = none
  | some path, answer => assets.cache.answer? path = some answer

theorem call?_of_getElem {i : Nat} {calls : List (Option (Call α))}
    (hcalls : assets.calls[i]? = some calls) {j : Nat} (hj : j < calls.length) :
    assets.call? ⟨i, j⟩ = calls[j] := by
  simp [call?, hcalls, hj]

/-- The calls of a request, after a schedule. -/
theorem exists_calls (root : AssetRoot) {i : Nat} {request : PictureRequest}
    (h : requests[i]? = some request) (schedule : List (Turn α)) :
    ∃ calls, ((start root requests).run schedule).calls[i]? = some calls ∧
      calls.map (·.map Call.path) = request.paths root := by
  have hpaths : ((start root requests).run schedule).paths[i]? = some (request.paths root) := by
    rw [paths_run, paths_start, List.getElem?_map, h, Option.map_some]
  rwa [paths, List.getElem?_map, Option.map_eq_some_iff] at hpaths

theorem eq_done {call : Call α} {answer : Option α} (h : call.answer? = some answer) :
    call = ⟨call.path, .done answer⟩ := by
  obtain ⟨path, stage⟩ := call
  cases stage with
  | done answer' =>
    injection h with h
    rw [h]
  | _ => cases h

/-- Each request has one answer for each of its pictures, in their order. -/
theorem gives_of_answers {i : Nat} {request : PictureRequest}
    (hrequest : requests[i]? = some request) {answers : List (Option α)}
    (h : ((start root requests).run schedule).answers? i = some answers) :
    List.Forall₂ ((start root requests).run schedule).Gives (request.paths root) answers := by
  obtain ⟨calls, hcalls, hpaths⟩ := exists_calls root hrequest schedule
  rw [answers?, hcalls, Option.bind_some, mapM_eq_some_iff, List.forall₂_iff_get] at h
  rw [← hpaths, List.forall₂_map_left_iff, List.forall₂_iff_get]
  refine ⟨h.1, fun j hj hj' => ?_⟩
  have hended := h.2 j hj hj'
  rw [List.get_eq_getElem] at hended ⊢
  cases hslot : calls[j] with
  | none =>
    rw [hslot] at hended
    exact (Option.some.inj hended).symm
  | some call =>
    rw [hslot] at hended
    have hcall := (call?_of_getElem hcalls hj).trans hslot
    rw [eq_done hended] at hcall
    exact (answered_start root requests).run schedule _ _ _ hcall

/-! ### Turns that are left -/

/-- The steps that the call at a place has left at most. -/
def stepsLeft (assets : Assets α) (place : Place) : Nat :=
  match assets.call? place with
  | none => 0
  | some call => Call.stepsLeft call.stage

theorem stepsLeft_turn (assets : Assets α) (t : Turn α) (place : Place) :
    (assets.turn t).stepsLeft place ≤
      assets.stepsLeft place - if t.place = place then 1 else 0 := by
  rcases turn_spec assets t with ⟨hnone, hturn⟩ | ⟨path, stage, stage', hcall, hstep, hcalls⟩
  · rw [hturn]
    by_cases hplace : t.place = place
    · simp [stepsLeft, ← hplace, hnone]
    · simp [hplace]
  · by_cases hplace : t.place = place
    · subst hplace
      simpa [stepsLeft, hcalls, hcall] using hstep.stepsLeft_le
    · simp [stepsLeft, hcalls, hplace, Ne.symm hplace]

theorem stepsLeft_run (assets : Assets α) (schedule : List (Turn α)) (place : Place) :
    (assets.run schedule).stepsLeft place ≤
      assets.stepsLeft place - (schedule.map Turn.place).count place := by
  induction schedule generalizing assets with
  | nil => exact Nat.le_refl _
  | cons t rest ih =>
    have hrest := ih (assets.turn t)
    have hturn := stepsLeft_turn assets t place
    have hrun : assets.run (t :: rest) = (assets.turn t).run rest := rfl
    rw [hrun, List.map_cons, List.count_cons]
    simp only [beq_iff_eq]
    omega

theorem stepsLeft_start_le (root : AssetRoot) (requests : List PictureRequest) (place : Place) :
    (start root requests : Assets α).stepsLeft place ≤ 3 := by
  unfold stepsLeft
  split
  · exact Nat.zero_le _
  · rename_i call hcall
    rw [call?_start hcall]
    exact Nat.le_refl _

/-- **A request is answered once each of its calls has had three turns**, whatever comes between
them. -/
theorem exists_answers {i : Nat} {request : PictureRequest}
    (hrequest : requests[i]? = some request)
    (hturns : ∀ j < (request.paths root).length, 3 ≤ (schedule.map Turn.place).count ⟨i, j⟩) :
    ∃ answers, ((start root requests : Assets α).run schedule).answers? i = some answers := by
  obtain ⟨calls, hcalls, hpaths⟩ := exists_calls root hrequest schedule
  have hended : ∀ slot ∈ calls, ∃ answer, ended? slot = some answer := by
    intro slot hslot
    obtain ⟨j, hj, rfl⟩ := List.getElem_of_mem hslot
    cases hcall : calls[j] with
    | none => exact ⟨none, rfl⟩
    | some call =>
      have hcount := hturns j (by rwa [← hpaths, List.length_map])
      have hstart : (start root requests : Assets α).stepsLeft ⟨i, j⟩ ≤ 3 :=
        stepsLeft_start_le root requests ⟨i, j⟩
      have hleft := stepsLeft_run (start root requests) schedule ⟨i, j⟩
      rw [stepsLeft, call?_of_getElem hcalls hj, hcall] at hleft
      dsimp only at hleft
      have hzero : Call.stepsLeft call.stage = 0 := by omega
      obtain ⟨answer, hdone⟩ := Call.exists_done_of_stepsLeft hzero
      exact ⟨answer, by rw [ended?, Call.answer?, hdone]⟩
  obtain ⟨answers, hanswers⟩ := exists_mapM_eq_some hended
  exact ⟨answers, by rw [answers?, hcalls]; exact hanswers⟩

end Assets
end DialogueSheet
