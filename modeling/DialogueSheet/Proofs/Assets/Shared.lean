/-
# The answers of shared pictures

Whatever the order of the turns and whatever happens to the files in between, every path has one
answer, the one that was published first, and a request has the answers of its pictures in their
order (`Assets.run_served`).

Without changes to the files the order does not matter at all for pictures asked for by names.
Two accepted names with paths of the same components are the same name, so what is published for a
name is what its own file decodes to (`Cache.IsOf`), in any order as in that of `Cache.prefetch`
(`Assets.answers_eq_prefetch`).
-/
import DialogueSheet.Proofs.Assets.Calls
import DialogueSheet.Proofs.Assets.Paths

namespace DialogueSheet

variable {α : Type}

/-! ### Names, while the files stay as they are -/

/-- What the picture of a kind and a name decodes to; nothing for a refused name. -/
def AssetRoot.namedPicture? (root : AssetRoot) (decoded? : String → Option α) (kind : AssetKind)
    (name : String) : Option α :=
  match root.assetPath kind name with
  | .ok path => decoded? path
  | .error _ => none

namespace Cache

/-- All that is published for an accepted name is what its file decodes to. -/
def IsOf (cache : Cache α) (decoded? : String → Option α) (root : AssetRoot) : Prop :=
  ∀ kind name path answer, root.assetPath kind name = .ok path →
    cache.answer? path = some answer → answer = decoded? path

theorem load_eq (decoded? : String → Option α) (cache : Cache α) (path : String) :
    cache.load decoded? path =
      match cache.answer? path with
      | some answer => (cache, answer)
      | none => (cache.publish path (decoded? path), decoded? path) := by
  cases h : cache.answer? path with
  | some answer => simp [load, Call.start, Call.step, Call.answer?, h]
  | none => simp [load, Call.start, Call.step, Call.answer?, h, answer?_publish h]

variable {decoded? : String → Option α} {root : AssetRoot} {cache : Cache α}

theorem IsOf.get (h : cache.IsOf decoded? root) (kind : AssetKind) (name : String) :
    (cache.get decoded? root kind name).1.IsOf decoded? root ∧
      (cache.get decoded? root kind name).2 = root.namedPicture? decoded? kind name := by
  unfold Cache.get AssetRoot.namedPicture?
  cases hpath : root.assetPath kind name with
  | error fault => exact ⟨h, rfl⟩
  | ok path =>
    simp only [load_eq]
    cases hcache : cache.answer? path with
    | some answer => exact ⟨h, h kind name path answer hpath hcache⟩
    | none =>
      refine ⟨fun kind' name' path' answer hpath' hanswer => ?_, rfl⟩
      rw [answer?_publish hcache] at hanswer
      split at hanswer
      · rename_i hsame
        obtain ⟨rfl, rfl⟩ := AssetRoot.eq_of_pathComponents_eq hpath hpath' hsame
        obtain rfl : path = path' := Except.ok.inj (hpath.symm.trans hpath')
        exact (Option.some.inj hanswer).symm
      · exact h kind' name' path' answer hpath' hanswer

theorem IsOf.prefetch (h : cache.IsOf decoded? root) (pictures : List (AssetKind × String)) :
    (cache.prefetch decoded? root pictures).2 =
      pictures.map fun (kind, name) => root.namedPicture? decoded? kind name := by
  induction pictures generalizing cache with
  | nil => rfl
  | cons picture rest ih =>
    obtain ⟨kind, name⟩ := picture
    obtain ⟨hcache, hanswer⟩ := h.get kind name
    have hrest := ih hcache
    simp only [Cache.prefetch, List.map_cons, hanswer, hrest]

/-- Pictures that are asked for one after the other. -/
theorem prefetch_empty (decoded? : String → Option α) (root : AssetRoot)
    (pictures : List (AssetKind × String)) :
    (Cache.empty.prefetch decoded? root pictures).2 =
      pictures.map fun (kind, name) => root.namedPicture? decoded? kind name :=
  IsOf.prefetch (fun _ _ _ _ _ h => by cases h) pictures

end Cache

namespace Assets

variable {root : AssetRoot} {requests : List PictureRequest} {schedule : List (Turn α)}
  {decoded? : String → Option α}

theorem exists_request_of_call? {place : Place} {call : Call α}
    (h : ((start root requests).run schedule).call? place = some call) :
    ∃ request ∈ requests, some call.path ∈ request.paths root := by
  obtain ⟨calls, hcalls, hslot⟩ := Option.bind_eq_some_iff.1 h
  have hpaths : ((start root requests).run schedule).paths[place.request]? =
      some (calls.map (·.map Call.path)) := by
    rw [paths, List.getElem?_map, hcalls, Option.map_some]
  rw [paths_run, paths_start, List.getElem?_map, Option.map_eq_some_iff] at hpaths
  obtain ⟨request, hrequest, hmap⟩ := hpaths
  refine ⟨request, List.mem_of_getElem? hrequest, ?_⟩
  rw [hmap]
  exact List.mem_map.2 ⟨some call, List.mem_of_getElem? (Option.join_eq_some_iff.1 hslot), rfl⟩

/-- The path of a picture that is asked for by its name is one of an accepted name. -/
theorem exists_name_of_mem_paths {request : PictureRequest} {path : String}
    (hname : ∀ path, request ≠ .load path) (h : some path ∈ request.paths root) :
    ∃ kind name, root.assetPath kind name = .ok path := by
  have haccepted : ∀ {kind name}, (root.assetPath kind name).toOption = some path →
      root.assetPath kind name = .ok path := by
    intro kind name h
    cases hpath : root.assetPath kind name with
    | ok _ =>
      rw [hpath] at h
      exact congrArg Except.ok (Option.some.inj h)
    | error _ =>
      rw [hpath] at h
      cases h
  cases request with
  | load path' => exact absurd rfl (hname path')
  | get kind name => exact ⟨kind, name, haccepted (List.mem_singleton.1 h).symm⟩
  | prefetch pictures =>
    obtain ⟨⟨kind, name⟩, -, hpath⟩ := List.mem_map.1 h
    exact ⟨kind, name, haccepted hpath⟩

theorem isOf_run (hfiles : ∀ t ∈ schedule, t.decoded? = decoded?)
    (hnames : ∀ request ∈ requests, ∀ path, request ≠ .load path) :
    ((start root requests).run schedule).cache.IsOf decoded? root := by
  intro kind name path answer hpath hanswer
  obtain ⟨earlier, t, later, rfl, hpublishes⟩ := exists_publishes hanswer
  obtain ⟨own, hown, hcall, -, first, u, between, rfl, -, rfl⟩ := hpublishes.publisher
  obtain ⟨request, hrequest, hmem⟩ := exists_request_of_call? hcall
  obtain ⟨kind', name', hpath'⟩ := exists_name_of_mem_paths (hnames request hrequest) hmem
  obtain ⟨rfl, rfl⟩ := AssetRoot.eq_of_pathComponents_eq hpath hpath' hown
  obtain rfl : path = own := Except.ok.inj (hpath.symm.trans hpath')
  rw [hfiles u (by simp)]

/-- **While the files stay as they are, every order gives the answers that pictures have one
after the other.** -/
theorem answers_eq_prefetch
    (hfiles : ∀ t ∈ schedule, t.decoded? = decoded?)
    (hnames : ∀ request ∈ requests, ∀ path, request ≠ .load path) {i : Nat}
    {pictures : List (AssetKind × String)} (hrequest : requests[i]? = some (.prefetch pictures))
    {answers : List (Option α)}
    (h : ((start root requests).run schedule).answers? i = some answers) :
    answers = (Cache.empty.prefetch decoded? root pictures).2 := by
  have hof : ((start root requests).run schedule).cache.IsOf decoded? root :=
    isOf_run hfiles hnames
  have hgives := gives_of_answers hrequest h
  rw [PictureRequest.paths, List.forall₂_map_left_iff] at hgives
  rw [Cache.prefetch_empty, ← List.forall₂_eq_eq_eq, List.forall₂_map_right_iff]
  refine hgives.flip.imp fun answer picture hgive => ?_
  obtain ⟨kind, name⟩ := picture
  dsimp only at hgive ⊢
  rw [AssetRoot.namedPicture?]
  cases hpath : root.assetPath kind name with
  | ok path =>
    rw [hpath] at hgive
    exact hof kind name path answer hpath hgive
  | error fault =>
    rw [hpath] at hgive
    exact hgive

/-! ### All together -/

/-- How requests are served in a schedule, whatever the files do. -/
structure Served (root : AssetRoot) (requests : List PictureRequest)
    (schedule : List (Turn α)) : Prop where
  /-- What is published stays. -/
  stays : ∀ path answer,
    ((start root requests).run schedule).cache.answer? path = some answer →
      ∀ later, ((start root requests).run (schedule ++ later)).cache.answer? path = some answer
  /-- A call that has ended has the answer of the call that first published its path. -/
  first : ∀ place path answer,
    ((start root requests).run schedule).call? place = some ⟨path, .done answer⟩ →
      ∃ earlier t later, schedule = earlier ++ t :: later ∧
        (start root requests).Publishes earlier t path answer
  /-- Two calls for one path that have ended have the same answer. -/
  agree : ∀ place place' path path' answer answer',
    ((start root requests).run schedule).call? place = some ⟨path, .done answer⟩ →
      ((start root requests).run schedule).call? place' = some ⟨path', .done answer'⟩ →
        pathComponents path = pathComponents path' → answer = answer'
  /-- A request has one answer for each of its pictures, in their order. -/
  answers : ∀ i request answers, requests[i]? = some request →
    ((start root requests).run schedule).answers? i = some answers →
      List.Forall₂ ((start root requests).run schedule).Gives (request.paths root) answers
  /-- A request is answered once each of its calls has had three turns. -/
  answered : ∀ i request, requests[i]? = some request →
    (∀ j < (request.paths root).length, 3 ≤ (schedule.map Turn.place).count ⟨i, j⟩) →
      ∃ answers, ((start root requests).run schedule).answers? i = some answers
  /-- While the files stay as they are, pictures asked for by their names have the answers that
  they have one after the other. -/
  unchanged : ∀ decoded?, (∀ t ∈ schedule, t.decoded? = decoded?) →
    (∀ request ∈ requests, ∀ path, request ≠ .load path) →
      ∀ i pictures answers, requests[i]? = some (.prefetch pictures) →
        ((start root requests).run schedule).answers? i = some answers →
          answers = (Cache.empty.prefetch decoded? root pictures).2

/-- **Every call for a path has the answer of the call that first published it**, for any number
of workers and in any order of their steps. -/
theorem run_served (root : AssetRoot) (requests : List PictureRequest)
    (schedule : List (Turn α)) : Served root requests schedule where
  stays path answer h later := by
    rw [run_append]
    exact answer?_run h later
  first place path answer h :=
    exists_publishes ((answered_start root requests).run schedule _ _ _ h)
  agree place place' path path' answer answer' h h' hsame := by
    have hanswered := (answered_start root requests).run schedule
    have hpath := hanswered _ _ _ h
    have hpath' := hanswered _ _ _ h'
    rw [Cache.answer?, hsame] at hpath
    exact Option.some.inj (hpath.symm.trans hpath')
  answers _ _ _ hrequest := gives_of_answers hrequest
  answered _ _ := exists_answers
  unchanged _ hfiles hnames _ _ _ hrequest := answers_eq_prefetch hfiles hnames hrequest

/-! ### A race -/

/-- A root with icons of these names and sizes. -/
def iconFiles (icons : List (String × Size)) : Files where
  entries := [(["r"], .directory), (["r", "icons"], .directory)] ++
    icons.map fun (name, size) => (["r", "icons", name ++ ".png"], .file (.picture size .png 99))
  working := []

/-- An icon, the same with others, and the file of one of those. -/
def iconRequests : List PictureRequest :=
  [.get .icon "a", .prefetch [(.icon, "b"), (.icon, ".."), (.icon, "a"), (.icon, "b")],
    .load "r/icons/./b.png"]

/-- Two calls for the icon `a` look for it before either publishes, and its file changes between
them; `b` gets a file once its call has seen that there is none. -/
def iconTurns : List (Turn Picture) :=
  let small := (iconFiles [("a", ⟨4, 2⟩)]).picture? .bySize
  let large := (iconFiles [("a", ⟨8, 8⟩)]).picture? .bySize
  let both := (iconFiles [("a", ⟨8, 8⟩), ("b", ⟨1, 1⟩)]).picture? .bySize
  [⟨⟨0, 0⟩, small⟩, ⟨⟨1, 2⟩, small⟩, ⟨⟨0, 0⟩, small⟩, ⟨⟨1, 2⟩, large⟩, ⟨⟨1, 2⟩, large⟩,
    ⟨⟨0, 0⟩, large⟩, ⟨⟨1, 3⟩, large⟩, ⟨⟨1, 3⟩, large⟩, ⟨⟨1, 3⟩, both⟩, ⟨⟨2, 0⟩, both⟩,
    ⟨⟨1, 0⟩, both⟩]

/-- The call that decoded first is late and gets the answer of the other; and what had no file is
absent for all that ask later. -/
theorem run_served_of_race :
    let icons := (start ⟨"r"⟩ iconRequests).run iconTurns
    let icon : Picture := ⟨.file ["r", "icons", "a.png"], ⟨8, 8⟩⟩
    icons.answers? 0 = some [some icon] ∧
      icons.answers? 1 = some [none, none, some icon, none] ∧
      icons.answers? 2 = some [none] ∧
      (∃ earlier t later, iconTurns = earlier ++ t :: later ∧
        (start ⟨"r"⟩ iconRequests).Publishes earlier t "r/icons/a.png" (some icon)) ∧
      ∃ earlier t later, iconTurns = earlier ++ t :: later ∧
        (start ⟨"r"⟩ iconRequests).Publishes earlier t "r/icons/./b.png" none := by
  intro icons icon
  have hserved := run_served ⟨"r"⟩ iconRequests iconTurns
  refine ⟨by decide +kernel, by decide +kernel, by decide +kernel, ?_, ?_⟩
  · exact hserved.first ⟨0, 0⟩ _ _ (by decide +kernel)
  · exact hserved.first ⟨2, 0⟩ _ _ (by decide +kernel)

end Assets
end DialogueSheet
