/-
# Decoded pictures and their cache

A call for the picture at a path looks into the cache, decodes the file when
nothing is published there, and publishes what it found; a path once published
keeps its answer, also the answer that there is no picture.  Paths of the same
components share their answer.  Calls of several workers may take their steps in
any order.
-/
import DialogueSheet.Assets.Kind
import DialogueSheet.Raster.Codec

namespace DialogueSheet

/-- Where a picture comes from. -/
inductive PictureSource where
  | file (location : Location)
  /-- A picture handed over with a script, counted from 1. -/
  | inline (index : Nat)
  /-- Vector markup. -/
  | vector
deriving DecidableEq

/-- A picture, told by its source, at a size. -/
structure Picture where
  source : PictureSource
  size : Size
deriving DecidableEq

/-- The picture that the file at a path decodes to. -/
def Files.picture? (files : Files) (K : Codec) (path : String) : Option Picture :=
  match files.locate? path with
  | none => none
  | some location =>
    match files.found? location with
    | some (.file content) => (K.size? content).map fun size => ⟨.file location, size⟩
    | _ => none

/-! What files decode to is left open: no step of a call looks into it. -/

section Calls

variable {α : Type}

/-- The published answers, one for the components of each path. -/
structure Cache (α : Type) where
  published : List (List PathComponent × Option α)

namespace Cache

/-- Nothing is published. -/
def empty : Cache α := ⟨[]⟩

/-- The published answer for a path. -/
def answer? (cache : Cache α) (path : String) : Option (Option α) :=
  cache.published.lookup (pathComponents path)

/-- Publishes an answer for a path unless there is one. -/
def publish (cache : Cache α) (path : String) (loaded : Option α) : Cache α :=
  match cache.answer? path with
  | some _ => cache
  | none => ⟨(pathComponents path, loaded) :: cache.published⟩

end Cache

/-- How far a call has come. -/
inductive CallStage (α : Type) where
  | check
  | decode
  | publish (loaded : Option α)
  | done (answer : Option α)
deriving DecidableEq

/-- A call for the picture at a path. -/
structure Call (α : Type) where
  path : String
  stage : CallStage α
deriving DecidableEq

namespace Call

/-- A call that has not begun. -/
def start (path : String) : Call α := ⟨path, .check⟩

/-- One step of a call: what it leaves in the cache and how far it comes.  The files are seen
through what they decode to at the moment. -/
def step (decoded? : String → Option α) (cache : Cache α) (call : Call α) : Cache α × Call α :=
  match call.stage with
  | .check =>
    match cache.answer? call.path with
    | some answer => (cache, { call with stage := .done answer })
    | none => (cache, { call with stage := .decode })
  | .decode => (cache, { call with stage := .publish (decoded? call.path) })
  | .publish loaded =>
    let cache := cache.publish call.path loaded
    (cache, { call with stage := .done ((cache.answer? call.path).getD none) })
  | .done _ => (cache, call)

/-- The answer of a finished call. -/
def answer? (call : Call α) : Option (Option α) :=
  match call.stage with
  | .done answer => some answer
  | _ => none

end Call

namespace Cache

/-- The picture at a path, by a call that nothing interrupts. -/
def load (decoded? : String → Option α) (cache : Cache α) (path : String) :
    Cache α × Option α :=
  let (cache, call) := (Call.start path).step decoded? cache
  let (cache, call) := call.step decoded? cache
  let (cache, call) := call.step decoded? cache
  (cache, call.answer?.getD none)

/-- The picture of a kind and a name; nothing for a refused name. -/
def get (decoded? : String → Option α) (root : AssetRoot) (cache : Cache α) (kind : AssetKind)
    (name : String) : Cache α × Option α :=
  match root.assetPath kind name with
  | .ok path => cache.load decoded? path
  | .error _ => (cache, none)

/-- The pictures of several requests, in their order. -/
def prefetch (decoded? : String → Option α) (root : AssetRoot) :
    Cache α → List (AssetKind × String) → Cache α × List (Option α)
  | cache, [] => (cache, [])
  | cache, (kind, name) :: requests =>
    let (cache, answer) := cache.get decoded? root kind name
    let (cache, answers) := prefetch decoded? root cache requests
    (cache, answer :: answers)

end Cache

end Calls
end DialogueSheet
