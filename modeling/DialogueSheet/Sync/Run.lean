/-
# Bringing the assets up to date

The data files come first, because the pictures follow from the records in them.
A download that fails is listed in the report; only a table of students that
cannot be read stops everything.
-/
import DialogueSheet.Items.Tables
import DialogueSheet.Json.Reader
import DialogueSheet.Sync.Transfer

namespace DialogueSheet

/-- How the downloads of a run went. -/
structure SyncReport where
  downloaded : Nat
  skipped : Nat
  /-- The URLs that failed, in the order of the plan. -/
  failed : List String
deriving DecidableEq, Repr

namespace SyncReport

/-- The report on downloads with their results. -/
def ofResults (results : List (Download × Except Failure Outcome)) : SyncReport where
  downloaded := results.countP fun (_, r) => r.toOption = some .downloaded
  skipped := results.countP fun (_, r) => r.toOption = some .skipped
  failed := results.filterMap fun (d, r) => if r.toOption.isNone then some d.url else none

end SyncReport

/-- What is brought up to date. -/
structure SyncOptions where
  languages : List Language := [.cn]
  /-- Whether pictures are replaced that are already there. -/
  force : Bool := false
deriving DecidableEq

namespace Sync

/-- The rows of the Chinese table of a name. -/
def table {α : Type} (files : Files) (root : AssetRoot) (file : String)
    (item : Json → Option α) : Except Failure (List α) :=
  match files.readText? (root.dataFile .cn file) with
  | none => .error .file
  | some text =>
    match Json.parse? text >>= Json.rowsOf? item with
    | some rows => .ok rows
    | none => .error .data

/-- The pictures that the records in the data files ask for. -/
def plannedPictures (files : Files) (root : AssetRoot) (force : Bool) :
    Except Failure (List Download) := do
  let students ← table files root "students" Student.ofJson?
  return picturePlan root students (tableRows files root .cn "items" Item.ofJson?)
    (tableRows files root .cn "furniture" Furniture.ofJson?) force

/-- Downloads the data files, then the pictures. -/
def run {σ : Type} (K : Codec) (remote : Remote σ) (root : AssetRoot) (options : SyncOptions)
    (files : Files) (state : σ) : Transfer (Except Failure SyncReport) σ :=
  let data := dataPlan root options.languages
  let first := Download.runAll K remote data files state
  match plannedPictures first.files root options.force with
  | .error e => ⟨.error e, first.files, first.state⟩
  | .ok pictures =>
    let second := Download.runAll K remote pictures first.files first.state
    let report := .ofResults ((data ++ pictures).zip (first.result ++ second.result))
    ⟨.ok report, second.files, second.state⟩

end Sync
end DialogueSheet
