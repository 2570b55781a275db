/-
# Carrying out a download

A remote replies to a URL with a content or with a fault.  A reply is kept if it
is within the limit and, for a picture, decodes; pictures are kept as PNG, and one
that cannot be stored leaves no file.  A download that is not skipped asks until a
reply is kept, five times at most, and changes nothing but its own target and the
directories above it.
-/
import DialogueSheet.Assets.Guard
import DialogueSheet.Raster.Codec
import DialogueSheet.Sync.Plan

namespace DialogueSheet

/-- A reply to a URL. -/
abbrev Reply := Except NetworkFault FileContent

/-- Where remote files come from; a reply may depend on a state. -/
structure Remote (σ : Type) where
  reply : String → σ → Reply × σ

namespace Sync

/-- The fault of a URL that asks for plain HTTP from another machine. -/
def urlFault? (url : String) : Option NetworkFault :=
  let startsWith (text : String) := text.toList.isPrefixOf url.toList
  if startsWith "http://" && !startsWith "http://localhost" && !startsWith "http://127.0.0.1" then
    some (.insecure url)
  else none

end Sync

/-- What a download that does not fail comes to. -/
inductive Outcome where
  | downloaded
  | skipped
deriving DecidableEq, Repr

/-- What is left after downloads: their results, the files, and the state of the remote. -/
structure Transfer (ρ σ : Type) where
  result : ρ
  files : Files
  state : σ

namespace Download

/-- Takes a reply: a fault, too large a file and a picture that does not decode are refused; the
rest is written to the target. -/
def keep (K : Codec) (d : Download) (files : Files) : Reply → Except Failure Unit × Files
  | .error fault => (.error (.network fault), files)
  | .ok content =>
    match sizeFault? maxDownloadBytes content.byteCount with
    | some file => (.error (.network (.tooLarge file)), files)
    | none =>
      if d.isPicture then
        match K.decode? content with
        | none => (.error (.picture .undecodable), files)
        | some image =>
          match K.encode? image >>= files.write? d.target with
          | some written => (.ok (), written)
          | none => (.error (.picture .undecodable), files.remove d.target)
      else
        match files.write? d.target content with
        | some written => (.ok (), written)
        | none => (.error .file, files)

/-- The greatest number of times that a remote is asked. -/
def maxAttempts : Nat := 5

/-- Asks once, and so many times more while no reply is kept. -/
def ask {σ : Type} (K : Codec) (remote : Remote σ) (d : Download) (files : Files) :
    (more : Nat) → σ → Transfer (Except Failure Unit) σ
  | 0, state =>
    let (reply, state) := remote.reply d.url state
    let (result, files) := d.keep K files reply
    ⟨result, files, state⟩
  | more + 1, state =>
    let (reply, state) := remote.reply d.url state
    match d.keep K files reply with
    | (.ok (), files) => ⟨.ok (), files, state⟩
    | (.error _, files) => ask K remote d files more state

/-- Carries out a download. -/
def run {σ : Type} (K : Codec) (remote : Remote σ) (d : Download) (files : Files) (state : σ) :
    Transfer (Except Failure Outcome) σ :=
  if !d.force && files.exists? d.target then ⟨.ok .skipped, files, state⟩
  else
    match files.makeParents? d.target with
    | none => ⟨.error .file, files, state⟩
    | some files =>
      let asked := ask K remote d files (maxAttempts - 1) state
      ⟨asked.result.map fun () => .downloaded, asked.files, asked.state⟩

/-- Carries out downloads one after the other. -/
def runAll {σ : Type} (K : Codec) (remote : Remote σ) :
    List Download → Files → σ → Transfer (List (Except Failure Outcome)) σ
  | [], files, state => ⟨[], files, state⟩
  | d :: rest, files, state =>
    let one := d.run K remote files state
    let others := runAll K remote rest one.files one.state
    ⟨one.result :: others.result, others.files, others.state⟩

end Download
end DialogueSheet
