/-
# Five attempts at a download

| the target | the first five replies | the result | the remote is asked | the target holds |
| --- | --- | --- | ---: | --- |
| is there, not forced | any | skipped | 0 times | what it held |
| is needed | the first to be kept is the `k`-th | downloaded | `k` times | what is kept of it |
| is needed | all refused | the fault of the fifth | 5 times | what it held |

`Keeps` and `Refuses` say what becomes of one reply: it is never both (`Keeps.not_refuses`), and
it is one of them when a picture that decodes can be stored (`keeps_or_refuses`).  `ask_cases`
goes through the attempts, with the replies that a remote gives one after the other
(`Remote.replyAt`).  No path at which something stood leads to anything else afterwards, except
the target of a download that has succeeded (`Files.Grown`).
-/
import DialogueSheet.Proofs.Sync.Settled

namespace DialogueSheet

/-! ### What is made on the way -/

namespace Files

/-- Later files have all that stood before where it stood, and besides it only directories. -/
structure Grown (files later : Files) : Prop where
  working : later.working = files.working
  entry : ∀ l, later.found? l = files.found? l ∨
    files.found? l = none ∧ later.found? l = some .directory

variable {files later made : Files}

theorem Opened.grown {locations : List Location} (h : files.Opened locations made)
    (hfree : files.Free locations) : files.Grown made where
  working := h.working
  entry l := by
    rw [h.entry]
    split
    · rename_i hl
      cases hentry : files.found? l with
      | none => exact .inr ⟨rfl, rfl⟩
      | some entry =>
        cases entry with
        | directory => exact .inl rfl
        | file content => exact absurd hentry (hfree l hl content)
    · exact .inl rfl

theorem Grown.entry_of_ne_none (h : files.Grown later) {l : Location}
    (hl : files.found? l ≠ none) : later.found? l = files.found? l :=
  (h.entry l).resolve_right fun hnone => hl hnone.1

/-- A path that led somewhere still leads there. -/
theorem Grown.follow? (h : files.Grown later) {location goal : Location} {parts : List String}
    (hgoal : files.follow? location parts = some goal) :
    later.follow? location parts = some goal := by
  obtain ⟨walk, hwalk, rfl, hall⟩ := follow?_eq_some_iff.1 hgoal
  refine follow?_eq_some_iff.2 ⟨walk, hwalk, rfl, fun l hl => ?_⟩
  rw [h.entry_of_ne_none (by simp [hall l hl]), hall l hl]

/-- **What stood at a path stands there.** -/
theorem Grown.at?_eq (h : files.Grown later) {path : String} (hpath : files.exists? path = true) :
    later.at? path = files.at? path := by
  obtain ⟨goal, hgoal⟩ := exists_locate? hpath
  have hentry : files.found? goal ≠ none := by
    intro hnone
    simp [exists?, at?, hgoal, hnone] at hpath
  have hlater : later.locate? path = some goal := by
    unfold locate? at hgoal ⊢
    split at hgoal
    · cases hgoal
    · rename_i hfits
      rw [if_neg hfits, startOf_eq files later h.working]
      exact h.follow? hgoal
  calc later.at? path = later.found? goal := by rw [at?, hlater]; rfl
    _ = files.found? goal := h.entry_of_ne_none hentry
    _ = files.at? path := by rw [at?, hgoal]; rfl

/-- What is written at a path is read there. -/
theorem read?_of_write? {path : String} {content : FileContent}
    (h : files.write? path content = some later) : later.read? path = some content := by
  obtain ⟨goal, hgoal, hplace, rfl⟩ := write?_eq_some_iff.1 h
  have hne : goal ≠ [] := by
    rintro rfl
    exact hplace rfl
  have hentry := found?_put files hne (.file content)
  have hlater : (files.put goal (.file content)).locate? path = some goal := by
    unfold locate? at hgoal ⊢
    split at hgoal
    · cases hgoal
    · rename_i hfits
      rw [if_neg hfits]
      obtain ⟨walk, hwalk, hgoal, hall⟩ := follow?_eq_some_iff.1 hgoal
      refine follow?_eq_some_iff.2 ⟨walk, hwalk, hgoal, fun l hl => ?_⟩
      -- a directory on the way is not the place of the file
      have hl' : l ≠ goal := by
        rintro rfl
        exact hplace (hall l hl)
      rw [hentry, if_neg hl']
      exact hall l hl
  have hat : (files.put goal (.file content)).at? path = some (.file content) := by
    rw [at?, hlater]
    exact (hentry goal).trans (if_pos rfl)
  simp only [read?, hat]

end Files

/-! ### One reply after the other -/

namespace Remote

variable {σ : Type}

/-- The state of a remote that has been asked so many times for a URL. -/
def stateAfter (remote : Remote σ) (url : String) (state : σ) : Nat → σ
  | 0 => state
  | n + 1 => stateAfter remote url (remote.reply url state).2 n

/-- The reply to a URL that has been asked for so many times before. -/
def replyAt (remote : Remote σ) (url : String) (state : σ) (n : Nat) : Reply :=
  (remote.reply url (remote.stateAfter url state n)).1

end Remote

namespace Download

/-- A reply of at most 64 MiB is kept as it is, or as the PNG file of the picture that it
decodes to. -/
inductive Keeps (K : Codec) (d : Download) : Reply → FileContent → Prop where
  | file {content : FileContent} (hpicture : d.isPicture = false)
      (hfits : content.byteCount ≤ 64 * 1024 * 1024) : Keeps K d (.ok content) content
  | picture {content png : FileContent} {image : K.Image} (hpicture : d.isPicture = true)
      (hfits : content.byteCount ≤ 64 * 1024 * 1024) (hdecode : K.decode? content = some image)
      (hencode : K.encode? image = some png) : Keeps K d (.ok content) png

/-- A reply is refused, with what is wrong with it. -/
inductive Refuses (K : Codec) (d : Download) : Reply → Failure → Prop where
  | fault (fault : NetworkFault) : Refuses K d (.error fault) (.network fault)
  | tooLarge {content : FileContent} (hlarge : 64 * 1024 * 1024 < content.byteCount) :
      Refuses K d (.ok content) (.network (.tooLarge ⟨content.byteCount, 64 * 1024 * 1024⟩))
  | undecodable {content : FileContent} (hpicture : d.isPicture = true)
      (hfits : content.byteCount ≤ 64 * 1024 * 1024) (hdecode : K.decode? content = none) :
      Refuses K d (.ok content) (.picture .undecodable)

variable {K : Codec} {d : Download} {reply : Reply}

theorem verdict_of_keeps {content : FileContent} (h : d.Keeps K reply content) :
    d.verdict K reply = .kept content := by
  cases h with
  | file hpicture hfits =>
    have hlimit : ¬maxDownloadBytes < content.byteCount := Nat.not_lt.2 hfits
    simp [verdict, sizeFault?, hlimit, hpicture]
  | @picture body png image hpicture hfits hdecode hencode =>
    have hlimit : ¬maxDownloadBytes < body.byteCount := Nat.not_lt.2 hfits
    simp [verdict, sizeFault?, hlimit, hpicture, hdecode, hencode]

theorem verdict_of_refuses {e : Failure} (h : d.Refuses K reply e) :
    d.verdict K reply = .refused e := by
  cases h with
  | fault fault => rfl
  | @tooLarge body hlarge =>
    have hlimit : maxDownloadBytes < body.byteCount := hlarge
    simp only [verdict, sizeFault?, if_pos hlimit]
    rfl
  | @undecodable body hpicture hfits hdecode =>
    have hlimit : ¬maxDownloadBytes < body.byteCount := Nat.not_lt.2 hfits
    simp [verdict, sizeFault?, hlimit, hpicture, hdecode]

/-- **A reply is kept or refused**, if its picture can be stored. -/
theorem keeps_or_refuses (h : d.isPicture = true → K.Stores reply) :
    (∃ content, d.Keeps K reply content) ∨ ∃ e, d.Refuses K reply e := by
  cases reply with
  | error fault => exact .inr ⟨_, .fault fault⟩
  | ok content =>
    by_cases hfits : content.byteCount ≤ 64 * 1024 * 1024
    · cases hpicture : d.isPicture with
      | false => exact .inl ⟨_, .file hpicture hfits⟩
      | true =>
        cases hdecode : K.decode? content with
        | none => exact .inr ⟨_, .undecodable hpicture hfits hdecode⟩
        | some image =>
          obtain ⟨png, hencode⟩ := Option.isSome_iff_exists.1 (h hpicture content image rfl hdecode)
          exact .inl ⟨png, .picture hpicture hfits hdecode hencode⟩
    · exact .inr ⟨_, .tooLarge (Nat.lt_of_not_le hfits)⟩

/-- No reply is both kept and refused. -/
theorem Keeps.not_refuses {content : FileContent} {e : Failure} (h : d.Keeps K reply content) :
    ¬d.Refuses K reply e := by
  intro hrefuses
  have hverdict := (verdict_of_keeps h).symm.trans (verdict_of_refuses hrefuses)
  cases hverdict

/-! ### The attempts -/

variable {σ : Type} {files : Files}

section Asking

variable {goal : Location} (hgoal : files.locate? d.target = some goal)
  (hvacant : files.found? goal ≠ some .directory)
include hgoal hvacant

theorem keep_of_keeps {content : FileContent} (h : d.Keeps K reply content) :
    d.keep K files reply = (.ok (), files.put goal (.file content)) := by
  rw [keep_eq K hgoal hvacant, verdict_of_keeps h]

theorem keep_of_refuses {e : Failure} (h : d.Refuses K reply e) :
    d.keep K files reply = (.error e, files) := by
  rw [keep_eq K hgoal hvacant, verdict_of_refuses h]

variable {remote : Remote σ} {state : σ}

/-- A reply that is kept ends the attempts. -/
theorem ask_of_keeps (more : Nat) {content : FileContent}
    (h : d.Keeps K (remote.replyAt d.url state 0) content) :
    d.ask K remote files more state =
      ⟨.ok (), files.put goal (.file content), remote.stateAfter d.url state 1⟩ := by
  have hkept : d.keep K files (remote.reply d.url state).1 = _ := keep_of_keeps hgoal hvacant h
  cases more <;> (simp only [ask, hkept]; rfl)

/-- The last attempt fails as its reply is refused. -/
theorem ask_zero_of_refuses {e : Failure} (h : d.Refuses K (remote.replyAt d.url state 0) e) :
    d.ask K remote files 0 state = ⟨.error e, files, remote.stateAfter d.url state 1⟩ := by
  have hrefused : d.keep K files (remote.reply d.url state).1 = _ :=
    keep_of_refuses hgoal hvacant h
  simp only [ask, hrefused]
  rfl

/-- What comes after a refused reply is asked of the remote in its next state. -/
theorem ask_succ_of_refuses (more : Nat) {e : Failure}
    (h : d.Refuses K (remote.replyAt d.url state 0) e) :
    d.ask K remote files (more + 1) state =
      d.ask K remote files more (remote.reply d.url state).2 := by
  have hrefused : d.keep K files (remote.reply d.url state).1 = _ :=
    keep_of_refuses hgoal hvacant h
  simp only [ask, hrefused]

/-- **Attempts end with the first reply that is kept, or with the last one refused.** -/
theorem ask_cases (K : Codec) (remote : Remote σ) (more : Nat) (state : σ)
    (hstores : d.isPicture = true → ∀ k ≤ more, K.Stores (remote.replyAt d.url state k)) :
    (∃ k ≤ more, ∃ content, d.Keeps K (remote.replyAt d.url state k) content ∧
      (∀ i < k, ∃ e, d.Refuses K (remote.replyAt d.url state i) e) ∧
      d.ask K remote files more state =
        ⟨.ok (), files.put goal (.file content), remote.stateAfter d.url state (k + 1)⟩) ∨
    (∀ i ≤ more, ∃ e, d.Refuses K (remote.replyAt d.url state i) e) ∧
      ∃ e, d.Refuses K (remote.replyAt d.url state more) e ∧
        d.ask K remote files more state =
          ⟨.error e, files, remote.stateAfter d.url state (more + 1)⟩ := by
  induction more generalizing state with
  | zero =>
    rcases keeps_or_refuses fun hpicture => hstores hpicture 0 (Nat.zero_le _) with
      ⟨content, hkeeps⟩ | ⟨e, hrefuses⟩
    · exact .inl ⟨0, Nat.zero_le _, content, hkeeps, by simp,
        ask_of_keeps hgoal hvacant 0 hkeeps⟩
    · refine .inr ⟨fun i hi => ?_, e, hrefuses, ask_zero_of_refuses hgoal hvacant hrefuses⟩
      obtain rfl := Nat.le_zero.1 hi
      exact ⟨e, hrefuses⟩
  | succ more ih =>
    rcases keeps_or_refuses fun hpicture => hstores hpicture 0 (Nat.zero_le _) with
      ⟨content, hkeeps⟩ | ⟨e, hrefuses⟩
    · exact .inl ⟨0, Nat.zero_le _, content, hkeeps, by simp,
        ask_of_keeps hgoal hvacant (more + 1) hkeeps⟩
    · have hask := ask_succ_of_refuses hgoal hvacant more hrefuses
      have hbefore : ∀ {n}, (∀ i < n, ∃ e,
          d.Refuses K (remote.replyAt d.url (remote.reply d.url state).2 i) e) →
          ∀ i < n + 1, ∃ e, d.Refuses K (remote.replyAt d.url state i) e := by
        intro n hrest i hi
        cases i with
        | zero => exact ⟨e, hrefuses⟩
        | succ i => exact hrest i (Nat.lt_of_succ_lt_succ hi)
      rcases ih (remote.reply d.url state).2 fun hpicture k hk =>
          hstores hpicture (k + 1) (Nat.succ_le_succ hk) with
        ⟨k, hk, content, hkeeps, hall, hrun⟩ | ⟨hall, e', hlast, hrun⟩
      · exact .inl ⟨k + 1, Nat.succ_le_succ hk, content, hkeeps, hbefore hall, hask.trans hrun⟩
      · refine .inr ⟨fun i hi => ?_, e', hlast, hask.trans hrun⟩
        exact hbefore (fun j hj => hall j (Nat.le_of_lt_succ hj)) i (Nat.lt_succ_of_le hi)

end Asking

/-- The place of a writable target, to which nothing comes while its directories are made. -/
theorem Writable.exists_made (h : d.Writable files) :
    ∃ made goal, files.makeParents? d.target = some made ∧ files.Grown made ∧
      made.locate? d.target = some goal ∧ made.found? goal = files.found? goal ∧
      made.found? goal ≠ some .directory := by
  obtain ⟨made, hmade, hwrite⟩ := h
  obtain ⟨-, hfree, hopened⟩ := Files.of_makeParents? hmade
  obtain ⟨written, hwritten⟩ := Option.isSome_iff_exists.1 (hwrite (.text ""))
  obtain ⟨goal, hgoal, hvacant, -⟩ := Files.write?_eq_some_iff.1 hwritten
  have hgrown := hopened.grown hfree
  exact ⟨made, goal, hmade, hgrown, hgoal,
    (hgrown.entry goal).resolve_right fun h => hvacant h.2, hvacant⟩

/-- **The first reply that is kept decides, or the fifth that is refused.**  A download whose
target is there is skipped unless it is forced, and the remote is not asked.  Otherwise it is
asked until a reply is kept, five times at most.  The download succeeds exactly when one of the
first five replies is kept, and its target then holds what is kept of the first such reply; else
it fails as the fifth reply is refused, and its target is what it was before.  Pictures that
decode can be stored. -/
theorem run_attempts (K : Codec) (remote : Remote σ) (d : Download) (files : Files) (state : σ)
    (hwritable : d.needed files = true → d.Writable files)
    (hstores : d.isPicture = true → ∀ k < 5, K.Stores (remote.replyAt d.url state k)) :
    let reply := remote.replyAt d.url state
    let after := remote.stateAfter d.url state
    let t := d.run K remote files state
    (d.force = false ∧ files.exists? d.target = true → t = ⟨.ok .skipped, files, state⟩) ∧
    (d.force = true ∨ files.exists? d.target = false →
      (t.result = .ok .downloaded ↔ ∃ k < 5, ∃ content, d.Keeps K (reply k) content) ∧
      ∃ made goal, files.Grown made ∧
        (∀ path, files.exists? path = true → made.at? path = files.at? path) ∧
        made.locate? d.target = some goal ∧ made.found? goal = files.found? goal ∧
        ((∃ k < 5, ∃ content, d.Keeps K (reply k) content ∧
            (∀ i < k, ∃ e, d.Refuses K (reply i) e) ∧
            t = ⟨.ok .downloaded, made.put goal (.file content), after (k + 1)⟩ ∧
            t.files.read? d.target = some content) ∨
          ((∀ i < 5, ∃ e, d.Refuses K (reply i) e) ∧
            ∃ e, d.Refuses K (reply 4) e ∧ t = ⟨.error e, made, after 5⟩))) := by
  intro reply after t
  refine ⟨fun ⟨hforce, hexists⟩ => ?_, fun hcase => ?_⟩
  · simp only [t, run, hforce, hexists]
    rfl
  have hneeded : d.needed files = true := by
    rcases hcase with hforce | hmissing
    · exact needed_of_force hforce
    · simp [needed, hmissing]
  obtain ⟨made, goal, hmade, hgrown, hgoal, hsame, hvacant⟩ := (hwritable hneeded).exists_made
  have hlast : maxAttempts - 1 = 4 := rfl
  have hasked : (!d.force && files.exists? d.target) = false := by
    rcases hcase with hforce | hmissing
    · simp [hforce]
    · simp [hmissing]
  rcases ask_cases hgoal hvacant K remote 4 state
      (fun hpicture k hk => hstores hpicture k (Nat.lt_succ_of_le hk)) with
    ⟨k, hk, content, hkeeps, hbefore, hask⟩ | ⟨hall, e, hrefuses, hask⟩
  · have hrun : t = ⟨.ok .downloaded, made.put goal (.file content), after (k + 1)⟩ := by
      simp only [t, run, hasked, hmade, hlast, hask]
      rfl
    have hlt : k < 5 := Nat.lt_succ_of_le hk
    refine ⟨iff_of_true (by rw [hrun]) ⟨k, hlt, content, hkeeps⟩, made, goal, hgrown,
      fun _ => hgrown.at?_eq, hgoal, hsame,
      .inl ⟨k, hlt, content, hkeeps, hbefore, hrun, ?_⟩⟩
    rw [hrun]
    exact Files.read?_of_write? (Files.write?_eq_some_iff.2 ⟨goal, hgoal, hvacant, rfl⟩)
  · have hrun : t = ⟨.error e, made, after 5⟩ := by
      simp only [t, run, hasked, hmade, hlast, hask]
      rfl
    have hrefused : ∀ i < 5, ∃ e, d.Refuses K (reply i) e := fun i hi =>
      hall i (Nat.le_of_lt_succ hi)
    refine ⟨iff_of_false (by rw [hrun]; simp) ?_, made, goal, hgrown,
      fun _ => hgrown.at?_eq, hgoal, hsame,
      .inr ⟨hrefused, e, hrefuses, hrun⟩⟩
    rintro ⟨k, hk, content, hkeeps⟩
    obtain ⟨e', hrefuses'⟩ := hrefused k hk
    exact hkeeps.not_refuses hrefuses'

/-- A remote that gives the replies of a list, whatever it is asked for. -/
def inTurn : Remote (List Reply) :=
  ⟨fun _ replies => (replies.headD (.error (.other "no reply")), replies.tail)⟩

/-- Where the size of a picture is all that is kept, it can be stored. -/
theorem stores_bySize (reply : Reply) : Codec.bySize.Stores reply := fun _ _ _ _ => rfl

/-- A forced picture in place of an old text: the first three replies are refused, one of them
because it is a byte too large.  The fourth is kept in one run and refused in the other. -/
theorem run_attempts_at_fourth_and_fifth :
    let d : Download := ⟨"https://example.test/a.webp", "icons/a.png", true, true⟩
    let files : Files :=
      ⟨[(["icons"], .directory), (["icons", "a.png"], .file (.text "old"))], []⟩
    let refused : List Reply :=
      [.error (.other "timeout"), .ok (.picture ⟨9, 9⟩ .webp 67108865), .ok (.text "<html>")]
    let kept := refused ++ [.ok (.picture ⟨2, 2⟩ .webp 67108864), .error (.other "unasked")]
    let lost := refused ++ [.ok (.bytes []), .error (.other "404")]
    d.Writable files ∧ (d.run .bySize inTurn files kept).result = .ok .downloaded ∧
      (d.run .bySize inTurn files lost).result = .error (.network (.other "404")) ∧
      (d.run .bySize inTurn files lost).files.at? "icons/a.png" = some (.file (.text "old")) := by
  intro d files refused kept lost
  have hwritable : d.Writable files := by decide +kernel
  obtain ⟨-, hkept⟩ := run_attempts .bySize inTurn d files kept (fun _ => hwritable)
    fun _ _ _ => stores_bySize _
  obtain ⟨-, hlost⟩ := run_attempts .bySize inTurn d files lost (fun _ => hwritable)
    fun _ _ _ => stores_bySize _
  refine ⟨hwritable,
    (hkept (.inl rfl)).1.2 ⟨3, by decide, _, .picture rfl (by decide) rfl rfl⟩, ?_⟩
  obtain ⟨-, made, goal, -, hpaths, -, -, ⟨k, hk, content, hkeeps, -⟩ | ⟨-, e, hlast, hrun⟩⟩ :=
    hlost (.inl rfl)
  · have hnone : ∀ k < 5, ∃ e, d.verdict .bySize (inTurn.replyAt d.url lost k) = .refused e := by
      intro k hk
      match k with
      | 0 | 1 | 2 | 3 | 4 => exact ⟨_, rfl⟩
    obtain ⟨e, he⟩ := hnone k hk
    rw [verdict_of_keeps hkeeps] at he
    cases he
  · have hfifth : d.verdict .bySize (inTurn.replyAt d.url lost 4) =
        .refused (.network (.other "404")) := rfl
    obtain rfl := Verdict.refused.inj ((verdict_of_refuses hlast).symm.trans hfifth)
    rw [hrun]
    exact ⟨rfl, (hpaths _ (by decide +kernel)).trans (by decide +kernel)⟩

end Download
end DialogueSheet
