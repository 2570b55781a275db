/-
# What the parts of a chat draw

Each part of a chat measures its texts and then draws a fixed row of primitives around
them.  The lemmas here say which texts were measured and what is drawn, once for every part;
where the primitives end is left to those who ask.
-/
import DialogueSheet.Proofs.Chat.Strips

namespace DialogueSheet
namespace Chat

variable {s : Scene}

/-! ### Bubbles and pictures -/

theorem eq_of_bubble {side : Side} {hasTail : Bool} {text : String} {strip : Strip}
    (h : s.bubble side hasTail text = .ok strip) :
    ∃ t, s.setText ((TextRequest.plain text bodySize bubbleText).withWidth bubbleWidth) = .ok t ∧
      strip = ⟨(if hasTail then [tail side 0] else []) ++ [
        .ofShape (.rounded (t.size.width + 32) (t.size.height + 32) 12 side.fill)
          (bubbleLefts side t.size.width).1 0,
        .ofText t (bubbleLefts side t.size.width).2 16], t.size.height + 40⟩ := by
  obtain ⟨t, ht, hstrip⟩ := bind_eq_ok_iff.1 h
  exact ⟨t, ht, (Except.ok.inj hstrip).symm⟩

theorem of_bubble {side : Side} {hasTail : Bool} {text : String} {strip : Strip}
    (h : s.bubble side hasTail text = .ok strip) :
    ∃ t, s.setText ((TextRequest.plain text bodySize bubbleText).withWidth bubbleWidth) = .ok t ∧
      strip.height = t.size.height + 40 ∧
      ∀ p ∈ strip.primitives, p = tail side 0 ∨
        p = .ofShape (.rounded (t.size.width + 32) (t.size.height + 32) 12 side.fill)
          (bubbleLefts side t.size.width).1 0 ∨
        p = .ofText t (bubbleLefts side t.size.width).2 16 := by
  obtain ⟨t, ht, rfl⟩ := eq_of_bubble h
  refine ⟨t, ht, rfl, fun p hp => ?_⟩
  rcases List.mem_append.1 hp with hp | hp
  · exact .inl (List.mem_singleton.1 (List.mem_ite_nil_right.1 hp).2)
  · exact .inr (by simpa using hp)

theorem of_imageStrip (s : Scene) (side : Side) (index : Nat) :
    (s.imageStrip side index).primitives = [] ∨ ∃ pic ∈ s.images,
      s.imageStrip side index =
        ⟨[.ofPicture pic (pictureLeft side pic) 0], pic.size.height + 8⟩ := by
  unfold Scene.imageStrip
  split
  · exact Or.inl rfl
  · rename_i pic hpic
    exact Or.inr ⟨pic, List.mem_of_getElem? hpic, rfl⟩

/-- Every strip of lines is a bubble or a picture. -/
theorem of_mem_bubbles {side : Side} {lines : List String} {strips : List Strip}
    (h : s.bubbles side lines = .ok strips) {strip : Strip} (hstrip : strip ∈ strips) :
    (∃ hasTail text, s.bubble side hasTail text = .ok strip) ∨
      ∃ index, s.imageStrip side index = strip := by
  obtain ⟨⟨segment, isFirst⟩, -, hsegment⟩ := exists_of_mem_mapM h hstrip
  cases segment with
  | text text => exact Or.inl ⟨isFirst, text, hsegment⟩
  | image index => exact Or.inr ⟨index, Except.ok.inj hsegment⟩

/-! ### Speakers and the reader -/

theorem avatar?_size {who : StudentRef} {avatar : Picture} (h : s.avatar? who = some avatar) :
    avatar.size = ⟨avatarSide, avatarSide⟩ := by
  have hsize : ∀ {picture? : Option Picture},
      (picture?.bind fun icon => some { icon with size := ⟨avatarSide, avatarSide⟩ }) =
        some avatar → avatar.size = ⟨avatarSide, avatarSide⟩ := by
    intro picture? h
    obtain ⟨icon, -, h⟩ := Option.bind_eq_some_iff.1 h
    rw [← Option.some.inj h]
  obtain ⟨student, -, h⟩ := Option.bind_eq_some_iff.1 h
  cases hicon : student.icon with
  | some path => exact hsize (by simpa [hicon] using h)
  | none =>
    rw [hicon] at h
    by_cases hname : student.pathName = ""
    · simp [hname] at h
    · exact hsize (by simpa [hname] using h)

theorem of_speaker {who : StudentRef} {lines : List String} {strips : List Strip}
    (h : s.speaker who lines = .ok strips) :
    ∃ name rest, s.setText ((TextRequest.plain who.name 24 darkText).withWidth bubbleWidth) =
        .ok name ∧ s.bubbles .left lines = .ok rest ∧
      strips = ⟨(s.avatar? who).toList.map (Primitive.ofPicture · 12 0) ++
        [.ofText name cardLeft 0], name.size.height + 4⟩ :: (rest ++ [.gap 8]) := by
  obtain ⟨name, hname, hrest⟩ := bind_eq_ok_iff.1 h
  obtain ⟨rest, hlines, hstrips⟩ := bind_eq_ok_iff.1 hrest
  exact ⟨name, rest, hname, hlines, (Except.ok.inj hstrips).symm⟩

theorem of_counterpart {lines : List String} {strips : List Strip}
    (h : s.counterpart lines = .ok strips) :
    ∃ rest, s.bubbles .right lines = .ok rest ∧ strips = rest ++ [.gap 8] := by
  obtain ⟨rest, hlines, hstrips⟩ := bind_eq_ok_iff.1 h
  exact ⟨rest, hlines, (Except.ok.inj hstrips).symm⟩

/-! ### Cards -/

theorem of_choices {options : List String} {strips : List Strip}
    (h : s.choices options = .ok strips) :
    ∃ title texts, s.cardTitle s.config.optionTitle = .ok title ∧
      (shownLines options).mapM (fun o => s.cardText o darkText) = .ok texts ∧
      strips = [⟨choicesRow title texts (title.size.height + 26 + optionsHeight texts) 0,
        title.size.height + 26 + optionsHeight texts + 24⟩] := by
  obtain ⟨title, htitle, hrest⟩ := bind_eq_ok_iff.1 h
  obtain ⟨texts, htexts, hstrips⟩ := bind_eq_ok_iff.1 hrest
  exact ⟨title, texts, htitle, htexts, (Except.ok.inj hstrips).symm⟩

theorem of_banner {who : StudentRef} {caption : String} {strips : List Strip}
    (h : s.banner who caption = .ok strips) :
    ∃ title shown text, s.cardTitle s.config.storyTitle = .ok title ∧
      s.cardText shown bannerText = .ok text ∧
      strips = [⟨bannerRow title text (title.size.height + 26 + text.size.height + 44) 0,
        title.size.height + 26 + text.size.height + 44 + 12⟩] := by
  obtain ⟨title, htitle, hrest⟩ := bind_eq_ok_iff.1 h
  obtain ⟨text, htext, hstrips⟩ := bind_eq_ok_iff.1 hrest
  exact ⟨title, _, text, htitle, htext, (Except.ok.inj hstrips).symm⟩

/-! ### The title bar -/

theorem of_titleBar {bar : Strip} (h : s.titleBar = .ok bar) :
    ∃ title close,
      s.setText ((TextRequest.plain s.config.title 36 Color.white).withWidth
        (canvasWidth - 132)).inHeading = .ok title ∧
      s.setText (.plain "X" 40 Color.white) = .ok close ∧
      bar = ⟨[
        .ofShape (.rounded (canvasWidth - 12) 64 18 s.config.titleBackground) 6 0,
        .ofPicture s.titleIcon 24 12,
        .ofText title 72 16,
        .ofText close (canvasWidth - 52) 16], titleHeight⟩ := by
  obtain ⟨title, htitle, hrest⟩ := bind_eq_ok_iff.1 h
  obtain ⟨close, hclose, hbar⟩ := bind_eq_ok_iff.1 hrest
  exact ⟨title, close, htitle, hclose, (Except.ok.inj hbar).symm⟩

end Chat
end DialogueSheet
