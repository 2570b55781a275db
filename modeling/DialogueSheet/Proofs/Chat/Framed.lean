/-
# Frames of pictures

A picture handed over with a script is fitted to a square and framed by a stroke of two pixels.
The frame of a picture with sides of two pixels or more lies in the picture.  Fitting keeps a
side of one pixel of a picture that is very long, and its frame is written with a length of `-1`
(`pictureFrame_of_long`).
-/
import DialogueSheet.Proofs.Chat.Widths
import DialogueSheet.Proofs.Raster.Strokes

namespace DialogueSheet
namespace Chat

/-- **The frame of a picture stays in the picture** exactly when the fitted picture is not thinner
than the stroke. -/
theorem pictureFrame_proper_iff {K : Codec} {contents : List FileContent} {images : List Picture}
    (h : inlinePictures K contents = .ok images) {pic : Picture} (hpic : pic ∈ images) :
    ∃ g, (pictureFrame pic).figure? = some g ∧
      (g.Proper ↔ 2 ≤ pic.size.width ∧ 2 ≤ pic.size.height) ∧
      (g.Proper → g.Inside (2 : Nat) pic.size.width pic.size.height 0) := by
  obtain ⟨hw, hh⟩ := inlinePictures_le h hpic
  obtain ⟨size, hsize⟩ := exists_fitSquare_of_mem h hpic
  obtain ⟨hwpos, hhpos⟩ := hsize ▸ size.fitSquare_pos imageSide
  have hdrawn : (pictureFrame pic).drawnSize = pic.size := by
    change (⟨max pic.size.width 1, max pic.size.height 1⟩ : Size) = pic.size
    rw [max_eq_left hwpos, max_eq_left hhpos]
  have hside : imageSide < 2 ^ 24 := by decide
  have hframe := Shape.proper_iff_of_pixels (s := pictureFrame pic) rfl (k := 2) rfl (by decide)
    (hdrawn ▸ hw.trans_lt hside) (hdrawn ▸ hh.trans_lt hside)
  rw [hdrawn] at hframe
  exact ⟨_, rfl, hframe⟩

/-- A picture of 1200 by 1 pixels is fitted to 300 by 1, and its frame is `-1` high. -/
theorem pictureFrame_of_long :
    inlinePictures .bySize [.picture ⟨1200, 1⟩ .png 90] = .ok [⟨.inline 1, ⟨300, 1⟩⟩] ∧
      (pictureFrame ⟨.inline 1, ⟨300, 1⟩⟩).strokeWidth = 2 ∧
      (pictureFrame ⟨.inline 1, ⟨300, 1⟩⟩).element =
        "<rect x=\"1\" y=\"1\" width=\"298\" height=\"-1\" rx=\"0\" ry=\"0\"" ++
        " fill=\"none\" stroke=\"#cdd3dc\" stroke-opacity=\"1\" stroke-width=\"2\"/>" ∧
      ∃ g, (pictureFrame ⟨.inline 1, ⟨300, 1⟩⟩).figure? = some g ∧ ¬ g.Proper := by
  have himages : inlinePictures .bySize [.picture ⟨1200, 1⟩ .png 90] =
      .ok [⟨.inline 1, ⟨300, 1⟩⟩] := by
    decide +kernel
  obtain ⟨g, hg, hproper, -⟩ := pictureFrame_proper_iff himages (List.mem_singleton_self _)
  exact ⟨himages, rfl, by decide +kernel, g, hg, fun h => absurd (hproper.1 h).2 (by decide)⟩

end Chat
end DialogueSheet
