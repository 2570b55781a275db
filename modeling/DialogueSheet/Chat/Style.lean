/-
# Measures and colors of chats

All lengths are in pixels.
-/
import DialogueSheet.Color

namespace DialogueSheet
namespace Chat

/-- The width of the canvas. -/
def canvasWidth : Nat := 720

/-- Where the title bar starts. -/
def topMargin : Nat := 8

/-- The height of the title bar with the space below it. -/
def titleHeight : Nat := 84

/-- The least height of a block. -/
def minRowHeight : Nat := 72

/-- The space below a block. -/
def blockGap : Nat := 12

/-- The greatest width of the text of a bubble. -/
def bubbleWidth : Nat := canvasWidth - 140

/-- The side of the box of a picture in a line. -/
def imageSide : Nat := 300

/-- The side of an avatar. -/
def avatarSide : Nat := 64

/-- The side of the icon of the title bar. -/
def titleIconSide : Nat := 36

/-- The left end of bubbles on the left and of cards. -/
def cardLeft : Nat := 96

/-- The width of a card. -/
def cardWidth : Nat := canvasWidth - 116

/-- The size of letters in bubbles and cards. -/
def bodySize : Binary32 := 32

/-- The background of the canvas. -/
def background : Color := Color.ofWord 0xecf2fb

/-- Text on light grounds, and bubbles on the left. -/
def darkText : Color := Color.ofWord 0x4b5a6f

/-- Bubbles on the right. -/
def counterpartFill : Color := Color.ofWord 0x4a8ac6

/-- Text in bubbles. -/
def bubbleText : Color := Color.ofWord 0xecf2fb

/-- Frames and rules. -/
def border : Color := Color.ofWord 0xcdd3dc

/-- The card of choices. -/
def choiceFill : Color := Color.ofWord 0xe2eef3

/-- The bar beside the heading of choices. -/
def choiceAccent : Color := Color.ofWord 0x3198de

/-- A single choice. -/
def optionFill : Color := Color.ofWord 0xfefefe

/-- The card of a banner. -/
def bannerFill : Color := Color.ofWord 0xffecf2

/-- The button of a banner and the bar beside its heading. -/
def bannerAccent : Color := Color.ofWord 0xff8ba0

/-- Text on the button of a banner. -/
def bannerText : Color := Color.ofWord 0xffedf1

end Chat
end DialogueSheet
