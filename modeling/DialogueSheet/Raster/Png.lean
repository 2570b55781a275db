/-
# PNG files

A PNG file is a signature followed by chunks, each with its length, its name, its
data and a checksum.  The first chunk holds the size.  Pixels are written with
straight alpha, row by row, in stored blocks.
-/
import DialogueSheet.Raster.Pixmap

namespace DialogueSheet
namespace Png

/-- What every PNG file starts with. -/
def signature : List UInt8 := [137, 80, 78, 71, 13, 10, 26, 10]

/-- The four bytes of a word, the greatest first. -/
def wordBytes (n : Nat) : List UInt8 :=
  [24, 16, 8, 0].map fun shift => UInt8.ofNat (n >>> shift % 256)

/-- The number of four bytes from an offset on. -/
def wordAt (bytes : ByteArray) (offset : Nat) : Nat :=
  (bytes.extract offset (offset + 4)).foldl (fun n b => n * 256 + b.toNat) 0

/-- The name of the chunk that holds the size. -/
def headerName : List UInt8 := "IHDR".toUTF8.toList

/-- The size that a PNG file states. -/
def size? (bytes : ByteArray) : Option Size :=
  if (bytes.extract 0 8).toList = signature ∧ (bytes.extract 12 16).toList = headerName then
    some ⟨wordAt bytes 16, wordAt bytes 20⟩
  else none

/-- The polynomial of the checksum of chunks, with its bits reversed. -/
def polynomial : UInt32 := 0xedb88320

/-- One bit of the checksum of chunks. -/
def checkBit (crc : UInt32) : UInt32 :=
  if crc &&& 1 = 1 then (crc >>> 1) ^^^ polynomial else crc >>> 1

/-- The checksum of chunks after one more byte. -/
def checkByte (crc : UInt32) (byte : UInt8) : UInt32 :=
  (List.range 8).foldl (fun crc _ => checkBit crc) (crc ^^^ byte.toUInt32)

/-- The checksum of a chunk. -/
def chunkSum (data : ByteArray) : UInt32 := (data.foldl checkByte 0xffffffff) ^^^ 0xffffffff

/-- A chunk. -/
def chunk (name : String) (data : ByteArray) : ByteArray :=
  let body := name.toUTF8 ++ data
  ⟨(wordBytes data.size).toArray⟩ ++ body ++ ⟨(wordBytes (chunkSum body).toNat).toArray⟩

/-- The modulus of the checksum of stored data. -/
def sumModulus : Nat := 65521

/-- The checksum of stored data. -/
def dataSum (data : ByteArray) : Nat :=
  let (a, b) := data.foldl (fun (a, b) byte =>
    let a := (a + byte.toNat) % sumModulus
    (a, (b + a) % sumModulus)) (1, 0)
  b * 65536 + a

/-- The greatest number of bytes of a stored block. -/
def maxBlock : Nat := 65535

/-- The two bytes of a number, the lesser first. -/
def shortBytes (n : Nat) : List UInt8 := [UInt8.ofNat (n % 256), UInt8.ofNat (n / 256)]

/-- The stored block of an index. -/
def block (data : ByteArray) (count index : Nat) : ByteArray :=
  let part := data.extract (index * maxBlock) ((index + 1) * maxBlock)
  let last : UInt8 := if index + 1 = count then 1 else 0
  ⟨(last :: shortBytes part.size ++ shortBytes (maxBlock - part.size)).toArray⟩ ++ part

/-- Data in stored blocks, with its checksum. -/
def stored (data : ByteArray) : ByteArray :=
  let count := max ((data.size + maxBlock - 1) / maxBlock) 1
  let blocks := (List.range count).foldl (fun out i => out ++ block data count i) ⟨#[0x78, 0x01]⟩
  blocks ++ ⟨(wordBytes (dataSum data)).toArray⟩

/-- A color channel without its alpha. -/
def straight (channel alpha : UInt8) : UInt8 :=
  if alpha = 0 then 0
  else UInt8.ofNat (min ((channel.toNat * 255 + alpha.toNat / 2) / alpha.toNat) 255)

/-- The rows of a pixel map, each after a zero. -/
def rowData (p : Pixmap) : ByteArray :=
  p.rows.foldl (fun out row => row.foldl (fun out x =>
    (((out.push (straight x.red x.alpha)).push (straight x.green x.alpha)).push
      (straight x.blue x.alpha)).push x.alpha) (out.push 0)) ByteArray.empty

/-- The PNG file of a pixel map. -/
def encode (p : Pixmap) : ByteArray :=
  let header := wordBytes p.size.width ++ wordBytes p.size.height ++ [8, 6, 0, 0, 0]
  ⟨signature.toArray⟩ ++ chunk "IHDR" ⟨header.toArray⟩ ++ chunk "IDAT" (stored (rowData p))
    ++ chunk "IEND" ByteArray.empty

end Png
end DialogueSheet
