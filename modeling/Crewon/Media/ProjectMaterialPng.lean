import Crewon.Lib.Checked
import Mathlib

/-!
# The inspection of a project material

A reference material is a still picture in a narrow form of PNG. The inspection walks over the
chunks with a few flags, checks the check sum and the place of each, and inflates the image data to
look at the length and at the filter of every row. The check sum and the inflation are those of the
platform. A read outside of the bytes is an error of its own here.
-/

namespace Crewon.Media.ProjectMaterialPng

open Crewon.Checked

/-- What the platform's inflation returns with its information. -/
structure Inflated where
  buffer : List UInt8
  /-- The number of compressed bytes that were consumed. -/
  bytesWritten : Nat
deriving DecidableEq

/-- The functions of the platform. -/
structure Platform where
  /-- The check sum of bytes. -/
  crc32 : List UInt8 → UInt32
  /-- The inflation of bytes to at most so many bytes; there is none where it throws. -/
  inflateSync : List UInt8 → Nat → Option Inflated

/-- Why the inspection fails. -/
inductive PngError where
  /-- The input is rejected, `project_reference_material_png_invalid`. -/
  | invalid
  /-- A byte outside of the input is read. -/
  | outOfRange
deriving DecidableEq

/-- The result of a check or of a read. -/
abbrev Inspected := Except PngError

/-- The most bytes of a material. -/
def maxProjectMaterialBytes : Nat := 16 * 1024 * 1024

/-- The largest side of a picture. -/
def maxDimension : Nat := 4096

/-- The bytes in front of the chunks. -/
def signature : List UInt8 := [137, 80, 78, 71, 13, 10, 26, 10]

/-- The width and the height of a picture. -/
structure Size where
  width : Nat
  height : Nat
deriving DecidableEq

/-- The bytes of an ASCII text. -/
def ascii (text : String) : List UInt8 := text.toList.map fun c => UInt8.ofNat c.toNat

/-- One byte. -/
def byteAt (bytes : List UInt8) (offset : Nat) : Inspected UInt8 :=
  match bytes[offset]? with
  | some byte => .ok byte
  | none => .error .outOfRange

/-- The number in four bytes, the highest first. -/
def readUInt32BE (bytes : List UInt8) (offset : Nat) : Inspected Nat := do
  let first ← byteAt bytes offset
  let second ← byteAt bytes (offset + 1)
  let third ← byteAt bytes (offset + 2)
  let fourth ← byteAt bytes (offset + 3)
  return ((first.toNat * 256 + second.toNat) * 256 + third.toNat) * 256 + fourth.toNat

/-- The bytes from one offset up to another one. -/
def subarray (bytes : List UInt8) (start stop : Nat) : List UInt8 :=
  (bytes.drop start).take (stop - start)

/-- A capital letter. -/
def isUpper (byte : UInt8) : Bool := 65 ≤ byte && byte ≤ 90

/-- A letter. -/
def isLetter (byte : UInt8) : Bool := isUpper byte || (97 ≤ byte && byte ≤ 122)

/-- Four letters of which the third one is a capital letter. -/
def isName (name : List UInt8) : Bool :=
  decide (name.length = 4) && name.all isLetter && (name[2]?.map isUpper).getD false

/-- The variables of the inspection. -/
structure Inspection where
  offset : Nat
  chunks : Nat
  width : Nat
  height : Nat
  channels : Nat
  ended : Bool
  imageStarted : Bool
  imageClosed : Bool
  palette : Bool
  image : List (List UInt8)
deriving DecidableEq

/-- The inspection behind the signature. -/
def start : Inspection where
  offset := 8
  chunks := 0
  width := 0
  height := 0
  channels := 0
  ended := false
  imageStarted := false
  imageClosed := false
  palette := false
  image := []

namespace Inspection

/-- The header says the size and the number of channels. -/
def acceptHeader (state : Inspection) (data : List UInt8) : Inspected Inspection := do
  rejectIf (state.chunks ≠ 1 ∨ data.length ≠ 13) .invalid
  let width ← readUInt32BE data 0
  let height ← readUInt32BE data 4
  let depth ← byteAt data 8
  let color ← byteAt data 9
  let compression ← byteAt data 10
  let filter ← byteAt data 11
  let interlace ← byteAt data 12
  rejectIf (width < 1 ∨ height < 1 ∨ maxDimension < width ∨ maxDimension < height ∨
    depth ≠ 8 ∨ (color ≠ 2 ∧ color ≠ 6) ∨ compression ≠ 0 ∨ filter ≠ 0 ∨ interlace ≠ 0) .invalid
  return { state with
    width := width
    height := height
    channels := if color = 2 then 3 else 4 }

/-- A part of the image data continues the run of such parts. -/
def acceptImage (state : Inspection) (data : List UInt8) : Inspected Inspection := do
  rejectIf (state.imageClosed = true) .invalid
  return { state with imageStarted := true, image := state.image ++ [data] }

/-- The end stands behind the image data and is the last chunk. -/
def acceptEnd (state : Inspection) (length stop total : Nat) : Inspected Inspection := do
  rejectIf (state.imageStarted = false ∨ length ≠ 0 ∨ stop ≠ total) .invalid
  return { state with ended := true }

/-- Any other chunk ends the run of image data; it is a palette or may be ignored, and belongs to
a still picture. -/
def acceptOther (state : Inspection) (name : List UInt8) (length : Nat) :
    Inspected Inspection := do
  let state := { state with imageClosed := state.imageClosed || state.imageStarted }
  let state ←
    if name = ascii "PLTE" then do
      rejectIf (state.palette = true ∨ state.imageStarted = true ∨ length < 3 ∨ 768 < length ∨
        length % 3 ≠ 0) .invalid
      pure { state with palette := true }
    else do
      rejectIf ((name[0]?.map isUpper).getD false = true) .invalid
      pure state
  rejectIf (name ∈ [ascii "acTL", ascii "fcTL", ascii "fdAT"]) .invalid
  return state

/-- A chunk in its place. -/
def accept (state : Inspection) (name data : List UInt8) (stop total : Nat) :
    Inspected Inspection := do
  rejectIf (state.chunks = 1 ∧ name ≠ ascii "IHDR") .invalid
  let state ←
    if name = ascii "IHDR" then state.acceptHeader data
    else if name = ascii "IDAT" then state.acceptImage data
    else if name = ascii "IEND" then state.acceptEnd data.length stop total
    else state.acceptOther name data.length
  return { state with offset := stop }

end Inspection

variable (platform : Platform)

/-- The name and the data of the chunk at an offset, and the offset behind it. -/
def readChunk (bytes : List UInt8) (offset : Nat) :
    Inspected (List UInt8 × List UInt8 × Nat) := do
  let length ← readUInt32BE bytes offset
  let stop := offset + 12 + length
  rejectIf (bytes.length < stop) .invalid
  let name := subarray bytes (offset + 4) (offset + 8)
  rejectIf (isName name = false) .invalid
  let data := subarray bytes (offset + 8) (stop - 4)
  let sum ← readUInt32BE bytes (stop - 4)
  rejectIf ((platform.crc32 (subarray bytes (offset + 4) (stop - 4))).toNat ≠ sum) .invalid
  return (name, data, stop)

/-- One more chunk. -/
def inspectChunk (bytes : List UInt8) (state : Inspection) : Inspected Inspection := do
  let state := { state with chunks := state.chunks + 1 }
  rejectIf (4096 < state.chunks ∨ bytes.length - state.offset < 12) .invalid
  let (name, data, stop) ← readChunk platform bytes state.offset
  state.accept name data stop bytes.length

/-- The loop over the chunks. It ends by the count of the chunks if not before, so that it is not
entered more often than the first number says. -/
def inspectChunks (bytes : List UInt8) : Nat → Inspection → Inspected Inspection
  | 0, state => if state.offset < bytes.length then .error .invalid else .ok state
  | left + 1, state =>
    if state.offset < bytes.length then do
      let next ← inspectChunk platform bytes state
      inspectChunks bytes left next
    else .ok state

/-- The rows of the inflated image. -/
def inspectRows (pixels : List UInt8) (stride height : Nat) : Inspected Unit :=
  forEach (List.range height) fun y => do
    let filter ← byteAt pixels (y * stride)
    rejectIf (4 < filter) .invalid

/-- Inflate the image data. -/
def inflateImage (compressed : List UInt8) (expected : Nat) : Inspected (List UInt8) :=
  match platform.inflateSync compressed expected with
  | none => .error .invalid
  | some result => do
    rejectIf (result.bytesWritten ≠ compressed.length) .invalid
    return result.buffer

/-- The inspection of the bytes of a material. -/
def inspectProjectMaterialPng (bytes : List UInt8) : Inspected Size := do
  rejectIf (maxProjectMaterialBytes < bytes.length ∨ bytes.length < 57) .invalid
  rejectIf (subarray bytes 0 8 ≠ signature) .invalid
  let state ← inspectChunks platform bytes 4097 start
  rejectIf (state.ended = false ∨ state.image.length = 0) .invalid
  let stride := state.width * state.channels + 1
  let expected := stride * state.height
  let pixels ← inflateImage platform state.image.flatten expected
  rejectIf (pixels.length ≠ expected) .invalid
  inspectRows pixels stride state.height
  return { width := state.width, height := state.height }

end Crewon.Media.ProjectMaterialPng
