import Crewon.Media.ProjectMaterialPng
import Mathlib.Data.List.Basic
import Mathlib.Tactic.Ring

/-!
# The inspection accepts exactly its format

A format of byte strings says which pictures are reference materials: a signature, a sequence of
chunks in a few sections, and image data that inflates to the rows of the picture. The inspection
returns a size exactly for the byte strings of the format with this size, rejects all others and
never reads outside of its input.
-/

namespace Crewon.Verif.ProjectMaterialPng

open Crewon.Checked Crewon.Media.ProjectMaterialPng

/-! ## The format -/

/-- A number below 2^32 in four bytes, the highest first. -/
def uint32 (value : Nat) : List UInt8 :=
  [UInt8.ofNat (value / 16777216), UInt8.ofNat (value / 65536), UInt8.ofNat (value / 256),
    UInt8.ofNat value]

/-- A chunk: its name and its data. -/
structure Chunk where
  name : List UInt8
  data : List UInt8
deriving DecidableEq

/-- The chunk is a legal one: its length is a number of four bytes, and its name consists of four
letters of which the third one is a capital letter. -/
structure Chunk.Legal (chunk : Chunk) : Prop where
  length : chunk.data.length < 2 ^ 32
  name : isName chunk.name = true

/-- The bytes of a chunk, with its length in front and the check sum behind it. -/
def Chunk.bytes (platform : Platform) (chunk : Chunk) : List UInt8 :=
  uint32 chunk.data.length ++ chunk.name ++ chunk.data ++
    uint32 (platform.crc32 (chunk.name ++ chunk.data)).toNat

/-- The header of a picture of eight bits for each of three or four channels, without interlace. -/
structure Chunk.IsHeader (chunk : Chunk) (size : Size) (channels : Nat) : Prop where
  name : chunk.name = ascii "IHDR"
  data : ∃ color : UInt8, (color = 2 ∧ channels = 3 ∨ color = 6 ∧ channels = 4) ∧
    chunk.data = uint32 size.width ++ uint32 size.height ++ [8, color, 0, 0, 0]
  width : 1 ≤ size.width ∧ size.width ≤ 4096
  height : 1 ≤ size.height ∧ size.height ≤ 4096

/-- A chunk that may be ignored: its first letter is no capital letter, and it is none of the chunks
of an animation. -/
structure Chunk.IsAncillary (chunk : Chunk) : Prop where
  first : (chunk.name[0]?.map isUpper).getD false = false
  still : chunk.name ∉ [ascii "acTL", ascii "fcTL", ascii "fdAT"]

/-- A palette of a legal length. -/
structure Chunk.IsPalette (chunk : Chunk) : Prop where
  name : chunk.name = ascii "PLTE"
  least : 3 ≤ chunk.data.length
  most : chunk.data.length ≤ 768
  whole : chunk.data.length % 3 = 0

/-- A part of the image data. -/
def Chunk.IsImage (chunk : Chunk) : Prop := chunk.name = ascii "IDAT"

/-- The end of a picture. -/
def Chunk.IsEnd (chunk : Chunk) : Prop := chunk.name = ascii "IEND" ∧ chunk.data = []

/-- The chunks of a picture, section by section. -/
structure Sections where
  header : Chunk
  /-- In front of the image data. -/
  before : List Chunk
  /-- The image data. -/
  image : List Chunk
  /-- Behind the image data. -/
  after : List Chunk
  ending : Chunk

/-- All chunks of a picture. -/
def Sections.chunks (sections : Sections) : List Chunk :=
  sections.header :: (sections.before ++ (sections.image ++ (sections.after ++ [sections.ending])))

/-- The image data of a picture. -/
def Sections.data (sections : Sections) : List UInt8 := sections.image.flatMap Chunk.data

/-- The sections hold the chunks that belong into them. -/
structure Sections.Ordered (sections : Sections) (size : Size) (channels : Nat) : Prop where
  header : sections.header.IsHeader size channels
  before : ∀ chunk ∈ sections.before, chunk.IsAncillary ∨ chunk.IsPalette
  palettes : sections.before.countP (fun chunk => chunk.name = ascii "PLTE") ≤ 1
  image : ∀ chunk ∈ sections.image, chunk.IsImage
  nonempty : sections.image ≠ []
  after : ∀ chunk ∈ sections.after, chunk.IsAncillary
  ending : sections.ending.IsEnd

/-- Bytes are one complete stream of the platform with these pixels, and no byte follows it. -/
def IsStream (platform : Platform) (compressed pixels : List UInt8) : Prop :=
  platform.inflateSync compressed pixels.length =
    some { buffer := pixels, bytesWritten := compressed.length }

/-- The pixels are those of rows that each begin with a filter of at most four. -/
structure HasRows (pixels : List UInt8) (size : Size) (channels : Nat) : Prop where
  length : pixels.length = size.height * (size.width * channels + 1)
  filter : ∀ row, row < size.height →
    ∃ filter, pixels[row * (size.width * channels + 1)]? = some filter ∧ filter ≤ 4

/-- The bytes of a reference material of a size. -/
structure IsMaterial (platform : Platform) (bytes : List UInt8) (size : Size) : Prop where
  small : bytes.length ≤ 16 * 1024 * 1024
  parts : ∃ (sections : Sections) (channels : Nat) (pixels : List UInt8),
    bytes = signature ++ sections.chunks.flatMap (Chunk.bytes platform) ∧
      sections.chunks.length ≤ 4096 ∧ (∀ chunk : Chunk, chunk ∈ sections.chunks → chunk.Legal) ∧
      sections.Ordered size channels ∧ IsStream platform sections.data pixels ∧
      HasRows pixels size channels

/-! ## Reading bytes -/

section Reading

variable {front rest bytes : List UInt8} {value : Nat}

/-- Four bytes. -/
@[simp] theorem length_uint32 (value : Nat) : (uint32 value).length = 4 := rfl

/-- A byte further behind others. -/
theorem byteAt_further (front rest : List UInt8) (place : Nat) :
    byteAt (front ++ rest) (front.length + place) = byteAt rest place := by
  unfold byteAt
  rw [List.getElem?_append_right (Nat.le_add_right _ _), Nat.add_sub_cancel_left]

/-- Four bytes are a number. -/
theorem uint32_of_four (first second third fourth : UInt8) :
    [first, second, third, fourth] = uint32 (((first.toNat * 256 + second.toNat) * 256 +
      third.toNat) * 256 + fourth.toNat) := by
  have bound := fourth.toNat_lt
  have boundThird := third.toNat_lt
  have boundSecond := second.toNat_lt
  have boundFirst := first.toNat_lt
  unfold uint32
  simp only [List.cons.injEq, and_true]
  refine ⟨?_, ?_, ?_, ?_⟩ <;> apply UInt8.toNat_inj.mp <;> rw [UInt8.toNat_ofNat'] <;> omega

/-- A number of four bytes is read back. -/
theorem read_uint32 (fits : value < 2 ^ 32) (front rest : List UInt8) {place : Nat}
    (parts : bytes = front ++ (uint32 value ++ rest)) (here : place = front.length) :
    readUInt32BE bytes place = .ok value := by
  subst parts here
  have next : ∀ further, byteAt (front ++ (uint32 value ++ rest)) (front.length + further) =
      byteAt (uint32 value ++ rest) further := byteAt_further front (uint32 value ++ rest)
  have first : byteAt (front ++ (uint32 value ++ rest)) front.length =
      byteAt (uint32 value ++ rest) 0 := next 0
  unfold readUInt32BE
  rw [first, next, next, next]
  show Except.ok _ = _
  simp only [UInt8.toNat_ofNat']
  congr 1
  omega

/-- Behind a place with four more bytes a number is read. -/
theorem exists_uint32 (long : 4 ≤ rest.length) :
    ∃ value tail, value < 2 ^ 32 ∧ rest = uint32 value ++ tail := by
  match rest, long with
  | first :: second :: third :: fourth :: tail, _ =>
    have bound := fourth.toNat_lt
    have boundThird := third.toNat_lt
    have boundSecond := second.toNat_lt
    have boundFirst := first.toNat_lt
    refine ⟨((first.toNat * 256 + second.toNat) * 256 + third.toNat) * 256 + fourth.toNat, tail,
      by omega, ?_⟩
    rw [← uint32_of_four]
    rfl

/-- The bytes between two places. -/
theorem subarray_between (front middle rest : List UInt8) {begins ends : Nat}
    (parts : bytes = front ++ (middle ++ rest)) (first : begins = front.length)
    (last : ends = front.length + middle.length) : subarray bytes begins ends = middle := by
  subst parts first last
  unfold subarray
  rw [List.drop_left, Nat.add_sub_cancel_left, List.take_left]

end Reading

/-! ## Reading a chunk -/

section Chunks

variable (platform : Platform) {front rest tail name data : List UInt8} {value sum : Nat}

/-- The checks of a chunk that lies in the bytes as a whole. -/
theorem readChunk_parts (four : name.length = 4) (long : data.length = value)
    (fits : value < 2 ^ 32) (sumFits : sum < 2 ^ 32) :
    readChunk platform (front ++ (uint32 value ++ (name ++ (data ++ (uint32 sum ++ tail)))))
        front.length =
      (do
        rejectIf (isName name = false) .invalid
        rejectIf ((platform.crc32 (name ++ data)).toNat ≠ sum) .invalid
        return (name, data, front.length + 12 + value)) := by
  subst long
  generalize all : front ++ (uint32 data.length ++ (name ++ (data ++ (uint32 sum ++ tail)))) =
    bytes
  have total : bytes.length = front.length + 12 + data.length + tail.length := by
    rw [← all]
    simp only [List.length_append, length_uint32, four]
    omega
  have atLength : readUInt32BE bytes front.length = .ok data.length :=
    read_uint32 fits front _ all.symm rfl
  have atName : subarray bytes (front.length + 4) (front.length + 8) = name := by
    refine subarray_between (front ++ uint32 data.length) name (data ++ (uint32 sum ++ tail))
      ?_ ?_ ?_
    · rw [← all, List.append_assoc]
    · simp
    · simp [four]
  have atData : subarray bytes (front.length + 8) (front.length + 12 + data.length - 4) =
      data := by
    refine subarray_between (front ++ uint32 data.length ++ name) data (uint32 sum ++ tail)
      ?_ ?_ ?_
    · rw [← all, List.append_assoc, List.append_assoc]
    · simp [four]
    · simp [four]
      omega
  have atBoth : subarray bytes (front.length + 4) (front.length + 12 + data.length - 4) =
      name ++ data := by
    refine subarray_between (front ++ uint32 data.length) (name ++ data) (uint32 sum ++ tail)
      ?_ ?_ ?_
    · rw [← all, List.append_assoc, List.append_assoc]
    · simp
    · simp [four]
      omega
  have atSum : readUInt32BE bytes (front.length + 12 + data.length - 4) = .ok sum := by
    refine read_uint32 sumFits (front ++ uint32 data.length ++ name ++ data) tail ?_ ?_
    · rw [← all, List.append_assoc, List.append_assoc, List.append_assoc]
    · simp [four]
      omega
  unfold readChunk
  rw [atLength]
  have enough : ¬ bytes.length < front.length + 12 + data.length := by omega
  simp only [ok_bind, rejectIf, if_neg enough]
  rw [atName, atData, atBoth, atSum]
  rfl

/-- The name of a legal chunk has four bytes. -/
theorem length_of_isName (legal : isName name = true) : name.length = 4 := by
  unfold isName at legal
  simp only [Bool.and_eq_true, decide_eq_true_eq] at legal
  exact legal.1.1

/-- The bytes of a chunk, one part behind the other. -/
theorem bytes_append (chunk : Chunk) (tail : List UInt8) :
    chunk.bytes platform ++ tail = uint32 chunk.data.length ++ (chunk.name ++ (chunk.data ++
      (uint32 (platform.crc32 (chunk.name ++ chunk.data)).toNat ++ tail))) := by
  simp [Chunk.bytes]

/-- A chunk takes twelve bytes more than its data. -/
theorem length_bytes {chunk : Chunk} (legal : chunk.Legal) :
    (chunk.bytes platform).length = 12 + chunk.data.length := by
  simp only [Chunk.bytes, List.length_append, length_uint32, length_of_isName legal.name]
  omega

/-- A legal chunk is read. -/
theorem readChunk_bytes {chunk : Chunk} (legal : chunk.Legal) :
    readChunk platform (front ++ (chunk.bytes platform ++ tail)) front.length =
      .ok (chunk.name, chunk.data, front.length + 12 + chunk.data.length) := by
  rw [bytes_append, readChunk_parts platform (length_of_isName legal.name) rfl legal.length
    (platform.crc32 (chunk.name ++ chunk.data)).toNat_lt]
  simp [legal.name, rejectIf]

/-- A read where enough bytes stand finds a legal chunk or is rejected. -/
theorem readChunk_cases (enough : 12 ≤ rest.length) :
    (∃ (chunk : Chunk) (tail : List UInt8), chunk.Legal ∧ rest = chunk.bytes platform ++ tail) ∨
      readChunk platform (front ++ rest) front.length = .error .invalid := by
  obtain ⟨value, behind, fits, rfl⟩ := exists_uint32 (Nat.le_trans (by decide) enough)
  rw [List.length_append, length_uint32] at enough
  by_cases long : behind.length < 8 + value
  · right
    have atLength : readUInt32BE (front ++ (uint32 value ++ behind)) front.length = .ok value :=
      read_uint32 fits front _ rfl rfl
    have short : (front ++ (uint32 value ++ behind)).length < front.length + 12 + value := by
      simp only [List.length_append, length_uint32]
      omega
    unfold readChunk
    rw [atLength]
    simp only [ok_bind, rejectIf, if_pos short]
    rfl
  have four : (behind.take 4).length = 4 := by
    rw [List.length_take]
    omega
  have whole : ((behind.drop 4).take value).length = value := by
    rw [List.length_take, List.length_drop]
    omega
  obtain ⟨sum, tail, sumFits, last⟩ := @exists_uint32 ((behind.drop 4).drop value) (by
    rw [List.length_drop, List.length_drop]
    omega)
  have parts : behind = behind.take 4 ++ ((behind.drop 4).take value ++ (uint32 sum ++ tail)) := by
    rw [← last, List.take_append_drop, List.take_append_drop]
  generalize behind.take 4 = name at four parts
  generalize (behind.drop 4).take value = data at whole parts
  subst parts
  rw [readChunk_parts platform four whole fits sumFits]
  by_cases named : isName name = false
  · exact .inr (by simp [rejectIf, named])
  by_cases summed : (platform.crc32 (name ++ data)).toNat ≠ sum
  · exact .inr (by simp [rejectIf, named, summed])
  left
  have equal : (platform.crc32 (name ++ data)).toNat = sum := not_not.mp summed
  refine ⟨{ name := name, data := data }, tail, ⟨?_, ?_⟩, ?_⟩
  · show data.length < 2 ^ 32
    omega
  · simpa using named
  · rw [bytes_append]
    simp only [whole, equal]

end Chunks

/-! ## Accepting a chunk -/

section Accepting

variable {state next : Inspection} {chunk : Chunk} {stop total : Nat}

/-- What the inspection does with a chunk in its place, by the kind of the chunk. -/
inductive Accepts (state : Inspection) (chunk : Chunk) (stop total : Nat) : Inspection → Prop
  | header {size : Size} {channels : Nat} (first : state.chunks = 1)
      (kind : chunk.IsHeader size channels) :
      Accepts state chunk stop total { state with
        offset := stop, width := size.width, height := size.height, channels := channels }
  | image (later : state.chunks ≠ 1) (kind : chunk.IsImage) (opened : state.imageClosed = false) :
      Accepts state chunk stop total { state with
        offset := stop, imageStarted := true, image := state.image ++ [chunk.data] }
  | ending (later : state.chunks ≠ 1) (kind : chunk.IsEnd) (started : state.imageStarted = true)
      (last : stop = total) :
      Accepts state chunk stop total { state with offset := stop, ended := true }
  | palette (later : state.chunks ≠ 1) (kind : chunk.IsPalette) (first : state.palette = false)
      (early : state.imageStarted = false) :
      Accepts state chunk stop total { state with offset := stop, palette := true }
  | ancillary (later : state.chunks ≠ 1) (kind : chunk.IsAncillary) :
      Accepts state chunk stop total { state with
        offset := stop, imageClosed := state.imageClosed || state.imageStarted }

/-- Thirteen bytes are two numbers and five more bytes. -/
theorem exists_header {data : List UInt8} (long : data.length = 13) :
    ∃ width height depth color compression filter interlace,
      (width < 2 ^ 32 ∧ height < 2 ^ 32) ∧ data = uint32 width ++ (uint32 height ++
        [depth, color, compression, filter, interlace]) := by
  obtain ⟨width, behind, widthFits, rfl⟩ := @exists_uint32 data (by omega)
  rw [List.length_append, length_uint32] at long
  obtain ⟨height, tail, heightFits, rfl⟩ := @exists_uint32 behind (by omega)
  rw [List.length_append, length_uint32] at long
  have five : tail.length = 5 := by omega
  match tail, five with
  | [depth, color, compression, filter, interlace], _ =>
    exact ⟨width, height, depth, color, compression, filter, interlace,
      ⟨widthFits, heightFits⟩, rfl⟩

/-- The checks of a header of thirteen bytes. -/
theorem acceptHeader_parts {width height : Nat} {depth color compression filter interlace : UInt8}
    (widthFits : width < 2 ^ 32) (heightFits : height < 2 ^ 32) (first : state.chunks = 1) :
    state.acceptHeader (uint32 width ++ (uint32 height ++
        [depth, color, compression, filter, interlace])) =
      (do
        rejectIf (width < 1 ∨ height < 1 ∨ maxDimension < width ∨ maxDimension < height ∨
          depth ≠ 8 ∨ (color ≠ 2 ∧ color ≠ 6) ∨ compression ≠ 0 ∨ filter ≠ 0 ∨ interlace ≠ 0)
          .invalid
        return { state with
          width := width
          height := height
          channels := if color = 2 then 3 else 4 }) := by
  have atWidth := read_uint32 widthFits [] (uint32 height ++
    [depth, color, compression, filter, interlace]) rfl rfl
  have atHeight := read_uint32 heightFits (uint32 width)
    [depth, color, compression, filter, interlace] rfl rfl
  have checked : ¬ (state.chunks ≠ 1 ∨ (uint32 width ++ (uint32 height ++
      [depth, color, compression, filter, interlace])).length ≠ 13) := by
    simp [first]
  unfold Inspection.acceptHeader
  rw [rejectIf, if_neg checked]
  simp only [List.nil_append, List.length_nil, length_uint32] at atWidth atHeight
  simp only [ok_bind, atWidth, atHeight]
  rfl

/-- A header is accepted as the first chunk with a legal size. -/
theorem acceptHeader_eq_ok (named : chunk.name = ascii "IHDR") :
    state.acceptHeader chunk.data = .ok next ↔
      state.chunks = 1 ∧ ∃ (size : Size) (channels : Nat), chunk.IsHeader size channels ∧
        next = { state with
          width := size.width, height := size.height, channels := channels } := by
  constructor
  · intro accepted
    have checked : state.chunks = 1 ∧ chunk.data.length = 13 := by
      unfold Inspection.acceptHeader at accepted
      simp only [bind_eq_ok, rejectIf_eq_ok, not_or, ne_eq, not_not] at accepted
      exact accepted.choose_spec.1
    obtain ⟨first, long⟩ := checked
    obtain ⟨width, height, depth, color, compression, filter, interlace, ⟨widthFits, heightFits⟩,
      parts⟩ := exists_header long
    rw [parts, acceptHeader_parts widthFits heightFits first] at accepted
    simp only [bind_eq_ok, rejectIf_eq_ok, exists_unit, pure_eq_ok, not_or, ne_eq, not_not,
      not_and, not_lt] at accepted
    obtain ⟨⟨width0, height0, width1, height1, rfl, known, rfl, rfl, rfl⟩, rfl⟩ := accepted
    refine ⟨first, { width := width, height := height }, if color = 2 then 3 else 4, ?_, rfl⟩
    refine ⟨named, ⟨color, ?_, parts⟩, ⟨width0, width1⟩, ⟨height0, height1⟩⟩
    by_cases rgb : color = 2
    · simp [rgb]
    · simp [known rgb]
  · rintro ⟨first, ⟨width, height⟩, channels, kind, rfl⟩
    obtain ⟨-, ⟨color, known, parts⟩, ⟨width0, width1⟩, ⟨height0, height1⟩⟩ := kind
    dsimp only at parts width0 width1 height0 height1
    have widthFits : width < 2 ^ 32 := Nat.lt_of_le_of_lt width1 (by decide)
    have heightFits : height < 2 ^ 32 := Nat.lt_of_le_of_lt height1 (by decide)
    rw [parts, List.append_assoc, acceptHeader_parts widthFits heightFits first]
    simp only [bind_eq_ok, exists_unit, pure_eq_ok, maxDimension]
    cases known with
    | inl rgb =>
      obtain ⟨rfl, rfl⟩ := rgb
      refine ⟨rejectIf_eq_ok.mpr ?_, rfl⟩
      rintro (low | low | high | high | other | other | other | other | other)
      all_goals first | omega | simp at other
    | inr rgba =>
      obtain ⟨rfl, rfl⟩ := rgba
      refine ⟨rejectIf_eq_ok.mpr ?_, rfl⟩
      rintro (low | low | high | high | other | other | other | other | other)
      all_goals first | omega | simp at other

/-- The names that begin with a capital letter differ from each other and from those of the chunks
of an animation. -/
theorem names_differ :
    ascii "IDAT" ≠ ascii "IHDR" ∧ ascii "IEND" ≠ ascii "IHDR" ∧ ascii "IEND" ≠ ascii "IDAT" ∧
      ascii "PLTE" ≠ ascii "IHDR" ∧ ascii "PLTE" ≠ ascii "IDAT" ∧ ascii "PLTE" ≠ ascii "IEND" ∧
      ascii "PLTE" ≠ ascii "acTL" ∧ ascii "PLTE" ≠ ascii "fcTL" ∧
      ascii "PLTE" ≠ ascii "fdAT" := by
  decide

/-- A chunk that may be ignored has none of the names that begin with a capital letter. -/
theorem Chunk.IsAncillary.name_ne (kind : chunk.IsAncillary) :
    chunk.name ≠ ascii "IHDR" ∧ chunk.name ≠ ascii "IDAT" ∧ chunk.name ≠ ascii "IEND" ∧
      chunk.name ≠ ascii "PLTE" := by
  have first := kind.first
  refine ⟨?_, ?_, ?_, ?_⟩
  all_goals
    intro named
    rw [named] at first
    revert first
    decide

/-- The inspection accepts a chunk in one of five ways. -/
theorem accept_eq_ok :
    state.accept chunk.name chunk.data stop total = .ok next ↔
      Accepts state chunk stop total next := by
  constructor
  · intro accepted
    unfold Inspection.accept at accepted
    by_cases isHeader : chunk.name = ascii "IHDR"
    · simp only [if_pos isHeader, bind_eq_ok, acceptHeader_eq_ok isHeader, pure_eq_ok] at accepted
      obtain ⟨-, -, middle, ⟨first, size, channels, kind, rfl⟩, rfl⟩ := accepted
      exact .header first kind
    simp only [if_neg isHeader, bind_eq_ok, rejectIf_eq_ok, exists_unit] at accepted
    obtain ⟨later, accepted⟩ := accepted
    have notFirst : state.chunks ≠ 1 := fun first => later ⟨first, isHeader⟩
    by_cases isImage : chunk.name = ascii "IDAT"
    · simp only [if_pos isImage, Inspection.acceptImage, bind_eq_ok, rejectIf_eq_ok, exists_unit,
        pure_eq_ok, Bool.not_eq_true] at accepted
      obtain ⟨_, ⟨opened, rfl⟩, rfl⟩ := accepted
      exact .image notFirst isImage opened
    rw [if_neg isImage] at accepted
    by_cases isEnd : chunk.name = ascii "IEND"
    · simp only [if_pos isEnd, Inspection.acceptEnd, bind_eq_ok, rejectIf_eq_ok, exists_unit,
        pure_eq_ok, not_or, Bool.not_eq_false, ne_eq, not_not, List.length_eq_zero_iff] at accepted
      obtain ⟨_, ⟨⟨started, empty, last⟩, rfl⟩, rfl⟩ := accepted
      exact .ending notFirst ⟨isEnd, empty⟩ started last
    rw [if_neg isEnd] at accepted
    unfold Inspection.acceptOther at accepted
    by_cases isPalette : chunk.name = ascii "PLTE"
    · simp only [if_pos isPalette, bind_eq_ok, rejectIf_eq_ok, exists_unit, pure_eq_ok, not_or,
        Bool.not_eq_true, ne_eq, not_not, not_lt] at accepted
      obtain ⟨_, ⟨⟨first, early, least, most, whole⟩, _, rfl, -, rfl⟩, rfl⟩ := accepted
      have kept : Accepts state chunk stop total _ :=
        .palette notFirst ⟨isPalette, least, most, whole⟩ first early
      simpa [early] using kept
    · simp only [if_neg isPalette, bind_eq_ok, rejectIf_eq_ok, exists_unit, pure_eq_ok,
        Bool.not_eq_true] at accepted
      obtain ⟨_, ⟨small, _, rfl, still, rfl⟩, rfl⟩ := accepted
      exact .ancillary notFirst ⟨small, still⟩
  · intro accepts
    unfold Inspection.accept
    cases accepts with
    | header first kind =>
      have accepted := (@acceptHeader_eq_ok state _ chunk kind.name).mpr ⟨first, _, _, kind, rfl⟩
      simp only [accepted, kind.name]
      simp [rejectIf]
    | image later kind opened =>
      have named : chunk.name = ascii "IDAT" := kind
      simp [Inspection.acceptImage, rejectIf, opened, named, later, names_differ]
    | ending later kind started last =>
      simp [Inspection.acceptEnd, rejectIf, kind.1, kind.2, later, started, last, names_differ]
    | palette later kind first early =>
      have least := not_lt.mpr kind.least
      have most := not_lt.mpr kind.most
      simp [Inspection.acceptOther, rejectIf, kind.name, kind.whole, later, first, early, least,
        most, names_differ]
    | ancillary later kind =>
      obtain ⟨notHeader, notImage, notEnd, notPalette⟩ := kind.name_ne
      simp only [if_neg notHeader, if_neg notImage, if_neg notEnd, Inspection.acceptOther,
        if_neg notPalette, kind.first, kind.still, later]
      simp [rejectIf]

end Accepting

/-! ## The loop over the chunks -/

section Loop

variable (platform : Platform)

/-- Accept the chunks of a list, one behind the other, in an input of a total length. -/
def acceptAll (total : Nat) : Inspection → List Chunk → Inspected Inspection
  | state, [] => .ok state
  | state, chunk :: rest => do
    let next ← Inspection.accept { state with chunks := state.chunks + 1 } chunk.name chunk.data
      (state.offset + 12 + chunk.data.length) total
    acceptAll total next rest

/-- An accepted chunk moves the offset behind it and leaves the count of chunks. -/
theorem Accepts.moves {state next : Inspection} {chunk : Chunk} {stop total : Nat}
    (accepts : Accepts state chunk stop total next) :
    next.offset = stop ∧ next.chunks = state.chunks := by
  cases accepts <;> exact ⟨rfl, rfl⟩

/-- One round of the loop accepts the chunk at the offset. -/
theorem inspectChunk_eq_ok {state next : Inspection} (front rest : List UInt8)
    (here : state.offset = front.length) :
    inspectChunk platform (front ++ rest) state = .ok next ↔
      ∃ (chunk : Chunk) (tail : List UInt8), rest = chunk.bytes platform ++ tail ∧ chunk.Legal ∧
        state.chunks + 1 ≤ 4096 ∧
        Inspection.accept { state with chunks := state.chunks + 1 } chunk.name chunk.data
          (state.offset + 12 + chunk.data.length) (front ++ rest).length = .ok next := by
  unfold inspectChunk
  simp only [bind_eq_ok, rejectIf_eq_ok, exists_unit, not_or, not_lt, List.length_append, here,
    Nat.add_sub_cancel_left]
  constructor
  · rintro ⟨⟨few, enough⟩, ⟨name, data, stop⟩, found, accepted⟩
    rcases readChunk_cases platform enough with ⟨chunk, tail, legal, rfl⟩ | rejected
    · rw [readChunk_bytes platform legal] at found
      obtain ⟨rfl, rfl, rfl⟩ := found
      exact ⟨chunk, tail, rfl, legal, few, accepted⟩
    · rw [rejected] at found
      cases found
  · rintro ⟨chunk, tail, rfl, legal, few, accepted⟩
    refine ⟨⟨few, ?_⟩, _, readChunk_bytes platform legal, accepted⟩
    rw [List.length_append, length_bytes platform legal]
    omega

/-- The loop accepts the chunks of which the rest of the input consists. -/
theorem inspectChunks_eq_ok {left : Nat} {state final : Inspection} (front rest : List UInt8)
    (here : state.offset = front.length) (count : state.chunks + left = 4097)
    (few : state.chunks ≤ 4096) :
    inspectChunks platform (front ++ rest) left state = .ok final ↔
      ∃ chunks : List Chunk, rest = chunks.flatMap (Chunk.bytes platform) ∧
        (∀ chunk ∈ chunks, chunk.Legal) ∧ state.chunks + chunks.length ≤ 4096 ∧
        acceptAll (front ++ rest).length state chunks = .ok final := by
  induction left generalizing state front rest with
  | zero => omega
  | succ left hypothesis =>
    -- Behind an accepted chunk the rest of the loop runs on the rest of the bytes.
    have later : ∀ (chunk : Chunk) (tail : List UInt8) (next : Inspection), chunk.Legal →
        state.chunks + 1 ≤ 4096 →
        Inspection.accept { state with chunks := state.chunks + 1 } chunk.name chunk.data
          (state.offset + 12 + chunk.data.length)
          (front ++ (chunk.bytes platform ++ tail)).length = .ok next →
        (inspectChunks platform (front ++ (chunk.bytes platform ++ tail)) left next = .ok final ↔
          ∃ chunks : List Chunk, tail = chunks.flatMap (Chunk.bytes platform) ∧
            (∀ chunk ∈ chunks, chunk.Legal) ∧ state.chunks + 1 + chunks.length ≤ 4096 ∧
            acceptAll (front ++ (chunk.bytes platform ++ tail)).length next chunks =
              .ok final) := by
      intro chunk tail next legal fewer accepted
      obtain ⟨moved, counted⟩ := (accept_eq_ok.mp accepted).moves
      rw [← List.append_assoc, @hypothesis next (front ++ chunk.bytes platform) tail, counted]
      · rw [List.length_append, length_bytes platform legal]
        omega
      · rw [counted]
        show state.chunks + 1 + left = 4097
        omega
      · rw [counted]
        exact fewer
    unfold inspectChunks
    by_cases more : state.offset < (front ++ rest).length
    · rw [if_pos more]
      simp only [bind_eq_ok, inspectChunk_eq_ok platform front rest here]
      constructor
      · rintro ⟨next, ⟨chunk, tail, rfl, legal, fewer, accepted⟩, run⟩
        obtain ⟨chunks, rfl, legals, fits, run⟩ :=
          (later chunk tail next legal fewer accepted).mp run
        refine ⟨chunk :: chunks, rfl, List.forall_mem_cons.mpr ⟨legal, legals⟩, ?_, ?_⟩
        · rw [List.length_cons]
          omega
        · exact bind_eq_ok.mpr ⟨next, accepted, run⟩
      · rintro ⟨chunks, parts, legals, fits, run⟩
        cases chunks with
        | nil =>
          rw [parts, here] at more
          simp at more
        | cons chunk chunks =>
          obtain ⟨legal, legals⟩ := List.forall_mem_cons.mp legals
          rw [List.flatMap_cons] at parts
          subst parts
          rw [List.length_cons] at fits
          obtain ⟨next, accepted, run⟩ := bind_eq_ok.mp run
          have fewer : state.chunks + 1 ≤ 4096 := by omega
          refine ⟨next, ⟨chunk, _, rfl, legal, fewer, accepted⟩, ?_⟩
          exact (later chunk _ next legal fewer accepted).mpr
            ⟨chunks, rfl, legals, by omega, run⟩
    · rw [if_neg more]
      have empty : rest = [] := by
        rw [here, List.length_append] at more
        exact List.eq_nil_of_length_eq_zero (by omega)
      subst empty
      constructor
      · rintro ⟨⟩
        exact ⟨[], rfl, by simp, by simpa using few, rfl⟩
      · rintro ⟨chunks, parts, legals, -, run⟩
        cases chunks with
        | nil => exact run
        | cons chunk chunks =>
          have long := congrArg List.length parts
          rw [List.flatMap_cons, List.length_append, length_bytes platform
            (legals chunk List.mem_cons_self), List.length_nil] at long
          omega

end Loop

/-! ## The order of the chunks -/

section Order

variable {state : Inspection} {chunks : List Chunk} {size : Size} {channels total : Nat}
  {image : List (List UInt8)}

/-- The picture that an inspection has found so far. -/
structure Has (state : Inspection) (size : Size) (channels : Nat) (image : List (List UInt8)) :
    Prop where
  width : state.width = size.width
  height : state.height = size.height
  channels : state.channels = channels
  image : state.image = image

/-- The inspection accepts the chunks up to the end and has found a picture then. -/
def Reads (total : Nat) (state : Inspection) (chunks : List Chunk) (size : Size) (channels : Nat)
    (image : List (List UInt8)) : Prop :=
  ∃ final, acceptAll total state chunks = .ok final ∧ final.ended = true ∧
    Has final size channels image

/-- The number of bytes of chunks. -/
def extent (chunks : List Chunk) : Nat := (chunks.map fun chunk => 12 + chunk.data.length).sum

/-- Behind all chunks the inspection is at its end. -/
theorem reads_nil :
    Reads total state [] size channels image ↔
      state.ended = true ∧ Has state size channels image := by
  simp [Reads, acceptAll]

/-- The extent of chunks is that of the first one and of the others. -/
theorem extent_cons (chunk : Chunk) (chunks : List Chunk) :
    extent (chunk :: chunks) = 12 + chunk.data.length + extent chunks := by
  simp [extent]

/-- A chunk that ends at the last byte is the last chunk. -/
theorem eq_nil_of_extent {stop : Nat} (whole : stop + extent chunks = total)
    (last : stop = total) : chunks = [] := by
  cases chunks with
  | nil => rfl
  | cons chunk chunks =>
    rw [extent_cons] at whole
    omega

/-- The inspection has gone past a chunk. -/
def pass (state : Inspection) (chunk : Chunk) : Inspection :=
  { state with
    offset := state.offset + 12 + chunk.data.length
    chunks := state.chunks + 1 }

/-- A further chunk is accepted, and the chunks behind it. -/
theorem reads_cons {chunk : Chunk} :
    Reads total state (chunk :: chunks) size channels image ↔
      ∃ next, Accepts { state with chunks := state.chunks + 1 } chunk
        (state.offset + 12 + chunk.data.length) total next ∧
          Reads total next chunks size channels image := by
  unfold Reads
  simp only [acceptAll, bind_eq_ok, accept_eq_ok]
  constructor
  · rintro ⟨final, ⟨next, accepts, run⟩, ended⟩
    exact ⟨next, accepts, final, run, ended⟩
  · rintro ⟨next, accepts, final, run, ended⟩
    exact ⟨final, ⟨next, accepts, run⟩, ended⟩

/-- A chunk behind the first one is a part of the image data, the end, a palette or a chunk that
may be ignored. -/
theorem reads_later {chunk : Chunk} (later : 1 ≤ state.chunks)
    (whole : state.offset + extent (chunk :: chunks) = total) :
    Reads total state (chunk :: chunks) size channels image ↔
      (chunk.IsImage ∧ state.imageClosed = false ∧
        Reads total { pass state chunk with
          imageStarted := true, image := state.image ++ [chunk.data] } chunks size channels image) ∨
      (chunk.IsEnd ∧ state.imageStarted = true ∧ chunks = [] ∧ Has state size channels image) ∨
      (chunk.IsPalette ∧ state.palette = false ∧ state.imageStarted = false ∧
        Reads total { pass state chunk with palette := true } chunks size channels image) ∨
      (chunk.IsAncillary ∧
        Reads total { pass state chunk with
          imageClosed := state.imageClosed || state.imageStarted } chunks size channels image) := by
  rw [extent_cons] at whole
  rw [reads_cons]
  have notFirst : state.chunks + 1 ≠ 1 := by omega
  constructor
  · rintro ⟨next, accepts, reads⟩
    cases accepts with
    | header first kind => exact absurd first notFirst
    | image _ kind opened => exact .inl ⟨kind, opened, reads⟩
    | ending _ kind started last =>
      have none : chunks = [] := eq_nil_of_extent (by omega) last
      subst none
      obtain ⟨-, has⟩ := reads_nil.mp reads
      exact .inr (.inl ⟨kind, started, rfl, has.width, has.height, has.channels, has.image⟩)
    | palette _ kind first early => exact .inr (.inr (.inl ⟨kind, first, early, reads⟩))
    | ancillary _ kind => exact .inr (.inr (.inr ⟨kind, reads⟩))
  · rintro (⟨kind, opened, reads⟩ | ⟨kind, started, rfl, has⟩ | ⟨kind, first, early, reads⟩ |
      ⟨kind, reads⟩)
    · exact ⟨_, .image notFirst kind opened, reads⟩
    · refine ⟨_, .ending notFirst kind started ?_, reads_nil.mpr ⟨rfl, ?_⟩⟩
      · rw [← whole]
        simp [extent, Nat.add_assoc]
      · exact ⟨has.width, has.height, has.channels, has.image⟩
    · exact ⟨_, .palette notFirst kind first early, reads⟩
    · exact ⟨_, .ancillary notFirst kind, reads⟩

/-- Behind a chunk the rest of the extent is left. -/
theorem pass_whole {chunk : Chunk} (whole : state.offset + extent (chunk :: chunks) = total) :
    (pass state chunk).offset + extent chunks = total := by
  rw [extent_cons] at whole
  show state.offset + 12 + chunk.data.length + extent chunks = total
  omega

/-- Behind the image data stand chunks that may be ignored and the end. -/
theorem reads_behind (later : 1 ≤ state.chunks) (started : state.imageStarted = true)
    (closed : state.imageClosed = true) (opened : state.ended = false)
    (whole : state.offset + extent chunks = total) :
    Reads total state chunks size channels image ↔
      (∃ after ending, chunks = after ++ [ending] ∧ (∀ chunk ∈ after, chunk.IsAncillary) ∧
        ending.IsEnd) ∧ Has state size channels image := by
  induction chunks generalizing state with
  | nil => simp [reads_nil, opened]
  | cons chunk rest hypothesis =>
    have ignored := @hypothesis
      { pass state chunk with imageClosed := state.imageClosed || state.imageStarted }
      (Nat.le_add_left 1 _) started (by simp [started]) opened (pass_whole whole)
    have same : Has { pass state chunk with imageClosed := state.imageClosed || state.imageStarted }
        size channels image ↔ Has state size channels image :=
      ⟨fun has => ⟨has.width, has.height, has.channels, has.image⟩,
        fun has => ⟨has.width, has.height, has.channels, has.image⟩⟩
    rw [reads_later later whole, ignored, same]
    constructor
    · rintro (⟨-, notClosed, -⟩ | ⟨kind, -, rfl, has⟩ | ⟨-, -, early, -⟩ |
        ⟨kind, ⟨after, ending, rfl, kinds, last⟩, has⟩)
      · simp [closed] at notClosed
      · exact ⟨⟨[], chunk, rfl, by simp, kind⟩, has⟩
      · simp [started] at early
      · exact ⟨⟨chunk :: after, ending, rfl, List.forall_mem_cons.mpr ⟨kind, kinds⟩, last⟩, has⟩
    · rintro ⟨⟨after, ending, parts, kinds, last⟩, has⟩
      cases after with
      | nil =>
        obtain ⟨rfl, rfl⟩ := List.cons.inj parts
        exact .inr (.inl ⟨last, started, rfl, has⟩)
      | cons first after =>
        obtain ⟨rfl, rfl⟩ := List.cons.inj parts
        obtain ⟨kind, kinds⟩ := List.forall_mem_cons.mp kinds
        exact .inr (.inr (.inr ⟨kind, ⟨after, ending, rfl, kinds, last⟩, has⟩))

/-- Within the image data stand further parts of it, and then the chunks behind it. -/
theorem reads_within (later : 1 ≤ state.chunks) (started : state.imageStarted = true)
    (going : state.imageClosed = false) (opened : state.ended = false)
    (whole : state.offset + extent chunks = total) :
    Reads total state chunks size channels image ↔
      ∃ parts after ending, chunks = parts ++ (after ++ [ending]) ∧
        (∀ chunk ∈ parts, chunk.IsImage) ∧ (∀ chunk ∈ after, chunk.IsAncillary) ∧
        ending.IsEnd ∧ Has { state with image := state.image ++ parts.map Chunk.data } size channels
          image := by
  induction chunks generalizing state with
  | nil => simp [reads_nil, opened]
  | cons chunk rest hypothesis =>
    have further := @hypothesis
      { pass state chunk with imageStarted := true, image := state.image ++ [chunk.data] }
      (Nat.le_add_left 1 _) rfl going opened (pass_whole whole)
    have ignored := @reads_behind
      { pass state chunk with imageClosed := state.imageClosed || state.imageStarted } rest size
      channels total image (Nat.le_add_left 1 _) started (by simp [started]) opened
      (pass_whole whole)
    rw [reads_later later whole, further, ignored]
    constructor
    · rintro (⟨kind, -, parts, after, ending, rfl, images, kinds, last, has⟩ |
        ⟨kind, -, rfl, has⟩ | ⟨-, -, early, -⟩ | ⟨kind, ⟨after, ending, rfl, kinds, last⟩, has⟩)
      · refine ⟨chunk :: parts, after, ending, rfl, List.forall_mem_cons.mpr ⟨kind, images⟩, kinds,
          last, has.width, has.height, has.channels, ?_⟩
        simpa using has.image
      · refine ⟨[], [], chunk, rfl, by simp, by simp, kind, has.width, has.height, has.channels, ?_⟩
        simpa using has.image
      · simp [started] at early
      · refine ⟨[], chunk :: after, ending, rfl, by simp, List.forall_mem_cons.mpr ⟨kind, kinds⟩,
          last, has.width, has.height, has.channels, ?_⟩
        show state.image ++ [] = image
        rw [List.append_nil]
        exact has.image
    · rintro ⟨parts, after, ending, together, images, kinds, last, has⟩
      cases parts with
      | cons first parts =>
        obtain ⟨rfl, rfl⟩ := List.cons.inj together
        obtain ⟨kind, images⟩ := List.forall_mem_cons.mp images
        refine .inl ⟨kind, going, parts, after, ending, rfl, images, kinds, last, has.width,
          has.height, has.channels, ?_⟩
        simpa using has.image
      | nil =>
        have same : Has state size channels image :=
          ⟨has.width, has.height, has.channels, by simpa using has.image⟩
        cases after with
        | nil =>
          obtain ⟨rfl, rfl⟩ := List.cons.inj together
          exact .inr (.inl ⟨last, started, rfl, same⟩)
        | cons first after =>
          obtain ⟨rfl, rfl⟩ := List.cons.inj together
          obtain ⟨kind, kinds⟩ := List.forall_mem_cons.mp kinds
          exact .inr (.inr (.inr ⟨kind, ⟨after, ending, rfl, kinds, last⟩, same.width, same.height,
            same.channels, same.image⟩))

/-- In front of the image data stand chunks that may be ignored and at most one palette. -/
theorem reads_before (later : 1 ≤ state.chunks) (early : state.imageStarted = false)
    (going : state.imageClosed = false) (opened : state.ended = false)
    (whole : state.offset + extent chunks = total) :
    Reads total state chunks size channels image ↔
      ∃ before parts after ending, chunks = before ++ (parts ++ (after ++ [ending])) ∧
        (∀ chunk ∈ before, chunk.IsAncillary ∨ chunk.IsPalette) ∧
        before.countP (fun chunk => chunk.name = ascii "PLTE") ≤ (if state.palette then 0 else 1) ∧
        (∀ chunk ∈ parts, chunk.IsImage) ∧ parts ≠ [] ∧ (∀ chunk ∈ after, chunk.IsAncillary) ∧
        ending.IsEnd ∧ Has { state with image := state.image ++ parts.map Chunk.data } size channels
          image := by
  induction chunks generalizing state with
  | nil => simp [reads_nil, opened]
  | cons chunk rest hypothesis =>
    have further := @reads_within
      { pass state chunk with imageStarted := true, image := state.image ++ [chunk.data] } rest
      size channels total image (Nat.le_add_left 1 _) rfl going opened (pass_whole whole)
    have coloured := @hypothesis { pass state chunk with palette := true }
      (Nat.le_add_left 1 _) early going opened (pass_whole whole)
    have ignored := @hypothesis
      { pass state chunk with imageClosed := state.imageClosed || state.imageStarted }
      (Nat.le_add_left 1 _) early (by simp [early, going]) opened (pass_whole whole)
    rw [reads_later later whole, further, coloured, ignored]
    constructor
    · rintro (⟨kind, -, parts, after, ending, rfl, images, kinds, last, has⟩ |
        ⟨-, started, -⟩ |
        ⟨kind, first, -, before, parts, after, ending, rfl, fronts, few, images, some, kinds, last,
          has⟩ |
        ⟨kind, before, parts, after, ending, rfl, fronts, few, images, some, kinds, last, has⟩)
      · refine ⟨[], chunk :: parts, after, ending, rfl, by simp, by simp,
          List.forall_mem_cons.mpr ⟨kind, images⟩, by simp, kinds, last, has.width, has.height,
          has.channels, ?_⟩
        simpa using has.image
      · simp [early] at started
      · refine ⟨chunk :: before, parts, after, ending, rfl,
          List.forall_mem_cons.mpr ⟨.inr kind, fronts⟩, ?_, images, some, kinds, last, has.width,
          has.height, has.channels, has.image⟩
        rw [List.countP_cons_of_pos (by simp [kind.name])]
        simpa [first] using few
      · refine ⟨chunk :: before, parts, after, ending, rfl,
          List.forall_mem_cons.mpr ⟨.inl kind, fronts⟩, ?_, images, some, kinds, last, has.width,
          has.height, has.channels, has.image⟩
        rw [List.countP_cons_of_neg (by simp [kind.name_ne])]
        exact few
    · rintro ⟨before, parts, after, ending, together, fronts, few, images, some, kinds, last, has⟩
      cases before with
      | nil =>
        cases parts with
        | nil => exact absurd rfl some
        | cons first parts =>
          obtain ⟨rfl, rfl⟩ := List.cons.inj together
          obtain ⟨kind, images⟩ := List.forall_mem_cons.mp images
          refine .inl ⟨kind, going, parts, after, ending, rfl, images, kinds, last, has.width,
            has.height, has.channels, ?_⟩
          simpa using has.image
      | cons first before =>
        obtain ⟨rfl, rfl⟩ := List.cons.inj together
        obtain ⟨front, fronts⟩ := List.forall_mem_cons.mp fronts
        cases front with
        | inl kind =>
          rw [List.countP_cons_of_neg (by simp [kind.name_ne])] at few
          exact .inr (.inr (.inr ⟨kind, before, parts, after, ending, rfl, fronts, few, images,
            some, kinds, last, has.width, has.height, has.channels, has.image⟩))
        | inr kind =>
          rw [List.countP_cons_of_pos (by simp [kind.name])] at few
          have first : state.palette = false := by
            cases painted : state.palette with
            | false => rfl
            | true =>
              rw [painted] at few
              exact absurd few (Nat.not_succ_le_zero _)
          refine .inr (.inr (.inl ⟨kind, first, early, before, parts, after, ending, rfl, fronts,
            ?_, images, some, kinds, last, has.width, has.height, has.channels, has.image⟩))
          rw [first] at few
          exact Nat.le_of_succ_le_succ few

/-- Behind the signature the inspection accepts the chunks of a picture in their order. -/
theorem reads_start (whole : 8 + extent chunks = total) :
    Reads total start chunks size channels image ↔
      ∃ sections : Sections, chunks = sections.chunks ∧ sections.Ordered size channels ∧
        sections.image.map Chunk.data = image := by
  cases chunks with
  | nil =>
    simp [reads_nil, start, Sections.chunks]
  | cons header rest =>
    have behind : ∀ found : Size, ∀ number : Nat, Reads total { pass start header with
        width := found.width, height := found.height, channels := number } rest size channels
          image ↔ _ := fun found number => @reads_before { pass start header with
        width := found.width, height := found.height, channels := number } rest size channels
          total image (Nat.le_refl 1) rfl rfl rfl (pass_whole whole)
    rw [reads_cons]
    constructor
    · rintro ⟨next, accepts, reads⟩
      cases accepts with
      | @header found number first kind =>
        obtain ⟨before, parts, after, ending, rfl, fronts, few, images, some, kinds, last, has⟩ :=
          (behind found number).mp reads
        have same : found = size := by
          cases found
          cases size
          exact congrArg₂ Size.mk has.width has.height
        have channelled : number = channels := has.channels
        subst same channelled
        exact ⟨⟨header, before, parts, after, ending⟩, rfl,
          ⟨kind, fronts, few, images, some, kinds, last⟩, has.image⟩
      | image later => exact absurd rfl later
      | ending later => exact absurd rfl later
      | palette later => exact absurd rfl later
      | ancillary later => exact absurd rfl later
    · rintro ⟨⟨header', before, parts, after, ending⟩, together, ordered, rfl⟩
      obtain ⟨rfl, rfl⟩ := List.cons.inj together
      refine ⟨_, .header rfl ordered.header, (behind size channels).mpr ?_⟩
      exact ⟨before, parts, after, ending, rfl, ordered.before, ordered.palettes, ordered.image,
        ordered.nonempty, ordered.after, ordered.ending, rfl, rfl, rfl, rfl⟩

end Order

/-! ## Rejections -/

section Rejections

variable (platform : Platform)

/-- The error is the one of a rejected input. -/
def IsInvalid (error : PngError) : Prop := error = .invalid

/-- A check of the inspection rejects the input. -/
theorem rejects {condition : Prop} [Decidable condition] :
    FailsOnly IsInvalid (rejectIf condition .invalid) :=
  failsOnly_rejectIf rfl

/-- A chunk in its place is accepted or rejected, and no byte outside of it is read. -/
theorem failsOnly_accept (state : Inspection) (name data : List UInt8) (stop total : Nat) :
    FailsOnly IsInvalid (state.accept name data stop total) := by
  have header : FailsOnly IsInvalid (state.acceptHeader data) := by
    by_cases long : state.chunks = 1 ∧ data.length = 13
    · obtain ⟨first, long⟩ := long
      obtain ⟨width, height, depth, color, compression, filter, interlace,
        ⟨widthFits, heightFits⟩, rfl⟩ := exists_header long
      rw [acceptHeader_parts widthFits heightFits first]
      exact rejects.bind fun _ _ => failsOnly_of_ok rfl
    · have bad : state.chunks ≠ 1 ∨ data.length ≠ 13 := not_and_or.mp long
      unfold Inspection.acceptHeader
      rw [rejectIf, if_pos bad]
      exact failsOnly_error rfl
  have image : FailsOnly IsInvalid (state.acceptImage data) :=
    rejects.bind fun _ _ => failsOnly_of_ok rfl
  have ending : FailsOnly IsInvalid (state.acceptEnd data.length stop total) :=
    rejects.bind fun _ _ => failsOnly_of_ok rfl
  have other : FailsOnly IsInvalid (state.acceptOther name data.length) := by
    unfold Inspection.acceptOther
    dsimp only
    split
    · refine rejects.bind fun _ _ => ?_
      exact rejects.bind fun _ _ => failsOnly_of_ok rfl
    · refine rejects.bind fun _ _ => ?_
      exact rejects.bind fun _ _ => failsOnly_of_ok rfl
  unfold Inspection.accept
  refine rejects.bind fun _ _ => ?_
  split
  · exact header.bind fun _ _ => failsOnly_of_ok rfl
  split
  · exact image.bind fun _ _ => failsOnly_of_ok rfl
  split
  · exact ending.bind fun _ _ => failsOnly_of_ok rfl
  · exact other.bind fun _ _ => failsOnly_of_ok rfl

/-- The loop accepts or rejects the rest of the bytes, and reads none outside of them. -/
theorem failsOnly_inspectChunks {left : Nat} {state : Inspection} (front rest : List UInt8)
    (here : state.offset = front.length) :
    FailsOnly IsInvalid (inspectChunks platform (front ++ rest) left state) := by
  induction left generalizing state front rest with
  | zero =>
    unfold inspectChunks
    split
    · exact failsOnly_error rfl
    · exact failsOnly_of_ok rfl
  | succ left hypothesis =>
    unfold inspectChunks
    split
    · refine FailsOnly.bind ?_ ?_
      · unfold inspectChunk
        dsimp only
        rw [here]
        by_cases short : 4096 < state.chunks + 1 ∨ (front ++ rest).length - front.length < 12
        · rw [rejectIf, if_pos short]
          exact failsOnly_error rfl
        refine rejects.bind fun _ _ => FailsOnly.bind ?_ fun _ _ =>
          failsOnly_accept _ _ _ _ _
        have enough : 12 ≤ rest.length := by
          rw [List.length_append, Nat.add_sub_cancel_left] at short
          omega
        rcases readChunk_cases platform enough with ⟨chunk, tail, legal, rfl⟩ | rejected
        · exact failsOnly_of_ok (readChunk_bytes platform legal)
        · rw [rejected]
          exact failsOnly_error rfl
      · intro next accepted
        obtain ⟨chunk, tail, rfl, legal, -, accepted⟩ :=
          (inspectChunk_eq_ok platform front rest here).mp accepted
        rw [← List.append_assoc]
        refine hypothesis (front ++ chunk.bytes platform) tail ?_
        rw [(accept_eq_ok.mp accepted).moves.1, List.length_append, length_bytes platform legal]
        omega
    · exact failsOnly_of_ok rfl

/-- The rows of enough pixels are read. -/
theorem byteAt_row {pixels : List UInt8} {stride height row : Nat} (positive : 0 < stride)
    (long : pixels.length = stride * height) (low : row < height) :
    ∃ filter, pixels[row * stride]? = some filter ∧
      byteAt pixels (row * stride) = .ok filter := by
  have inside : row * stride < pixels.length := by
    rw [long, Nat.mul_comm row]
    exact Nat.mul_lt_mul_of_pos_left low positive
  refine ⟨pixels[row * stride], List.getElem?_eq_getElem inside, ?_⟩
  unfold byteAt
  rw [List.getElem?_eq_getElem inside]

/-- The rows of enough pixels are accepted or rejected, and no byte outside of them is read. -/
theorem failsOnly_inspectRows {pixels : List UInt8} {stride height : Nat} (positive : 0 < stride)
    (long : pixels.length = stride * height) :
    FailsOnly IsInvalid (inspectRows pixels stride height) := by
  refine failsOnly_forEach fun row listed => ?_
  obtain ⟨filter, -, found⟩ := byteAt_row positive long (List.mem_range.mp listed)
  rw [found]
  exact (failsOnly_of_ok rfl).bind fun _ _ => rejects

/-- The rows are accepted when each begins with a filter of at most four. -/
theorem inspectRows_eq_ok {pixels : List UInt8} {stride height : Nat} (positive : 0 < stride)
    (long : pixels.length = stride * height) :
    inspectRows pixels stride height = .ok () ↔
      ∀ row, row < height → ∃ filter, pixels[row * stride]? = some filter ∧ filter ≤ 4 := by
  unfold inspectRows
  rw [forEach_eq_ok]
  constructor
  · intro accepted row low
    obtain ⟨filter, known, found⟩ := byteAt_row positive long low
    have checked := accepted row (List.mem_range.mpr low)
    rw [found, ok_bind, rejectIf_eq_ok, UInt8.not_lt] at checked
    exact ⟨filter, known, checked⟩
  · intro filters row listed
    have low := List.mem_range.mp listed
    obtain ⟨filter, known, found⟩ := byteAt_row positive long low
    obtain ⟨_, same, small⟩ := filters row low
    obtain rfl := Option.some.inj (known.symm.trans same)
    rw [found, ok_bind, rejectIf_eq_ok, UInt8.not_lt]
    exact small

end Rejections

/-! ## The inspection -/

section Exactness

variable {platform : Platform} {bytes : List UInt8} {size : Size}

/-- The bytes behind the signature. -/
theorem exists_behind_signature (signed : subarray bytes 0 8 = signature) :
    ∃ rest, bytes = signature ++ rest :=
  ⟨bytes.drop 8, by rw [← signed]; exact (List.take_append_drop 8 bytes).symm⟩

/-- The bytes of chunks take their extent. -/
theorem length_flatMap_bytes {chunks : List Chunk} (legal : ∀ chunk ∈ chunks, chunk.Legal) :
    (chunks.flatMap (Chunk.bytes platform)).length = extent chunks := by
  induction chunks with
  | nil => rfl
  | cons chunk rest hypothesis =>
    obtain ⟨first, others⟩ := List.forall_mem_cons.mp legal
    rw [List.flatMap_cons, List.length_append, length_bytes platform first, hypothesis others,
      extent_cons]

/-- The chunks of a picture take at least forty-nine bytes. -/
theorem Sections.Ordered.extent_le {sections : Sections} {channels : Nat}
    (ordered : sections.Ordered size channels) : 49 ≤ extent sections.chunks := by
  obtain ⟨header, before, image, after, ending⟩ := sections
  obtain ⟨color, -, data⟩ := ordered.header.data
  have long : header.data.length = 13 := by
    have parts := congrArg List.length data
    simpa using parts
  cases image with
  | nil => exact absurd rfl ordered.nonempty
  | cons part image =>
    simp only [extent, Sections.chunks, List.map_cons, List.map_append, List.sum_cons,
      List.sum_append, List.map_nil, List.sum_nil, long]
    omega

/-- The loop of the inspection reads the sections of a picture up to its end. -/
theorem inspectChunks_start {rest : List UInt8} {channels : Nat} {image : List (List UInt8)} :
    (∃ state, inspectChunks platform (signature ++ rest) 4097 start = .ok state ∧
        state.ended = true ∧ Has state size channels image) ↔
      ∃ sections : Sections, rest = sections.chunks.flatMap (Chunk.bytes platform) ∧
        sections.chunks.length ≤ 4096 ∧ (∀ chunk ∈ sections.chunks, chunk.Legal) ∧
        sections.Ordered size channels ∧ sections.image.map Chunk.data = image := by
  have loop : ∀ final, inspectChunks platform (signature ++ rest) 4097 start = .ok final ↔ _ :=
    fun final => @inspectChunks_eq_ok platform 4097 start final signature rest rfl rfl
      (Nat.zero_le _)
  have whole : ∀ chunks : List Chunk, (∀ chunk ∈ chunks, chunk.Legal) →
      rest = chunks.flatMap (Chunk.bytes platform) →
      8 + extent chunks = (signature ++ rest).length := by
    rintro chunks legal rfl
    rw [List.length_append, length_flatMap_bytes legal]
    rfl
  constructor
  · rintro ⟨state, accepted, ended, has⟩
    obtain ⟨chunks, parts, legal, few, run⟩ := (loop state).mp accepted
    obtain ⟨sections, rfl, ordered, data⟩ :=
      (reads_start (whole chunks legal parts)).mp ⟨state, run, ended, has⟩
    exact ⟨sections, parts, by simpa [start] using few, legal, ordered, data⟩
  · rintro ⟨sections, parts, few, legal, ordered, data⟩
    obtain ⟨state, run, ended, has⟩ := (reads_start (whole sections.chunks legal parts)).mpr
      ⟨sections, rfl, ordered, data⟩
    refine ⟨state, (loop state).mpr ⟨sections.chunks, parts, legal, ?_, run⟩, ended, has⟩
    simpa [start] using few

/-- Inflated data of the expected length is that of one complete stream. -/
theorem inflateImage_eq_ok {compressed pixels : List UInt8} :
    inflateImage platform compressed pixels.length = .ok pixels ↔
      IsStream platform compressed pixels := by
  unfold inflateImage IsStream
  cases platform.inflateSync compressed pixels.length with
  | none => simp
  | some result =>
    obtain ⟨buffer, written⟩ := result
    simp only [bind_eq_ok, rejectIf_eq_ok, exists_unit, pure_eq_ok, ne_eq, not_not,
      Option.some.injEq, Inflated.mk.injEq]
    exact and_comm

/-- The inspection returns a size exactly for the materials of this size. -/
theorem inspect_eq_ok :
    inspectProjectMaterialPng platform bytes = .ok size ↔ IsMaterial platform bytes size := by
  unfold inspectProjectMaterialPng
  constructor
  · intro accepted
    simp only [bind_eq_ok, rejectIf_eq_ok, exists_unit, not_or, not_lt, ne_eq, not_not,
      pure_eq_ok, Bool.not_eq_false] at accepted
    obtain ⟨⟨small, -⟩, signed, state, looped, ⟨ended, -⟩, pixels, inflated, long, rows, rfl⟩ :=
      accepted
    obtain ⟨rest, rfl⟩ := exists_behind_signature signed
    have has : Has state { width := state.width, height := state.height } state.channels
        state.image := ⟨rfl, rfl, rfl, rfl⟩
    obtain ⟨sections, parts, few, legal, ordered, data⟩ :=
      inspectChunks_start.mp ⟨state, looped, ended, has⟩
    have same : state.image.flatten = sections.data := by
      rw [← data]
      rfl
    rw [same, ← long] at inflated
    rw [inspectRows_eq_ok (Nat.succ_pos _) long] at rows
    refine ⟨small, sections, state.channels, pixels, by rw [parts], few, legal, ordered,
      inflateImage_eq_ok.mp inflated, ?_, rows⟩
    rw [long, Nat.mul_comm]
  · rintro ⟨small, sections, channels, pixels, rfl, few, legal, ordered, stream, rows⟩
    obtain ⟨state, looped, ended, width, height, rfl, image⟩ := inspectChunks_start.mpr
      ⟨sections, rfl, few, legal, ordered, rfl⟩
    have long : pixels.length = (state.width * state.channels + 1) * state.height := by
      rw [rows.length, width, height, Nat.mul_comm]
    have enough := ordered.extent_le
    rw [← length_flatMap_bytes legal] at enough
    have some : state.image.length ≠ 0 := by
      rw [image, List.length_map]
      exact fun none => ordered.nonempty (List.eq_nil_of_length_eq_zero none)
    have inflated : inflateImage platform state.image.flatten
        ((state.width * state.channels + 1) * state.height) = .ok pixels := by
      rw [← long, image]
      exact inflateImage_eq_ok.mpr stream
    simp only [bind_eq_ok, rejectIf_eq_ok, exists_unit, not_or, not_lt, ne_eq, not_not,
      pure_eq_ok, Bool.not_eq_false]
    refine ⟨⟨small, ?_⟩, rfl, state, looped, ⟨ended, some⟩, pixels, inflated, long, ?_, ?_⟩
    · rw [List.length_append]
      exact Nat.add_le_add_left enough 8
    · rw [inspectRows_eq_ok (Nat.succ_pos _) long, width, height]
      exact rows.filter
    · exact congrArg₂ Size.mk width height

/-- The inspection returns a size or rejects the input, and no byte outside of it is read. -/
theorem failsOnly_inspect :
    FailsOnly IsInvalid (inspectProjectMaterialPng platform bytes) := by
  unfold inspectProjectMaterialPng
  refine rejects.bind fun _ _ => FailsOnly.bind rejects fun _ signed => ?_
  rw [rejectIf_eq_ok, ne_eq, not_not] at signed
  obtain ⟨rest, rfl⟩ := exists_behind_signature signed
  refine (failsOnly_inspectChunks platform signature rest rfl).bind fun state _ => ?_
  refine rejects.bind fun _ _ => FailsOnly.bind ?_ fun pixels _ => ?_
  · unfold inflateImage
    split
    · exact failsOnly_error rfl
    · exact rejects.bind fun _ _ => failsOnly_of_ok rfl
  · refine FailsOnly.bind rejects fun _ long => ?_
    rw [rejectIf_eq_ok, ne_eq, not_not] at long
    exact (failsOnly_inspectRows (Nat.succ_pos _) long).bind fun _ _ => failsOnly_of_ok rfl

end Exactness

/-- The inspection returns the size of a byte string exactly when it is a material of this size,
rejects every byte string that is none, and never reads a byte outside of its input. -/
theorem inspection_exact (platform : Platform) (bytes : List UInt8) :
    (∀ size, inspectProjectMaterialPng platform bytes = .ok size ↔
      IsMaterial platform bytes size) ∧
    (inspectProjectMaterialPng platform bytes = .error .invalid ↔
      ¬ ∃ size, IsMaterial platform bytes size) ∧
    inspectProjectMaterialPng platform bytes ≠ .error .outOfRange := by
  refine ⟨fun size => inspect_eq_ok, ?_, fun outside => ?_⟩
  · constructor
    · rintro rejected ⟨size, material⟩
      rw [inspect_eq_ok.mpr material] at rejected
      cases rejected
    · intro none
      cases found : inspectProjectMaterialPng platform bytes with
      | ok size => exact absurd ⟨size, inspect_eq_ok.mp found⟩ none
      | error error => exact congrArg Except.error (failsOnly_inspect error found)
  · cases failsOnly_inspect _ outside

/-- A picture of one row of one pixel in three chunks is a material. -/
example : inspectProjectMaterialPng
    { crc32 := fun _ => 0, inflateSync := fun _ most => some ⟨List.replicate most 0, 1⟩ }
    (signature ++
      ([0, 0, 0, 13] ++ ascii "IHDR" ++ [0, 0, 0, 1, 0, 0, 0, 1, 8, 2, 0, 0, 0, 0, 0, 0, 0]) ++
      ([0, 0, 0, 1] ++ ascii "IDAT" ++ [7, 0, 0, 0, 0]) ++
      ([0, 0, 0, 0] ++ ascii "IEND" ++ [0, 0, 0, 0])) =
    .ok { width := 1, height := 1 } := by
  decide_cbv

end Crewon.Verif.ProjectMaterialPng
