import Mathlib.Tactic

/-! Big-endian numbers, and a reader of PNG images: truecolour, eight bits, not interlaced, with
unfiltered rows. -/

namespace Library

def bigEndian : ℕ → ℕ → List UInt8
  | 0, _ => []
  | size + 1, n => UInt8.ofNat (n / 256 ^ size) :: bigEndian size n

def readBigEndian (bytes : List UInt8) : ℕ := bytes.foldl (fun n byte => n * 256 + byte.toNat) 0

lemma length_bigEndian (size n : ℕ) : (bigEndian size n).length = size := by
  induction size with
  | zero => rfl
  | succ size ih => rw [bigEndian, List.length_cons, ih]

lemma foldl_bigEndian (size n high : ℕ) :
    (bigEndian size n).foldl (fun n byte => n * 256 + byte.toNat) high =
      high * 256 ^ size + n % 256 ^ size := by
  induction size generalizing high with
  | zero => simp [bigEndian, Nat.mod_one]
  | succ size ih =>
    have hmod : n % 256 ^ (size + 1) = n % 256 ^ size + 256 ^ size * (n / 256 ^ size % 256) := by
      rw [Nat.pow_succ, Nat.mod_mul]
    rw [bigEndian, List.foldl_cons, ih, UInt8.toNat_ofNat', hmod]
    ring

lemma readBigEndian_bigEndian {size n : ℕ} (h : n < 256 ^ size) :
    readBigEndian (bigEndian size n) = n := by
  rw [readBigEndian, foldl_bigEndian, Nat.mod_eq_of_lt h, Nat.zero_mul, Nat.zero_add]

def split? (size : ℕ) (bytes : List UInt8) : Option (List UInt8 × List UInt8) :=
  if size ≤ bytes.length then some (bytes.take size, bytes.drop size) else none

lemma split?_append {size : ℕ} {bytes rest : List UInt8} (h : bytes.length = size) :
    split? size (bytes ++ rest) = some (bytes, rest) := by
  subst h
  rw [split?, if_pos (by simp), List.take_left, List.drop_left]

structure PngChunk where
  kind : List UInt8
  payload : List UInt8
  deriving DecidableEq

structure PngCodec where
  crc32 : List UInt8 → ℕ
  decompress : List UInt8 → Option (List UInt8)

def pngSignature : List UInt8 := [0x89, 0x50, 0x4e, 0x47, 0x0d, 0x0a, 0x1a, 0x0a]

def headerKind : List UInt8 := [0x49, 0x48, 0x44, 0x52]

def dataKind : List UInt8 := [0x49, 0x44, 0x41, 0x54]

def endKind : List UInt8 := [0x49, 0x45, 0x4e, 0x44]

variable (codec : PngCodec)

def readChunk (bytes : List UInt8) : Option (PngChunk × List UInt8) := do
  let (length, rest) ← split? 4 bytes
  guard (readBigEndian length < 2 ^ 31)
  let (kind, rest) ← split? 4 rest
  let (payload, rest) ← split? (readBigEndian length) rest
  let (checksum, rest) ← split? 4 rest
  guard (readBigEndian checksum = codec.crc32 (kind ++ payload))
  return (⟨kind, payload⟩, rest)

/-- Chunks up to the end of the bytes. The number bounds how many. -/
def readChunks : ℕ → List UInt8 → Option (List PngChunk)
  | 0, bytes => if bytes = [] then some [] else none
  | count + 1, bytes =>
    if bytes = [] then some []
    else do
      let (chunk, rest) ← readChunk codec bytes
      let chunks ← readChunks count rest
      return chunk :: chunks

def readHeader (payload : List UInt8) : Option (ℕ × ℕ) := do
  let (columns, rest) ← split? 4 payload
  let (lines, rest) ← split? 4 rest
  guard (rest = [8, 2, 0, 0, 0])
  guard (0 < readBigEndian columns ∧ readBigEndian columns < 2 ^ 31)
  guard (0 < readBigEndian lines ∧ readBigEndian lines < 2 ^ 31)
  return (readBigEndian columns, readBigEndian lines)

def readRows (size : ℕ) : ℕ → List UInt8 → Option (List UInt8)
  | 0, bytes => if bytes = [] then some [] else none
  | count + 1, bytes => do
    let (filter, rest) ← split? 1 bytes
    guard (filter = [0])
    let (row, rest) ← split? size rest
    let rows ← readRows size count rest
    return row ++ rows

def readPng (bytes : List UInt8) : Option (ℕ × ℕ × List UInt8) := do
  let (signature, rest) ← split? 8 bytes
  guard (signature = pngSignature)
  match ← readChunks codec rest.length rest with
  | [] => none
  | header :: body =>
    guard (header.kind = headerKind)
    let (width, height) ← readHeader header.payload
    let (content, ending) := body.span fun chunk => chunk.kind = dataKind
    guard (content ≠ [] ∧ ending = [⟨endKind, []⟩])
    let rows ← codec.decompress (content.flatMap PngChunk.payload)
    let rgb ← readRows (width * 3) height rows
    return (width, height, rgb)

def PngChunk.frame (chunk : PngChunk) : List UInt8 :=
  bigEndian 4 chunk.payload.length ++ (chunk.kind ++ chunk.payload) ++
    bigEndian 4 (codec.crc32 (chunk.kind ++ chunk.payload))

section RoundTrip

variable {codec} (hcrc : ∀ bytes, codec.crc32 bytes < 2 ^ 32)
include hcrc

lemma readChunk_frame {chunk : PngChunk} (hkind : chunk.kind.length = 4)
    (hpayload : chunk.payload.length < 2 ^ 31) (rest : List UInt8) :
    readChunk codec (chunk.frame codec ++ rest) = some (chunk, rest) := by
  have hlength : readBigEndian (bigEndian 4 chunk.payload.length) = chunk.payload.length :=
    readBigEndian_bigEndian (by omega)
  have hchecksum : readBigEndian (bigEndian 4 (codec.crc32 (chunk.kind ++ chunk.payload))) =
      codec.crc32 (chunk.kind ++ chunk.payload) := readBigEndian_bigEndian (hcrc _)
  rw [readChunk, PngChunk.frame]
  simp only [List.append_assoc, split?_append (length_bigEndian _ _), Option.bind_eq_bind,
    Option.bind_some, hlength, hpayload, guard_true, Option.pure_def, split?_append hkind,
    split?_append (rfl : chunk.payload.length = _), hchecksum]

lemma readChunks_frames {chunks : List PngChunk} (hkind : ∀ chunk ∈ chunks, chunk.kind.length = 4)
    (hpayload : ∀ chunk ∈ chunks, chunk.payload.length < 2 ^ 31) {count : ℕ}
    (hcount : chunks.length ≤ count) :
    readChunks codec count (chunks.flatMap (PngChunk.frame codec)) = some chunks := by
  induction chunks generalizing count with
  | nil => cases count <;> rfl
  | cons chunk chunks ih =>
    obtain ⟨count, rfl⟩ : ∃ n, count = n + 1 := ⟨count - 1, by simp at hcount; omega⟩
    have hne : (chunk :: chunks).flatMap (PngChunk.frame codec) ≠ [] := by
      intro hnil
      have hlength := congrArg List.length hnil
      rw [List.flatMap_cons, PngChunk.frame, List.append_assoc, List.append_assoc,
        List.length_append, length_bigEndian, List.length_nil] at hlength
      omega
    rw [readChunks, if_neg hne, List.flatMap_cons,
      readChunk_frame hcrc (hkind chunk List.mem_cons_self) (hpayload chunk List.mem_cons_self)]
    have hrest := ih (fun c hc => hkind c (List.mem_cons_of_mem chunk hc))
      (fun c hc => hpayload c (List.mem_cons_of_mem chunk hc)) (Nat.le_of_succ_le_succ hcount)
    simp only [Option.bind_eq_bind, Option.bind_some, hrest, Option.pure_def]

omit hcrc

lemma readRows_flatMap {size count : ℕ} {row : ℕ → List UInt8}
    (hrow : ∀ n < count, (row n).length = size) :
    readRows size count ((List.range count).flatMap fun n => 0 :: row n) =
      some ((List.range count).flatMap row) := by
  induction count generalizing row with
  | zero => rfl
  | succ count ih =>
    have hrest := ih fun n hn => hrow (n + 1) (Nat.succ_lt_succ hn)
    have hfilter : split? 1 (0 :: (row 0 ++ (List.range count).flatMap fun n => 0 :: row (n + 1))) =
        some ([0], row 0 ++ (List.range count).flatMap fun n => 0 :: row (n + 1)) := rfl
    rw [List.range_succ_eq_map, List.flatMap_cons, List.flatMap_cons, List.flatMap_map,
      List.flatMap_map, List.cons_append, readRows, hfilter]
    simp only [Option.bind_eq_bind, Option.bind_some, guard_true, Option.pure_def,
      split?_append (hrow 0 count.succ_pos), hrest]

lemma readHeader_bigEndian {width height : ℕ} (hwidth : 0 < width ∧ width < 2 ^ 31)
    (hheight : 0 < height ∧ height < 2 ^ 31) :
    readHeader (bigEndian 4 width ++ (bigEndian 4 height ++ [8, 2, 0, 0, 0])) =
      some (width, height) := by
  have hcolumns : readBigEndian (bigEndian 4 width) = width := readBigEndian_bigEndian (by omega)
  have hlines : readBigEndian (bigEndian 4 height) = height := readBigEndian_bigEndian (by omega)
  rw [readHeader]
  simp only [split?_append (length_bigEndian _ _), Option.bind_eq_bind, Option.bind_some,
    guard_true, hcolumns, hlines, hwidth, hheight, and_self, Option.pure_def]

include hcrc

variable (codec) in
/-- Header, one chunk of data, and end. -/
theorem readPng_frames {width height : ℕ} {content : List UInt8} {row : ℕ → List UInt8}
    (hwidth : 0 < width ∧ width < 2 ^ 31) (hheight : 0 < height ∧ height < 2 ^ 31)
    (hcontent : content.length < 2 ^ 31)
    (hrows : codec.decompress content = some ((List.range height).flatMap fun n => 0 :: row n))
    (hrow : ∀ n < height, (row n).length = width * 3) :
    readPng codec (pngSignature ++ [(⟨headerKind, bigEndian 4 width ++ (bigEndian 4 height ++
        [8, 2, 0, 0, 0])⟩ : PngChunk), ⟨dataKind, content⟩, ⟨endKind, []⟩].flatMap
          (PngChunk.frame codec)) =
      some (width, height, (List.range height).flatMap row) := by
  set header : PngChunk :=
    ⟨headerKind, bigEndian 4 width ++ (bigEndian 4 height ++ [8, 2, 0, 0, 0])⟩ with hheader
  have hkinds : ∀ chunk ∈ [header, ⟨dataKind, content⟩, ⟨endKind, []⟩], chunk.kind.length = 4 := by
    simp [hheader, headerKind, dataKind, endKind]
  have hpayloads : ∀ chunk ∈ [header, ⟨dataKind, content⟩, ⟨endKind, []⟩],
      chunk.payload.length < 2 ^ 31 := by
    intro chunk hchunk
    simp only [List.mem_cons, List.not_mem_nil, or_false] at hchunk
    rcases hchunk with rfl | rfl | rfl
    · simp [hheader, length_bigEndian]
    · exact hcontent
    · simp
  have hcount : [header, ⟨dataKind, content⟩, ⟨endKind, []⟩].length ≤
      ([header, ⟨dataKind, content⟩, ⟨endKind, []⟩].flatMap (PngChunk.frame codec)).length := by
    simp only [List.flatMap_cons, List.length_append, PngChunk.frame, length_bigEndian,
      List.length_cons, List.length_nil]
    omega
  have hspan : ([⟨dataKind, content⟩, ⟨endKind, []⟩] : List PngChunk).span
      (fun chunk => chunk.kind = dataKind) = ([⟨dataKind, content⟩], [⟨endKind, []⟩]) := by
    rfl
  have hsignature : pngSignature.length = 8 := rfl
  have hread : readHeader header.payload = some (width, height) :=
    readHeader_bigEndian hwidth hheight
  have hdata : ([⟨dataKind, content⟩] : List PngChunk).flatMap PngChunk.payload = content := by simp
  have hkind : header.kind = headerKind := rfl
  rw [readPng, split?_append hsignature]
  simp only [Option.bind_eq_bind, Option.bind_some, guard_true, Option.pure_def, hkind, hread,
    hspan, readChunks_frames hcrc hkinds hpayloads hcount, ne_eq, List.cons_ne_nil,
    not_false_eq_true, and_self, hdata, hrows, readRows_flatMap hrow]

end RoundTrip

end Library
