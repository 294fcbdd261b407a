import AmrWarehouse.Library.Filling
import AmrWarehouse.Library.Png
import AmrWarehouse.Route.Accounting

/-! The image that is written can be read again. -/

namespace Route

open Library

def Codecs.reader (codecs : Codecs) (decompress : Bytes → Option Bytes) : PngCodec where
  crc32 bytes := codecs.crc32 bytes % 2 ^ 32
  decompress := decompress

section Payload

variable {codecs : Codecs} {decompress : Bytes → Option Bytes}

lemma packUnsigned_ok {n : ℕ} (h : n < 2 ^ 32) : packUnsigned n = .ok (bigEndian 4 n) := by
  rw [packUnsigned, if_pos h]
  simp [bigEndian]

variable (codecs decompress) in
lemma pngChunk_ok (chunk : PngChunk) (h : chunk.payload.length < 2 ^ 31) :
    pngChunk codecs chunk.kind chunk.payload = .ok (chunk.frame (codecs.reader decompress)) := by
  have hlength := packUnsigned_ok (h.trans (by norm_num))
  have hchecksum := packUnsigned_ok (Nat.mod_lt (codecs.crc32 (chunk.kind ++ chunk.payload))
    (by norm_num : 0 < 2 ^ 32))
  simp only [pngChunk, hlength, hchecksum, bind, Except.bind, pure, Except.pure]
  rfl

variable (decompress) in
lemma pngPayload_ok {width height : ℕ} {rgb : Bytes} (hwidth : 0 < width ∧ width < 2 ^ 31)
    (hheight : 0 < height ∧ height < 2 ^ 31) (hrgb : rgb.length = 3 * width * height)
    (hcompressed : (codecs.compress (pngRows width height rgb)).length < 2 ^ 31) :
    pngPayload codecs width height rgb = .ok (pngSignature ++
      [(⟨headerKind, bigEndian 4 width ++ (bigEndian 4 height ++ [8, 2, 0, 0, 0])⟩ : PngChunk),
        ⟨dataKind, codecs.compress (pngRows width height rgb)⟩, ⟨endKind, []⟩].flatMap
          (PngChunk.frame (codecs.reader decompress))) := by
  have hdimensions :
      ¬ ((width : ℤ) ≤ 0 ∨ (height : ℤ) ≤ 0 ∨ (rgb.length : ℤ) ≠ width * height * 3) := by
    rw [hrgb]
    push_cast
    have hsize : (3 * width * height : ℤ) = width * height * 3 := by ring
    omega
  have hheader : pngChunk codecs (ascii "IHDR")
      (bigEndian 4 width ++ bigEndian 4 height ++ [8, 2, 0, 0, 0]) = _ :=
    (congrArg (pngChunk codecs headerKind) (List.append_assoc ..)).trans
      (pngChunk_ok codecs decompress ⟨headerKind, _⟩ (by simp [length_bigEndian]))
  have hcontent : pngChunk codecs (ascii "IDAT") (codecs.compress (pngRows width height rgb)) = _ :=
    pngChunk_ok codecs decompress ⟨dataKind, _⟩ hcompressed
  have hending : pngChunk codecs (ascii "IEND") [] = _ :=
    pngChunk_ok codecs decompress ⟨endKind, []⟩ (by simp)
  rw [pngPayload, if_neg hdimensions]
  simp only [Int.toNat_natCast, packUnsigned_ok (hwidth.2.trans (by norm_num : 2 ^ 31 < 2 ^ 32)),
    packUnsigned_ok (hheight.2.trans (by norm_num : 2 ^ 31 < 2 ^ 32)), hheader, hcontent, hending,
    bind, Except.bind, pure, Except.pure]
  simp [pngSignature]

/-- A reader of PNG images gets back from what is written the size and the picture. -/
theorem writeRgbPng_lossless (around : RouteSurroundings) (decompress : Bytes → Option Bytes)
    (hinflate : ∀ content, decompress (around.codecs.compress content) = some content)
    (width height : ℕ) (hwidth : 0 < width ∧ width < 2 ^ 31)
    (hheight : 0 < height ∧ height < 2 ^ 31) (rgb : Bytes)
    (hrgb : rgb.length = 3 * width * height)
    (hcompressed : (around.codecs.compress (pngRows width height rgb)).length < 2 ^ 31) :
    ∃ payload, pngPayload around.codecs width height rgb = .ok payload ∧
      readPng (around.codecs.reader decompress) payload = some (width, height, rgb) ∧
      ∀ path state digest after,
        (writeRgbPng around path width height rgb).run state = .ok digest after →
        after.files = state.files ++ [(path, .image payload)] ∧
          digest = around.codecs.sha256 payload := by
  have hpayload := pngPayload_ok decompress hwidth hheight hrgb hcompressed
  refine ⟨_, hpayload, ?_, ?_⟩
  · have hsize : rgb.length = height * (width * 3) := by rw [hrgb]; ring
    have hrows : decompress (around.codecs.compress (pngRows width height rgb)) =
        some ((List.range height).flatMap fun n => 0 :: piece (width * 3) rgb n) := hinflate _
    have hread := readPng_frames (around.codecs.reader decompress)
      (fun bytes => Nat.mod_lt _ (by norm_num)) hwidth hheight hcompressed hrows
      fun n hn => length_piece hsize.ge hn
    rwa [flatMap_piece_of_length hsize] at hread
  · intro path state digest after hrun
    simp only [writeRgbPng, writeFile, hpayload, EStateM.run_bind, run_orRaise_ok,
      EStateM.run_get, EStateM.run_set] at hrun
    cases hdisk : around.disk state.writes with
    | some e =>
      simp only [hdisk] at hrun
      cases hrun
    | none =>
      simp only [hdisk] at hrun
      cases hrun
      exact ⟨rfl, rfl⟩

end Payload

def redCompressed : Bytes := [0x78, 0x9c, 0x63, 0xf8, 0xcf, 0xc0, 0, 0, 3, 1, 1, 0]

def redSurroundings : RouteSurroundings :=
  { defaultSurroundings with
    codecs :=
      { defaultSurroundings.codecs with
        compress := Equiv.swap [0, 255, 0, 0] redCompressed
        crc32 := fun body =>
          if body.take 4 = headerKind then 2423739358
          else if body.take 4 = dataKind then 3388904175 else 2923585666 } }

theorem writeRgbPng_lossless_red :
    ∃ payload, pngPayload redSurroundings.codecs 1 1 [255, 0, 0] = .ok payload ∧
      readPng (redSurroundings.codecs.reader
        fun content => some (Equiv.swap [0, 255, 0, 0] redCompressed content)) payload =
          some (1, 1, [255, 0, 0]) := by
  obtain ⟨payload, hpayload, hread, -⟩ := writeRgbPng_lossless redSurroundings
    (fun content => some (Equiv.swap [0, 255, 0, 0] redCompressed content))
    (fun content => congrArg some (Equiv.swap_apply_self ..)) 1 1 (by norm_num) (by norm_num)
    [255, 0, 0] (by norm_num) (by decide +kernel)
  exact ⟨payload, hpayload, hread⟩

example : pngPayload redSurroundings.codecs 1 1 [255, 0, 0] = .ok
    [0x89, 0x50, 0x4e, 0x47, 0x0d, 0x0a, 0x1a, 0x0a,
      0, 0, 0, 13, 0x49, 0x48, 0x44, 0x52, 0, 0, 0, 1, 0, 0, 0, 1, 8, 2, 0, 0, 0,
      0x90, 0x77, 0x53, 0xde,
      0, 0, 0, 12, 0x49, 0x44, 0x41, 0x54, 0x78, 0x9c, 0x63, 0xf8, 0xcf, 0xc0, 0, 0, 3, 1, 1, 0,
      0xc9, 0xfe, 0x92, 0xef,
      0, 0, 0, 0, 0x49, 0x45, 0x4e, 0x44, 0xae, 0x42, 0x60, 0x82] := by
  decide +kernel

end Route
