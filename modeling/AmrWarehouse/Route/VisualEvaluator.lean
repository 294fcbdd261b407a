import AmrWarehouse.Route.RuntimeModels

/-! Images: their bytes as packed RGB, the share of red pixels, and the PNG file. -/

namespace Route

open Library

abbrev Bytes := List UInt8

/-- What is taken from other libraries: zlib, hashlib and the division of floats. -/
structure Codecs where
  compress : Bytes → Bytes
  crc32 : Bytes → ℕ
  sha256 : Bytes → String
  divide : ℕ → ℕ → ℚ

structure VisualEvaluation where
  redRatio : ℚ
  threshold : Floating
  finding : InspectionFindingLevel
  severity : Option InspectionFindingLevel
  reason : String
  deriving DecidableEq

def lower (text : String) : String := String.ofList (text.toList.map Char.toLower)

/-- The bytes of a pixel, and where its red, green and blue ones are. -/
def encodings (name : String) : Option (ℕ × List ℕ) :=
  [("rgb8", 3, [0, 1, 2]), ("bgr8", 3, [2, 1, 0]), ("rgba8", 4, [0, 1, 2]),
    ("bgra8", 4, [2, 1, 0])].lookup name

def byteAt (row : Bytes) (index : ℕ) : Except RouteError UInt8 :=
  match row[index]? with
  | some byte => .ok byte
  | none => .error (.indexError "index out of bounds on dimension 1")

def decodeRow (bytesPerPixel : ℕ) (channelOrder : List ℕ) (width : ℕ) (row : Bytes) :
    Except RouteError Bytes := do
  let pixels ← (List.range width).mapM fun pixel =>
    channelOrder.mapM fun channel => byteAt row (pixel * bytesPerPixel + channel)
  return pixels.flatten

def decodeRgbBytes (width height : ℤ) (encoding : String) (step : ℤ) (data : Bytes) :
    Except RouteError Bytes :=
  match encodings (lower encoding) with
  | none => .error (.invalidImage s!"unsupported_image_encoding:{encoding}")
  | some (bytesPerPixel, channelOrder) =>
    if width ≤ 0 ∨ height ≤ 0 then .error (.invalidImage "image_dimensions_must_be_positive")
    else if step < width * bytesPerPixel then
      .error (.invalidImage "image_step_smaller_than_row_width")
    else if data.length < step * height then .error (.invalidImage "image_data_is_truncated")
    else do
      let rows ← (List.range height.toNat).mapM fun row =>
        decodeRow bytesPerPixel channelOrder width.toNat
          ((data.drop (row * step.toNat)).take (width.toNat * bytesPerPixel))
      return rows.flatten

def redDominant : Bytes → ℕ
  | red :: green :: blue :: rest =>
    redDominant rest +
      if 150 ≤ red.toNat ∧ green.toNat + 35 ≤ red.toNat ∧ blue.toNat + 35 ≤ red.toNat then 1 else 0
  | _ => 0

variable (codecs : Codecs)

def evaluateRedRatio (rgb : Bytes) (threshold : Floating) : Except RouteError VisualEvaluation :=
  if rgb.length = 0 ∨ rgb.length % 3 ≠ 0 then
    .error (.invalidImage "packed_rgb_length_is_invalid")
  else if ¬ ((Floating.finite 0).le threshold ∧ threshold.le (.finite 1)) then
    .error (.valueError "threshold must be between 0 and 1")
  else
    let ratio := codecs.divide (redDominant rgb) (rgb.length / 3)
    let warning := threshold.lt (.finite ratio)
    .ok
      { redRatio := ratio
        threshold := threshold
        finding := if warning then .warning else .pass
        severity := if warning then some .warning else none
        reason := if warning then "red_ratio_above_threshold" else "red_ratio_within_threshold" }

def packUnsigned (n : ℕ) : Except RouteError Bytes :=
  if n < 2 ^ 32 then
    .ok [UInt8.ofNat (n / 2 ^ 24), UInt8.ofNat (n / 2 ^ 16), UInt8.ofNat (n / 2 ^ 8), UInt8.ofNat n]
  else .error (.structError "'I' format requires 0 <= number <= 4294967295")

def pngChunk (chunkType payload : Bytes) : Except RouteError Bytes := do
  let body := chunkType ++ payload
  let length ← packUnsigned payload.length
  let checksum ← packUnsigned (codecs.crc32 body % 2 ^ 32)
  return length ++ body ++ checksum

def pngRows (width height : ℕ) (rgb : Bytes) : Bytes :=
  (List.range height).flatMap fun row => 0 :: (rgb.drop (row * (width * 3))).take (width * 3)

def ascii (text : String) : Bytes := text.toList.map fun c => UInt8.ofNat c.toNat

def pngPayload (width height : ℤ) (rgb : Bytes) : Except RouteError Bytes :=
  if width ≤ 0 ∨ height ≤ 0 ∨ rgb.length ≠ width * height * 3 then
    .error (.invalidImage "packed_rgb_dimensions_do_not_match")
  else do
    let columns ← packUnsigned width.toNat
    let lines ← packUnsigned height.toNat
    let header ← pngChunk codecs (ascii "IHDR") (columns ++ lines ++ [8, 2, 0, 0, 0])
    let content ← pngChunk codecs (ascii "IDAT")
      (codecs.compress (pngRows width.toNat height.toNat rgb))
    let ending ← pngChunk codecs (ascii "IEND") []
    return [0x89, 0x50, 0x4e, 0x47, 0x0d, 0x0a, 0x1a, 0x0a] ++ header ++ content ++ ending

end Route
