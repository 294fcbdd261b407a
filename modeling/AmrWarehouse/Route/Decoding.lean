import AmrWarehouse.Library.Filling
import AmrWarehouse.Route.VisualEvaluator
import Mathlib.Data.List.GetD

/-! Decoding an image as the loops do it, and what it gives for every encoding of one picture. -/

namespace Route

open Library

def putByte (output : Bytes) (index : ℕ) (byte : UInt8) : Except RouteError Bytes :=
  if index < output.length then .ok (output.set index byte)
  else .error (.indexError "bytearray index out of range")

def copyPixel (channelOrder : List ℕ) (row : Bytes) (state : Bytes × ℕ) (pixelOffset : ℕ) :
    Except RouteError (Bytes × ℕ) := do
  let output ← channelOrder.zipIdx.foldlM (fun output entry => do
    let byte ← byteAt row (pixelOffset + entry.1)
    putByte output (state.2 + entry.2) byte) state.1
  return (output, state.2 + 3)

def copyRow (bytesPerPixel : ℕ) (channelOrder : List ℕ) (width step : ℕ) (data : Bytes)
    (state : Bytes × ℕ) (rowIndex : ℕ) : Except RouteError (Bytes × ℕ) :=
  (List.range' 0 width bytesPerPixel).foldlM
    (copyPixel channelOrder ((data.drop (rowIndex * step)).take (width * bytesPerPixel))) state

/-- `decode_rgb_bytes` with its output written in place. -/
def decodeRgbLoop (width height : ℤ) (encoding : String) (step : ℤ) (data : Bytes) :
    Except RouteError Bytes :=
  match encodings (lower encoding) with
  | none => .error (.invalidImage s!"unsupported_image_encoding:{encoding}")
  | some (bytesPerPixel, channelOrder) =>
    if width ≤ 0 ∨ height ≤ 0 then .error (.invalidImage "image_dimensions_must_be_positive")
    else if step < width * bytesPerPixel then
      .error (.invalidImage "image_step_smaller_than_row_width")
    else if data.length < step * height then .error (.invalidImage "image_data_is_truncated")
    else do
      let output := List.replicate (width.toNat * height.toNat * 3) 0
      let (output, _) ← (List.range height.toNat).foldlM
        (copyRow bytesPerPixel channelOrder width.toNat step.toNat data) (output, 0)
      return output

inductive Layout
  | rgb8
  | bgr8
  | rgba8
  | bgra8

namespace Layout

def name : Layout → String
  | rgb8 => "rgb8"
  | bgr8 => "bgr8"
  | rgba8 => "rgba8"
  | bgra8 => "bgra8"

def bytes : Layout → ℕ
  | rgb8 | bgr8 => 3
  | rgba8 | bgra8 => 4

def pixel (red green blue alpha : UInt8) : Layout → Bytes
  | rgb8 => [red, green, blue]
  | bgr8 => [blue, green, red]
  | rgba8 => [red, green, blue, alpha]
  | bgra8 => [blue, green, red, alpha]

def channelOrder : Layout → List ℕ
  | rgb8 | rgba8 => [0, 1, 2]
  | bgr8 | bgra8 => [2, 1, 0]

lemma encodings_name (layout : Layout) :
    encodings layout.name = some (layout.bytes, layout.channelOrder) := by
  cases layout <;> rfl

lemma channelOrder_ok (layout : Layout) : layout.channelOrder.length = 3 ∧
    ∀ channel ∈ layout.channelOrder, channel < layout.bytes := by
  cases layout <;> decide

lemma getElem?_pixel (layout : Layout) (red green blue alpha : UInt8) {i : ℕ} (hi : i < 3) :
    (layout.pixel red green blue alpha)[layout.channelOrder.getD i 0]? =
      [red, green, blue][i]? := by
  interval_cases i <;> cases layout <;> rfl

end Layout

lemma encodings_eq_none {name : String} :
    encodings name = none ↔ ∀ layout : Layout, layout.name ≠ name := by
  constructor
  · rintro h layout rfl
    rw [layout.encodings_name] at h
    cases h
  · intro h
    rw [encodings, List.lookup_eq_none_iff]
    simp only [List.forall_mem_cons, List.not_mem_nil, false_imp_iff, implies_true, and_true,
      bne_iff_ne]
    exact ⟨(h .rgb8).symm, (h .bgr8).symm, (h .rgba8).symm, (h .bgra8).symm⟩

section Loop

variable {bytesPerPixel : ℕ} {channelOrder : List ℕ} {row : Bytes}

lemma putByte_middle (filled done rest : Bytes) (old new : UInt8) :
    putByte (filled ++ (done ++ old :: rest)) (filled.length + done.length) new =
      .ok (filled ++ (done ++ new :: rest)) := by
  rw [putByte, if_pos (by simp)]
  simp

lemma byteAt_ok {index : ℕ} (h : index < row.length) :
    byteAt row index = .ok (row.getD index 0) := by
  rw [byteAt, List.getElem?_eq_getElem h, List.getD_eq_getElem?_getD, List.getElem?_eq_getElem h]
  rfl

lemma fills_copyPixel {pixelOffset : ℕ} (horder : channelOrder.length = 3)
    (hrow : ∀ channel ∈ channelOrder, pixelOffset + channel < row.length) :
    Fills (fun state => copyPixel channelOrder row state pixelOffset)
      (channelOrder.map fun channel => row.getD (pixelOffset + channel) 0) := by
  intro filled rest hlength
  rw [List.length_map, horder] at hlength
  obtain ⟨a, b, c, rest, rfl⟩ : ∃ a b c tail, rest = a :: b :: c :: tail := by
    rcases rest with _ | ⟨a, _ | ⟨b, _ | ⟨c, tail⟩⟩⟩
    · simp at hlength
    · simp at hlength
    · simp at hlength
    · exact ⟨a, b, c, tail, rfl⟩
  obtain ⟨red, green, blue, rfl⟩ := List.length_eq_three.mp horder
  have hred := byteAt_ok (hrow red (by simp))
  have hgreen := byteAt_ok (hrow green (by simp))
  have hblue := byteAt_ok (hrow blue (by simp))
  set x := row.getD (pixelOffset + red) 0
  set y := row.getD (pixelOffset + green) 0
  set z := row.getD (pixelOffset + blue) 0
  have hfirst : putByte (filled ++ a :: b :: c :: rest) (filled.length + 0) x =
      .ok (filled ++ x :: b :: c :: rest) := putByte_middle filled [] (b :: c :: rest) a x
  have hsecond : putByte (filled ++ x :: b :: c :: rest) (filled.length + (0 + 1)) y =
      .ok (filled ++ x :: y :: c :: rest) := putByte_middle filled [x] (c :: rest) b y
  have hthird : putByte (filled ++ x :: y :: c :: rest) (filled.length + (0 + 1 + 1)) z =
      .ok (filled ++ x :: y :: z :: rest) := putByte_middle filled [x, y] rest c z
  simp only [copyPixel, List.zipIdx_cons, List.zipIdx_nil, List.foldlM_cons, List.foldlM_nil, hred,
    hgreen, hblue, bind, Except.bind, pure, Except.pure, hfirst, hsecond, hthird]
  simp [x, y, z]

lemma range'_eq_map (count size : ℕ) :
    List.range' 0 count size = (List.range count).map fun n => n * size := by
  induction count with
  | zero => rfl
  | succ count ih =>
    rw [List.range'_concat, ih, List.range_succ, List.map_append, Nat.zero_add, Nat.mul_comm size]
    rfl

end Loop

section Picture

variable {format : ℕ × List ℕ} {width height step : ℕ} {data : Bytes} {layout : Layout}

def pixelRow (format : ℕ × List ℕ) (width step : ℕ) (data : Bytes) (rowIndex : ℕ) : Bytes :=
  (data.drop (rowIndex * step)).take (width * format.1)

def channelsAt (format : ℕ × List ℕ) (width step : ℕ) (data : Bytes) (rowIndex column : ℕ) :
    Bytes :=
  format.2.map fun channel =>
    (pixelRow format width step data rowIndex).getD (column * format.1 + channel) 0

def sampled (format : ℕ × List ℕ) (width height step : ℕ) (data : Bytes) : Bytes :=
  (List.range height).flatMap fun rowIndex =>
    (List.range width).flatMap (channelsAt format width step data rowIndex)

structure Fits (format : ℕ × List ℕ) (width height step : ℕ) (data : Bytes) : Prop where
  channels : format.2.length = 3
  within : ∀ channel ∈ format.2, channel < format.1
  step_le : width * format.1 ≤ step
  length_le : step * height ≤ data.length

lemma Fits.length_pixelRow (h : Fits format width height step data) {rowIndex : ℕ}
    (hrow : rowIndex < height) :
    (pixelRow format width step data rowIndex).length = width * format.1 := by
  have hrows : (rowIndex + 1) * step ≤ height * step := Nat.mul_le_mul_right step hrow
  have hdata := h.length_le
  have hstep := h.step_le
  rw [Nat.mul_comm] at hdata
  rw [Nat.succ_mul] at hrows
  rw [pixelRow, List.length_take, List.length_drop]
  omega

lemma Fits.index_lt (h : Fits format width height step data) {rowIndex column channel : ℕ}
    (hrow : rowIndex < height) (hcolumn : column < width) (hchannel : channel ∈ format.2) :
    column * format.1 + channel < (pixelRow format width step data rowIndex).length := by
  have hcolumns : (column + 1) * format.1 ≤ width * format.1 := Nat.mul_le_mul_right _ hcolumn
  have hwithin := h.within channel hchannel
  rw [Nat.succ_mul] at hcolumns
  rw [h.length_pixelRow hrow]
  omega

lemma length_flatMap_range {size count : ℕ} {f : ℕ → Bytes} (h : ∀ n < count, (f n).length = size) :
    ((List.range count).flatMap f).length = count * size := by
  induction count with
  | zero => simp
  | succ count ih =>
    rw [List.range_succ, List.flatMap_append, List.length_append,
      ih fun n hn => h n (Nat.lt_succ_of_lt hn), List.flatMap_singleton, h count count.lt_succ_self,
      Nat.succ_mul]

lemma Fits.length_sampled (h : Fits format width height step data) :
    (sampled format width height step data).length = height * (width * 3) := by
  refine length_flatMap_range fun rowIndex _ => length_flatMap_range fun column _ => ?_
  rw [channelsAt, List.length_map, h.channels]

lemma Fits.fills_copyRow (h : Fits format width height step data) {rowIndex : ℕ}
    (hrow : rowIndex < height) :
    Fills (fun state => copyRow format.1 format.2 width step data state rowIndex)
      ((List.range width).flatMap (channelsAt format width step data rowIndex)) := by
  have hpixels : Fills
      (fun state => (List.range' 0 width format.1).foldlM
        (copyPixel format.2 (pixelRow format width step data rowIndex)) state)
      ((List.range' 0 width format.1).flatMap fun pixelOffset => format.2.map fun channel =>
        (pixelRow format width step data rowIndex).getD (pixelOffset + channel) 0) := by
    refine fills_foldlM fun pixelOffset hoffset => fills_copyPixel h.channels fun channel hc => ?_
    rw [range'_eq_map] at hoffset
    obtain ⟨column, hcolumn, rfl⟩ := List.mem_map.mp hoffset
    exact h.index_lt hrow (List.mem_range.mp hcolumn) hc
  rw [range'_eq_map, List.flatMap_map, ← range'_eq_map] at hpixels
  exact hpixels

lemma Fits.decodeRow (h : Fits format width height step data) {rowIndex : ℕ}
    (hrow : rowIndex < height) :
    decodeRow format.1 format.2 width (pixelRow format width step data rowIndex) =
      .ok ((List.range width).flatMap (channelsAt format width step data rowIndex)) := by
  have hpixels : ∀ column ∈ List.range width,
      format.2.mapM (fun channel => byteAt (pixelRow format width step data rowIndex)
        (column * format.1 + channel)) =
      .ok (channelsAt format width step data rowIndex column) := fun column hcolumn =>
    mapM_of_ok fun channel hchannel =>
      byteAt_ok (h.index_lt hrow (List.mem_range.mp hcolumn) hchannel)
  rw [Route.decodeRow, mapM_of_ok hpixels]
  rfl

/-- The data hold the picture: each pixel is where the step puts it, with its bytes in the order of
the layout. -/
structure Holds (layout : Layout) (width height : ℕ) (rgb : Bytes) (step : ℕ) (data : Bytes) :
    Prop where
  size : rgb.length = 3 * width * height
  step_le : width * layout.bytes ≤ step
  length_le : step * height ≤ data.length
  pixel : ∀ row < height, ∀ column < width, ∃ red green blue alpha,
    (rgb.drop ((row * width + column) * 3)).take 3 = [red, green, blue] ∧
    (data.drop (row * step + column * layout.bytes)).take layout.bytes =
      layout.pixel red green blue alpha

lemma Holds.fits {rgb : Bytes} (h : Holds layout width height rgb step data) :
    Fits (layout.bytes, layout.channelOrder) width height step data :=
  ⟨layout.channelOrder_ok.1, layout.channelOrder_ok.2, h.step_le, h.length_le⟩

lemma Holds.getElem?_data {rgb : Bytes} (h : Holds layout width height rgb step data)
    {row column i : ℕ} (hrow : row < height) (hcolumn : column < width) (hi : i < 3) :
    data[row * step + column * layout.bytes + layout.channelOrder.getD i 0]? =
      rgb[(row * width + column) * 3 + i]? := by
  obtain ⟨red, green, blue, alpha, hrgb, hdata⟩ := h.pixel row hrow column hcolumn
  have hmem : layout.channelOrder.getD i 0 ∈ layout.channelOrder := by
    rw [List.getD_eq_getElem _ _ (h.fits.channels ▸ hi)]
    exact List.getElem_mem _
  have hchannel := h.fits.within _ hmem
  rw [← List.getElem?_drop, ← List.getElem?_drop, ← List.getElem?_take_of_lt hi, hrgb,
    ← List.getElem?_take_of_lt hchannel, hdata, layout.getElem?_pixel _ _ _ _ hi]

lemma Holds.channelsAt {rgb : Bytes} (h : Holds layout width height rgb step data) {row column : ℕ}
    (hrow : row < height) (hcolumn : column < width) :
    channelsAt (layout.bytes, layout.channelOrder) width step data row column =
      piece 3 (piece (width * 3) rgb row) column := by
  have hfits := h.fits
  have hsize : height * (width * 3) ≤ rgb.length := by rw [h.size]; exact (by ring : _ = _).le
  have hpiece := length_piece hsize hrow
  refine List.ext_getElem? fun i => ?_
  by_cases hi : i < 3
  · have hmem : layout.channelOrder.getD i 0 ∈ layout.channelOrder := by
      rw [List.getD_eq_getElem _ _ (hfits.channels ▸ hi)]
      exact List.getElem_mem _
    have hget : layout.channelOrder[i]? = some (layout.channelOrder.getD i 0) := by
      rw [List.getD_eq_getElem _ _ (hfits.channels ▸ hi), List.getElem?_eq_getElem]
    have hindex := hfits.index_lt hrow hcolumn hmem
    have hlt : column * layout.bytes + layout.channelOrder.getD i 0 < width * layout.bytes := by
      rwa [hfits.length_pixelRow hrow] at hindex
    have hinner : column * 3 + i < width * 3 := by omega
    rw [Route.channelsAt, List.getElem?_map, hget, Option.map_some, List.getD_eq_getElem _ _ hindex,
      ← List.getElem?_eq_getElem hindex, pixelRow, List.getElem?_take_of_lt hlt,
      List.getElem?_drop, getElem?_piece hi, getElem?_piece hinner, ← Nat.add_assoc,
      h.getElem?_data hrow hcolumn hi]
    congr 1
    ring
  · have hleft : (Route.channelsAt (layout.bytes, layout.channelOrder) width step data row
        column).length = 3 := by
      rw [Route.channelsAt, List.length_map, hfits.channels]
    rw [List.getElem?_eq_none (by omega), List.getElem?_eq_none]
    rw [length_piece hpiece.ge hcolumn]
    omega

lemma Holds.sampled_eq {rgb : Bytes} (h : Holds layout width height rgb step data) :
    sampled (layout.bytes, layout.channelOrder) width height step data = rgb := by
  have hsize : rgb.length = height * (width * 3) := by rw [h.size]; ring
  have hrow : ∀ row ∈ List.range height,
      (List.range width).flatMap (Route.channelsAt (layout.bytes, layout.channelOrder) width step
        data row) = piece (width * 3) rgb row := by
    intro row hmem
    rw [List.mem_range] at hmem
    have hpiece := length_piece hsize.ge hmem
    rw [← flatMap_piece_of_length hpiece]
    exact List.flatMap_congr fun column hcolumn =>
      h.channelsAt hmem (List.mem_range.mp hcolumn)
  rw [sampled, List.flatMap_congr hrow, flatMap_piece_of_length hsize]

end Picture

def Refused (width height : ℤ) (encoding : String) (step : ℤ) (data : Bytes) : Prop :=
  (∀ layout : Layout, layout.name ≠ lower encoding) ∨ width ≤ 0 ∨ height ≤ 0 ∨
    (∃ layout : Layout, layout.name = lower encoding ∧ step < width * layout.bytes) ∨
    data.length < step * height

section Decode

variable {width height : ℤ} {encoding : String} {step : ℤ} {data : Bytes} {format : ℕ × List ℕ}

lemma decode_of_refused (h : Refused width height encoding step data) :
    ∃ message, decodeRgbBytes width height encoding step data = .error (.invalidImage message) ∧
      decodeRgbLoop width height encoding step data = .error (.invalidImage message) := by
  rw [decodeRgbBytes, decodeRgbLoop]
  cases hformat : encodings (lower encoding) with
  | none => exact ⟨_, rfl, rfl⟩
  | some format =>
    dsimp only
    split_ifs with hdimensions hstep hlength
    · exact ⟨_, rfl, rfl⟩
    · exact ⟨_, rfl, rfl⟩
    · exact ⟨_, rfl, rfl⟩
    · rcases h with hname | hwidth | hheight | ⟨layout, hname, hshort⟩ | hdata
      · rw [← encodings_eq_none, hformat] at hname
        cases hname
      · exact absurd (Or.inl hwidth) hdimensions
      · exact absurd (Or.inr hheight) hdimensions
      · rw [← hname, layout.encodings_name, Option.some.injEq] at hformat
        exact absurd (hformat ▸ hshort) hstep
      · exact absurd hdata hlength

lemma decode_of_fits {width height step : ℕ} (hformat : encodings (lower encoding) = some format)
    (hwidth : 0 < width) (hheight : 0 < height) (h : Fits format width height step data) :
    decodeRgbBytes width height encoding step data = .ok (sampled format width height step data) ∧
      decodeRgbLoop width height encoding step data =
        .ok (sampled format width height step data) := by
  have hdimensions : ¬ ((width : ℤ) ≤ 0 ∨ (height : ℤ) ≤ 0) := by omega
  have hstep : ¬ (step : ℤ) < width * format.1 := by
    have hle := h.step_le
    push_cast [not_lt]
    exact_mod_cast hle
  have hlength : ¬ (data.length : ℤ) < step * height := by
    have hle := h.length_le
    rw [not_lt]
    exact_mod_cast hle
  constructor
  · have hrows : ∀ row ∈ List.range height,
        decodeRow format.1 format.2 width
          ((data.drop (row * step)).take (width * format.1)) =
        .ok ((List.range width).flatMap (channelsAt format width step data row)) :=
      fun row hrow => h.decodeRow (List.mem_range.mp hrow)
    simp only [decodeRgbBytes, hformat, if_neg hdimensions, if_neg hstep, if_neg hlength,
      Int.toNat_natCast, mapM_of_ok hrows]
    rfl
  · have hfills : Fills (fun state => (List.range height).foldlM
        (copyRow format.1 format.2 width step data) state)
        (sampled format width height step data) :=
      fills_foldlM fun row hrow => h.fills_copyRow (List.mem_range.mp hrow)
    have hbuffer : (List.replicate (width * height * 3) (0 : UInt8)).length =
        (sampled format width height step data).length := by
      rw [List.length_replicate, h.length_sampled]
      ring
    have hrun : (List.range height).foldlM (copyRow format.1 format.2 width step data)
        (List.replicate (width * height * 3) 0, 0) =
          .ok (sampled format width height step data, _) :=
      hfills.run hbuffer
    simp only [decodeRgbLoop, hformat, if_neg hdimensions, if_neg hstep, if_neg hlength,
      Int.toNat_natCast, hrun]
    rfl

lemma exists_fits (h : ¬ Refused width height encoding step data) :
    ∃ (format : ℕ × List ℕ) (w k s : ℕ), encodings (lower encoding) = some format ∧
      width = w ∧ height = k ∧ step = s ∧ 0 < w ∧ 0 < k ∧ Fits format w k s data := by
  simp only [Refused, not_or, not_forall, not_not, not_exists, not_and, not_le, not_lt] at h
  obtain ⟨⟨layout, hname⟩, hwidth, hheight, hstep, hdata⟩ := h
  have hformat : encodings (lower encoding) = some (layout.bytes, layout.channelOrder) := by
    rw [← hname, layout.encodings_name]
  have hle := hstep layout hname
  have hnonneg : 0 ≤ step := le_trans (by positivity) hle
  lift width to ℕ using hwidth.le
  lift height to ℕ using hheight.le
  lift step to ℕ using hnonneg
  refine ⟨_, width, height, step, hformat, rfl, rfl, rfl, by exact_mod_cast hwidth,
    by exact_mod_cast hheight, layout.channelOrder_ok.1, layout.channelOrder_ok.2,
    by exact_mod_cast hle, by exact_mod_cast hdata⟩

lemma decode_of_accepted (h : ¬ Refused width height encoding step data) :
    ∃ rgb, decodeRgbBytes width height encoding step data = .ok rgb ∧
      decodeRgbLoop width height encoding step data = .ok rgb ∧
      rgb.length = 3 * width * height := by
  obtain ⟨format, w, k, s, hformat, rfl, rfl, rfl, hwidth, hheight, hfits⟩ := exists_fits h
  obtain ⟨hbytes, hloop⟩ := decode_of_fits hformat hwidth hheight hfits
  refine ⟨_, hbytes, hloop, ?_⟩
  rw [hfits.length_sampled]
  push_cast
  ring

/-- The executor's decoding is the loops' decoding. It returns the packed picture that the data
hold, in whatever format, and it raises for exactly what it has to refuse. -/
theorem decodeRgbBytes_correct (codecs : Codecs) :
    (∀ width height encoding step data,
      decodeRgbBytes width height encoding step data =
        decodeRgbLoop width height encoding step data) ∧
    (∀ (width height : ℕ) rgb encoding (layout : Layout) (step : ℕ) data, 0 < width → 0 < height →
      lower encoding = layout.name → Holds layout width height rgb step data →
      decodeRgbLoop width height encoding step data = .ok rgb ∧
      ∀ threshold, (do
          let rgb ← decodeRgbLoop width height encoding step data
          evaluateRedRatio codecs rgb threshold) = evaluateRedRatio codecs rgb threshold) ∧
    (∀ width height encoding step data,
      (∃ message, decodeRgbLoop width height encoding step data = .error (.invalidImage message)) ↔
        Refused width height encoding step data) ∧
    (∀ (width height : ℤ) encoding step data, ¬ Refused width height encoding step data →
      ∃ rgb, decodeRgbLoop width height encoding step data = .ok rgb ∧
        rgb.length = 3 * width * height) := by
  refine ⟨?_, ?_, ?_, ?_⟩
  · intro width height encoding step data
    by_cases h : Refused width height encoding step data
    · obtain ⟨message, hbytes, hloop⟩ := decode_of_refused h
      rw [hbytes, hloop]
    · obtain ⟨rgb, hbytes, hloop, -⟩ := decode_of_accepted h
      rw [hbytes, hloop]
  · intro width height rgb encoding layout step data hwidth hheight hname hholds
    have hformat : encodings (lower encoding) = some (layout.bytes, layout.channelOrder) := by
      rw [hname, layout.encodings_name]
    have hloop := (decode_of_fits hformat hwidth hheight hholds.fits).2
    rw [hholds.sampled_eq] at hloop
    refine ⟨hloop, fun threshold => ?_⟩
    rw [hloop]
    rfl
  · intro width height encoding step data
    constructor
    · rintro ⟨message, herror⟩
      by_contra h
      obtain ⟨rgb, -, hloop, -⟩ := decode_of_accepted h
      rw [hloop] at herror
      cases herror
    · intro h
      obtain ⟨message, -, hloop⟩ := decode_of_refused h
      exact ⟨message, hloop⟩
  · intro width height encoding step data h
    obtain ⟨rgb, -, hloop, hlength⟩ := decode_of_accepted h
    exact ⟨rgb, hloop, hlength⟩

example : decodeRgbBytes 1 2 "BGRA8" 5 [3, 2, 1, 255, 0, 6, 5, 4, 255, 0, 9] =
    .ok [1, 2, 3, 4, 5, 6] := by
  decide

end Decode

end Route
