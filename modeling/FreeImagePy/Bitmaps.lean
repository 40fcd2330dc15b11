import FreeImagePy.Memory

/-!
# FreeImage's bitmap store

What `freeimage.py` relies on from FreeImage when it moves pixels: a bitmap is a record of
pixel type, depth, size, pitch and the addresses of its bits and palette, the queries
`FreeImage_GetWidth` and the like answer its fields, `FreeImage_AllocateT` makes a new one
of the type and size asked for, and the bits are plain process memory. `BitmapStore`
states these as laws on a library. Over every library that obeys them, `_array_to_bitmap`
stores an admissible array into a fresh bitmap laid out for it, and `_array_from_bitmap`
reads a laid-out bitmap back, whatever its bytes: the value at each index is the element the
view reads there, with red and blue exchanged for 8-bit colour on a little-endian host, and
the exchange is also made in the bitmap's own bits.
-/

namespace FreeImagePy


/-! ### Pixel paths over a lawful library -/

section PixelPaths
variable {σ : Type} {L : Lib σ} {s : σ} {v : View} {f g : List Nat → List UInt8}
  {W H C k : Nat}

theorem View.Holds.congr (h : v.Holds L s f) (hfg : ∀ i, ValidIndex v.shape i → f i = g i) :
    v.Holds L s g := fun i hi => (h i hi).trans (hfg i hi)

theorem take_two_channelIndex {p : List Nat} (hp : p ∈ planePositions [W, H, C]) :
    (p ++ [k]).take 2 = p := by
  obtain ⟨x, y, rfl, -, -⟩ := mem_planePositions.1 hp
  rfl

/-- `view[:, :, k] = vals` for the values `g p` at the plane positions `p`: the content takes
them on channel `k` and keeps every other channel. -/
theorem View.holds_writeChannel (hL : L.Lawful) (hsep : v.Separated) (hs : v.shape = [W, H, C])
    (hk : k < C) (hg : ∀ p ∈ planePositions [W, H, C], (g p).length = v.itemsize)
    (hf : v.Holds L s f) :
    v.Holds L (writeElems L v ((planePositions v.shape).map (· ++ [k]))
      ((planePositions v.shape).map g) s) fun i => if i.getD 2 0 = k then g (i.take 2) else f i := by
  rw [hs]
  have hvals : (planePositions [W, H, C]).map g =
      ((planePositions [W, H, C]).map (· ++ [k])).map fun i => g (i.take 2) := by
    rw [List.map_map]
    exact List.map_congr_left fun p hp => by simp only [Function.comp, take_two_channelIndex hp]
  rw [hvals]
  refine (v.holds_writeElems hL hsep (nodup_channelIndices _ _) (fun i hi => ?_) (fun i hi => ?_)
    hf).congr fun i hi => ?_
  · exact hs ▸ ((mem_channelIndices hk).1 hi).1
  · obtain ⟨p, hp, rfl⟩ := List.mem_map.1 hi
    rw [take_two_channelIndex hp]
    exact hg p hp
  · rw [hs] at hi
    simp only [mem_channelIndices hk, hi, true_and]

theorem viewChannel_ok (hs : v.shape = [W, H, C]) (hk : k < C) (hf : v.Holds L s f)
    {Q : List (List UInt8) → σ → Prop}
    (h : Q ((planePositions v.shape).map fun p => f (p ++ [k])) s) :
    Ok s (viewChannel L v k) Q := by
  simp only [viewChannel, FI.pure_bind, FI.raise_bind]
  refine Ok.unless (by simpa [hs] using hk) fun _ => ⟨_, rfl, ?_⟩
  convert h using 1
  refine List.map_congr_left fun p hp => hf _ ?_
  rw [hs] at hp ⊢
  exact ((mem_channelIndices hk).1 (List.mem_map_of_mem _ hp)).1

theorem assignChannel_ok (hs : v.shape = [W, H, C]) (hk : k < C) {vals : List (List UInt8)}
    {Q : Unit → σ → Prop}
    (h : Q () (writeElems L v ((planePositions v.shape).map (· ++ [k])) vals s)) :
    Ok s (assignChannel L v k vals) Q := by
  simp only [assignChannel, FI.pure_bind, FI.raise_bind]
  exact Ok.unless (by simpa [hs] using hk) fun _ => ⟨(), rfl, h⟩

theorem assignAll_ok {A : NDArray} {Q : Unit → σ → Prop}
    (h : Q () (writeElems L v ((List.range v.shape.prod).map (unflatten v.shape)) A.data s)) :
    Ok s (assignAll L v A) Q := fun _ => ⟨(), rfl, h⟩

/-- `view[:] = array` for an array of the view's shape and itemsize: the view holds the array. -/
theorem View.holds_assignAll (hL : L.Lawful) (hsep : v.Separated) {A : NDArray}
    (hs : v.shape = A.shape) (hi : v.itemsize = A.dtype.itemsize) (hf : v.Holds L s f) :
    v.Holds L (writeElems L v ((List.range v.shape.prod).map (unflatten v.shape)) A.data s)
      A.get := by
  rw [A.data_eq_map_get, ← hs]
  refine (v.holds_writeElems hL hsep (nodup_indices _) (fun i hi => mem_indices.1 hi)
    (fun i hmem => ?_) hf).congr fun i hv => by rw [if_pos (mem_indices.2 hv)]
  rw [hi, A.get_length (hs ▸ mem_indices.1 hmem)]

end PixelPaths

/-! ### Bitmaps and the laws of their store -/


/-- A bitmap as the library keeps it. -/
structure Bitmap where
  type : Int
  bpp : Int
  width : Int
  height : Int
  pitch : Int
  bits : Int
  palette : Int
  deriving DecidableEq, Repr

/-- The entry points that return one field of a bitmap. -/
def Bitmap.query : Fn → Option (Bitmap → Int)
  | .getWidth => some Bitmap.width
  | .getHeight => some Bitmap.height
  | .getImageType => some Bitmap.type
  | .getBPP => some Bitmap.bpp
  | .getPitch => some Bitmap.pitch
  | .getBits => some Bitmap.bits
  | .getPalette => some Bitmap.palette
  | _ => none

/-- How a build of FreeImage pads scanlines: a row of `w` pixels of `bpp` bits takes
`pitch w bpp` bytes, at least the bits of its pixels. -/
structure PitchRule where
  pitch : Int → Int → Int
  row_le : ∀ w bpp, 0 ≤ w → 0 ≤ bpp → w * bpp ≤ 8 * pitch w bpp

/-- FreeImage's own rule: scanlines padded to a whole number of 32-bit words. -/
def freeImagePitch : PitchRule where
  pitch w bpp := (w * bpp + 31) / 32 * 4
  row_le _ _ _ _ := by dsimp only; omega


/-- What `FreeImage_AllocateT(t, w, h, bpp, 0, 0, 0)` returns a handle to: a bitmap of the
type, depth and size asked for, padded by the build's pitch rule, with non-null bits and, at
8 bits per pixel or fewer, a palette past the last row. -/
structure Bitmap.Allocated (rule : PitchRule) (b : Bitmap) (t w h depth : Int) : Prop where
  type : b.type = t
  bpp : b.bpp = depth
  width : b.width = w
  height : b.height = h
  pitch : b.pitch = rule.pitch w depth
  bits : 0 < b.bits
  palette : depth ≤ 8 → b.bits + h * b.pitch ≤ b.palette

/-- A library that keeps its bitmaps as records over its memory, with the laws `freeimage.py`
relies on. -/
structure BitmapStore (σ : Type) where
  lib : Lib σ
  /-- The bitmap behind each handle. -/
  bitmaps : σ → Int → Option Bitmap
  /-- How the build pads scanlines. -/
  rule : PitchRule
  /-- The bits are process memory: each address reads back the byte last written there. -/
  lawful : lib.Lawful
  /-- What the library keeps beside its bitmaps and their bytes, such as its files. -/
  rest : σ → σ
  /-- numpy's stores through a view change no bitmap record and nothing beside the bytes. -/
  poke_frame : ∀ a x s, bitmaps (lib.poke a x s) = bitmaps s ∧ rest (lib.poke a x s) = rest s
  /-- `FreeImage_GetWidth` and the other queries answer a field of the record and change
  nothing. -/
  query : ∀ {s d b f field}, bitmaps s d = some b → Bitmap.query f = some field →
    lib.call f [.ptr d] s = (field b, s)
  /-- `FreeImage_IsLittleEndian` answers the host's byte order and changes nothing. -/
  isLittleEndian : ∀ s, lib.call .isLittleEndian [] s = (if lib.littleEndian then 1 else 0, s)
  /-- `FreeImage_AllocateT` of a positive size and a depth of no negative bits returns a
  free handle, to which it adds a new bitmap of that type, size and depth. -/
  allocateT : ∀ s (t w h bpp : Int), 0 < w → 0 < h → 0 ≤ bpp → ∃ d s' b,
    lib.call .allocateT [.int t, .int w, .int h, .int bpp, .int 0, .int 0, .int 0] s = (d, s') ∧
    d ≠ 0 ∧ bitmaps s d = none ∧ bitmaps s' = Function.update (bitmaps s) d (some b) ∧
    b.Allocated rule t w h bpp ∧ rest s' = rest s


/-! ### Bitmaps laid out for an array -/

theorem fiTypes_bounds {dt : DType} {c : Nat} {t : Int} (h : FITypes.fiTypes dt c = some t) :
    1 ≤ t ∧ t ≤ 12 ∧ 0 < dt.itemsize ∧ 8 * dt.itemsize * c ≤ 128 := by
  unfold FITypes.fiTypes at h
  split at h <;> cases h <;> decide

/-- Bitmap `b` is laid out for the array `A` of shape `(W, H)`, or `(W, H, C)` with `C ≠ 1`:
a `W × H` bitmap of the pixel type and depth `fi_types` gives `A`, whose rows of `P` bytes
hold `W * C` elements, whose bits are not null, and whose palette, for 8-bit grey, lies past
the last row. Every number `_array_from_bitmap` reads back fits a C `int`. -/
structure Bitmap.LaidOut (b : Bitmap) (A : NDArray) (W H C P : Nat) : Prop where
  shape : A.shape = [W, H] ∧ C = 1 ∨ A.shape = [W, H, C] ∧ C ≠ 1
  type : FITypes.fiTypes A.dtype C = some b.type
  bpp : b.bpp = 8 * A.dtype.itemsize * C
  width : b.width = W
  height : b.height = H
  pitch : b.pitch = P
  row : W * C * A.dtype.itemsize ≤ P
  pos : 0 < W ∧ 0 < H
  fits : W < 2 ^ 31 ∧ H < 2 ^ 31 ∧ P < 2 ^ 31
  bits : 0 < b.bits
  palette : A.shape.length = 2 → A.dtype = .uint8 → b.bits + H * P ≤ b.palette

/-- The view `_wrap_bitmap_bits_in_array` puts over the bits of `b` for an array like `A`. -/
def Bitmap.view (b : Bitmap) (A : NDArray) : View :=
  bitmapView b.bits b.pitch (A.shape.map (↑)) A.dtype.itemsize

/-- Channel `c` of an 8-bit colour pixel where FreeImage keeps it on a little-endian host:
blue, green, red, then alpha. -/
def bgr (c : Nat) : Nat := if c = 0 then 2 else if c = 2 then 0 else c

/-- What `_array_to_bitmap` stores at each index of its view: the array's value there, or, when
it swaps channels, the value of the channel `bgr` names. -/
def stored (swap : Bool) (A : NDArray) (idx : List Nat) : List UInt8 :=
  if swap then A.get (idx.set 2 (bgr (idx.getD 2 0))) else A.get idx

/-- The channel swap of `_array_to_bitmap` and `_array_from_bitmap`. -/
def swapRB (le : Bool) (A : NDArray) : Bool := A.shape.length == 3 && le && A.dtype == .uint8

namespace Bitmap.LaidOut
variable {b : Bitmap} {A : NDArray} {W H C P : Nat} (hl : b.LaidOut A W H C P)
include hl

theorem shape' : A.shape = [W, H] ∧ C = 1 ∨ A.shape = [W, H, C] :=
  hl.shape.imp id And.left

theorem channels_pos : 0 < C := by
  rcases FITypes.fiTypes_channels hl.type with h | h | h <;> omega

theorem view_eq : b.view A = bitmapView b.bits P (A.shape.map (↑)) A.dtype.itemsize := by
  rw [Bitmap.view, hl.pitch]

@[simp] theorem shape_view : (b.view A).shape = A.shape := by
  rw [hl.view_eq, shape_bitmapView]

theorem separated : (b.view A).Separated := hl.view_eq ▸ bitmapView_separated hl.shape' hl.row

theorem within : (b.view A).Within b.bits (b.bits + ((H * P : Nat) : Int)) :=
  hl.view_eq ▸ bitmapView_within hl.shape' hl.row

theorem getD_one : (A.shape.map ((↑) : Nat → Int)).getD 1 0 = H := by
  rcases hl.shape' with ⟨h, -⟩ | h <;> simp [h]

end Bitmap.LaidOut

theorem NDArray.ext_of {A B : NDArray} (hd : A.dtype = B.dtype) (hs : A.shape = B.shape)
    (hdata : A.data = B.data) : A = B := by
  cases A
  cases B
  cases hd
  cases hs
  cases hdata
  rfl

theorem NDArray.channel_of_lt {A : NDArray} {k : Nat} (hk : k < A.shape.getD 2 0) :
    A.channel k = .ok ((planePositions A.shape).map fun p => A.get (p ++ [k])) :=
  if_neg (Nat.not_le.2 hk)

theorem swapRB_shape {le : Bool} {b : Bitmap} {A : NDArray} {W H C P : Nat}
    (hl : b.LaidOut A W H C P) (hsw : swapRB le A = true) : A.shape = [W, H, C] ∧ 2 < C ∧ C ≤ 4 := by
  simp only [swapRB, Bool.and_eq_true, beq_iff_eq] at hsw
  have := FITypes.fiTypes_channels hl.type
  rcases hl.shape with ⟨h, -⟩ | ⟨h, hC⟩
  · rw [h] at hsw
    cases hsw.1.1
  · exact ⟨h, by omega, by omega⟩

/-- The values a view reads after `_array_from_bitmap`'s exchange of channels 0 and 2, when it
makes it, from a view that read `F`. -/
def exchangeRB (swap : Bool) (F : List Nat → List UInt8) (idx : List Nat) : List UInt8 :=
  if swap then F (idx.set 2 (bgr (idx.getD 2 0))) else F idx

theorem bgr_bgr (c : Nat) : bgr (bgr c) = c := by
  unfold bgr
  by_cases h0 : c = 0 <;> by_cases h2 : c = 2 <;> simp [h0, h2]

/-- The exchange undoes itself, at every index. -/
theorem exchangeRB_exchangeRB (swap : Bool) (F : List Nat → List UInt8) :
    exchangeRB swap (exchangeRB swap F) = F := by
  funext idx
  cases swap
  · rfl
  rcases idx with _ | ⟨x, _ | ⟨y, _ | ⟨c, rest⟩⟩⟩
  all_goals simp [exchangeRB, bgr_bgr]

theorem stored_eq (swap : Bool) (A : NDArray) : stored swap A = exchangeRB swap A.get := rfl

/-- Two arrays of one dtype and shape with the same value at every index are equal. -/
theorem NDArray.ext_get {A B : NDArray} (hd : A.dtype = B.dtype) (hs : A.shape = B.shape)
    (hg : ∀ i, ValidIndex A.shape i → A.get i = B.get i) : A = B := by
  refine NDArray.ext_of hd hs ?_
  rw [A.data_eq_map_get, B.data_eq_map_get, ← hs]
  exact List.map_congr_left fun i hi => hg i (mem_indices.1 hi)

theorem prod_take_two_of_unit {shape : List Nat} (h3 : shape.length = 3)
    (h1 : shape.getD 2 0 = 1) : (shape.take 2).prod = shape.prod := by
  rcases shape with _ | ⟨a, _ | ⟨b, _ | ⟨c, _ | ⟨e, t⟩⟩⟩⟩ <;> simp_all

/-- The array of shape `(W, H)` with the values of an array of shape `(W, H, 1)`, as numpy's
`array[:, :, 0]` gives it; every other array is left as it is. -/
def NDArray.dropUnitAxis (A : NDArray) : NDArray :=
  if h : A.shape.length = 3 ∧ A.shape.getD 2 0 = 1 then
    ⟨A.dtype, A.shape.take 2, A.data, by rw [A.size_eq, prod_take_two_of_unit h.1 h.2],
      A.item_size⟩
  else A

theorem NDArray.dropUnitAxis_eq {A : NDArray} (h : ¬(A.shape.length = 3 ∧ A.shape.getD 2 0 = 1)) :
    A.dropUnitAxis = A :=
  dif_neg h

theorem NDArray.dropUnitAxis_of_shape {A : NDArray} {W H : Nat} (hA : A.shape = [W, H, 1]) :
    A.dropUnitAxis.shape = [W, H] ∧ A.dropUnitAxis.dtype = A.dtype ∧
      ∀ x y, A.dropUnitAxis.get [x, y] = A.get [x, y, 0] := by
  have h : A.shape.length = 3 ∧ A.shape.getD 2 0 = 1 := by simp [hA]
  simp [NDArray.dropUnitAxis, h, NDArray.get, hA, flatIndex]

/-- The bitmap `FreeImage_AllocateT` makes for an admissible array is laid out for it. -/
theorem Bitmap.Allocated.laidOut {rule : PitchRule} {b : Bitmap} {A : NDArray} {W H C : Nat}
    {t : Int}
    (ha : b.Allocated rule t W H (8 * A.dtype.itemsize * C : Nat))
    (hshape : A.shape = [W, H] ∧ C = 1 ∨ A.shape = [W, H, C] ∧ C ≠ 1)
    (ht : FITypes.fiTypes A.dtype C = some t) (hW : 0 < W ∧ W < 2 ^ 31) (hH : 0 < H ∧ H < 2 ^ 31)
    (hP : rule.pitch W (8 * A.dtype.itemsize * C : Nat) < 2 ^ 31) :
    b.LaidOut A W H C (rule.pitch W (8 * A.dtype.itemsize * C : Nat)).toNat := by
  obtain ⟨-, -, hs, -⟩ := fiTypes_bounds ht
  have hrow := rule.row_le W (8 * A.dtype.itemsize * C : Nat) (by omega) (by omega)
  have hpb := ha.pitch
  generalize rule.pitch W (8 * A.dtype.itemsize * C : Nat) = p at hrow hP hpb ⊢
  have hp : ((W * C * A.dtype.itemsize : Nat) : Int) ≤ p := by push_cast at hrow ⊢; nlinarith
  have hp0 : 0 ≤ p := le_trans (by positivity) hp
  refine ⟨hshape, ha.type ▸ ht, by rw [ha.bpp]; push_cast; rfl, ha.width, ha.height,
    by omega, by omega, ⟨hW.1, hH.1⟩, ⟨hW.2, hH.2, by omega⟩, ha.bits, fun h2 hu => ?_⟩
  obtain ⟨-, rfl⟩ := hshape.resolve_right fun h => by simp [h.1] at h2
  have := ha.palette (by simp [hu, DType.itemsize])
  rw [hpb, Int.toNat_of_nonneg hp0] at *
  exact_mod_cast this

/-- The exchange keeps an index of a channel-swapped array an index of it. -/
theorem validIndex_exchange {le : Bool} {b : Bitmap} {A : NDArray} {W H C P : Nat}
    (hl : b.LaidOut A W H C P) (hsw : swapRB le A = true) {i : List Nat}
    (hi : ValidIndex A.shape i) : ValidIndex A.shape (i.set 2 (bgr (i.getD 2 0))) := by
  obtain ⟨hA, hC, -⟩ := swapRB_shape hl hsw
  rw [hA] at hi ⊢
  obtain ⟨x, y, c, rfl, hx, hy, hc⟩ := validIndex_three.1 hi
  exact validIndex_three.2 ⟨x, y, bgr c, rfl, hx, hy, by unfold bgr; split_ifs <;> omega⟩

theorem exchangeRB_congr {le : Bool} {b : Bitmap} {A : NDArray} {W H C P : Nat}
    (hl : b.LaidOut A W H C P) {G G' : List Nat → List UInt8}
    (hg : ∀ i, ValidIndex A.shape i → G i = G' i) {i : List Nat} (hi : ValidIndex A.shape i) :
    exchangeRB (swapRB le A) G i = exchangeRB (swapRB le A) G' i := by
  unfold exchangeRB
  cases hsw : swapRB le A
  · exact hg i hi
  · exact hg _ (validIndex_exchange hl hsw hi)

theorem Bitmap.view_congr {b : Bitmap} {A A' : NDArray} (hs : A'.shape = A.shape)
    (hd : A'.dtype = A.dtype) : b.view A' = b.view A := by
  unfold Bitmap.view
  rw [hs, hd]

/-- The array `array.copy()` makes of a bitmap's view has the dtype and shape it was laid out
for, so it swaps channels exactly when that array does. -/
theorem swapRB_copy {σ : Type} {L : Lib σ} {le : Bool} {b : Bitmap} {A : NDArray} {W H C P : Nat}
    (hl : b.LaidOut A W H C P) (t : σ) :
    swapRB le ((b.view A).copy L A.dtype t) = swapRB le A := by
  simp only [swapRB, View.copy, hl.shape_view]

/-- `_wrap_bitmap_bits_in_array` over any library whose `FreeImage_GetPitch` answers a pitch
`P < 2^31` and whose `FreeImage_GetBits` answers non-null bits, for a `(W, H)` or `(W, H, C)`
shape of positive sizes over rows of `P ≥ W * C * s` bytes: the bottom-up view over those bits,
and nothing changed. -/
theorem wrapBitmapBitsInArray_view {σ : Type} {L : Lib σ} {s : σ} {d bits : Int}
    {shape : List Nat} {dtype : DType} {W H C P : Nat} {Q : View → σ → Prop}
    (hshape : shape = [W, H] ∧ C = 1 ∨ shape = [W, H, C]) (hP : W * C * dtype.itemsize ≤ P)
    (hpos : 0 < W ∧ 0 < H ∧ 0 < C) (hs : 0 < dtype.itemsize) (hP31 : P < 2 ^ 31)
    (hpitch : L.call .getPitch [.ptr d] s = ((P : Int), s)) (hbits : L.call .getBits [.ptr d] s = (bits, s))
    (hb0 : bits ≠ 0) (h : Q (bitmapView bits P (shape.map (↑)) dtype.itemsize) s) :
    Ok s (_wrapBitmapBitsInArray L d (shape.map (↑)) dtype) Q := by
  have hH : (shape.map ((↑) : Nat → Int)).getD 1 0 = H := by
    rcases hshape with ⟨h, -⟩ | h <;> simp [h]
  have hcs := checkStrides_bitmapView hshape hP hpos.1 hpos.2.1 hpos.2.2 hs
  simp only [_wrapBitmapBitsInArray, FI.pure_bind, FI.raise_bind]
  refine Ok.bind (Ok.call L rfl hpitch (fun _ => cInt_of_lt (by omega)
    (by exact_mod_cast hP31)) (Ok.bind (Ok.call L rfl hbits nofun ?_)))
  refine Ok.unless ?_ (Ok.unless hb0 (Ok.unless ?_ (Ok.unless ?_ (Ok.pure h))))
  · rw [hH]
    exact not_lt.2 (by positivity)
  · simp
  · rw [hH] at hcs
    rw [shape_bitmapView]
    simp only [bitmapView, hH, hcs, Bool.not_true, Bool.false_eq_true, not_false_eq_true]

/-- `_wrap_bitmap_bits_in_array` of a bitmap without pixels, for which `FreeImage_GetBits`
answers null: ctypes' `from_address` raises `TypeError`, and nothing has changed. -/
theorem wrapBitmapBitsInArray_null {σ : Type} {L : Lib σ} {s : σ} {d : Int} {shape : List Int}
    {dtype : DType} {P : Nat} {Q : PyErr → σ → Prop} (hH : 0 ≤ shape.getD 1 0) (hP31 : P < 2 ^ 31)
    (hpitch : L.call .getPitch [.ptr d] s = ((P : Int), s)) (hbits : L.call .getBits [.ptr d] s = (0, s))
    (h : Q ⟨.typeError, "integer expected"⟩ s) :
    Raises s (_wrapBitmapBitsInArray L d shape dtype) Q := by
  simp only [_wrapBitmapBitsInArray, FI.pure_bind, FI.raise_bind]
  refine Ok.bind_raises (Ok.call L rfl hpitch (fun _ => cInt_of_lt (by omega)
    (by exact_mod_cast hP31)) (Ok.bind_raises (Ok.call L rfl hbits nofun ?_)))
  rw [if_neg (not_lt.2 (mul_nonneg hH (by positivity))), if_pos rfl]
  exact Raises.raise h

/-- The view of a `(W, H, 1)` array and the view of its `(W, H)` reshape put each pixel at the
same bytes, so the second holds at `[x, y]` what the first holds at `[x, y, 0]`. -/
theorem holds_reshape_unit {σ : Type} {L : Lib σ} {s : σ} {bits : Int} {shape : List Nat}
    {W H P sz : Nat} {F : List Nat → List UInt8} (hshape : shape = [W, H, 1])
    (h : (bitmapView bits P (shape.map (↑)) sz).Holds L s F) :
    (bitmapView bits P ([W, H].map (↑)) sz).Holds L s fun i => F (i ++ [0]) := by
  subst hshape
  intro i hi
  rw [shape_bitmapView] at hi
  obtain ⟨x, y, rfl, hx, hy⟩ := validIndex_two.1 hi
  have e : (bitmapView bits P ([W, H, 1].map (↑)) sz).addr [x, y, 0] =
      (bitmapView bits P ([W, H].map (↑)) sz).addr [x, y] :=
    (bitmapView_addr (x := x) (c := 0) bits [W, H, 1] (.inr rfl) hy one_pos).trans
      (bitmapView_addr (x := x) (c := 0) bits [W, H] (.inl ⟨rfl, rfl⟩) hy one_pos).symm
  rw [← e]
  exact h [x, y, 0] (by rw [shape_bitmapView]; exact validIndex_three.2 ⟨x, y, 0, rfl, hx, hy, one_pos⟩)

/-! ### The two paths over any bitmap store -/

namespace BitmapStore
variable {σ : Type} (B : BitmapStore σ) {s : σ} {d : Int} {b : Bitmap} {A : NDArray}
  {W H C P : Nat}

/-- Only memory changed from `s` to `s'`: the same bitmaps, and the same rest. -/
def Frame (s s' : σ) : Prop := B.bitmaps s' = B.bitmaps s ∧ B.rest s' = B.rest s

theorem Frame.refl (s : σ) : B.Frame s s := ⟨rfl, rfl⟩

theorem Frame.trans {B : BitmapStore σ} {s₁ s₂ s₃ : σ} (h₁ : B.Frame s₁ s₂) (h₂ : B.Frame s₂ s₃) :
    B.Frame s₁ s₃ :=
  ⟨h₂.1.trans h₁.1, h₂.2.trans h₁.2⟩

theorem frame_writeBytes : ∀ (a : Int) (bs : List UInt8) (s : σ), B.Frame s (writeBytes B.lib a bs s)
  | _, [], s => Frame.refl B s
  | a, x :: bs, s => Frame.trans (B.poke_frame a x s) (frame_writeBytes (a + 1) bs _)

theorem frame_writeElems (v : View) : ∀ (idxs : List (List Nat)) (es : List (List UInt8)) (s : σ),
    B.Frame s (writeElems B.lib v idxs es s)
  | _ :: idxs, _ :: es, s =>
    (B.frame_writeBytes _ _ s).trans (frame_writeElems v idxs es _)
  | [], _, s => Frame.refl B s
  | _ :: _, [], s => Frame.refl B s

/-- A query of a bitmap whose answer, as ctypes returns it, is the field itself. -/
theorem ok_query {f : Fn} {field : Bitmap → Int} {n : Int} {Q : Int → σ → Prop}
    (hb : B.bitmaps s d = some b) (hq : Bitmap.query f = some field) (hn : field b = n)
    (hr : f.returnsPointer = false → cInt n = n) (h : Q n s) :
    Ok s (ffi B.lib f [.ptr d]) Q := by
  refine Ok.ffi _ rfl ?_
  rw [B.query hb hq, hn]
  cases hp : f.returnsPointer
  · rwa [if_neg Bool.false_ne_true, hr hp]
  · rwa [if_pos rfl]

theorem swapsChannels_ok {α : Type} (shape : List α) (dtype : DType) {Q : Bool → σ → Prop}
    (h : Q (shape.length == 3 && B.lib.littleEndian && dtype == .uint8) s) :
    Ok s (swapsChannels B.lib shape dtype) Q := by
  unfold swapsChannels
  by_cases h3 : shape.length = 3
  · rw [if_pos h3]
    refine Ok.bind (Ok.ffi _ rfl ?_)
    rw [B.isLittleEndian]
    refine Ok.pure ?_
    cases hle : B.lib.littleEndian <;> simpa [h3, hle] using h
  · rw [if_neg h3]
    rw [beq_false_of_ne h3, Bool.false_and, Bool.false_and] at h
    exact Ok.pure h

/-- `FI_TYPES.get_type_and_shape` of a bitmap laid out for `A`, or of the same bitmap with other
bits, as a load of the header alone leaves it: it reads the header only. -/
theorem getTypeAndShape_ok {x : Int} (hb : B.bitmaps s d = some { b with bits := x })
    (hl : b.LaidOut A W H C P)
    {Q : DType × List Int → σ → Prop} (h : Q (A.dtype, A.shape.map (↑)) s) :
    Ok s (FITypes.getTypeAndShape B.lib d) Q := by
  obtain ⟨ht₁, ht₂, -, hbpp⟩ := fiTypes_bounds hl.type
  obtain ⟨hdt, hbm, hext⟩ := FITypes.fiTypes_inverse hl.type
  have hdims : [(W : Int), H] ++ FITypes.channelDims C = A.shape.map (↑) := by
    rcases hl.shape with ⟨h, rfl⟩ | ⟨h, hC⟩ <;> simp [h, FITypes.channelDims, *]
  have hbpp' : (8 * A.dtype.itemsize * C : Int) ≤ 128 := by exact_mod_cast hbpp
  simp only [FITypes.getTypeAndShape, FI.pure_bind, FI.raise_bind]
  refine Ok.bind (B.ok_query hb rfl hl.width (fun _ => cInt_of_lt (by omega)
    (by exact_mod_cast hl.fits.1)) ?_)
  refine Ok.bind (B.ok_query hb rfl hl.height (fun _ => cInt_of_lt (by omega)
    (by exact_mod_cast hl.fits.2.1)) ?_)
  refine Ok.bind (B.ok_query hb rfl (n := b.type) rfl (fun _ => cInt_of_lt (by omega) (by omega)) ?_)
  refine Ok.unless (by omega) ?_
  rw [hdt]
  refine Ok.bind (Ok.ite (fun hbit => ?_) fun hbit => ?_)
  · exact Ok.bind (B.ok_query hb rfl hl.bpp (fun _ => cInt_of_lt (by positivity) (by omega))
      (Ok.ofExcept (hbm hbit) (Ok.pure (hdims ▸ h))))
  · rw [hext hbit]
    exact Ok.pure (Ok.pure (hdims ▸ h))

theorem wrapBitmapBitsInArray_ok (hb : B.bitmaps s d = some b) (hl : b.LaidOut A W H C P)
    {Q : View → σ → Prop} (h : Q (b.view A) s) :
    Ok s (_wrapBitmapBitsInArray B.lib d (A.shape.map (↑)) A.dtype) Q :=
  wrapBitmapBitsInArray_view hl.shape' hl.row ⟨hl.pos.1, hl.pos.2, hl.channels_pos⟩
    (fiTypes_bounds hl.type).2.2.1 hl.fits.2.2 (by rw [B.query (f := .getPitch) hb rfl, hl.pitch])
    (B.query (f := .getBits) hb rfl) hl.bits.ne' (hl.view_eq ▸ h)

theorem installGreyPalette_ok (hb : B.bitmaps s d = some b) (hl : b.LaidOut A W H C P)
    {F : List Nat → List UInt8} (hf : (b.view A).Holds B.lib s F) :
    Ok s (installGreyPalette B.lib A d) fun _ s' =>
      B.Frame s s' ∧ (b.view A).Holds B.lib s' F := by
  simp only [installGreyPalette, FI.pure_bind, FI.raise_bind]
  refine Ok.ite (fun hg => ?_) fun _ => Ok.pure ⟨Frame.refl B s, hf⟩
  have hpal := hl.palette hg.1 hg.2
  have hbits := hl.bits
  have hHP : (0 : Int) ≤ H * P := by positivity
  refine Ok.bind (B.ok_query hb rfl rfl nofun (Ok.unless (by omega) fun _ => ⟨(), rfl, ?_⟩))
  exact ⟨B.frame_writeBytes _ _ _, View.holds_writeBytes_outside B.lawful hl.within
    (.inl (by push_cast; omega)) hf⟩

/-- `wrapped[:, :, k] = array[:, :, k']`, then the rest of the block. -/
theorem copyChannel_ok {α : Type} {v : View} {F : List Nat → List UInt8} {k k' : Nat}
    (hv : v.shape = [W, H, C]) (hA : A.shape = [W, H, C]) (hsep : v.Separated)
    (hi : v.itemsize = A.dtype.itemsize) (hk : k < C) (hk' : k' < C)
    (hf : v.Holds B.lib s F) {rest : FI σ α} {Q : α → σ → Prop}
    (h : ∀ s', B.Frame s s' → v.Holds B.lib s'
      (fun i => if i.getD 2 0 = k then A.get (i.take 2 ++ [k']) else F i) → Ok s' rest Q) :
    Ok s (FI.ofExcept (A.channel k') >>= fun vals =>
      assignChannel B.lib v k vals >>= fun _ => rest) Q := by
  have hch := NDArray.channel_of_lt (A := A) (k := k') (by simpa [hA] using hk')
  rw [hA, ← hv] at hch
  refine Ok.bind (Ok.ofExcept hch (Ok.bind (assignChannel_ok hv hk
    (h _ (B.frame_writeElems ..) ?_))))
  refine v.holds_writeChannel B.lawful hsep hv hk (fun p hp => ?_) hf
  obtain ⟨x, y, rfl, hx, hy⟩ := mem_planePositions.1 hp
  rw [hi]
  exact A.get_length (hA ▸ ⟨hx, hy, hk', trivial⟩)

theorem fillBitmap_ok (hb : B.bitmaps s d = some b) (hl : b.LaidOut A W H C P) :
    Ok s (fillBitmap B.lib A d) fun _ s' => B.Frame s s' ∧
      (b.view A).Holds B.lib s' (stored (swapRB B.lib.littleEndian A) A) := by
  have hsep := hl.separated
  have h₀ := View.holds_self B.lib s (b.view A)
  simp only [fillBitmap, FI.pure_bind, FI.raise_bind]
  refine Ok.bind (B.wrapBitmapBitsInArray_ok hb hl (Ok.bind (B.swapsChannels_ok _ _ ?_)))
  rw [← swapRB]
  cases hsw : swapRB B.lib.littleEndian A
  · rw [if_neg Bool.false_ne_true]
    refine Ok.bind (assignAll_ok ((B.installGreyPalette_ok (by rwa [(B.frame_writeElems ..).1])
      hl (View.holds_assignAll B.lawful hsep hl.shape_view rfl h₀)).conseq ?_))
    exact fun _ s' ⟨h₁, h₂⟩ => ⟨(B.frame_writeElems ..).trans h₁, h₂⟩
  obtain ⟨hA, hC, hC4⟩ := swapRB_shape hl hsw
  have hv := hl.shape_view.trans hA
  rw [if_pos rfl]
  refine B.copyChannel_ok hv hA hsep rfl (by omega) (by omega) h₀ fun s₁ e₁ h₁ => ?_
  refine B.copyChannel_ok hv hA hsep rfl (by omega) (by omega) h₁ fun s₂ e₂ h₂ => ?_
  refine B.copyChannel_ok hv hA hsep rfl (by omega) (by omega) h₂ fun s₃ e₃ h₃ => ?_
  have e := e₁.trans (e₂.trans e₃)
  by_cases h4 : C = 4
  · subst h4
    rw [if_pos (by simp [hA])]
    refine B.copyChannel_ok hv hA hsep rfl (by omega) (by omega) h₃ fun s₄ e₄ h₄ => ?_
    refine (B.installGreyPalette_ok (by rwa [e₄.1, e.1]) hl h₄).conseq fun _ s' ⟨e', h'⟩ =>
      ⟨(e.trans e₄).trans e', h'.congr fun i hi => ?_⟩
    obtain ⟨x, y, c, rfl, -, -, hc⟩ := validIndex_three.1 (hv ▸ hi)
    obtain rfl | rfl | rfl | rfl : c = 0 ∨ c = 1 ∨ c = 2 ∨ c = 3 := by omega
    all_goals rfl
  · rw [if_neg (by simpa [hA] using h4)]
    refine (B.installGreyPalette_ok (by rwa [e.1]) hl h₃).conseq fun _ s' ⟨e', h'⟩ =>
      ⟨e.trans e', h'.congr fun i hi => ?_⟩
    obtain ⟨x, y, c, rfl, -, -, hc⟩ := validIndex_three.1 (hv ▸ hi)
    obtain rfl | rfl | rfl : c = 0 ∨ c = 1 ∨ c = 2 := by omega
    all_goals rfl

/-- `array.copy()` of the view, when it holds the array's values. -/
theorem copy_view (hl : b.LaidOut A W H C P) {t : σ} (hf : (b.view A).Holds B.lib t A.get) :
    (b.view A).copy B.lib A.dtype t = A := by
  refine NDArray.ext_of rfl hl.shape_view ?_
  rw [View.copy_data rfl hf, hl.shape_view, A.data_eq_map_get, List.map_map]
  rfl

/-- `_array_from_bitmap` of a bitmap laid out for `A`'s dtype and shape, whatever its view
reads: the copy of the view after the exchange of channels 0 and 2, which is made, when it is
made, in the bitmap's own bits. -/
theorem arrayFromBitmap_spec (hb : B.bitmaps s d = some b) (hl : b.LaidOut A W H C P)
    {F : List Nat → List UInt8} (hf : (b.view A).Holds B.lib s F) :
    Ok s (_arrayFromBitmap B.lib d) fun R s' =>
      R = (b.view A).copy B.lib A.dtype s' ∧ B.Frame s s' ∧
        (b.view A).Holds B.lib s' (exchangeRB (swapRB B.lib.littleEndian A) F) := by
  simp only [_arrayFromBitmap, FI.pure_bind, FI.raise_bind]
  refine Ok.bind (B.getTypeAndShape_ok (x := b.bits) hb hl (Ok.bind (B.wrapBitmapBitsInArray_ok hb hl
    (Ok.bind (B.swapsChannels_ok _ _ ?_)))))
  rw [List.length_map, ← swapRB]
  cases hsw : swapRB B.lib.littleEndian A
  · exact Ok.read ⟨rfl, Frame.refl B s, hf⟩
  obtain ⟨hA, hC, -⟩ := swapRB_shape hl hsw
  have hv := hl.shape_view.trans hA
  have hg : ∀ k, k < C → ∀ p ∈ planePositions [W, H, C],
      (F (p ++ [k])).length = (b.view A).itemsize := fun k hk p hp => by
    obtain ⟨x, y, rfl, hx, hy⟩ := mem_planePositions.1 hp
    rw [← hf _ (hv ▸ ⟨hx, hy, hk, trivial⟩), readBytes_length]
  refine Ok.bind (viewChannel_ok hv (by omega) hf (Ok.bind (viewChannel_ok hv (by omega) hf
    (Ok.bind (assignChannel_ok hv (by omega) (Ok.bind (assignChannel_ok hv (by omega)
    (Ok.read ⟨rfl, (B.frame_writeElems ..).trans (B.frame_writeElems ..), ?_⟩))))))))
  have h₁ := (b.view A).holds_writeChannel B.lawful hl.separated hv (k := 0)
    (by omega) (hg 2 hC) hf
  refine ((b.view A).holds_writeChannel B.lawful hl.separated hv (k := 2)
    hC (hg 0 (by omega)) h₁).congr fun i hi => ?_
  obtain ⟨x, y, c, rfl, -, -, hc⟩ := validIndex_three.1 (hv ▸ hi)
  by_cases h2 : c = 2
  · subst h2
    rfl
  by_cases h0 : c = 0
  · subst h0
    rfl
  simp only [List.getD_cons_succ, List.getD_cons_zero, if_neg h2, if_neg h0, exchangeRB,
    if_true, bgr, List.set_cons_succ, List.set_cons_zero]

/-- `_array_from_bitmap` of a bitmap whose view holds what `_array_to_bitmap` stores for `A`
gives `A` back, and changes only memory. -/
theorem arrayFromBitmap_ok (hb : B.bitmaps s d = some b) (hl : b.LaidOut A W H C P)
    (hf : (b.view A).Holds B.lib s (stored (swapRB B.lib.littleEndian A) A)) :
    Ok s (_arrayFromBitmap B.lib d) fun R s' => R = A ∧ B.Frame s s' :=
  (B.arrayFromBitmap_spec hb hl hf).conseq fun _ _ ⟨hR, e, h'⟩ => ⟨hR.trans (B.copy_view hl
    (by rwa [stored_eq, exchangeRB_exchangeRB] at h')), e⟩

/-- The channel count `_array_to_bitmap` computes from the shape. -/
theorem nchannels_ok (hshape : A.shape = [W, H] ∧ C = 1 ∨ A.shape = [W, H, C])
    {e : PyErr} {Q : Nat → σ → Prop} (h : Q C s) :
    Ok s (if A.shape.length = 2 then pure 1 else if A.shape.length = 3 then pure (A.shape.getD 2 0)
      else FI.raise e) Q := by
  rcases hshape with ⟨hs, rfl⟩ | hs <;> simp only [hs] <;> exact Ok.pure h

/-- `_array_to_bitmap` of an admissible array returns the handle of a new bitmap laid out for
it, whose view holds what the function stores, and the array's pixel type. -/
theorem arrayToBitmap_ok {t : Int}
    (hshape : A.shape = [W, H] ∧ C = 1 ∨ A.shape = [W, H, C] ∧ C ≠ 1)
    (ht : FITypes.fiTypes A.dtype C = some t) (hW : 0 < W ∧ W < 2 ^ 31) (hH : 0 < H ∧ H < 2 ^ 31)
    (hP : B.rule.pitch W (8 * A.dtype.itemsize * C : Nat) < 2 ^ 31) :
    Ok s (_arrayToBitmap B.lib A) fun r s' => r.2 = t ∧ ∃ b P,
      B.bitmaps s' r.1 = some b ∧ b.LaidOut A W H C P ∧
      (b.view A).Holds B.lib s' (stored (swapRB B.lib.littleEndian A) A) ∧
      b.Allocated B.rule t W H (8 * A.dtype.itemsize * C : Nat) ∧ B.rest s' = B.rest s ∧
      B.bitmaps s r.1 = none ∧ B.bitmaps s' = Function.update (B.bitmaps s) r.1 (some b) := by
  obtain ⟨ht₁, ht₂, -, hbpp⟩ := fiTypes_bounds ht
  have hg : A.shape.getD 0 0 = W ∧ A.shape.getD 1 0 = H := by
    rcases hshape with ⟨h, -⟩ | ⟨h, -⟩ <;> simp [h]
  simp only [_arrayToBitmap, FI.pure_bind, FI.raise_bind, hg.1, hg.2]
  refine Ok.bind (nchannels_ok (hshape.imp id And.left) ?_)
  rw [ht]
  refine Ok.bind (Ok.ffi _ (convertArgs_of_lt fun n hn => ?_) ?_)
  · simp only [List.mem_cons, Arg.int.injEq, List.mem_nil_iff, or_false] at hn
    rcases hn with rfl | rfl | rfl | rfl | rfl | rfl | rfl <;> omega
  obtain ⟨d, s', b, hcall, hd, hfresh, hb, ha, hr⟩ :=
    B.allocateT s t W H (8 * A.dtype.itemsize * C : Nat) (by omega) (by omega) (by omega)
  have hb' : B.bitmaps s' d = some b := hb ▸ Function.update_same _ _ _
  have hl := Bitmap.Allocated.laidOut ha hshape ht hW hH hP
  rw [hcall, if_pos (show Fn.allocateT.returnsPointer = true from rfl)]
  exact Ok.unless hd (Ok.tryExcept (Ok.bind ((B.fillBitmap_ok hb' hl).conseq
    fun _ _ ⟨e, h⟩ => Ok.pure ⟨rfl, b, _, by rwa [e.1], hl, h, ha, e.2.trans hr, hfresh,
      e.1.trans hb⟩)))

theorem installGreyPalette_of_three (h3 : A.shape.length = 3) {Q : Unit → σ → Prop} (h : Q () s) :
    Ok s (installGreyPalette B.lib A d) Q := by
  simp only [installGreyPalette, FI.pure_bind, FI.raise_bind]
  exact Ok.ite (fun hg => absurd hg.1 (by omega)) fun _ => Ok.pure h

/-- `_array_to_bitmap`'s fill of an array of shape `(W, H, 1)` that it does not swap, into a
bitmap laid out for the array's `(W, H)` reshape: the bitmap's view holds the reshape. -/
theorem fillBitmap_unitAxis_ok (hb : B.bitmaps s d = some b) (hA : A.shape = [W, H, 1])
    (hl : b.LaidOut A.dropUnitAxis W H 1 P) (hsw : swapRB B.lib.littleEndian A = false) :
    Ok s (fillBitmap B.lib A d) fun _ s' => B.Frame s s' ∧
      (b.view A.dropUnitAxis).Holds B.lib s' A.dropUnitAxis.get := by
  obtain ⟨hs2, hd2, hget⟩ := NDArray.dropUnitAxis_of_shape hA
  have hrow : W * 1 * A.dtype.itemsize ≤ P := hd2 ▸ hl.row
  have hv : b.view A.dropUnitAxis = bitmapView b.bits P ([W, H].map (↑)) A.dtype.itemsize := by
    rw [Bitmap.view, hl.pitch, hs2, hd2]
  simp only [fillBitmap, FI.pure_bind, FI.raise_bind]
  refine Ok.bind (wrapBitmapBitsInArray_view (.inr hA) hrow ⟨hl.pos.1, hl.pos.2, one_pos⟩
    (hd2 ▸ (fiTypes_bounds hl.type).2.2.1) hl.fits.2.2
    (by rw [B.query (f := .getPitch) hb rfl, hl.pitch]) (B.query (f := .getBits) hb rfl)
    hl.bits.ne' (Ok.bind (B.swapsChannels_ok _ _ ?_)))
  rw [← swapRB, hsw, if_neg Bool.false_ne_true]
  have hsep : (bitmapView b.bits P (A.shape.map (↑)) A.dtype.itemsize).Separated :=
    bitmapView_separated (.inr hA) hrow
  have h₁ := View.holds_assignAll B.lawful hsep shape_bitmapView rfl (View.holds_self B.lib s _)
  refine Ok.bind (assignAll_ok (B.installGreyPalette_of_three (by simp [hA])
    ⟨B.frame_writeElems .., ?_⟩))
  rw [hv]
  refine (holds_reshape_unit hA h₁).congr fun i hi => ?_
  rw [shape_bitmapView] at hi
  obtain ⟨x, y, rfl, -, -⟩ := validIndex_two.1 hi
  exact (hget x y).symm

/-- `_array_to_bitmap` of an admissible array of shape `(W, H, 1)` that it does not swap: the
handle of a new bitmap laid out for the array's `(W, H)` reshape, whose view holds the reshape. -/
theorem arrayToBitmap_unitAxis_ok {t : Int} (hA : A.shape = [W, H, 1])
    (ht : FITypes.fiTypes A.dtype 1 = some t) (hW : 0 < W ∧ W < 2 ^ 31) (hH : 0 < H ∧ H < 2 ^ 31)
    (hP : B.rule.pitch W (8 * A.dtype.itemsize * 1 : Nat) < 2 ^ 31)
    (hsw : swapRB B.lib.littleEndian A = false) :
    Ok s (_arrayToBitmap B.lib A) fun r s' => r.2 = t ∧ ∃ b P,
      B.bitmaps s' r.1 = some b ∧ b.LaidOut A.dropUnitAxis W H 1 P ∧
      (b.view A.dropUnitAxis).Holds B.lib s' A.dropUnitAxis.get := by
  obtain ⟨hs2, hd2, -⟩ := NDArray.dropUnitAxis_of_shape hA
  obtain ⟨ht₁, ht₂, -, hbpp⟩ := fiTypes_bounds ht
  have hg : A.shape.getD 0 0 = W ∧ A.shape.getD 1 0 = H := by simp [hA]
  simp only [_arrayToBitmap, FI.pure_bind, FI.raise_bind, hg.1, hg.2]
  refine Ok.bind (nchannels_ok (C := 1) (.inr hA) ?_)
  rw [ht]
  refine Ok.bind (Ok.ffi _ (convertArgs_of_lt fun n hn => ?_) ?_)
  · simp only [List.mem_cons, Arg.int.injEq, List.mem_nil_iff, or_false] at hn
    rcases hn with rfl | rfl | rfl | rfl | rfl | rfl | rfl <;> omega
  obtain ⟨d, s', b, hcall, hd, -, hb, ha, -⟩ :=
    B.allocateT s t W H (8 * A.dtype.itemsize * 1 : Nat) (by omega) (by omega) (by omega)
  have hb' : B.bitmaps s' d = some b := hb ▸ Function.update_same _ _ _
  have hl := Bitmap.Allocated.laidOut (A := A.dropUnitAxis) (by rwa [hd2]) (.inl ⟨hs2, rfl⟩)
    (by rwa [hd2]) hW hH (by rwa [hd2])
  rw [hcall, if_pos (show Fn.allocateT.returnsPointer = true from rfl)]
  exact Ok.unless hd (Ok.tryExcept (Ok.bind ((B.fillBitmap_unitAxis_ok hb' hA hl hsw).conseq
    fun _ _ ⟨e, h⟩ => Ok.pure ⟨rfl, b, _, by rwa [e.1], hl, h⟩)))

end BitmapStore

end FreeImagePy
