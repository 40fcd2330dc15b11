import FreeImagePy.Bitmaps

/-!
# The in-memory round trip of `_array_to_bitmap` and `_array_from_bitmap`

A library whose bitmaps are records over one flat byte memory: each keeps the pixel type,
depth, size and pitch it was allocated with, and its `height * pitch` bytes of bits and its
palette sit at fresh addresses. How a scanline is padded is a parameter, as is the host's
byte order. The library obeys the laws of a bitmap store, so the paths of `Bitmaps` apply to
it: an array of shape `(W, H)` or `(W, H, C)` whose dtype and channel count `fi_types`
accepts and whose sizes fit a C `int` comes back from `_array_from_bitmap` with its dtype and
every value, and with its shape unless that ends in a channel axis of size 1, which comes back
as the `(W, H)` reshape. The exception is a `(W, H, 1)` array of `uint8` on a little-endian
host, on which `_array_to_bitmap` raises `IndexError`; sizes that ctypes wraps to a non-positive
C `int` make it raise `RuntimeError`.
The other way round, over any bitmap store, a laid-out bitmap read by `_array_from_bitmap`
and written back by `_array_to_bitmap` gives a bitmap of the same type and size with the same
bytes, while a second read of the same bitmap sees red and blue exchanged.
-/

namespace FreeImagePy

/-! ### A library of bitmaps in one byte memory -/

/-- The library's memory and bitmap records. Every handle past `next` is free, so an
allocation, which places its handle past the memory it takes, never lands on a live bitmap. -/
structure MemState where
  mem : Int → UInt8
  bitmaps : Int → Option Bitmap
  next : Nat
  fresh : ∀ d : Int, next < d → bitmaps d = none

/-- The library state with nothing allocated. -/
def MemState.empty : MemState := ⟨fun _ => 0, fun _ => none, 0, fun _ _ => rfl⟩

/-- `FreeImage_AllocateT`: the bits at the first free address, the palette of 256 quads after
the last row (null above 8 bits per pixel), and the handle past the palette. -/
def MemState.allocate (rule : PitchRule) (s : MemState) (type w h bpp : Int) :
    Int × MemState :=
  let bits : Int := s.next + 1
  let pitch := rule.pitch w bpp
  let palette := bits + h * pitch
  let d := palette + 1024
  (d, ⟨s.mem, Function.update s.bitmaps d
      (some ⟨type, bpp, w, h, pitch, bits, if bpp ≤ 8 then palette else 0⟩),
    max s.next d.toNat, fun d' hd' => by
      rw [Function.update_noteq (by omega)]
      exact s.fresh d' (by omega)⟩)

/-- `FreeImage_Unload`: the record under `d` is gone. -/
def MemState.free (s : MemState) (d : Int) : MemState :=
  ⟨s.mem, Function.update s.bitmaps d none, s.next, fun d' hd' => by
    rw [Function.update_apply]
    split
    · rfl
    · exact s.fresh d' hd'⟩

/-- The library: bitmaps answer the queries with the fields they were allocated with, and
memory reads back what was written. -/
def memLib (rule : PitchRule) (le : Bool) : Lib MemState where
  call f args s := match f, args with
    | .allocateT, [.int type, .int w, .int h, .int bpp, _, _, _] =>
      if 0 < w ∧ 0 < h then s.allocate rule type w h bpp else (0, s)
    | .unload, [.ptr d] => (0, s.free d)
    | .isLittleEndian, [] => (if le then 1 else 0, s)
    | f, [.ptr d] => match Bitmap.query f, s.bitmaps d with
      | some field, some b => (field b, s)
      | _, _ => (0, s)
    | _, _ => (0, s)
  peek s a := s.mem a
  poke a b s := { s with mem := Function.update s.mem a b }
  cString _ _ := []
  tagCell _ := 0
  littleEndian := le


section MemLib
variable {rule : PitchRule} {le : Bool} {s : MemState}

theorem memLib_lawful : (memLib rule le).Lawful := fun s a b c =>
  Function.update_apply s.mem a b c

theorem memLib_query {d : Int} {b : Bitmap} {f : Fn} {field : Bitmap → Int}
    (hb : s.bitmaps d = some b)
    (hq : Bitmap.query f = some field) : (memLib rule le).call f [.ptr d] s = (field b, s) := by
  cases f <;> cases hq <;> dsimp only [memLib, Bitmap.query] <;> rw [hb]

theorem memLib_allocateT {type w h bpp : Int} (hw : 0 < w) (hh : 0 < h) :
    (memLib rule le).call .allocateT [.int type, .int w, .int h, .int bpp, .int 0, .int 0, .int 0] s =
      s.allocate rule type w h bpp := by
  dsimp only [memLib]
  rw [if_pos ⟨hw, hh⟩]

/-- `FreeImage_AllocateT` of a positive size: a non-null handle to a bitmap of the type, depth
and size asked for, with its bits at the first free address; memory is untouched. -/
theorem MemState.allocate_spec (s : MemState) {type w h bpp : Int} (hw : 0 < w) (hh : 0 < h)
    (hbpp : 0 ≤ bpp) :
    (s.allocate rule type w h bpp).1 ≠ 0 ∧ (s.allocate rule type w h bpp).2.mem = s.mem ∧
      s.bitmaps (s.allocate rule type w h bpp).1 = none ∧
      ∃ b, (s.allocate rule type w h bpp).2.bitmaps =
          Function.update s.bitmaps (s.allocate rule type w h bpp).1 (some b) ∧
        b.Allocated rule type w h bpp ∧ b.bits = s.next + 1 := by
  have hwb := mul_nonneg hw.le hbpp
  have hrow := rule.row_le w bpp hw.le hbpp
  have hp : 0 ≤ h * rule.pitch w bpp := mul_nonneg hh.le (by omega)
  refine ⟨?_, rfl, s.fresh _ ?_, _, rfl,
    ⟨rfl, rfl, rfl, rfl, rfl, by dsimp only; omega, fun h8 => le_of_eq (if_pos h8).symm⟩, rfl⟩ <;>
  · dsimp only [MemState.allocate]
    omega

/-- Unloading a bitmap just allocated under a free handle gives the bitmap table back. -/
theorem MemState.free_allocated {s s' : MemState} {d : Int} {b : Bitmap}
    (hfresh : s.bitmaps d = none) (hb : s'.bitmaps = Function.update s.bitmaps d (some b)) :
    (s'.free d).bitmaps = s.bitmaps := by
  show Function.update s'.bitmaps d none = _
  rw [hb, Function.update_idem, ← hfresh, Function.update_eq_self]

/-- Nothing: the library keeps nothing beside its bitmaps and their bytes. -/
def memRest (_ : MemState) : MemState := .empty

theorem memLib_allocated {type w h bpp : Int} (hw : 0 < w) (hh : 0 < h) (hbpp : 0 ≤ bpp) :
    ∃ d s' b, (memLib rule le).call .allocateT
      [.int type, .int w, .int h, .int bpp, .int 0, .int 0, .int 0] s = (d, s') ∧
      d ≠ 0 ∧ s.bitmaps d = none ∧ s'.bitmaps = Function.update s.bitmaps d (some b) ∧
      b.Allocated rule type w h bpp ∧ memRest s' = memRest s := by
  obtain ⟨hd, -, hfresh, b, hb, ha, -⟩ := @MemState.allocate_spec rule s type _ _ _ hw hh hbpp
  exact ⟨_, _, b, memLib_allocateT hw hh, hd, hfresh, hb, ha, rfl⟩

/-- The library is a bitmap store. -/
def memStore (rule : PitchRule) (le : Bool) : BitmapStore MemState where
  lib := memLib rule le
  bitmaps := MemState.bitmaps
  rule := rule
  lawful := memLib_lawful
  rest := memRest
  poke_frame _ _ _ := ⟨rfl, rfl⟩
  query := memLib_query
  isLittleEndian _ := rfl
  allocateT _ _ _ _ _ := memLib_allocated

end MemLib

section Paths
variable {rule : PitchRule} {le : Bool} {s : MemState} {d : Int} {b : Bitmap} {A : NDArray}
  {W H C P : Nat}

theorem arrayFromBitmap_ok (hb : s.bitmaps d = some b) (hl : b.LaidOut A W H C P)
    (hf : (b.view A).Holds (memLib rule le) s (stored (swapRB le A) A)) :
    Ok s (_arrayFromBitmap (memLib rule le) d) fun B _ => B = A :=
  ((memStore rule le).arrayFromBitmap_ok hb hl hf).conseq fun _ _ h => h.1

theorem arrayToBitmap_ok {t : Int} (hshape : A.shape = [W, H] ∧ C = 1 ∨ A.shape = [W, H, C] ∧ C ≠ 1)
    (ht : FITypes.fiTypes A.dtype C = some t) (hW : 0 < W ∧ W < 2 ^ 31) (hH : 0 < H ∧ H < 2 ^ 31)
    (hP : rule.pitch W (8 * A.dtype.itemsize * C : Nat) < 2 ^ 31) :
    Ok s (_arrayToBitmap (memLib rule le) A) fun r s' => r.2 = t ∧ ∃ b P,
      s'.bitmaps r.1 = some b ∧ b.LaidOut A W H C P ∧
      (b.view A).Holds (memLib rule le) s' (stored (swapRB le A) A) :=
  ((memStore rule le).arrayToBitmap_ok hshape ht hW hH hP).conseq
    fun _ _ ⟨h₁, b, P, hb, hl, hf, _⟩ => ⟨h₁, b, P, hb, hl, hf⟩

end Paths

/-- `_array_from_bitmap(_array_to_bitmap(A)[0])`. -/
def roundTrip {σ : Type} (L : Lib σ) (A : NDArray) : FI σ NDArray := do
  let (bitmap, _) ← _arrayToBitmap L A
  _arrayFromBitmap L bitmap

/-- The in-memory round trip: over a library whose bitmaps keep what is written to them, an
array of shape `(W, H)` or `(W, H, C)` whose dtype and channel count are a key of `fi_types` and
whose width, height and pitch fit a C `int` is written by `_array_to_bitmap`, which returns, and
comes back from `_array_from_bitmap` with its dtype and the same bytes at every index, on either
host: equal to itself, or, for a trailing channel axis of size 1, to its `(W, H)` reshape. A
`(W, H, 1)` array of `uint8` on a little-endian host is left out. -/
theorem array_round_trip (rule : PitchRule) (le : Bool) (A : NDArray) (W H C : Nat)
    (hshape : A.shape = [W, H] ∧ C = 1 ∨ A.shape = [W, H, C])
    (htype : (FITypes.fiTypes A.dtype C).isSome) (hW : 0 < W ∧ W < 2 ^ 31)
    (hH : 0 < H ∧ H < 2 ^ 31) (hP : rule.pitch W (8 * A.dtype.itemsize * C : Nat) < 2 ^ 31)
    (hslip : A.shape = [W, H, 1] → le = false ∨ A.dtype ≠ .uint8)
    (s : MemState) (tr : List Event) :
    (∃ r, ((_arrayToBitmap (memLib rule le) A).run ⟨s, tr⟩).1 = .ok r) ∧
      ((roundTrip (memLib rule le) A).run ⟨s, tr⟩).1 = .ok A.dropUnitAxis := by
  obtain ⟨t, ht⟩ := Option.isSome_iff_exists.1 htype
  by_cases h1 : A.shape = [W, H, 1]
  · obtain rfl : C = 1 := by
      rcases hshape with ⟨-, hC⟩ | h
      · exact hC
      · rw [h1] at h
        exact (List.cons.inj (List.cons.inj (List.cons.inj h).2).2).1.symm
    have hsw : swapRB le A = false := by
      rcases hslip h1 with rfl | hu
      · simp [swapRB]
      · simp [swapRB, hu]
    obtain ⟨hs2, -, -⟩ := NDArray.dropUnitAxis_of_shape h1
    have hsw2 : swapRB le A.dropUnitAxis = false := by simp [swapRB, hs2]
    have hw := (memStore rule le).arrayToBitmap_unitAxis_ok (s := s) h1 ht hW hH hP hsw
    refine ⟨(hw tr).imp fun _ h => h.1, ?_⟩
    obtain ⟨B, hB, rfl⟩ := Ok.bind (hw.conseq fun _ _ ⟨_, _, _, hb, hl, hf⟩ =>
      arrayFromBitmap_ok hb hl (by rw [hsw2]; exact hf)) tr
    exact hB
  have hshape' : A.shape = [W, H] ∧ C = 1 ∨ A.shape = [W, H, C] ∧ C ≠ 1 :=
    hshape.imp id fun h => ⟨h, fun hC => h1 (hC ▸ h)⟩
  have hA : A.dropUnitAxis = A := NDArray.dropUnitAxis_eq fun ⟨h3, hc⟩ => by
    rcases hshape' with ⟨h, -⟩ | ⟨h, hC⟩
    · simp [h] at h3
    · exact hC (by simpa [h] using hc)
  have hw : Ok s (_arrayToBitmap (memLib rule le) A) _ := arrayToBitmap_ok hshape' ht hW hH hP
  refine ⟨(hw tr).imp fun _ h => h.1, ?_⟩
  obtain ⟨B, hB, rfl⟩ := Ok.bind (hw.conseq fun _ _ ⟨_, _, _, hb, hl, hf⟩ =>
    arrayFromBitmap_ok hb hl hf) tr
  rw [hA]
  exact hB

/-- One `uint16` pixel with a trailing channel axis of size 1. -/
def pixel16x1 : NDArray := ⟨.uint16, [1, 1, 1], [[0, 0]], rfl, by decide⟩

/-- The round trip of one `uint16` pixel of shape `(1, 1, 1)` on a little-endian host, with
FreeImage's own pitch: it comes back as the `(1, 1)` reshape. -/
theorem array_round_trip_unit_axis :
    (pixel16x1.shape = [1, 1] ∧ 1 = 1 ∨ pixel16x1.shape = [1, 1, 1]) ∧
    (FITypes.fiTypes pixel16x1.dtype 1).isSome ∧ (0 < 1 ∧ 1 < 2 ^ 31) ∧
    freeImagePitch.pitch 1 (8 * pixel16x1.dtype.itemsize * 1 : Nat) < 2 ^ 31 ∧
    (pixel16x1.shape = [1, 1, 1] → true = false ∨ pixel16x1.dtype ≠ .uint8) ∧
    (∃ r, ((_arrayToBitmap (memLib freeImagePitch true) pixel16x1).run ⟨.empty, []⟩).1 = .ok r) ∧
    ((roundTrip (memLib freeImagePitch true) pixel16x1).run ⟨.empty, []⟩).1 =
      .ok pixel16x1.dropUnitAxis :=
  ⟨.inr rfl, rfl, by decide, by decide, fun _ => .inr (by decide),
    array_round_trip freeImagePitch true pixel16x1 1 1 1 (.inr rfl) rfl (by decide) (by decide)
      (by decide) (fun _ => .inr (by decide)) .empty []⟩

/-- A trailing channel axis of size 1 passes the checks of `_array_to_bitmap` but is not kept:
a `(1, 1, 1)` array of `uint16` is read back as a `(1, 1)` array on either host. -/
theorem channel_axis_not_kept :
    FITypes.fiTypes .uint16 1 = some 2 ∧
    ∀ le, ((roundTrip (memLib freeImagePitch le) pixel16x1).run ⟨.empty, []⟩).1.map
      NDArray.shape = .ok [1, 1] :=
  ⟨rfl, fun le => by cases le <;> rfl⟩

/-- On a little-endian host `_array_to_bitmap` cannot write a `(W, H, 1)` array of `uint8`,
though `fi_types` admits it: the channel swap it makes for every 3-D `uint8` array copies
channel 2, which the array lacks, so numpy raises `IndexError`, after the `except` clause has
unloaded the new bitmap. -/
theorem arrayToBitmap_unit_uint8 (rule : PitchRule) (A : NDArray) (W H : Nat)
    (hA : A.shape = [W, H, 1]) (hu : A.dtype = .uint8) (hW : 0 < W ∧ W < 2 ^ 31)
    (hH : 0 < H ∧ H < 2 ^ 31) (hP : rule.pitch W 8 < 2 ^ 31) (s : MemState) :
    Raises s (_arrayToBitmap (memLib rule true) A) fun e s' =>
      e = indexError 2 2 1 ∧ s'.bitmaps = s.bitmaps := by
  have ht : FITypes.fiTypes A.dtype 1 = some 1 := by rw [hu]; rfl
  have hg : A.shape.getD 0 0 = W ∧ A.shape.getD 1 0 = H := by simp [hA]
  have hrow8 := rule.row_le W 8 (by omega) (by omega)
  have hrow : W * 1 * A.dtype.itemsize ≤ (rule.pitch W 8).toNat := by
    rw [hu]
    show W * 1 * 1 ≤ _
    omega
  simp only [_arrayToBitmap, FI.pure_bind, FI.raise_bind, hg.1, hg.2]
  refine Ok.bind_raises (BitmapStore.nchannels_ok (C := 1) (.inr hA) ?_)
  rw [ht, hu]
  refine Ok.bind_raises (Ok.ffi _ (convertArgs_of_lt fun n hn => ?_) ?_)
  · simp only [List.mem_cons, Arg.int.injEq, List.mem_nil_iff, or_false] at hn
    rcases hn with rfl | rfl | rfl | rfl | rfl | rfl | rfl <;> simp [DType.itemsize] <;> omega
  obtain ⟨d, s', b, hcall, hd, hfresh, hb, ha, -⟩ :=
    @memLib_allocated rule true s 1 W H 8 (by omega) (by omega) (by omega)
  have hb' : s'.bitmaps d = some b := hb ▸ Function.update_same _ _ _
  have hpitch : (memLib rule true).call .getPitch [.ptr d] s' =
      ((((rule.pitch W 8).toNat : Nat) : Int), s') := by
    rw [memLib_query (f := .getPitch) hb' rfl, ha.pitch, Int.toNat_of_nonneg (by omega)]
  rw [show ((8 * DType.uint8.itemsize * 1 : Nat) : Int) = 8 from rfl, hcall,
    if_pos (show Fn.allocateT.returnsPointer = true from rfl), if_neg hd]
  refine Raises.tryExcept (Raises.bind ?_)
  simp only [fillBitmap, FI.pure_bind, FI.raise_bind]
  refine Ok.bind_raises (wrapBitmapBitsInArray_view (.inr hA) hrow ⟨hW.1, hH.1, one_pos⟩
    (by rw [hu]; decide) (by omega) hpitch (memLib_query (f := .getBits) hb' rfl) ha.bits.ne'
    (Ok.bind_raises ((memStore rule true).swapsChannels_ok _ _ ?_)))
  rw [← swapRB, if_pos (show swapRB (memStore rule true).lib.littleEndian A = true by
    unfold swapRB; rw [hA, hu]; rfl)]
  refine Raises.bind ?_
  rw [NDArray.channel, if_pos (by simp [hA]), hA]
  refine Raises.ofExcept ⟨by simp [indexError], Ok.bind (Ok.call _ rfl rfl (fun _ => rfl) (Ok.pure ⟨rfl, ?_⟩))⟩
  exact MemState.free_allocated hfresh hb

/-- One `uint8` pixel with a trailing channel axis of size 1. -/
def pixel8x1 : NDArray := ⟨.uint8, [1, 1, 1], [[0]], rfl, by decide⟩

theorem arrayToBitmap_unit_uint8_pixel :
    pixel8x1.shape = [1, 1, 1] ∧ pixel8x1.dtype = .uint8 ∧ freeImagePitch.pitch 1 8 < 2 ^ 31 ∧
    Raises .empty (_arrayToBitmap (memLib freeImagePitch true) pixel8x1) fun e s' =>
      e = indexError 2 2 1 ∧ s'.bitmaps = MemState.empty.bitmaps :=
  ⟨rfl, rfl, by decide, arrayToBitmap_unit_uint8 freeImagePitch pixel8x1 1 1 rfl rfl
    (by decide) (by decide) (by decide) .empty⟩

/-- One RGB pixel of `uint8`. -/
def pixelRGB : NDArray := ⟨.uint8, [1, 1, 3], [[1], [2], [3]], rfl, by decide⟩

/-! ### Read then write, over any bitmap store -/

/-- The empty library after `FreeImage_AllocateT(FIT_BITMAP, 1, 1, 24)`: one RGB bitmap under
handle 1029, with its bits at 1 and every byte zero. -/
def MemState.rgb : MemState := (MemState.empty.allocate freeImagePitch 1 1 1 24).2

/-- The bitmap of `MemState.rgb`. -/
def rgbBitmap : Bitmap := ⟨1, 24, 1, 1, 4, 1, 0⟩

theorem rgbBitmap_laidOut : rgbBitmap.LaidOut pixelRGB 1 1 3 4 :=
  ⟨.inr ⟨rfl, by decide⟩, rfl, by decide, by decide, by decide, by decide, by decide, by decide,
    by decide, by decide, fun h _ => absurd h (by decide)⟩

/-! ### The view `_wrap_bitmap_bits_in_array` returns -/

/-- Where `_wrap_bitmap_bits_in_array` puts the elements of a `(W, H)` or `(W, H, C)` view over
rows of `P ≥ W * C * s` bytes: element `(x, y, c)` of the bottom-up view starts
`P * (H - 1 - y) + (x * C + c) * s` bytes into the bits, its `s` bytes lie in physical row
`H - 1 - y` and inside the buffer, and distinct positions occupy disjoint bytes. Over every
library that answers a pitch `P < 2^31` and non-null bits for the bitmap, the function returns
exactly this view, for a dtype of `s`-byte elements and positive sizes, and changes nothing. -/
theorem wrap_addressing {W H C s P : Nat} (bits : Int) (shape : List Nat)
    (hshape : shape = [W, H] ∧ C = 1 ∨ shape = [W, H, C]) (hP : W * C * s ≤ P) :
    (let a := fun x y c =>
      (bitmapView bits P (shape.map (↑)) s).addr (pixelIndex shape.length x y c)
    (∀ x y c, x < W → y < H → c < C →
      a x y c = bits + ((P * (H - 1 - y) + (x * C + c) * s : Nat) : Int) ∧
      bits + ((P * (H - 1 - y) : Nat) : Int) ≤ a x y c ∧
      a x y c + s ≤ bits + ((P * (H - 1 - y) + P : Nat) : Int) ∧
      bits ≤ a x y c ∧ a x y c + s ≤ bits + ((H * P : Nat) : Int)) ∧
    (∀ x y c x' y' c', x < W → y < H → c < C → x' < W → y' < H → c' < C →
      (x, y, c) ≠ (x', y', c') → a x y c + s ≤ a x' y' c' ∨ a x' y' c' + s ≤ a x y c)) ∧
    ∀ {σ : Type} (L : Lib σ) (st : σ) (d : Int) (dtype : DType), dtype.itemsize = s →
      0 < s → 0 < W → 0 < H → 0 < C → P < 2 ^ 31 →
      L.call .getPitch [.ptr d] st = ((P : Int), st) → L.call .getBits [.ptr d] st = (bits, st) →
      bits ≠ 0 →
      Ok st (_wrapBitmapBitsInArray L d (shape.map (↑)) dtype) fun v st' =>
        v = bitmapView bits P (shape.map (↑)) s ∧ st' = st :=
  ⟨bitmapView_addressing bits shape hshape hP,
    fun _ _ _ _ hd hs hW hH hC hP31 hpitch hbits hb0 => wrapBitmapBitsInArray_view hshape
      (hd ▸ hP) ⟨hW, hH, hC⟩ (hd ▸ hs) hP31 hpitch hbits hb0 ⟨by rw [hd], rfl⟩⟩

/-- The RGB bitmap of `MemState.rgb`: bits at 1, a pitch of 4 bytes. -/
theorem wrap_addressing_rgb :
    ([1, 1, 3] = [1, 1] ∧ 3 = 1 ∨ [1, 1, 3] = [1, 1, 3]) ∧ 1 * 3 * 1 ≤ 4 ∧
    DType.uint8.itemsize = 1 ∧ (0 < 1 ∧ 0 < 1 ∧ 0 < 3 ∧ 4 < 2 ^ 31) ∧
    (memLib freeImagePitch true).call .getPitch [.ptr 1029] .rgb = (((4 : Nat) : Int), .rgb) ∧
    (memLib freeImagePitch true).call .getBits [.ptr 1029] .rgb = (1, .rgb) ∧
    Ok MemState.rgb (_wrapBitmapBitsInArray (memLib freeImagePitch true) 1029
      ([1, 1, 3].map (↑)) .uint8) fun v st' =>
        v = bitmapView 1 (4 : Nat) ([1, 1, 3].map (↑)) 1 ∧ st' = MemState.rgb :=
  ⟨.inr rfl, by decide, rfl, by decide, memLib_query (b := rgbBitmap) (f := .getPitch) rfl rfl,
    memLib_query (b := rgbBitmap) (f := .getBits) rfl rfl,
    (wrap_addressing (W := 1) (H := 1) (C := 3) 1 [1, 1, 3] (.inr rfl) (by decide)).2
      (memLib freeImagePitch true) .rgb 1029 .uint8 rfl one_pos one_pos one_pos (by decide)
      (by decide) (memLib_query (b := rgbBitmap) (f := .getPitch) rfl rfl)
      (memLib_query (b := rgbBitmap) (f := .getBits) rfl rfl) one_ne_zero⟩

namespace BitmapStore
variable {σ : Type} (B : BitmapStore σ) {s : σ} {d : Int} {b : Bitmap} {A : NDArray}
  {W H C P : Nat}

/-- `_array_from_bitmap` twice on one bitmap laid out for `A`'s dtype and shape, whatever its
bytes: the second array has the first one's dtype and shape, and at every index the first
one's value with channels 0 and 2 exchanged when the function swaps channels (8-bit colour on a
little-endian host), the same value otherwise, since the first call made the exchange in the
bitmap's own bits. -/
theorem arrayFromBitmap_twice (hb : B.bitmaps s d = some b) (hl : b.LaidOut A W H C P) :
    Ok s (_arrayFromBitmap B.lib d) fun R₁ s₁ => Ok s₁ (_arrayFromBitmap B.lib d) fun R₂ _ =>
      R₂.dtype = R₁.dtype ∧ R₂.shape = R₁.shape ∧ ∀ i, ValidIndex R₁.shape i →
        R₂.get i = exchangeRB (swapRB B.lib.littleEndian R₁) R₁.get i := by
  refine (B.arrayFromBitmap_spec hb hl (View.holds_self B.lib s (b.view A))).conseq
    fun R₁ s₁ ⟨h₁, e₁, f₁⟩ => (B.arrayFromBitmap_spec (by rwa [e₁.1]) hl f₁).conseq
    fun R₂ s₂ ⟨h₂, _, f₂⟩ => ⟨by rw [h₁, h₂]; rfl, by rw [h₁, h₂]; rfl, fun i hi => ?_⟩
  subst h₁ h₂
  change ValidIndex (b.view A).shape i at hi
  rw [hl.shape_view] at hi
  rw [View.copy_get rfl f₂ (hl.shape_view ▸ hi), exchangeRB_exchangeRB, swapRB_copy hl,
    exchangeRB_congr hl (fun j hj => View.copy_get rfl f₁ (hl.shape_view ▸ hj)) hi,
    exchangeRB_exchangeRB]

theorem arrayFromBitmap_twice_rgb :
    (memStore freeImagePitch true).bitmaps .rgb 1029 = some rgbBitmap ∧
    rgbBitmap.LaidOut pixelRGB 1 1 3 4 ∧
    Ok MemState.rgb (_arrayFromBitmap (memLib freeImagePitch true) 1029) fun R₁ s₁ =>
      Ok s₁ (_arrayFromBitmap (memLib freeImagePitch true) 1029) fun R₂ _ =>
        R₂.dtype = R₁.dtype ∧ R₂.shape = R₁.shape ∧ ∀ i, ValidIndex R₁.shape i →
          R₂.get i = exchangeRB (swapRB true R₁) R₁.get i :=
  ⟨rfl, rgbBitmap_laidOut,
    (memStore freeImagePitch true).arrayFromBitmap_twice rfl rgbBitmap_laidOut⟩

/-- Read then write: a bitmap laid out for `A`'s dtype and shape, whatever its bytes, comes back
from `_array_from_bitmap` as an array of that dtype and shape, and `_array_to_bitmap` of the
array makes a new bitmap of the first one's pixel type, depth, width and height whose view
reads at every index the bytes the first bitmap's view read before. -/
theorem bitmap_round_trip (hb : B.bitmaps s d = some b) (hl : b.LaidOut A W H C P)
    (hP : B.rule.pitch W (8 * A.dtype.itemsize * C : Nat) < 2 ^ 31) :
    Ok s (_arrayFromBitmap B.lib d) fun R s₁ => R.dtype = A.dtype ∧ R.shape = A.shape ∧
      Ok s₁ (_arrayToBitmap B.lib R) fun r s₂ => r.2 = b.type ∧ ∃ b', B.bitmaps s₂ r.1 = some b' ∧
        b'.type = b.type ∧ b'.bpp = b.bpp ∧ b'.width = b.width ∧ b'.height = b.height ∧
        (b'.view A).Holds B.lib s₂ fun i =>
          readBytes B.lib s ((b.view A).addr i) A.dtype.itemsize := by
  refine (B.arrayFromBitmap_spec hb hl (View.holds_self B.lib s (b.view A))).conseq
    fun R s₁ ⟨hR, _, f₁⟩ => ?_
  subst hR
  have hs : ((b.view A).copy B.lib A.dtype s₁).shape = A.shape := hl.shape_view
  refine ⟨rfl, hs, (B.arrayToBitmap_ok (A := (b.view A).copy B.lib A.dtype s₁)
    (by rw [hs]; exact hl.shape) hl.type
    ⟨hl.pos.1, hl.fits.1⟩ ⟨hl.pos.2, hl.fits.2.1⟩ hP).conseq
    fun r s₂ ⟨ht, b', P', hb', hl', hf', _⟩ => ⟨ht, b', hb', ?_⟩⟩
  have hv := Bitmap.view_congr (b := b') hs rfl
  refine ⟨Option.some.inj (hl'.type.symm.trans hl.type), hl'.bpp.trans hl.bpp.symm,
    hl'.width.trans hl.width.symm, hl'.height.trans hl.height.symm, ?_⟩
  rw [← hv]
  refine hf'.congr fun i hi => ?_
  rw [hl'.shape_view, hs] at hi
  rw [stored_eq, swapRB_copy hl,
    exchangeRB_congr hl (fun j hj => View.copy_get rfl f₁ (hl.shape_view ▸ hj)) hi,
    exchangeRB_exchangeRB]
  rfl

theorem bitmap_round_trip_rgb :
    (memStore freeImagePitch true).bitmaps .rgb 1029 = some rgbBitmap ∧
    rgbBitmap.LaidOut pixelRGB 1 1 3 4 ∧
    freeImagePitch.pitch 1 (8 * pixelRGB.dtype.itemsize * 3 : Nat) < 2 ^ 31 ∧
    Ok MemState.rgb (_arrayFromBitmap (memLib freeImagePitch true) 1029) fun R s₁ =>
      R.dtype = pixelRGB.dtype ∧ R.shape = pixelRGB.shape ∧
      Ok s₁ (_arrayToBitmap (memLib freeImagePitch true) R) fun r s₂ => r.2 = rgbBitmap.type ∧
        ∃ b', s₂.bitmaps r.1 = some b' ∧ b'.type = rgbBitmap.type ∧ b'.bpp = rgbBitmap.bpp ∧
          b'.width = rgbBitmap.width ∧ b'.height = rgbBitmap.height ∧
          (b'.view pixelRGB).Holds (memLib freeImagePitch true) s₂ fun i =>
            readBytes (memLib freeImagePitch true) .rgb ((rgbBitmap.view pixelRGB).addr i)
              pixelRGB.dtype.itemsize :=
  ⟨rfl, rgbBitmap_laidOut, by decide,
    (memStore freeImagePitch true).bitmap_round_trip rfl rgbBitmap_laidOut (by decide)⟩

end BitmapStore

end FreeImagePy
