import FreeImagePy.Layout

/-!
# Between numpy arrays and FreeImage bitmaps

`_array_to_bitmap` and `_array_from_bitmap`, with `get_type_and_shape` and
`_wrap_bitmap_bits_in_array` under them. An owned array keeps its elements in C order, each
as its native bytes, so equality of arrays is equality of dtype, shape and every byte.
Element stores and loads through a view are plain memory operations of the library; the
only calls into FreeImage are the ones the source makes, in its order, including the
short-circuit of `len(shape) == 3 and _FI.FreeImage_IsLittleEndian() and ...`.
-/

namespace FreeImagePy

/-- A numpy array that owns its data: the elements in C order, each as its native bytes. -/
structure NDArray where
  dtype : DType
  shape : List Nat
  data : List (List UInt8)
  size_eq : data.length = shape.prod
  item_size : ∀ e ∈ data, e.length = dtype.itemsize

/-- `array[idx]`, for an index of the array. -/
def NDArray.get (A : NDArray) (idx : List Nat) : List UInt8 :=
  A.data.getD (flatIndex A.shape idx) []

/-- numpy's `IndexError` for an integer index past the end of an axis. -/
def indexError (k axis size : Nat) : PyErr :=
  ⟨.indexError, "index " ++ toString k ++ " is out of bounds for axis " ++ toString axis ++
    " with size " ++ toString size⟩

/-- The positions `[x, y]` of the first two axes of `shape`, in C order. -/
def planePositions (shape : List Nat) : List (List Nat) :=
  (List.range (shape.take 2).prod).map (unflatten (shape.take 2))

/-- `array[:, :, k]` of an owned array, in C order. -/
def NDArray.channel (A : NDArray) (k : Nat) : Except PyErr (List (List UInt8)) :=
  if A.shape.getD 2 0 ≤ k then .error (indexError k 2 (A.shape.getD 2 0))
  else .ok ((planePositions A.shape).map fun p => A.get (p ++ [k]))

/-- `numpy.arange(start, stop, step)` for a positive step. -/
def arange (start stop step : Nat) : List Nat :=
  (List.range ((stop - start + step - 1) / step)).map fun k => start + k * step

/-- The four bytes of a `uint32` in the host's byte order. -/
def uint32Bytes (littleEndian : Bool) (n : Nat) : List UInt8 :=
  let bs := [n % 256, n / 256 % 256, n / 65536 % 256, n / 16777216 % 256].map Nat.toUInt8
  if littleEndian then bs else bs.reverse

/-- `_GREY_PALETTE`: 4-byte quads of 0,v,v,v from 0,0,0,0 to 0,255,255,255. -/
def _GREY_PALETTE : List Nat := arange 0 0x01000000 0x00010101

section Paths
variable {σ : Type} (L : Lib σ)

/-- `array.copy()` of a view: its elements read in C order into an array that owns them. -/
def View.copy (v : View) (dtype : DType) (s : σ) : NDArray where
  dtype := dtype
  shape := v.shape
  data := (List.range v.shape.prod).map fun k =>
    readBytes L s (v.addr (unflatten v.shape k)) dtype.itemsize
  size_eq := by simp
  item_size := by simp

/-- Element stores through a view, one for each index, in order. -/
def writeElems (v : View) : List (List Nat) → List (List UInt8) → σ → σ
  | idx :: idxs, e :: es, s => writeElems v idxs es (writeBytes L (v.addr idx) e s)
  | _, _, s => s

/-- `view[:, :, k]`, read in C order. -/
def viewChannel (v : View) (k : Nat) : FI σ (List (List UInt8)) := do
  if v.shape.getD 2 0 ≤ k then FI.raise (indexError k 2 (v.shape.getD 2 0))
  ⟨fun w => (.ok ((planePositions v.shape).map fun p =>
    readBytes L w.lib (v.addr (p ++ [k])) v.itemsize), w)⟩

/-- `view[:, :, k] = vals`. -/
def assignChannel (v : View) (k : Nat) (vals : List (List UInt8)) : FI σ Unit := do
  if v.shape.getD 2 0 ≤ k then FI.raise (indexError k 2 (v.shape.getD 2 0))
  ⟨fun w => (.ok (),
    ⟨writeElems L v ((planePositions v.shape).map (· ++ [k])) vals w.lib, w.trace⟩)⟩

/-- `view[:] = array`, for an array of the view's shape. -/
def assignAll (v : View) (A : NDArray) : FI σ Unit :=
  ⟨fun w => (.ok (),
    ⟨writeElems L v ((List.range v.shape.prod).map (unflatten v.shape)) A.data w.lib, w.trace⟩)⟩

/-- `FI_TYPES.get_type_and_shape`. -/
def FITypes.getTypeAndShape (bitmap : Int) : FI σ (DType × List Int) := do
  let w ← ffi L .getWidth [.ptr bitmap]
  let h ← ffi L .getHeight [.ptr bitmap]
  let fiType ← ffi L .getImageType [.ptr bitmap]
  if fiType = 0 then FI.raise ⟨.valueError, "Unknown image pixel type"⟩
  let some dtype := FITypes.dtypes fiType | FI.raise ⟨.keyError, toString fiType⟩
  let extraDims ← (if fiType = FITypes.FIT_BITMAP then do
      let bpp ← ffi L .getBPP [.ptr bitmap]
      FI.ofExcept (FITypes.bitmapExtraDims bpp)
    else match FITypes.extraDims fiType with
      | some e => pure e
      | none => FI.raise ⟨.keyError, toString fiType⟩)
  pure (dtype, [w, h] ++ extraDims)

/-- `_wrap_bitmap_bits_in_array`: a view on the bitmap's bits, valid only while the bitmap
is loaded or its page locked. -/
def _wrapBitmapBitsInArray (bitmap : Int) (shape : List Int) (dtype : DType) : FI σ View := do
  let pitch ← ffi L .getPitch [.ptr bitmap]
  let byteSize := shape.getD 1 0 * pitch
  let bits ← ffi L .getBits [.ptr bitmap]
  if byteSize < 0 then
    FI.raise ⟨.valueError, "Array length must be >= 0, not " ++ toString byteSize⟩
  if bits = 0 then FI.raise ⟨.typeError, "integer expected"⟩
  if shape.any (· < 0) then FI.raise ⟨.valueError, "negative dimensions are not allowed"⟩
  let v := bitmapView bits pitch shape dtype.itemsize
  if !checkStrides v.itemsize byteSize v.offset v.shape v.strides then
    FI.raise ⟨.valueError,
      "strides is incompatible with shape of requested array and size of buffer"⟩
  pure v

/-- `len(shape) == 3 and _FI.FreeImage_IsLittleEndian() and dtype.type == numpy.uint8`. -/
def swapsChannels (shape : List α) (dtype : DType) : FI σ Bool :=
  if shape.length = 3 then do
    let le ← ffi L .isLittleEndian []
    pure (le != 0 && dtype == .uint8)
  else pure false

/-- `_array_from_bitmap`. -/
def _arrayFromBitmap (bitmap : Int) : FI σ NDArray := do
  let (dtype, shape) ← FITypes.getTypeAndShape L bitmap
  let array ← _wrapBitmapBitsInArray L bitmap shape dtype
  if ← swapsChannels L shape dtype then
    let b ← viewChannel L array 0
    assignChannel L array 0 (← viewChannel L array 2)
    assignChannel L array 2 b
  ⟨fun w => (.ok (array.copy L dtype w.lib), w)⟩

/-- The `if len(shape) == 2 and dtype.type == numpy.uint8:` block of `_array_to_bitmap`:
a grey palette for an 8-bit greyscale bitmap. -/
def installGreyPalette (array : NDArray) (bitmap : Int) : FI σ Unit := do
  if array.shape.length = 2 ∧ array.dtype = .uint8 then
    let palette ← ffi L .getPalette [.ptr bitmap]
    if palette = 0 then FI.raise ⟨.runtimeError, "Could not get image palette"⟩
    pokeBytes L palette ((_GREY_PALETTE.flatMap (uint32Bytes L.littleEndian)).take 1024)

/-- The `try` body of `_array_to_bitmap`: fill the new bitmap and install the palette. -/
def fillBitmap (array : NDArray) (bitmap : Int) : FI σ Unit := do
  let wrapped ← _wrapBitmapBitsInArray L bitmap (array.shape.map (↑)) array.dtype
  if ← swapsChannels L array.shape array.dtype then
    assignChannel L wrapped 0 (← FI.ofExcept (array.channel 2))
    assignChannel L wrapped 1 (← FI.ofExcept (array.channel 1))
    assignChannel L wrapped 2 (← FI.ofExcept (array.channel 0))
    if array.shape.getD 2 0 = 4 then
      assignChannel L wrapped 3 (← FI.ofExcept (array.channel 3))
  else
    assignAll L wrapped array
  installGreyPalette L array bitmap

/-- `_array_to_bitmap`: the new bitmap and its pixel type. -/
def _arrayToBitmap (array : NDArray) : FI σ (Int × Int) := do
  let shape := array.shape
  let nchannels ← (if shape.length = 2 then pure 1
    else if shape.length = 3 then pure (shape.getD 2 0)
    else FI.raise ⟨.valueError,
      "Only arrays with shape = (width, height) or (width, height, nchannels) are permitted"⟩)
  let some fiType := FITypes.fiTypes array.dtype nchannels
    | FI.raise ⟨.valueError, "Cannot write arrays of given type and shape."⟩
  let bpp := 8 * array.dtype.itemsize * nchannels
  let bitmap ← ffi L .allocateT [.int fiType, .int (shape.getD 0 0), .int (shape.getD 1 0),
    .int bpp, .int 0, .int 0, .int 0]
  if bitmap = 0 then FI.raise ⟨.runtimeError, "Could not allocate image for storage"⟩
  FI.tryExcept (do fillBitmap L array bitmap; pure (bitmap, fiType))
    (do let _ ← ffi L .unload [.ptr bitmap])

end Paths

end FreeImagePy
