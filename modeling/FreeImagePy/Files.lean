import FreeImagePy.Metadata

/-!
# Reading and writing files

The public operations: `read`, `read_metadata`, `read_multipage`,
`read_multipage_metadata`, `write` and `write_multipage`, with the two drivers
`_process_bitmap` and `_process_multipage` that the readers share. Each acquires a
bitmap, a page or a multi-page session from the library and gives it back in a `finally`
clause, except `write_multipage`, which appends its bitmaps and never unloads them. A file
name is a `bytes` or a `str` object, made bytes by `asbytes` before the library sees it.
Python's default `flags=0` is passed explicitly.
-/

namespace FreeImagePy

/-- `IO_FLAGS.FIF_LOAD_NOPIXELS`: load the image header only. -/
def FIF_LOAD_NOPIXELS : Int := 0x8000

section Files
variable {σ α : Type} (L : Lib σ)

/-- `_process_bitmap`. -/
def _processBitmap (filename : PyName) (flags : Int) (processFunc : Int → FI σ α) :
    FI σ α := do
  let filename ← FI.ofExcept (asbytes filename)
  let ftype ← ffi L .getFileType [.bytes filename, .int 0]
  if ftype = -1 then
    FI.raise ⟨.valueError, "Cannot determine type of file " ++ bytesRepr filename⟩
  let bitmap ← ffi L .load [.int ftype, .bytes filename, .int flags]
  if bitmap = 0 then FI.raise ⟨.valueError, "Could not load file " ++ bytesRepr filename⟩
  FI.tryFinally (processFunc bitmap) (do let _ ← ffi L .unload [.ptr bitmap])

/-- `read`. -/
def read (filename : PyName) (flags : Int) : FI σ NDArray :=
  _processBitmap L filename flags (_arrayFromBitmap L)

/-- `read_metadata`. -/
def readMetadata (fuel : Nat) (filename : PyName) : FI σ Metadata :=
  _processBitmap L filename FIF_LOAD_NOPIXELS (_readMetadata L fuel)

/-- The `for i in range(pages):` loop of `_process_multipage`. -/
def pageLoop (filename : List UInt8) (multibitmap : Int) (processFunc : Int → FI σ α) :
    List Nat → FI σ (List α)
  | [] => pure []
  | i :: rest => do
    let bitmap ← ffi L .lockPage [.ptr multibitmap, .int i]
    if bitmap = 0 then
      FI.raise ⟨.valueError, "Could not open " ++ bytesRepr filename ++ " as a multi-page image."⟩
    let page ← FI.tryFinally (processFunc bitmap)
      (do let _ ← ffi L .unlockPage [.ptr multibitmap, .ptr bitmap, .int 0])
    let out ← pageLoop filename multibitmap processFunc rest
    pure (page :: out)

/-- `_process_multipage`: a read-only session kept in memory, one result per page. -/
def _processMultipage (filename : PyName) (flags : Int) (processFunc : Int → FI σ α) :
    FI σ (List α) := do
  let filename ← FI.ofExcept (asbytes filename)
  let ftype ← ffi L .getFileType [.bytes filename, .int 0]
  if ftype = -1 then
    FI.raise ⟨.valueError, "Cannot determine type of file " ++ bytesRepr filename⟩
  let multibitmap ← ffi L .openMultiBitmap [.int ftype, .bytes filename, .int 0, .int 1, .int 1,
    .int flags]
  if multibitmap = 0 then
    FI.raise ⟨.valueError, "Could not open " ++ bytesRepr filename ++ " as multi-page image."⟩
  FI.tryFinally
    (do
      let pages ← ffi L .getPageCount [.ptr multibitmap]
      pageLoop L filename multibitmap processFunc (List.range pages.toNat))
    (do let _ ← ffi L .closeMultiBitmap [.ptr multibitmap, .int 0])

/-- `read_multipage`. -/
def readMultipage (filename : PyName) (flags : Int) : FI σ (List NDArray) :=
  _processMultipage L filename flags (_arrayFromBitmap L)

/-- `read_multipage_metadata`. -/
def readMultipageMetadata (fuel : Nat) (filename : PyName) : FI σ (List Metadata) :=
  _processMultipage L filename FIF_LOAD_NOPIXELS (_readMetadata L fuel)

/-- `write`. -/
def write (array : NDArray) (filename : PyName) (flags : Int) : FI σ Unit := do
  let filename ← FI.ofExcept (asbytes filename)
  let ftype ← ffi L .getFIFFromFilename [.bytes filename]
  if ftype = -1 then FI.raise ⟨.valueError, "Cannot determine type for " ++ bytesRepr filename⟩
  let (bitmap, fiType) ← _arrayToBitmap L array
  FI.tryFinally
    (do
      let canWrite ← (if fiType = FITypes.FIT_BITMAP then do
          let bpp ← ffi L .getBPP [.ptr bitmap]
          ffi L .fifSupportsExportBPP [.int ftype, .int bpp]
        else ffi L .fifSupportsExportType [.int ftype, .int fiType])
      if canWrite = 0 then
        FI.raise ⟨.typeError, "Cannot save image of this format to this file type"⟩
      let res ← ffi L .save [.int ftype, .ptr bitmap, .bytes filename, .int flags]
      if res = 0 then FI.raise ⟨.runtimeError, "Could not save image properly."⟩)
    (do let _ ← ffi L .unload [.ptr bitmap])

/-- The `for array in arrays:` loop of `write_multipage`. -/
def appendLoop (multibitmap : Int) : List NDArray → FI σ Unit
  | [] => pure ()
  | array :: rest => do
    let (bitmap, _) ← _arrayToBitmap L array
    let _ ← ffi L .appendPage [.ptr multibitmap, .ptr bitmap]
    appendLoop multibitmap rest

/-- `write_multipage`: a new session kept in memory, one page per array. -/
def writeMultipage (arrays : List NDArray) (filename : PyName) (flags : Int) :
    FI σ Unit := do
  let filename ← FI.ofExcept (asbytes filename)
  let ftype ← ffi L .getFIFFromFilename [.bytes filename]
  if ftype = -1 then
    FI.raise ⟨.valueError, "Cannot determine type of file " ++ bytesRepr filename⟩
  let multibitmap ← ffi L .openMultiBitmap [.int ftype, .bytes filename, .int 1, .int 0, .int 1,
    .int 0]
  if multibitmap = 0 then
    FI.raise ⟨.valueError,
      "Could not open " ++ bytesRepr filename ++ " for writing multi-page image."⟩
  FI.tryFinally (appendLoop L multibitmap arrays)
    (do let _ ← ffi L .closeMultiBitmap [.ptr multibitmap, .int flags])

end Files

end FreeImagePy
