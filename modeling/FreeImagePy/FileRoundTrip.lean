import FreeImagePy.Files
import FreeImagePy.RoundTrip

/-!
# Writing image files and reading them back

FreeImage over the bitmaps of `memLib`, with files made of pages. Codecs are lossless: a page
keeps the pixel type, depth and size of the bitmap it was made from and the bytes of its bits,
whatever save flags it is written with. Which format a file name asks for, which pixel types and
depths a format saves, which formats can load a header without its pixels, and which keep more
than one page in a file, are parameters.

`FreeImage_Save` writes a bitmap its format saves as a file's one page. `FreeImage_Load` decodes
a file's first page into a new bitmap, or, when the load flags ask for `FIF_LOAD_NOPIXELS` and
the format can do it, into one whose bits are null. A multi-page session opened to create a
file collects the pages appended to it, dropping without a word each bitmap its format cannot
save, and writes them when it is closed if it gained any; a single-page format keeps the first.
One opened read-only hands out its file's pages through `FreeImage_LockPage`, loaded under the
flags it was opened with.

Over this library what `write` stores `read` gives back, and what `write_multipage` stores
`read_multipage` gives back page by page, for load flags that do not ask for the header alone
and a format that saves every array; the two kinds of file read back either way. A format that
cannot save the array's pixel type makes `write` raise `TypeError` once it has unloaded the
bitmap it made. Save flags other than the codecs' losslessness, and the failures of the file
system, are not modelled.
-/

namespace FreeImagePy

/-- A page of an image file as a lossless codec keeps it: the pixel type, depth and size of
the bitmap it was made from, and the bytes of its bits, bottom scanline first. -/
structure Image where
  type : Int
  bpp : Int
  width : Int
  height : Int
  bits : List UInt8
  deriving DecidableEq

/-- A session of `FreeImage_OpenMultiBitmap`: its format and file, the pages it holds, whether
it was opened read-only, whether a page has been appended to it, and the load flags its pages
are locked with. -/
structure Session where
  fif : Int
  filename : List UInt8
  pages : List Image
  readOnly : Bool
  changed : Bool
  loadFlags : Int

/-- The session with the pages `imgs` appended, changed if there is one. -/
def Session.append (ses : Session) (imgs : List Image) : Session :=
  { ses with pages := ses.pages ++ imgs, changed := ses.changed || !imgs.isEmpty }

/-- The library's state: the bitmap heap, each file's format and pages, the open sessions, and
the last session handle given out. -/
structure FileState where
  heap : MemState
  files : List UInt8 → Option (Int × List Image)
  sessions : Int → Option Session
  lastSession : Nat

/-- What the build's plugins say and do, format by format: the format of a file name
(`FreeImage_GetFIFFromFilename`); whether a format saves bitmaps of a depth
(`FreeImage_FIFSupportsExportBPP`) or of a pixel type (`FreeImage_FIFSupportsExportType`);
whether it loads a header without its pixels (`FreeImage_FIFSupportsNoPixels`); and whether
its files hold more than one page. -/
structure Codecs where
  fifFromFilename : List UInt8 → Int
  exportsBPP : Int → Int → Bool
  exportsType : Int → Int → Bool
  noPixels : Int → Bool
  multiPage : Int → Bool

namespace Codecs
variable (codecs : Codecs)

/-- The answer `write` asks for before it saves a bitmap of pixel type `t` and depth `bpp`. -/
def Exports (fif t bpp : Int) : Bool :=
  if t = FITypes.FIT_BITMAP then codecs.exportsBPP fif bpp else codecs.exportsType fif t

/-- The plugin of format `fif` saves the bitmap `b`: `b` has pixels, and the format exports
its pixel type, or for `FIT_BITMAP` its depth. -/
def saves (fif : Int) (b : Bitmap) : Bool := b.bits != 0 && codecs.Exports fif b.type b.bpp

/-- A load of format `fif` under `flags`, taken as the C `int` FreeImage receives, brings the
header alone: the flags ask for `FIF_LOAD_NOPIXELS` (bit 15) and the format can do it. -/
def headerOnly (fif flags : Int) : Bool := (cInt flags).testBit 15 && codecs.noPixels fif

/-- The pages a file of format `fif` keeps of those written to it: all of them, or the first
for a single-page format. -/
def kept {α : Type} (fif : Int) (pages : List α) : List α :=
  if codecs.multiPage fif then pages else pages.take 1

/-- The file a format writes for the pages of a session. -/
def fileOf (fif : Int) (pages : List Image) : Int × List Image := (fif, codecs.kept fif pages)

end Codecs

namespace MemState

/-- The page a lossless codec writes for the bitmap `b`: its header, and the `height * pitch`
bytes of its bits. -/
def image (s : MemState) (b : Bitmap) : Image :=
  ⟨b.type, b.bpp, b.width, b.height,
    (List.range (b.height * b.pitch).toNat).map fun k : Nat => s.mem (b.bits + (k : Int))⟩

/-- The bytes `bs` copied to address `a`. -/
def store (s : MemState) (a : Int) (bs : List UInt8) : MemState :=
  { s with mem := fun c => if a ≤ c ∧ c < a + bs.length then bs.getD (c - a).toNat 0 else s.mem c }

/-- The bitmap under `d` without pixels: `FreeImage_GetBits` answers null for it. -/
def dropBits (s : MemState) (d : Int) : MemState :=
  ⟨s.mem, Function.update s.bitmaps d ((s.bitmaps d).map fun b => { b with bits := 0 }), s.next,
    fun d' hd' => by
      rw [Function.update_apply]
      split
      · subst d'
        rw [s.fresh d hd']
        rfl
      · exact s.fresh d' hd'⟩

/-- A page decoded into a new bitmap of its type, depth and size, whose bits are the page's
bytes, or null for a load of the header alone; a null handle when the size is not positive. -/
def load (rule : PitchRule) (s : MemState) (img : Image) (headerOnly : Bool) : Int × MemState :=
  if 0 < img.width ∧ 0 < img.height then
    let r := s.allocate rule img.type img.width img.height img.bpp
    if headerOnly then (r.1, r.2.dropBits r.1) else (r.1, r.2.store (s.next + 1) img.bits)
  else (0, s)

end MemState

namespace FileState

/-- The answer of a call the heap handles, with the heap it leaves. -/
def withHeap (t : FileState) (r : Int × MemState) : Int × FileState := (r.1, { t with heap := r.2 })

/-- The file `fn` made to hold `entry`, a format's code and pages, or nothing a plugin reads. -/
def setFile (t : FileState) (fn : List UInt8) (entry : Option (Int × List Image)) : FileState :=
  { t with files := Function.update t.files fn entry }

/-- The session under handle `mb` replaced. -/
def setSession (t : FileState) (mb : Int) (ses : Option Session) : FileState :=
  { t with sessions := Function.update t.sessions mb ses }

/-- A new session under the next handle. -/
def openSession (t : FileState) (ses : Session) : Int × FileState :=
  (t.lastSession + 1, { t with
    sessions := Function.update t.sessions (t.lastSession + 1) (some ses)
    lastSession := t.lastSession + 1 })

/-- `FreeImage_Save` of the bitmap under `d` as the file `fn`: the file, opened for writing
first, becomes one page when the format saves the bitmap, and stays empty, a file no plugin
reads, when it does not. -/
def save (t : FileState) (codecs : Codecs) (fif d : Int) (fn : List UInt8) : Int × FileState :=
  match t.heap.bitmaps d with
  | some b => if codecs.saves fif b then (1, t.setFile fn (some (fif, [t.heap.image b])))
    else (0, t.setFile fn none)
  | none => (0, t.setFile fn none)

/-- `FreeImage_AppendPage` of the bitmap `b` to the session `ses` under `mb`: a session open
for writing gains the page its format writes for `b` and is changed; a bitmap the format
cannot save is dropped without a word, and a read-only session takes nothing. -/
def appendTo (t : FileState) (codecs : Codecs) (mb : Int) (ses : Session) (b : Bitmap) :
    FileState :=
  if !ses.readOnly && codecs.saves ses.fif b then t.setSession mb (some (ses.append [t.heap.image b]))
  else t

end FileState

/-- The files once a session is closed: a changed session writes its pages to its file, in
its format; any other writes nothing. -/
def Session.commit (codecs : Codecs) (ses : Session)
    (files : List UInt8 → Option (Int × List Image)) : List UInt8 → Option (Int × List Image) :=
  if ses.changed then Function.update files ses.filename (some (codecs.fileOf ses.fif ses.pages))
  else files

/-- FreeImage with lossless codecs over `memLib`'s bitmaps. -/
def fileLib (rule : PitchRule) (le : Bool) (codecs : Codecs) : Lib FileState where
  call f args t := match f, args with
    | .getFileType, [.bytes fn, _] => (((t.files fn).map Prod.fst).getD (-1), t)
    | .getFIFFromFilename, [.bytes fn] => (codecs.fifFromFilename fn, t)
    | .fifSupportsExportBPP, [.int fif, .int bpp] =>
      (if codecs.exportsBPP fif bpp then 1 else 0, t)
    | .fifSupportsExportType, [.int fif, .int type] =>
      (if codecs.exportsType fif type then 1 else 0, t)
    | .save, [.int fif, .ptr d, .bytes fn, _] => t.save codecs fif d fn
    | .load, [.int fif, .bytes fn, .int flags] => match t.files fn with
      | some (_, img :: _) => t.withHeap (t.heap.load rule img (codecs.headerOnly fif flags))
      | _ => (0, t)
    | .openMultiBitmap, [.int fif, .bytes fn, .int createNew, .int readOnly, _, .int flags] =>
      if createNew ≠ 0 then t.openSession ⟨fif, fn, [], false, false, flags⟩
      else match t.files fn with
        | some (_, pages) => t.openSession ⟨fif, fn, pages, readOnly ≠ 0, false, flags⟩
        | none => (0, t)
    | .getPageCount, [.ptr mb] =>
      (((t.sessions mb).map fun ses => (ses.pages.length : Int)).getD 0, t)
    | .lockPage, [.ptr mb, .int i] => match t.sessions mb with
      | some ses => match (if 0 ≤ i then ses.pages[i.toNat]? else none) with
        | some img => t.withHeap (t.heap.load rule img (codecs.headerOnly ses.fif ses.loadFlags))
        | none => (0, t)
      | none => (0, t)
    | .unlockPage, [_, .ptr d, _] => (0, { t with heap := t.heap.free d })
    | .appendPage, [.ptr mb, .ptr d] => match t.sessions mb, t.heap.bitmaps d with
      | some ses, some b => (0, t.appendTo codecs mb ses b)
      | _, _ => (0, t)
    | .closeMultiBitmap, [.ptr mb, _] => match t.sessions mb with
      | some ses => (1, { t.setSession mb none with files := ses.commit codecs t.files })
      | none => (0, t)
    | f, args => t.withHeap ((memLib rule le).call f args t.heap)
  peek t a := t.heap.mem a
  poke a x t := { t with heap := { t.heap with mem := Function.update t.heap.mem a x } }
  cString _ _ := []
  tagCell _ := 0
  littleEndian := le

section Calls
variable {rule : PitchRule} {le : Bool} {codecs : Codecs} {t : FileState} {fn : List UInt8}
  {fif : Int}

theorem fileLib_getFileType {pages : List Image} (h : t.files fn = some (fif, pages)) (a : Arg) :
    (fileLib rule le codecs).call .getFileType [.bytes fn, a] t = (fif, t) := by
  dsimp only [fileLib]
  rw [h]
  rfl

theorem fileLib_getFileType_none (h : t.files fn = none) (a : Arg) :
    (fileLib rule le codecs).call .getFileType [.bytes fn, a] t = (-1, t) := by
  dsimp only [fileLib]
  rw [h]
  rfl

theorem fileLib_load_header {fif' flags : Int} {img : Image} {rest : List Image}
    (h : t.files fn = some (fif', img :: rest)) (hp : codecs.headerOnly fif flags = true) :
    (fileLib rule le codecs).call .load [.int fif, .bytes fn, .int flags] t =
      t.withHeap (t.heap.load rule img true) := by
  dsimp only [fileLib]
  rw [h, hp]

end Calls

/-- The part of the state beside the bitmap heap: files and sessions. -/
def fileRest (t : FileState) : FileState := { t with heap := .empty }

/-- The library is a bitmap store: every call about bitmaps is the heap's. -/
def fileStore (rule : PitchRule) (le : Bool) (codecs : Codecs) : BitmapStore FileState where
  lib := fileLib rule le codecs
  bitmaps t := t.heap.bitmaps
  rule := rule
  rest := fileRest
  lawful t a x c := Function.update_apply t.heap.mem a x c
  poke_frame _ _ _ := ⟨rfl, rfl⟩
  query {t _ _ f _} hb hq := by
    have h := congrArg t.withHeap (@memLib_query rule le _ _ _ _ _ hb hq)
    cases f <;> first | exact h | cases hq
  isLittleEndian _ := rfl
  allocateT t type _ _ _ hw hh hbpp := by
    obtain ⟨d, s', b, hc, hd, hf, hb, ha, -⟩ :=
      @memLib_allocated rule le t.heap type _ _ _ hw hh hbpp
    exact ⟨d, { t with heap := s' }, b, congrArg t.withHeap hc, hd, hf, hb, ha, rfl⟩

/-- The library with no bitmap, no file and no session. -/
def FileState.empty : FileState := ⟨.empty, fun _ => none, fun _ => none, 0⟩

/-- A build where every file name asks for TIFF (code 18), a multi-page format that saves every
pixel type and depth and can load a header alone. -/
def tiffCodecs : Codecs := ⟨fun _ => 18, fun _ _ => true, fun _ _ => true, fun _ => true,
  fun _ => true⟩

/-- A build that knows the format of no file name. -/
def noCodecs : Codecs := ⟨fun _ => -1, fun _ _ => false, fun _ _ => false, fun _ => false,
  fun _ => false⟩

/-- A build where every file name asks for JPEG (code 2), a single-page format that saves 8- and
24-bit `FIT_BITMAP` only and can load a header alone. -/
def jpegCodecs : Codecs := ⟨fun _ => 2, fun _ bpp => bpp == 8 || bpp == 24, fun _ _ => false,
  fun _ => true, fun _ => false⟩

namespace FileState

end FileState

/-! ### Pages decode to the arrays they were written from -/

namespace MemState
variable {rule : PitchRule} {s : MemState} {img : Image}

theorem length_image_bits (b : Bitmap) : (s.image b).bits.length = (b.height * b.pitch).toNat := by
  simp [image]

theorem image_bits_getD {b : Bitmap} {k : Nat} (hk : k < (b.height * b.pitch).toNat) :
    (s.image b).bits.getD k 0 = s.mem (b.bits + k) := by
  simp [image, hk]

/-- `FreeImage_Load` of a page of positive size: a non-null handle to a new bitmap of the
page's type, depth and size, whose bits are the page's bytes. -/
theorem load_spec (hw : 0 < img.width) (hh : 0 < img.height) (hbpp : 0 ≤ img.bpp) :
    (s.load rule img false).1 ≠ 0 ∧
      ∃ b, (s.load rule img false).2.bitmaps (s.load rule img false).1 = some b ∧
      b.Allocated rule img.type img.width img.height img.bpp ∧
      ∀ k : Nat, k < img.bits.length →
        (s.load rule img false).2.mem (b.bits + k) = img.bits.getD k 0 := by
  obtain ⟨hd, -, -, b, hb, ha, hbits⟩ := @MemState.allocate_spec rule s img.type _ _ _ hw hh hbpp
  rw [load, if_pos ⟨hw, hh⟩, if_neg Bool.false_ne_true]
  refine ⟨hd, b, hb ▸ Function.update_same _ _ _, ha, fun k hk => ?_⟩
  rw [hbits]
  show (if _ then _ else _) = _
  rw [if_pos (by omega)]
  congr
  omega


/-- `FreeImage_Load` of the header alone of a page of positive size: a non-null handle, free
before, to a new bitmap of the page's type, depth and size whose bits are null. -/
theorem loadHeader_spec (hw : 0 < img.width) (hh : 0 < img.height) (hbpp : 0 ≤ img.bpp) :
    (s.load rule img true).1 ≠ 0 ∧ s.bitmaps (s.load rule img true).1 = none ∧
      ∃ b : Bitmap, (s.load rule img true).2.bitmaps =
          Function.update s.bitmaps (s.load rule img true).1 (some { b with bits := 0 }) ∧
        b.Allocated rule img.type img.width img.height img.bpp := by
  obtain ⟨hd, -, hfresh, b, hb, ha, -⟩ := @MemState.allocate_spec rule s img.type _ _ _ hw hh hbpp
  rw [load, if_pos ⟨hw, hh⟩, if_pos rfl]
  refine ⟨hd, hfresh, b, ?_, ha⟩
  simp only [dropBits, hb, Function.update_same, Option.map_some', Function.update_idem]
end MemState

/-- The page `img` decodes to the array `A`: it is the page a lossless codec writes for a
bitmap laid out for `A` and padded by the build's rule, whose view holds what
`_array_to_bitmap` stores for `A`. -/
def Image.Encodes (rule : PitchRule) (le : Bool) (img : Image) (A : NDArray) : Prop :=
  ∃ (s : MemState) (b : Bitmap) (W H C P : Nat), b.LaidOut A W H C P ∧
    b.pitch = rule.pitch b.width b.bpp ∧
    (b.view A).Holds (memLib rule le) s (stored (swapRB le A) A) ∧ img = s.image b

/-- `FreeImage_Load` of a page that decodes to `A`, into any heap: a new bitmap laid out for
`A` whose view holds what `_array_to_bitmap` stored. -/
theorem Image.Encodes.load {rule : PitchRule} {le : Bool} {img : Image} {A : NDArray}
    (he : img.Encodes rule le A) (s : MemState) :
    (s.load rule img false).1 ≠ 0 ∧
      ∃ b W H C P, (s.load rule img false).2.bitmaps (s.load rule img false).1 = some b ∧
      b.LaidOut A W H C P ∧
      (b.view A).Holds (memLib rule le) (s.load rule img false).2 (stored (swapRB le A) A) := by
  obtain ⟨s₀, b₀, W, H, C, P, hl, hp, hf, rfl⟩ := he
  have hbpp : (0 : Int) ≤ b₀.bpp := by rw [hl.bpp]; positivity
  have hw : (0 : Int) < b₀.width := by rw [hl.width]; exact_mod_cast hl.pos.1
  have hh : (0 : Int) < b₀.height := by rw [hl.height]; exact_mod_cast hl.pos.2
  obtain ⟨hd, b, hb, ha, hmem⟩ := @MemState.load_spec rule s (s₀.image b₀) hw hh hbpp
  have hpitch : b.pitch = b₀.pitch := ha.pitch.trans hp.symm
  have hl' : b.LaidOut A W H C P := { hl with
    type := ha.type ▸ hl.type, bpp := ha.bpp.trans hl.bpp, width := ha.width.trans hl.width,
    height := ha.height.trans hl.height, pitch := hpitch.trans hl.pitch, bits := ha.bits,
    palette := fun h2 hu => by
      have hbpp8 : b₀.bpp ≤ 8 := by
        obtain ⟨-, rfl⟩ := hl.shape.resolve_right fun h => by simp [h.1] at h2
        rw [hl.bpp, hu]; rfl
      have := ha.palette hbpp8
      rwa [hpitch, hl.pitch, show (s₀.image b₀).height = H from hl.height] at this }
  refine ⟨hd, b, W, H, C, P, hb, hl', View.holds_shift (v := b₀.view A) (δ := b.bits - b₀.bits)
    rfl rfl (fun i => ?_) hl.within (fun c hc₁ hc₂ => ?_) hf⟩
  · simp only [Bitmap.view, bitmapView, View.addr, hpitch]
    ring
  · have hk : (c - b₀.bits).toNat < (b₀.height * b₀.pitch).toNat := by
      rw [hl.height, hl.pitch]; push_cast at hc₂ ⊢; omega
    have h₀ : ((c - b₀.bits).toNat : Int) = c - b₀.bits := Int.toNat_of_nonneg (by omega)
    have := hmem _ (by rwa [MemState.length_image_bits])
    rw [MemState.image_bits_getD hk, h₀, add_sub_cancel] at this
    show MemState.mem _ (c + (b.bits - b₀.bits)) = s₀.mem c
    rwa [show c + (b.bits - b₀.bits) = b.bits + (c - b₀.bits) by ring]

/-- An array `_array_to_bitmap` and `_array_from_bitmap` carry over whole, over a build of
pitch rule `rule`: of shape `(W, H)`, or `(W, H, C)` with `C ≠ 1`, with a dtype and channel
count `fi_types` maps to the pixel type `type`, and sizes that fit a C `int`. -/
structure Admissible (rule : PitchRule) (A : NDArray) (W H C : Nat) (type : Int) : Prop where
  shape : A.shape = [W, H] ∧ C = 1 ∨ A.shape = [W, H, C] ∧ C ≠ 1
  fiType : FITypes.fiTypes A.dtype C = some type
  width : 0 < W ∧ W < 2 ^ 31
  height : 0 < H ∧ H < 2 ^ 31
  pitch : rule.pitch W (8 * A.dtype.itemsize * C : Nat) < 2 ^ 31

/-- Two `uint16` grey pixels, one column of two rows. -/
def pixelGrey16 : NDArray := ⟨.uint16, [1, 2], [[1, 0], [2, 0]], rfl, by decide⟩

theorem pixelRGB_admissible : Admissible freeImagePitch pixelRGB 1 1 3 1 :=
  ⟨.inr ⟨rfl, by decide⟩, rfl, by decide, by decide, by decide⟩

theorem pixelGrey16_admissible : Admissible freeImagePitch pixelGrey16 1 2 1 2 :=
  ⟨.inl ⟨rfl, rfl⟩, rfl, by decide, by decide, by decide⟩

namespace Codecs
variable {codecs : Codecs} {fif : Int}

@[simp] theorem headerOnly_cInt (flags : Int) :
    codecs.headerOnly fif (cInt flags) = codecs.headerOnly fif flags := by
  rw [headerOnly, headerOnly, cInt_cInt]

theorem kept_eq_nil {α : Type} {pages : List α} : codecs.kept fif pages = [] ↔ pages = [] := by
  unfold kept
  split <;> cases pages <;> simp

end Codecs

/-! ### `write` and `read` -/

section Files
variable {rule : PitchRule} {le : Bool} {codecs : Codecs} {t : FileState} {name : PyName}
  {fn : List UInt8} {flags : Int} {A : NDArray}

/-- The bytes of the name `"a.tif"`. -/
def tifName : List UInt8 := [97, 46, 116, 105, 102]

/-- `_process_bitmap` of a name that holds no file raises before it loads anything. -/
example : Raises FileState.empty
    (_processBitmap (fileLib freeImagePitch true tiffCodecs) (.str "a.tif") 0
      (_arrayFromBitmap (fileLib freeImagePitch true tiffCodecs)))
    fun e t' => e = ⟨.valueError, "Cannot determine type of file b'a.tif'"⟩ ∧
      t' = FileState.empty :=
  fun _ => ⟨_, rfl, rfl, rfl⟩

/-- `read` under load flags that ask the file's format for the header alone (`FIF_LOAD_NOPIXELS`
on a format that honours it), of a page with the header of an admissible array: the bitmap
`FreeImage_Load` makes has no pixels, so `_wrap_bitmap_bits_in_array` hands ctypes a null
address and `from_address` raises `TypeError`, once the `finally` clause has unloaded the
bitmap. The heap holds the bitmaps it held before, and no file and no session has changed. -/
theorem read_headerOnly {fif ty : Int} {img : Image} {rest : List Image} {W H C : Nat}
    (hname : asbytes name = .ok fn) (hfile : t.files fn = some (fif, img :: rest))
    (hfif : cInt fif = fif) (hne : fif ≠ -1) (hflags : fitsLong flags = true)
    (hpix : codecs.headerOnly fif flags = true) (ha : Admissible rule A W H C ty)
    (hhd : img.type = ty ∧ img.bpp = (8 * A.dtype.itemsize * C : Nat) ∧ img.width = W ∧
      img.height = H) :
    Raises t (read (fileLib rule le codecs) name flags) fun e t' =>
      e = ⟨.typeError, "integer expected"⟩ ∧ fileRest t' = fileRest t ∧
        t'.heap.bitmaps = t.heap.bitmaps := by
  obtain ⟨hty, hbpp, hw, hh⟩ := hhd
  obtain ⟨hd, hfresh, b, hb, hal⟩ := @MemState.loadHeader_spec rule t.heap img
    (by rw [hw]; exact_mod_cast ha.width.1) (by rw [hh]; exact_mod_cast ha.height.1)
    (by rw [hbpp]; positivity)
  have hl := Bitmap.Allocated.laidOut (by rw [← hw, ← hh, ← hbpp, ← hty]; exact hal) ha.shape
    ha.fiType ha.width ha.height ha.pitch
  have hb₀ : (t.heap.load rule img true).2.bitmaps (t.heap.load rule img true).1 =
      some { b with bits := 0 } := hb ▸ Function.update_same _ _ _
  simp only [read, _processBitmap, FI.pure_bind, FI.raise_bind]
  refine Ok.bind_raises (Ok.ofExcept hname (Ok.bind_raises (Ok.callInt _ rfl (by simp [fitsLong])
    (fileLib_getFileType hfile _) ?_)))
  rw [hfif, if_neg hne]
  refine Ok.bind_raises (Ok.callPtr _ rfl (by simp [hflags, fitsLong_of_cInt hfif])
    (fileLib_load_header hfile (by rw [Codecs.headerOnly_cInt, hfif, hpix])) ?_)
  rw [if_neg hd]
  refine Raises.tryFinally ?_
  simp only [_arrayFromBitmap, FI.pure_bind, FI.raise_bind]
  refine Ok.bind_raises ((fileStore rule le codecs).getTypeAndShape_ok (s := { t with heap := _ })
    hb₀ hl (Raises.bind (wrapBitmapBitsInArray_null (by rw [hl.getD_one]; positivity) hl.fits.2.2
      (by rw [← hl.pitch]
          exact (fileStore rule le codecs).query (s := { t with heap := _ }) (b := { b with bits := 0 })
            (f := .getPitch) hb₀ rfl)
      ((fileStore rule le codecs).query (s := { t with heap := _ }) (f := .getBits) hb₀ rfl)
      ⟨by simp, ?_⟩)))
  exact Ok.bind (Ok.callInt _ rfl (by simp) rfl (Ok.pure ⟨rfl, rfl,
    MemState.free_allocated hfresh hb⟩))

/-- The header of one RGB pixel's bitmap, and its four bytes of bits. -/
def rgbPage : Image := ⟨1, 24, 1, 1, [3, 2, 1, 0]⟩

/-- A TIFF file `a.tif` of the one page `rgbPage`. -/
def rgbTif : FileState := FileState.empty.setFile tifName (some (18, [rgbPage]))

theorem read_headerOnly_tif :
    asbytes (.str "a.tif") = .ok tifName ∧ rgbTif.files tifName = some (18, [rgbPage]) ∧
    cInt 18 = 18 ∧ (18 : Int) ≠ -1 ∧ fitsLong FIF_LOAD_NOPIXELS = true ∧
    tiffCodecs.headerOnly 18 FIF_LOAD_NOPIXELS = true ∧
    Admissible freeImagePitch pixelRGB 1 1 3 1 ∧
    (rgbPage.type = 1 ∧ rgbPage.bpp = (8 * pixelRGB.dtype.itemsize * 3 : Nat) ∧
      rgbPage.width = 1 ∧ rgbPage.height = 1) ∧
    Raises rgbTif (read (fileLib freeImagePitch true tiffCodecs) (.str "a.tif") FIF_LOAD_NOPIXELS)
      fun e t' => e = ⟨.typeError, "integer expected"⟩ ∧ fileRest t' = fileRest rgbTif ∧
        t'.heap.bitmaps = rgbTif.heap.bitmaps :=
  ⟨rfl, rfl, by decide, by decide, by decide, by decide, pixelRGB_admissible,
    ⟨rfl, rfl, rfl, rfl⟩, read_headerOnly rfl rfl (by decide) (by decide) (by decide) (by decide)
      pixelRGB_admissible ⟨rfl, rfl, rfl, rfl⟩⟩

/-- The test in `write` of whether the format saves the bitmap: `1` when it saves the bitmap's
pixel type, or for `FIT_BITMAP` its depth, `0` otherwise; nothing changes. -/
theorem canWrite_ok {t₁ : FileState} {d fif ty : Int} {b : Bitmap}
    (hb : t₁.heap.bitmaps d = some b) (hF : cInt fif = fif) (hty : cInt ty = ty)
    (hbpp : cInt b.bpp = b.bpp) :
    Ok t₁ (if ty = FITypes.FIT_BITMAP then do
          let bpp ← ffi (fileLib rule le codecs) .getBPP [.ptr d]
          ffi (fileLib rule le codecs) .fifSupportsExportBPP [.int fif, .int bpp]
        else ffi (fileLib rule le codecs) .fifSupportsExportType [.int fif, .int ty])
      fun c t₂ => c = (if codecs.Exports fif ty b.bpp then 1 else 0) ∧ t₂ = t₁ := by
  have h01 (c : Bool) : cInt (if c then 1 else 0) = if c then 1 else 0 :=
    cInt_of_lt (by split <;> norm_num) (by split <;> norm_num)
  refine Ok.ite (fun hbit => ?_) fun hbit => ?_
  · refine Ok.bind ((fileStore rule le codecs).ok_query hb rfl rfl (fun _ => hbpp) ?_)
    refine Ok.callInt _ rfl (by simp [fitsLong_of_cInt hF, fitsLong_of_cInt hbpp]) rfl ⟨?_, rfl⟩
    rw [h01, hF, hbpp, Codecs.Exports, if_pos hbit]
  · refine Ok.callInt _ rfl (by simp [fitsLong_of_cInt hF, fitsLong_of_cInt hty]) rfl ⟨?_, rfl⟩
    rw [h01, hF, hty, Codecs.Exports, if_neg hbit]

/-- `write` to a name whose format saves neither the array's pixel type nor, for
`FIT_BITMAP`, its depth raises `TypeError` once it has unloaded the bitmap it made: the heap
holds the bitmaps it held before, and no file and no session has changed. -/
theorem write_unsupported {W H C : Nat} {ty : Int} (ha : Admissible rule A W H C ty)
    (hname : asbytes name = .ok fn) (hfif : cInt (codecs.fifFromFilename fn) ≠ -1)
    (hex : codecs.Exports (cInt (codecs.fifFromFilename fn)) ty (8 * A.dtype.itemsize * C : Nat) =
      false) :
    Raises t (write (fileLib rule le codecs) A name flags) fun e t' =>
      e = ⟨.typeError, "Cannot save image of this format to this file type"⟩ ∧
        fileRest t' = fileRest t ∧ t'.heap.bitmaps = t.heap.bitmaps := by
  simp only [write, FI.pure_bind, FI.raise_bind]
  refine Ok.bind_raises (Ok.ofExcept hname (Ok.bind_raises (Ok.callInt _ rfl (by simp) rfl ?_)))
  rw [if_neg hfif]
  refine Ok.bind_raises (((fileStore rule le codecs).arrayToBitmap_ok ha.shape ha.fiType ha.width
    ha.height ha.pitch).conseq
    fun ⟨d, ty'⟩ t₁ ⟨hty, b, P, hb, _, _, hal, hrest, hfresh, hbm⟩ => ?_)
  dsimp only at hty hb hfresh hbm ⊢
  subst hty
  have hF : cInt (cInt (codecs.fifFromFilename fn)) = cInt (codecs.fifFromFilename fn) :=
    cInt_cInt _
  generalize cInt (codecs.fifFromFilename fn) = fif at hF hfif hex ⊢
  obtain ⟨hty₁, hty₂, -, hbpp⟩ := fiTypes_bounds ha.fiType
  have hty : cInt ty' = ty' := cInt_of_lt (by omega) (by omega)
  have hbpp' : cInt b.bpp = b.bpp := by rw [hal.bpp]; exact cInt_of_lt (by positivity) (by omega)
  have hfree : Function.update t₁.heap.bitmaps d none = t.heap.bitmaps := by
    change t₁.heap.bitmaps = Function.update t.heap.bitmaps d (some b) at hbm
    change t.heap.bitmaps d = none at hfresh
    rw [hbm, Function.update_idem, ← hfresh, Function.update_eq_self]
  refine Raises.tryFinally (Ok.bind_raises ((canWrite_ok hb hF hty hbpp').conseq
    fun c t₂ ⟨hc, ht⟩ => ?_))
  subst c t₂
  rw [hal.bpp, hex, if_neg Bool.false_ne_true]
  exact Raises.ite_pos rfl ⟨nofun, Ok.bind (Ok.callInt _ rfl (by simp) rfl
    (Ok.pure ⟨rfl, hrest, hfree⟩))⟩

/-- JPEG cannot save 16-bit grey. -/
theorem write_unsupported_grey16 :
    Admissible freeImagePitch pixelGrey16 1 2 1 2 ∧ asbytes (.str "a.tif") = .ok tifName ∧
    cInt (jpegCodecs.fifFromFilename tifName) ≠ -1 ∧
    jpegCodecs.Exports (cInt (jpegCodecs.fifFromFilename tifName)) 2
      (8 * pixelGrey16.dtype.itemsize * 1 : Nat) = false ∧
    Raises FileState.empty
      (write (fileLib freeImagePitch true jpegCodecs) pixelGrey16 (.str "a.tif") 0)
      fun e t' => e = ⟨.typeError, "Cannot save image of this format to this file type"⟩ ∧
        fileRest t' = fileRest FileState.empty ∧ t'.heap.bitmaps = FileState.empty.heap.bitmaps :=
  ⟨pixelGrey16_admissible, rfl, by decide, rfl,
    write_unsupported pixelGrey16_admissible rfl (by decide) rfl⟩

/-- `write` and `write_multipage` to a name of no known format raise before they allocate a
bitmap or open a session, each in its own words. -/
example : Raises FileState.empty
      (write (fileLib freeImagePitch true noCodecs) pixelRGB (.str "a.xyz") 0) (fun e t' =>
        e = ⟨.valueError, "Cannot determine type for b'a.xyz'"⟩ ∧ t' = FileState.empty) ∧
    Raises FileState.empty
      (writeMultipage (fileLib freeImagePitch true noCodecs) [pixelRGB] (.str "a.xyz") 0)
      (fun e t' => e = ⟨.valueError, "Cannot determine type of file b'a.xyz'"⟩ ∧
        t' = FileState.empty) :=
  ⟨fun _ => ⟨_, rfl, rfl, rfl⟩, fun _ => ⟨_, rfl, rfl, rfl⟩⟩

end Files

end FreeImagePy
