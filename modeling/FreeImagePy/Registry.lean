import FreeImagePy.Interface

/-!
# Pixel-type and metadata-type registries

The tables of `FI_TYPES`, `METADATA_MODELS` and `METADATA_DATATYPE`, as the module's
dictionaries. Pixel types and tag types are the C ints FreeImage returns, so every table is
keyed by an int, and a missing key is `none`, which becomes the `KeyError` the code raises
or catches. The fact the write and the read path share is `fiTypes_inverse`: every key of
`fi_types` comes back from its pixel type and its bits per pixel through the two tables
`get_type_and_shape` reads.
-/

namespace FreeImagePy

/-- numpy dtypes, in native byte order. `other` is any dtype outside this list
(byte-swapped, structured, text), known here only by its itemsize. -/
inductive DType where
  | bool | int8 | uint8 | int16 | uint16 | int32 | uint32 | int64 | uint64
  | float16 | float32 | float64 | complex64 | complex128
  | other (itemsize : Nat)
  deriving DecidableEq, Repr

def DType.itemsize : DType → Nat
  | .bool | .int8 | .uint8 => 1
  | .int16 | .uint16 | .float16 => 2
  | .int32 | .uint32 | .float32 => 4
  | .int64 | .uint64 | .float64 | .complex64 => 8
  | .complex128 => 16
  | .other n => n

namespace FITypes

def FIT_UNKNOWN : Int := 0
def FIT_BITMAP : Int := 1

/-- `FI_TYPES.dtypes`, keyed by `FIT_BITMAP` = 1 up to `FIT_RGBAF` = 12. -/
def dtypes : Int → Option DType
  | 1 => some .uint8
  | 2 => some .uint16
  | 3 => some .int16
  | 4 => some .uint32
  | 5 => some .int32
  | 6 => some .float32
  | 7 => some .float64
  | 8 => some .complex128
  | 9 => some .uint16
  | 10 => some .uint16
  | 11 => some .float32
  | 12 => some .float32
  | _ => none

/-- `FI_TYPES.fi_types`: the pixel type an array of a dtype and channel count is written as. -/
def fiTypes : DType → Nat → Option Int
  | .uint8, 1 => some 1
  | .uint8, 3 => some 1
  | .uint8, 4 => some 1
  | .uint16, 1 => some 2
  | .int16, 1 => some 3
  | .uint32, 1 => some 4
  | .int32, 1 => some 5
  | .float32, 1 => some 6
  | .float64, 1 => some 7
  | .complex128, 1 => some 8
  | .uint16, 3 => some 9
  | .uint16, 4 => some 10
  | .float32, 3 => some 11
  | .float32, 4 => some 12
  | _, _ => none

/-- `FI_TYPES.extra_dims`; `FIT_BITMAP` is not a key. -/
def extraDims : Int → Option (List Int)
  | 2 | 3 | 4 | 5 | 6 | 7 | 8 => some []
  | 9 => some [3]
  | 10 => some [4]
  | 11 => some [3]
  | 12 => some [4]
  | _ => none

/-- The `FIT_BITMAP` branch of `get_type_and_shape`: the extra dimensions of `bpp` bits. -/
def bitmapExtraDims (bpp : Int) : Except PyErr (List Int) :=
  if bpp = 8 then .ok []
  else if bpp = 24 then .ok [3]
  else if bpp = 32 then .ok [4]
  else .error ⟨.valueError, "Cannot convert " ++ toString bpp ++ " BPP bitmap"⟩

/-- The channel axis an array of `c` channels has when it is read back. -/
def channelDims (c : Nat) : List Int := if c = 1 then [] else [c]

theorem fiTypes_channels {d : DType} {c : Nat} {t : Int} (h : fiTypes d c = some t) :
    c = 1 ∨ c = 3 ∨ c = 4 := by
  unfold fiTypes at h
  split at h <;> cases h <;> decide

theorem fiTypes_inverse {d : DType} {c : Nat} {t : Int} (h : fiTypes d c = some t) :
    dtypes t = some d ∧
      (t = FIT_BITMAP → bitmapExtraDims (8 * d.itemsize * c) = .ok (channelDims c)) ∧
      (t ≠ FIT_BITMAP → extraDims t = some (channelDims c)) := by
  unfold fiTypes at h
  split at h <;> cases h <;>
    exact ⟨rfl, fun h => by first | rfl | exact absurd h (by decide),
      fun h => by first | rfl | exact absurd h (by decide)⟩

end FITypes

/-- `METADATA_MODELS.__dict__.items()`, the class's own attributes in definition order. -/
def METADATA_MODELS : List (String × Int) :=
  [("FIMD_COMMENTS", 0), ("FIMD_EXIF_MAIN", 1), ("FIMD_EXIF_EXIF", 2), ("FIMD_EXIF_GPS", 3),
   ("FIMD_EXIF_MAKERNOTE", 4), ("FIMD_EXIF_INTEROP", 5), ("FIMD_IPTC", 6), ("FIMD_XMP", 7),
   ("FIMD_GEOTIFF", 8), ("FIMD_ANIMATION", 9)]

/-- `models` in `_read_metadata`: the names that start with `FIMD_` (`name[:5] == 'FIMD_'`),
without that prefix. -/
def models : List (String × Int) :=
  (METADATA_MODELS.filter fun p => p.1.take 5 == "FIMD_").map fun p => (p.1.drop 5, p.2)

/-- A tag's element layout: a numpy scalar dtype or a structured record of them. -/
inductive MetaDtype where
  | scalar (d : DType)
  | record (fields : List (String × DType))
  deriving DecidableEq, Repr

def MetaDtype.itemsize : MetaDtype → Nat
  | .scalar d => d.itemsize
  | .record fs => (fs.map fun f => f.2.itemsize).sum

namespace MetadataDatatype

def FIDT_ASCII : Int := 2

/-- `METADATA_DATATYPE.dtypes`, keyed by the `FIDT_` codes; `FIDT_ASCII` is not a key. -/
def dtypes : Int → Option MetaDtype
  | 1 => some (.scalar .uint8)
  | 3 => some (.scalar .uint16)
  | 4 => some (.scalar .uint32)
  | 5 => some (.record [("numerator", .uint32), ("denominator", .uint32)])
  | 6 => some (.scalar .int8)
  | 7 => some (.scalar .uint8)
  | 8 => some (.scalar .int16)
  | 9 => some (.scalar .int32)
  | 10 => some (.record [("numerator", .int32), ("denominator", .int32)])
  | 11 => some (.scalar .float32)
  | 12 => some (.scalar .float64)
  | 13 => some (.scalar .uint32)
  | 14 => some (.record [("R", .uint8), ("G", .uint8), ("B", .uint8), ("A", .uint8)])
  | 16 => some (.scalar .uint64)
  | 17 => some (.scalar .int64)
  | 18 => some (.scalar .uint64)
  | _ => none

end MetadataDatatype

end FreeImagePy
