import FreeImagePy.Pixels

/-!
# Reading metadata tags

`_read_metadata`: for each metadata model in the order of `METADATA_MODELS`, the cursor
from `FreeImage_FindFirstMetadata`, a `while more:` loop over the tags it yields, and
`FreeImage_FindCloseMetadata` once the loop ends. Each tag's payload is copied from the
address `FreeImage_GetTagValue` gives; an `FIDT_ASCII` payload becomes the text ctypes'
`.value` reads, which stops at the first NUL, and every other payload becomes the
consecutive elements of its registered layout, a bare scalar when there is one.

The library decides when the loop ends, so the loop takes explicit fuel: a run that uses
it up ends with `diverged`, which stands for a call that never returns.
-/

namespace FreeImagePy

/-- The value `_read_metadata` stores for a tag. -/
inductive TagValue where
  /-- `asstr(tag_str.value)`. -/
  | text (s : String)
  /-- `tag_val[0]` of a one-element `numpy.fromstring`. -/
  | scalar (dtype : MetaDtype) (item : List UInt8)
  /-- `numpy.fromstring(tag_str, dtype)`, each element as its bytes. -/
  | array (dtype : MetaDtype) (items : List (List UInt8))
  deriving DecidableEq, Repr

/-- `asstr` of a bytes object: its latin-1 decoding. -/
def latin1 (b : List UInt8) : String := String.mk (b.map fun c => Char.ofNat c.toNat)

/-- ctypes' `.value` of a `c_char` array: the bytes before the first NUL. -/
def cCharValue (b : List UInt8) : List UInt8 := b.takeWhile (· != 0)

/-- The consecutive `n`-byte chunks of `b`. -/
def chunks (n : Nat) (b : List UInt8) : List (List UInt8) :=
  (List.range (b.length / n)).map fun i => (b.drop (i * n)).take n

/-- `numpy.fromstring(b, dtype)`. -/
def fromstring (b : List UInt8) (dtype : MetaDtype) : Except PyErr (List (List UInt8)) :=
  if b.length % dtype.itemsize ≠ 0 then
    .error ⟨.valueError, "string size must be a multiple of element size"⟩
  else .ok (chunks dtype.itemsize b)

/-- The `tag_val` of a tag of type `tagType` whose payload is `tagStr`. -/
def decodeTag (tagType : Int) (tagStr : List UInt8) : Except PyErr TagValue :=
  if tagType = MetadataDatatype.FIDT_ASCII then .ok (.text (latin1 (cCharValue tagStr)))
  else match MetadataDatatype.dtypes tagType with
    | none => .error ⟨.keyError, toString tagType⟩
    | some dtype => (fromstring tagStr dtype).map fun
      | [v] => .scalar dtype v
      | vals => .array dtype vals

/-- The metadata dict, keyed by `(model_name, tag_name)`, as its items in insertion order. -/
abbrev Metadata := List ((String × String) × TagValue)

/-- `d[k] = v` on a dict: an existing key keeps its place. -/
def dictSet (d : Metadata) (k : String × String) (v : TagValue) : Metadata :=
  if d.any (·.1 == k) then d.map fun p => if p.1 = k then (k, v) else p else d ++ [(k, v)]

def diverged : PyErr := ⟨.diverged, "the loop did not end within the model's fuel"⟩

section Read
variable {σ : Type} (L : Lib σ)

/-- The body of `while more:` for the current tag: its key and its decoded value. The key is
`asstr` of a `c_char_p` result, which ctypes makes a bytes object, or `None` when null. -/
def readTag : FI σ (String × TagValue) := do
  let tag ← getTagCell L
  let keyPtr ← ffi L .getTagKey [.ptr tag]
  let tagName ← (if keyPtr = 0 then pure "None" else latin1 <$> getCString L keyPtr)
  let tagType ← ffi L .getTagType [.ptr tag]
  let byteSize ← ffi L .getTagLength [.ptr tag]
  if byteSize < 0 then
    FI.raise ⟨.valueError, "Array length must be >= 0, not " ++ toString byteSize⟩
  let valuePtr ← ffi L .getTagValue [.ptr tag]
  if valuePtr = 0 then FI.raise ⟨.typeError, "integer expected"⟩
  let tagStr ← peekBytes L valuePtr byteSize.toNat
  let tagVal ← FI.ofExcept (decodeTag tagType tagStr)
  pure (tagName, tagVal)

/-- `while more:` over one model's tags, for at most `fuel` iterations. -/
def tagLoop (modelName : String) (mdhandle : Int) : Nat → Metadata → FI σ Metadata
  | 0, _ => FI.raise diverged
  | fuel + 1, metadata => do
    let (tagName, tagVal) ← readTag L
    let metadata := dictSet metadata (modelName, tagName) tagVal
    let more ← ffi L .findNextMetadata [.ptr mdhandle, .ref]
    if more = 0 then pure metadata else tagLoop modelName mdhandle fuel metadata

/-- `for model_name, number in models:`. -/
def modelLoop (fuel : Nat) (bitmap : Int) : List (String × Int) → Metadata → FI σ Metadata
  | [], metadata => pure metadata
  | (modelName, number) :: rest, metadata => do
    let mdhandle ← ffi L .findFirstMetadata [.int number, .ptr bitmap, .ref]
    if mdhandle = 0 then modelLoop fuel bitmap rest metadata else
    let metadata ← tagLoop L modelName mdhandle fuel metadata
    let _ ← ffi L .findCloseMetadata [.ptr mdhandle]
    modelLoop fuel bitmap rest metadata

/-- `_read_metadata`. -/
def _readMetadata (fuel : Nat) (bitmap : Int) : FI σ Metadata :=
  modelLoop L fuel bitmap models []

end Read

end FreeImagePy
