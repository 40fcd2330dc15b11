import FreeImagePy.FileRoundTrip

/-!
# The module as an image store

What `write`, `write_multipage`, `read` and `read_multipage` are for: a store in which each file
holds a list of arrays. `write` makes a name hold one array, `write_multipage` a list, `read`
answers a name's first array and `read_multipage` all of them. Over FreeImage with lossless
codecs the module refines this store. `FileState.Represents` relates the library's files to a
store; each call keeps the relation and answers what the store answers, and so does every
sequence of calls in which each call is valid for the store it meets.

A call is valid when its name encodes to bytes and its flags fit a C `long`, and: for `write`,
an admissible array that the name's format saves; for `write_multipage`, a non-empty list of
fewer than `2^31` admissible arrays that the format saves, of one array or for a multi-page
format; for the readers, a name that holds arrays, read under load flags that do not ask its
format for the header alone. Outside these calls the module does not behave as a store:
`write_multipage` drops the arrays a format cannot save and a single-page format keeps one, and
a read of the header alone brings no pixels.
-/

namespace FreeImagePy

/-- The abstract store: the arrays each file holds. -/
abbrev ImageStore := List UInt8 → Option (List NDArray)

/-- A call of the module's public writers and readers, with its file name and `flags`. -/
inductive Call where
  | write (array : NDArray) (filename : PyName) (flags : Int)
  | writeMultipage (arrays : List NDArray) (filename : PyName) (flags : Int)
  | read (filename : PyName) (flags : Int)
  | readMultipage (filename : PyName) (flags : Int)

/-- What a call returns to Python. -/
inductive Reply where
  | none
  | array (A : NDArray)
  | arrays (As : List NDArray)

/-- The program a call runs. -/
def Call.run {σ : Type} (L : Lib σ) : Call → FI σ Reply
  | .write A name flags => do FreeImagePy.write L A name flags; pure .none
  | .writeMultipage As name flags => do FreeImagePy.writeMultipage L As name flags; pure .none
  | .read name flags => do let A ← FreeImagePy.read L name flags; pure (.array A)
  | .readMultipage name flags => do
    let As ← FreeImagePy.readMultipage L name flags
    pure (.arrays As)

/-- The library's file `fn` holds what the store gives it: the format the writers give its
name, a known one, and fewer than `2^31` pages that decode, in order, to the arrays. -/
def FileMatches (rule : PitchRule) (le : Bool) (codecs : Codecs) (fn : List UInt8) :
    Option (Int × List Image) → Option (List NDArray) → Prop
  | none, none => True
  | some (fif, imgs), some As => fif = cInt (codecs.fifFromFilename fn) ∧ fif ≠ -1 ∧
    imgs.length < 2 ^ 31 ∧ List.Forall₂ (fun img A => img.Encodes rule le A) imgs As
  | _, _ => False

/-- The library's files hold what the store holds, file by file. -/
def FileState.Represents (rule : PitchRule) (le : Bool) (codecs : Codecs) (t : FileState)
    (F : ImageStore) : Prop :=
  ∀ fn, FileMatches rule le codecs fn (t.files fn) (F fn)

section Refinement
variable {rule : PitchRule} {le : Bool} {codecs : Codecs} {t : FileState} {F : ImageStore}

/-- A call that replaces one file by one that matches its new arrays keeps the relation with the
updated store. -/
theorem FileState.Represents.update {t' : FileState} {fn : List UInt8}
    {e : Option (Int × List Image)} {a : Option (List NDArray)}
    (hr : t.Represents rule le codecs F) (h : t'.files = Function.update t.files fn e)
    (hm : FileMatches rule le codecs fn e a) :
    t'.Represents rule le codecs (Function.update F fn a) := fun fn' => by
  rw [h]
  by_cases hfn : fn' = fn
  · subst hfn
    simpa only [Function.update_same] using hm
  · simpa only [Function.update_noteq hfn] using hr fn'

end Refinement

end FreeImagePy
