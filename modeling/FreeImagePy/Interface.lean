import Mathlib

/-!
# The ctypes boundary of `freeimage.py`

`freeimage.py` drives FreeImage through ctypes: every entry point takes ints, pointers and
byte strings and returns an int or a pointer, and pixel and tag memory is read and written
at raw addresses. A library is any state machine that answers those calls; nothing about
FreeImage's own behaviour is assumed at this level. The Python side is the monad `FI`,
which threads the library state and the trace of the calls made, and ends either with a
value or with a raised exception. The library state survives an exception, so the
`finally` and `except` clauses of the module run on the state the failure left. A run that has
used up the model's fuel stands for a call that never returns: no clause runs after it.

The ctypes conversions are part of the model: a Python int argument travels as a C `int`
(masked to 32 bits, an `ArgumentError` outside the 64-bit range), an entry point absent
from the module's `API` table returns a C `int`, and a pointer wrapped in `c_void_p`
passes unchanged.
-/

namespace FreeImagePy

/-- The exception classes raised by the module, by numpy and by ctypes. `diverged` is not
a Python exception: it marks a run whose loop went past the model's fuel. -/
inductive ExcKind where
  | valueError | typeError | runtimeError | keyError | indexError | argumentError | nameError
  | attributeError | unicodeEncodeError
  | diverged
  deriving DecidableEq, Repr

/-- A raised exception: its class and its message. -/
structure PyErr where
  kind : ExcKind
  msg : String
  deriving DecidableEq, Repr

/-- The outcome of a run that used up the model's fuel, which stands for a run that never
ends. -/
def diverges {α : Type} : Except PyErr α → Bool
  | .ok _ => false
  | .error e => e.kind == .diverged

theorem diverges_error {α : Type} {e : PyErr} :
    diverges (.error e : Except PyErr α) = false ↔ e.kind ≠ .diverged := by
  simp [diverges]

/-- The FreeImage entry points the module calls through `_FI`. -/
inductive Fn where
  | getFileType | getFIFFromFilename | load | unload
  | getWidth | getHeight | getImageType | getBPP | getPitch | getBits | getPalette
  | isLittleEndian
  | openMultiBitmap | getPageCount | lockPage | unlockPage | closeMultiBitmap | appendPage
  | allocateT | fifSupportsExportBPP | fifSupportsExportType | save
  | findFirstMetadata | findNextMetadata | findCloseMetadata
  | getTagKey | getTagType | getTagLength | getTagValue
  deriving DecidableEq, Repr

/-- The `API` table: the entry points whose `restype` is a pointer. -/
def Fn.returnsPointer : Fn → Bool
  | .allocateT | .findFirstMetadata | .getBits | .getPalette | .getTagKey | .getTagValue
  | .load | .lockPage | .openMultiBitmap => true
  | _ => false

/-- A ctypes argument: a Python int, a `c_void_p`, a bytes object, or `byref(tag)`. -/
inductive Arg where
  | int (n : Int)
  | ptr (p : Int)
  | bytes (b : List UInt8)
  | ref
  deriving DecidableEq, Repr

/-- ctypes passes a Python int as a C `int`: its value is masked to 32 bits. -/
def cInt (n : Int) : Int := n.bmod (2 ^ 32)

/-- ctypes' `ConvParam` accepts an int that fits an unsigned or a signed C `long`. -/
def fitsLong (n : Int) : Bool := decide (-2 ^ 63 ≤ n ∧ n < 2 ^ 64)

def overflowError (pos : Nat) : PyErr :=
  ⟨.argumentError, "argument " ++ toString pos ++
    ": <class 'OverflowError'>: int too long to convert"⟩

/-- The arguments as the C function receives them, or the `ArgumentError` of the first int
ctypes cannot convert; positions count from 1. -/
def convertArgs : Nat → List Arg → Except PyErr (List Arg)
  | _, [] => .ok []
  | pos, .int n :: rest =>
    if fitsLong n then (convertArgs (pos + 1) rest).map (.int (cInt n) :: ·)
    else .error (overflowError pos)
  | pos, a :: rest => (convertArgs (pos + 1) rest).map (a :: ·)

/-- What the C function receives for one argument that converts. -/
def Arg.conv : Arg → Arg
  | .int n => .int (cInt n)
  | a => a

/-- Conversion changes ints only, and each in place. -/
theorem convertArgs_ok {pos : Nat} {args cargs : List Arg} (h : convertArgs pos args = .ok cargs) :
    cargs = args.map Arg.conv := by
  induction args generalizing pos cargs with
  | nil => simpa [convertArgs, eq_comm] using h
  | cons a rest ih =>
    have hrest {b : Arg} (hb : (convertArgs (pos + 1) rest).map (b :: ·) = .ok cargs) :
        cargs = b :: rest.map Arg.conv := by
      cases hr : convertArgs (pos + 1) rest <;> simp only [hr, Except.map, reduceCtorEq,
        Except.ok.injEq] at hb
      rw [← hb, ih hr]
    cases a with
    | int n =>
      simp only [convertArgs] at h
      split at h
      · exact hrest h
      · cases h
    | _ => exact hrest h

/-- An int of `[0, 2^31)` passes through ctypes' `c_int` unchanged. -/
theorem cInt_of_lt {n : Int} (h₀ : 0 ≤ n) (h₁ : n < 2 ^ 31) : cInt n = n := by
  have h : n % ((2 ^ 32 : Nat) : Int) = n := Int.emod_eq_of_lt h₀ (by omega)
  rw [cInt, Int.bmod_pos _ _ (by rw [h]; omega), h]

theorem convertArgs_of_lt {pos : Nat} {args : List Arg}
    (h : ∀ n, Arg.int n ∈ args → 0 ≤ n ∧ n < 2 ^ 31) : convertArgs pos args = .ok args := by
  induction args generalizing pos with
  | nil => rfl
  | cons a rest ih =>
    have hr : convertArgs (pos + 1) rest = .ok rest := ih fun n hn => h n (.tail _ hn)
    cases a with
    | int n =>
      obtain ⟨h₀, h₁⟩ := h n (.head _)
      rw [convertArgs, if_pos (by simp only [fitsLong, decide_eq_true_eq]; omega), hr,
        cInt_of_lt h₀ h₁]
      rfl
    | _ => simp only [convertArgs, hr]; rfl

/-- A `c_int` value lies in `[-2^31, 2^31)`. -/
theorem cInt_bounds (n : Int) : -2 ^ 31 ≤ cInt n ∧ cInt n < 2 ^ 31 := by
  have h₁ := Int.le_bmod (x := n) (m := 2 ^ 32) (by norm_num)
  have h₂ := Int.bmod_lt (x := n) (m := 2 ^ 32) (by norm_num)
  unfold cInt
  norm_num at h₁ h₂ ⊢
  omega

theorem cInt_cInt (n : Int) : cInt (cInt n) = cInt n := Int.bmod_bmod

theorem fitsLong_of_cInt {n : Int} (h : cInt n = n) : fitsLong n = true := by
  have := cInt_bounds n
  rw [h] at this
  simp only [fitsLong, decide_eq_true_eq]
  omega

/-- Arguments whose ints all fit a C `long` convert, each int to its `c_int` value. -/
theorem convertArgs_conv {pos : Nat} {args : List Arg}
    (h : ∀ n, Arg.int n ∈ args → fitsLong n = true) :
    convertArgs pos args = .ok (args.map Arg.conv) := by
  induction args generalizing pos with
  | nil => rfl
  | cons a rest ih =>
    have hr : convertArgs (pos + 1) rest = .ok (rest.map Arg.conv) :=
      ih fun n hn => h n (.tail _ hn)
    cases a with
    | int n =>
      rw [convertArgs, if_pos (h n (.head _)), hr]
      rfl
    | _ => simp only [convertArgs, hr]; rfl

/-- One call as the library saw it: the entry point, the converted arguments, and the value
Python got back. -/
structure Event where
  fn : Fn
  args : List Arg
  ret : Int
  deriving DecidableEq, Repr

/-- A FreeImage library: a state machine answering the entry points, with the process
memory that numpy and ctypes read and write at raw addresses. -/
structure Lib (σ : Type) where
  call : Fn → List Arg → σ → Int × σ
  peek : σ → Int → UInt8
  poke : Int → UInt8 → σ → σ
  /-- The bytes ctypes copies for a `c_char_p` result: the C string at a pointer. -/
  cString : σ → Int → List UInt8
  /-- The `c_void_p` cell `tag` that the metadata iteration fills through `byref`. -/
  tagCell : σ → Int
  /-- The byte order of the host, in which numpy lays out native values. -/
  littleEndian : Bool

structure World (σ : Type) where
  lib : σ
  trace : List Event

/-- A computation of the Python layer. -/
structure FI (σ α : Type) where
  run : World σ → Except PyErr α × World σ

namespace FI
variable {σ α β : Type}

protected def pure (a : α) : FI σ α := ⟨fun w => (.ok a, w)⟩

protected def bind (x : FI σ α) (f : α → FI σ β) : FI σ β := ⟨fun w =>
  match x.run w with
  | (.ok a, w') => (f a).run w'
  | (.error e, w') => (.error e, w')⟩

instance : Monad (FI σ) where
  pure := FI.pure
  bind := FI.bind

@[simp] theorem run_pure (a : α) (w : World σ) : (pure a : FI σ α).run w = (.ok a, w) := rfl

@[simp] theorem run_bind (x : FI σ α) (f : α → FI σ β) (w : World σ) :
    (x >>= f).run w = match x.run w with
      | (.ok a, w') => (f a).run w'
      | (.error e, w') => (.error e, w') := rfl

def raise (e : PyErr) : FI σ α := ⟨fun w => (.error e, w)⟩

@[simp] theorem run_raise (e : PyErr) (w : World σ) :
    (raise e : FI σ α).run w = (.error e, w) := rfl

@[simp] theorem pure_bind (a : α) (f : α → FI σ β) : pure a >>= f = f a := rfl

@[simp] theorem raise_bind (e : PyErr) (f : α → FI σ β) : raise e >>= f = raise e := rfl

/-- A pure step that may raise. -/
def ofExcept : Except PyErr α → FI σ α
  | .ok a => FI.pure a
  | .error e => raise e

@[simp] theorem ofExcept_ok (a : α) : (ofExcept (.ok a) : FI σ α) = pure a := rfl

/-- `try: body finally: final`; an exception of `final` replaces the body's outcome, and a
body that never ends never reaches `final`. -/
def tryFinally (body : FI σ α) (final : FI σ Unit) : FI σ α := ⟨fun w =>
  match body.run w with
  | (r, w') => if diverges r then (r, w') else match final.run w' with
    | (.ok (), w'') => (r, w'')
    | (.error e, w'') => (.error e, w'')⟩

/-- `try: body except: cleanup; raise`. -/
def tryExcept (body : FI σ α) (cleanup : FI σ Unit) : FI σ α := ⟨fun w =>
  match body.run w with
  | (.ok a, w') => (.ok a, w')
  | (.error e, w') => if e.kind = ExcKind.diverged then (.error e, w') else match cleanup.run w' with
    | (.ok (), w'') => (.error e, w'')
    | (.error e', w'') => (.error e', w'')⟩

theorem run_tryFinally (body : FI σ α) (final : FI σ Unit) (w : World σ) :
    (tryFinally body final).run w = if diverges (body.run w).1 then body.run w else
      ((match (final.run (body.run w).2).1 with
        | .ok () => (body.run w).1
        | .error e => .error e), (final.run (body.run w).2).2) := by
  show (if diverges (body.run w).1 then ((body.run w).1, (body.run w).2) else
    match final.run (body.run w).2 with
    | (.ok (), w'') => ((body.run w).1, w'')
    | (.error e, w'') => (.error e, w'')) = _
  split
  · rfl
  · rcases final.run (body.run w).2 with ⟨_ | _, w''⟩ <;> rfl

theorem run_tryExcept (body : FI σ α) (cleanup : FI σ Unit) (w : World σ) :
    (tryExcept body cleanup).run w = match body.run w with
      | (.ok a, w') => (.ok a, w')
      | (.error e, w') => if e.kind = ExcKind.diverged then (.error e, w') else
        ((match (cleanup.run w').1 with
          | .ok () => .error e
          | .error e' => .error e'), (cleanup.run w').2) := by
  show (match body.run w with
    | (.ok a, w') => ((.ok a : Except PyErr α), w')
    | (.error e, w') => if e.kind = ExcKind.diverged then (.error e, w') else
      match cleanup.run w' with
      | (.ok (), w'') => (.error e, w'')
      | (.error e', w'') => (.error e', w'')) = _
  rcases body.run w with ⟨_ | a, w'⟩
  · dsimp only
    split
    · rfl
    · rcases cleanup.run w' with ⟨_ | _, w''⟩ <;> rfl
  · rfl

end FI

section Ops
variable {σ : Type} (L : Lib σ)

/-- A call through `_FI`: convert the arguments, call, convert the result, and record it. -/
def ffi (f : Fn) (args : List Arg) : FI σ Int := ⟨fun w =>
  match convertArgs 1 args with
  | .error e => (.error e, w)
  | .ok cargs =>
    let r := L.call f cargs w.lib
    let ret := if f.returnsPointer then r.1 else cInt r.1
    (.ok ret, ⟨r.2, w.trace ++ [⟨f, cargs, ret⟩]⟩)⟩

/-- The `n` bytes at address `a`. -/
def readBytes (s : σ) (a : Int) (n : Nat) : List UInt8 :=
  (List.range n).map fun k : Nat => L.peek s (a + (k : Int))

def writeBytes : Int → List UInt8 → σ → σ
  | _, [], s => s
  | a, b :: bs, s => writeBytes (a + 1) bs (L.poke a b s)

/-- `(c_char * n).from_address(a)`, read in full. -/
def peekBytes (a : Int) (n : Nat) : FI σ (List UInt8) :=
  ⟨fun w => (.ok (readBytes L w.lib a n), w)⟩

/-- `ctypes.memmove(a, bs, len(bs))`, and every numpy store of an element. -/
def pokeBytes (a : Int) (bs : List UInt8) : FI σ Unit :=
  ⟨fun w => (.ok (), { w with lib := writeBytes L a bs w.lib })⟩

def getTagCell : FI σ Int := ⟨fun w => (.ok (L.tagCell w.lib), w)⟩

def getCString (p : Int) : FI σ (List UInt8) := ⟨fun w => (.ok (L.cString w.lib p), w)⟩

@[simp] theorem readBytes_length (s : σ) (a : Int) (n : Nat) :
    (readBytes L s a n).length = n := by simp [readBytes]

end Ops

/-- Python 3's `'%s' % b` for a bytes object `b`: its repr. -/
def escapeByte (quote c : UInt8) : String :=
  if c = quote ∨ c = 92 then "\\" ++ (Char.ofNat c.toNat).toString
  else if c = 9 then "\\t"
  else if c = 10 then "\\n"
  else if c = 13 then "\\r"
  else if c < 32 ∨ 127 ≤ c then
    "\\x" ++ (Nat.digitChar (c.toNat / 16)).toString ++ (Nat.digitChar (c.toNat % 16)).toString
  else (Char.ofNat c.toNat).toString

def bytesRepr (b : List UInt8) : String :=
  let quote : UInt8 := if b.contains 39 && !b.contains 34 then 34 else 39
  let q := (Char.ofNat quote.toNat).toString
  "b" ++ q ++ String.join (b.map (escapeByte quote)) ++ q

/-- A file name as the module's callers pass it: a `bytes` object, or a `str`. -/
inductive PyName where
  | bytes (b : List UInt8)
  | str (s : String)
  deriving DecidableEq, Repr

/-- `\\u%04x` or `\\U%08x`: how a `UnicodeEncodeError` shows a character past U+00FF. -/
def charEscape (c : Char) : String :=
  let digits := Nat.toDigits 16 c.toNat
  if c.toNat ≤ 0xffff then "\\u" ++ String.mk (List.replicate (4 - digits.length) '0' ++ digits)
  else "\\U" ++ String.mk (List.replicate (8 - digits.length) '0' ++ digits)

/-- The latin-1 codec's `UnicodeEncodeError` for the `n` characters of `cs` from position
`start` that it cannot encode. -/
def latin1Error (cs : List Char) (start n : Nat) : PyErr :=
  ⟨.unicodeEncodeError, "'latin-1' codec can't encode " ++
    (if n = 1 then "character '" ++ charEscape (cs.getD start ' ') ++ "' in position " ++
      toString start
    else "characters in position " ++ toString start ++ "-" ++ toString (start + n - 1)) ++
    ": ordinal not in range(256)"⟩

/-- `numpy.compat.asbytes`: a `bytes` name as it is, and a `str` name encoded as latin-1, which
raises `UnicodeEncodeError` for the first run of characters past U+00FF. -/
def asbytes : PyName → Except PyErr (List UInt8)
  | .bytes b => .ok b
  | .str s =>
    let start := s.data.findIdx fun c => 255 < c.toNat
    if start < s.data.length then
      .error (latin1Error s.data start
        ((s.data.drop start).takeWhile fun c => 255 < c.toNat).length)
    else .ok (s.data.map fun c => c.toNat.toUInt8)

@[simp] theorem asbytes_bytes (b : List UInt8) : asbytes (.bytes b) = .ok b := rfl

end FreeImagePy
