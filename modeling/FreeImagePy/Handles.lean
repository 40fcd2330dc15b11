import FreeImagePy.Monitor

/-!
# Handle discipline

The handles `freeimage.py` takes from FreeImage: bitmaps from `FreeImage_Load` and
`FreeImage_AllocateT`, pages from `FreeImage_LockPage`, and multi-page sessions from
`FreeImage_OpenMultiBitmap`. The monitor `Held.monitor` holds each handle from the call
that gives it out to the call that takes it back (`FreeImage_Unload`,
`FreeImage_UnlockPage`, `FreeImage_CloseMultiBitmap`), and rejects a call given a handle it
does not hold, a page locked while another is, a page unlocked in another session, and a
session closed while a page is locked. A handle the library gives out twice is held twice.

A computation is disciplined when the monitor accepts each of its runs, starting from no
handles, and each run that ends does so with no handles: whatever each call returns, and
wherever the run raises. A run that used up the model's fuel stands for one that never returns,
which never reaches its `finally` clauses.
-/

namespace FreeImagePy

/-- The entry points that are given no bitmap, page or session. -/
def Fn.neutral : Fn → Bool
  | .getFileType | .getFIFFromFilename | .isLittleEndian | .fifSupportsExportBPP
  | .fifSupportsExportType | .findNextMetadata | .findCloseMetadata | .getTagKey | .getTagType
  | .getTagLength | .getTagValue => true
  | _ => false

/-- The handles a run holds: bitmaps, the locked page with its session, and sessions. -/
structure Held where
  bitmaps : List Int
  page : Option (Int × Int)
  sessions : List Int
  deriving DecidableEq, Repr

namespace Held

def empty : Held := ⟨[], none, []⟩

/-- A handle FreeImage may be given as a bitmap: a held bitmap or the locked page. -/
def Live (h : Held) (d : Int) : Prop := d ∈ h.bitmaps ∨ h.page.map Prod.snd = some d

instance (h : Held) (d : Int) : Decidable (h.Live d) := inferInstanceAs (Decidable (_ ∨ _))

/-- The bitmap a call returned, held unless it is null. -/
def acquire (h : Held) (d : Int) : Held :=
  if d = 0 then h else { h with bitmaps := d :: h.bitmaps }

/-- The session a call returned, held unless it is null. -/
def openSession (h : Held) (s : Int) : Held :=
  if s = 0 then h else { h with sessions := s :: h.sessions }

/-- The page locked in session `s`, held unless it is null. -/
def lock (h : Held) (s d : Int) : Held :=
  if d = 0 then h else { h with page := some (s, d) }

/-- A call given `d` as a bitmap: accepted, and nothing changes, when `d` is live. -/
def use (h : Held) (d : Int) : Option Held := if h.Live d then some h else none

/-- The handles after the call `e`, or `none` when the module may not make it. -/
def step (h : Held) (e : Event) : Option Held :=
  match e.fn, e.args with
  | .load, _ | .allocateT, _ => some (h.acquire e.ret)
  | .unload, [.ptr d] =>
    if d ∈ h.bitmaps then some { h with bitmaps := h.bitmaps.erase d } else none
  | .openMultiBitmap, _ => some (h.openSession e.ret)
  | .getPageCount, [.ptr s] => if s ∈ h.sessions then some h else none
  | .lockPage, [.ptr s, _] =>
    if s ∈ h.sessions ∧ h.page = none then some (h.lock s e.ret) else none
  | .unlockPage, [.ptr s, .ptr d, _] =>
    if h.page = some (s, d) then some { h with page := none } else none
  | .closeMultiBitmap, [.ptr s, _] =>
    if s ∈ h.sessions ∧ h.page = none then some { h with sessions := h.sessions.erase s }
    else none
  | .appendPage, [.ptr s, .ptr d] => if s ∈ h.sessions ∧ d ∈ h.bitmaps then some h else none
  | .save, [_, .ptr d, _, _] | .findFirstMetadata, [_, .ptr d, _] => h.use d
  | .getWidth, [.ptr d] | .getHeight, [.ptr d] | .getImageType, [.ptr d] | .getBPP, [.ptr d]
  | .getPitch, [.ptr d] | .getBits, [.ptr d] | .getPalette, [.ptr d] => h.use d
  | f, _ => if f.neutral then some h else none

def monitor : Monitor Held := ⟨step⟩

variable {h : Held} {f : Fn} {d s r : Int} {a b c : Arg} {args : List Arg}

theorem step_neutral (hf : f.neutral) : monitor.step h ⟨f, args, r⟩ = some h := by
  cases f <;> simp_all [monitor, step, Fn.neutral]

theorem step_use (hf : f ∈ [.getWidth, .getHeight, .getImageType, .getBPP, .getPitch, .getBits,
    .getPalette]) (hd : h.Live d) : monitor.step h ⟨f, [.ptr d], r⟩ = some h := by
  simp only [List.mem_cons, List.mem_singleton, List.not_mem_nil, or_false] at hf
  rcases hf with rfl | rfl | rfl | rfl | rfl | rfl | rfl <;> simp [monitor, step, use, hd]

theorem step_load : monitor.step h ⟨.load, args, d⟩ = some (h.acquire d) := by simp [monitor, step]

theorem step_allocateT : monitor.step h ⟨.allocateT, args, d⟩ = some (h.acquire d) := by
  simp [monitor, step]

theorem step_unload (hd : d ∈ h.bitmaps) :
    monitor.step h ⟨.unload, [.ptr d], r⟩ = some { h with bitmaps := h.bitmaps.erase d } := by
  simp [monitor, step, use, hd]

theorem step_save (hd : h.Live d) : monitor.step h ⟨.save, [a, .ptr d, b, c], r⟩ = some h := by
  simp [monitor, step, use, hd]

theorem step_findFirstMetadata (hd : h.Live d) :
    monitor.step h ⟨.findFirstMetadata, [a, .ptr d, b], r⟩ = some h := by
  simp [monitor, step, use, hd]

theorem step_openMultiBitmap : monitor.step h ⟨.openMultiBitmap, args, s⟩ = some (h.openSession s) := by
  simp [monitor, step]

theorem step_getPageCount (hs : s ∈ h.sessions) : monitor.step h ⟨.getPageCount, [.ptr s], r⟩ = some h := by
  simp [monitor, step, hs]

theorem step_lockPage (hs : s ∈ h.sessions) (hp : h.page = none) :
    monitor.step h ⟨.lockPage, [.ptr s, a], d⟩ = some (h.lock s d) := by
  simp [monitor, step, hs, hp]

theorem step_unlockPage (hp : h.page = some (s, d)) :
    monitor.step h ⟨.unlockPage, [.ptr s, .ptr d, a], r⟩ = some { h with page := none } := by
  simp [monitor, step, hp]

theorem step_closeMultiBitmap (hs : s ∈ h.sessions) (hp : h.page = none) :
    monitor.step h ⟨.closeMultiBitmap, [.ptr s, a], r⟩ = some { h with sessions := h.sessions.erase s } := by
  simp [monitor, step, hs, hp]

theorem step_appendPage (hs : s ∈ h.sessions) (hd : d ∈ h.bitmaps) :
    monitor.step h ⟨.appendPage, [.ptr s, .ptr d], r⟩ = some h := by
  simp [monitor, step, hs, hd]

/-! Each handle given out is held until it is given back, and giving it back restores the
handles held before. -/

theorem mem_acquire (hd : d ≠ 0) : d ∈ (h.acquire d).bitmaps := by simp [acquire, hd]

theorem live_acquire (hd : d ≠ 0) : (h.acquire d).Live d := Or.inl (mem_acquire hd)

theorem acquire_null : h.acquire 0 = h := by simp [acquire]

@[simp] theorem sessions_acquire : (h.acquire d).sessions = h.sessions := by
  unfold acquire; split <;> rfl

@[simp] theorem page_acquire : (h.acquire d).page = h.page := by
  unfold acquire; split <;> rfl

theorem length_acquire (hd : d ≠ 0) : (h.acquire d).bitmaps.length = h.bitmaps.length + 1 := by
  simp [acquire, hd]

@[simp] theorem bitmaps_openSession : (h.openSession s).bitmaps = h.bitmaps := by
  unfold openSession; split <;> rfl

theorem mem_openSession (hs : s ≠ 0) : s ∈ (h.openSession s).sessions := by
  simp [openSession, hs]

theorem page_openSession : (h.openSession s).page = h.page := by
  unfold openSession; split <;> rfl

theorem openSession_null : h.openSession 0 = h := by simp [openSession]

theorem page_lock (hd : d ≠ 0) : (h.lock s d).page = some (s, d) := by simp [lock, hd]

theorem live_lock (hd : d ≠ 0) : (h.lock s d).Live d := Or.inr (by simp [page_lock hd])

theorem lock_null : h.lock s 0 = h := by simp [lock]

theorem release_acquire (hd : d ≠ 0) :
    { h.acquire d with bitmaps := (h.acquire d).bitmaps.erase d } = h := by
  simp [acquire, hd]

theorem close_openSession (hs : s ≠ 0) :
    { h.openSession s with sessions := (h.openSession s).sessions.erase s } = h := by
  simp [openSession, hs]

theorem unlock_lock (hp : h.page = none) (hd : d ≠ 0) : { h.lock s d with page := none } = h := by
  cases h
  simp_all [lock]

end Held

/-! ### What the monitor counts

Each kind of handle is given out by one set of calls and taken back by one call. Along a run
the monitor accepts, each handle is held as many times as it was given out and not yet
taken back, so a run from no handles to no handles takes back each handle exactly as many
times as it was given out. -/

/-- The three kinds of handle. -/
inductive HandleKind where
  | bitmap | page | session
  deriving DecidableEq, Repr

/-- The handle of kind `k` a call gives out: a non-null result of `FreeImage_Load` or
`FreeImage_AllocateT`, of `FreeImage_LockPage`, or of `FreeImage_OpenMultiBitmap`. -/
def Event.gives (e : Event) : HandleKind → Option Int
  | .bitmap => if (e.fn = .load ∨ e.fn = .allocateT) ∧ e.ret ≠ 0 then some e.ret else none
  | .page => if e.fn = .lockPage ∧ e.ret ≠ 0 then some e.ret else none
  | .session => if e.fn = .openMultiBitmap ∧ e.ret ≠ 0 then some e.ret else none

/-- The handle of kind `k` a call takes back. -/
def Event.takes (e : Event) : HandleKind → Option Int
  | .bitmap => match e.fn, e.args with
    | .unload, [.ptr d] => some d
    | _, _ => none
  | .page => match e.fn, e.args with
    | .unlockPage, [_, .ptr d, _] => some d
    | _, _ => none
  | .session => match e.fn, e.args with
    | .closeMultiBitmap, [.ptr s, _] => some s
    | _, _ => none

/-- How many times `h` holds `d` as a handle of kind `k`. -/
def Held.holds (h : Held) : HandleKind → Int → Nat
  | .bitmap, d => h.bitmaps.count d
  | .page, d => if h.page.map Prod.snd = some d then 1 else 0
  | .session, s => h.sessions.count s

/-- How many calls of a trace give out `d` as a handle of kind `k`. -/
def givenOut (t : List Event) (k : HandleKind) (d : Int) : Nat :=
  t.countP fun e => e.gives k = some d

/-- How many calls of a trace take `d` back as a handle of kind `k`. -/
def takenBack (t : List Event) (k : HandleKind) (d : Int) : Nat :=
  t.countP fun e => e.takes k = some d

section Counting
variable {h : Held} {k : HandleKind} {s x d r : Int}

theorem holds_acquire :
    (h.acquire r).holds k d = h.holds k d + if k = .bitmap ∧ r ≠ 0 ∧ r = d then 1 else 0 := by
  unfold Held.acquire
  split_ifs <;> cases k <;> simp_all [Held.holds, List.count_cons]

theorem holds_openSession :
    (h.openSession r).holds k d = h.holds k d + if k = .session ∧ r ≠ 0 ∧ r = d then 1 else 0 := by
  unfold Held.openSession
  split_ifs <;> cases k <;> simp_all [Held.holds, List.count_cons]

theorem holds_lock (hp : h.page = none) :
    (h.lock s r).holds k d = h.holds k d + if k = .page ∧ r ≠ 0 ∧ r = d then 1 else 0 := by
  unfold Held.lock
  split_ifs <;> cases k <;> simp_all [Held.holds]

theorem count_erase_add {l : List Int} (hx : x ∈ l) :
    (l.erase x).count d + (if x = d then 1 else 0) = l.count d := by
  have := List.count_pos_iff.2 hx
  by_cases hd : x = d <;> simp_all [List.count_erase]

theorem gives_neutral {f : Fn} {args : List Arg} (hf : f.neutral) (k : HandleKind) :
    Event.gives ⟨f, args, r⟩ k = none := by
  cases f <;> cases k <;> simp_all [Fn.neutral, Event.gives]

theorem takes_neutral {f : Fn} {args : List Arg} (hf : f.neutral) (k : HandleKind) :
    Event.takes ⟨f, args, r⟩ k = none := by
  cases f <;> cases k <;> simp_all [Fn.neutral, Event.takes]

/-- One accepted call: the handles held afterwards, with the one it takes back, are those held
before, with the one it gives out. -/
theorem holds_step {h' : Held} {e : Event} (hs : Held.monitor.step h e = some h')
    (k : HandleKind) (d : Int) :
    h'.holds k d + (if e.takes k = some d then 1 else 0) =
      h.holds k d + (if e.gives k = some d then 1 else 0) := by
  obtain ⟨f, args, r⟩ := e
  simp only [Held.monitor, Held.step] at hs
  split at hs <;> (try split at hs) <;> (try (simp only [Held.use] at hs; split at hs)) <;>
    cases hs
  all_goals first
    | rw [gives_neutral ‹_›, takes_neutral ‹_›]
    | cases k <;> first
      | simp [Event.gives, Event.takes, holds_acquire, holds_openSession, holds_lock, *]; done
      | simp_all [Event.gives, Event.takes, Held.holds, count_erase_add]

/-- How many times `h` holds `d` as a handle of kind `k`, after the run `t`, with the times
`t` took it back, is how many times it was held before, with the times `t` gave it out. -/
theorem holds_run {h' : Held} {t : List Event} (hr : Held.monitor.run h t = some h')
    (k : HandleKind) (d : Int) :
    h'.holds k d + takenBack t k d = h.holds k d + givenOut t k d := by
  induction t generalizing h with
  | nil =>
    cases hr
    simp [takenBack, givenOut]
  | cons e t ih =>
    obtain ⟨h₁, hs, hr⟩ := Option.bind_eq_some.1 hr
    have hstep := holds_step hs k d
    have hrest := ih hr
    simp only [takenBack, givenOut, List.countP_cons] at hrest ⊢
    split_ifs at hstep ⊢ <;> simp_all <;> omega

end Counting

/-- Every run of `x` from no handles makes only calls the monitor accepts, and every run that
ends does so with no handles. -/
def Disciplined {σ α : Type} (x : FI σ α) : Prop := Settled Held.monitor Held.empty x

/-- In every run of `x` that ends, each handle of each kind is taken back exactly as many times
as it is given out. -/
def Balanced {σ α : Type} (x : FI σ α) : Prop :=
  ∀ w, ∃ new, (x.run w).2.trace = w.trace ++ new ∧
    (diverges (x.run w).1 = false → ∀ k d, takenBack new k d = givenOut new k d)

theorem Disciplined.balanced {σ α : Type} {x : FI σ α} (hx : Disciplined x) : Balanced x := by
  intro w
  obtain ⟨new, _, htr, hrun, hm⟩ := hx w
  refine ⟨new, htr, fun hd k d => ?_⟩
  obtain rfl := hm hd
  have := holds_run hrun k d
  cases k <;> simpa [Held.holds, Held.empty] using this


section Processing
variable {σ : Type} (L : Lib σ) {h : Held} {d : Int}

theorem neutral_quiet (f : Fn) {args : List Arg} (hf : f.neutral) :
    Quiet Held.monitor h (ffi L f args) :=
  Quiet.ffi L fun _ => Held.step_neutral hf

theorem query_quiet (f : Fn) (hf : f ∈ [.getWidth, .getHeight, .getImageType, .getBPP, .getPitch,
    .getBits, .getPalette]) (hd : h.Live d) : Quiet Held.monitor h (ffi L f [.ptr d]) :=
  Quiet.ffi L fun _ => Held.step_use hf hd

theorem getTypeAndShape_quiet (hd : h.Live d) :
    Quiet Held.monitor h (FITypes.getTypeAndShape L d) := by
  simp only [FITypes.getTypeAndShape, FI.pure_bind, FI.raise_bind]
  refine Quiet.bind (query_quiet L .getWidth (by decide) hd) fun _ =>
    Quiet.bind (query_quiet L .getHeight (by decide) hd) fun _ =>
    Quiet.bind (query_quiet L .getImageType (by decide) hd) fun _ => Quiet.unless fun _ => ?_
  split
  · refine Quiet.bind (Quiet.ite (fun _ => Quiet.bind (query_quiet L .getBPP (by decide) hd) fun _ =>
      Quiet.ofExcept) fun _ => ?_) fun _ => Quiet.pure
    split
    · exact Quiet.pure
    · exact Quiet.raise
  · exact Quiet.raise

theorem wrapBitmapBitsInArray_quiet (hd : h.Live d) (shape : List Int) (dtype : DType) :
    Quiet Held.monitor h (_wrapBitmapBitsInArray L d shape dtype) := by
  simp only [_wrapBitmapBitsInArray, FI.pure_bind, FI.raise_bind]
  exact Quiet.bind (query_quiet L .getPitch (by decide) hd) fun _ =>
    Quiet.bind (query_quiet L .getBits (by decide) hd) fun _ => Quiet.unless fun _ => Quiet.unless fun _ => Quiet.unless fun _ => Quiet.unless fun _ =>
      Quiet.pure

theorem swapsChannels_quiet {α : Type} (shape : List α) (dtype : DType) :
    Quiet Held.monitor h (swapsChannels L shape dtype) :=
  Quiet.ite (fun _ => Quiet.bind (neutral_quiet L .isLittleEndian rfl) fun _ => Quiet.pure)
    fun _ => Quiet.pure

theorem viewChannel_quiet (v : View) (k : Nat) : Quiet Held.monitor h (viewChannel L v k) := by
  simp only [viewChannel, FI.pure_bind, FI.raise_bind]
  exact Quiet.unless fun _ => Quiet.silent fun _ => rfl

theorem assignChannel_quiet (v : View) (k : Nat) (vals : List (List UInt8)) :
    Quiet Held.monitor h (assignChannel L v k vals) := by
  simp only [assignChannel, FI.pure_bind, FI.raise_bind]
  exact Quiet.unless fun _ => Quiet.silent fun _ => rfl

theorem arrayFromBitmap_quiet (hd : h.Live d) : Quiet Held.monitor h (_arrayFromBitmap L d) := by
  simp only [_arrayFromBitmap, FI.pure_bind]
  refine Quiet.bind (getTypeAndShape_quiet L hd) fun (_, _) =>
    Quiet.bind (wrapBitmapBitsInArray_quiet L hd _ _) fun _ =>
    Quiet.bind (swapsChannels_quiet L _ _) fun _ => Quiet.ite (fun _ => ?_) fun _ => ?_
  · exact Quiet.bind (viewChannel_quiet L _ _) fun _ => Quiet.bind (viewChannel_quiet L _ _)
      fun _ => Quiet.bind (assignChannel_quiet L _ _ _) fun _ =>
      Quiet.bind (assignChannel_quiet L _ _ _) fun _ => Quiet.silent fun _ => rfl
  · exact Quiet.silent fun _ => rfl

/-- `FreeImage_Unload(bitmap)` of a held bitmap, as the module writes it in a clause. -/
theorem unload_spec {Q : Except PyErr Unit → Held → Prop} (hd : d ∈ h.bitmaps)
    (hQ : ∀ o, Q o { h with bitmaps := h.bitmaps.erase d }) :
    Spec Held.monitor h (do let _ ← ffi L .unload [.ptr d]) Q :=
  Spec.bind <| Spec.ffi L (fun _ he => nomatch he) fun _ =>
    ⟨_, Held.step_unload hd, Spec.pure (hQ _)⟩

/-- `FreeImage_UnlockPage(multibitmap, bitmap, False)` of the locked page. -/
theorem unlockPage_spec {Q : Except PyErr Unit → Held → Prop} {s : Int}
    (hp : h.page = some (s, d)) (hQ : ∀ o, Q o { h with page := none }) :
    Spec Held.monitor h (do let _ ← ffi L .unlockPage [.ptr s, .ptr d, .int 0]) Q :=
  Spec.bind <| Spec.ffi L (fun _ he => nomatch he) fun _ =>
    ⟨_, Held.step_unlockPage hp, Spec.pure (hQ _)⟩

/-- `FreeImage_CloseMultiBitmap(multibitmap, flags)` of a session with no page locked. -/
theorem closeMultiBitmap_spec {Q : Except PyErr Unit → Held → Prop} {s flags : Int}
    (hs : s ∈ h.sessions) (hp : h.page = none)
    (hQ : ∀ o, Q o { h with sessions := h.sessions.erase s })
    (herr : ∀ e, convertArgs 1 [.ptr s, .int flags] = .error e → Q (.error e) h) :
    Spec Held.monitor h (do let _ ← ffi L .closeMultiBitmap [.ptr s, .int flags]) Q :=
  Spec.bind <| Spec.ffi L herr fun _ =>
    ⟨_, Held.step_closeMultiBitmap hs hp, Spec.pure (hQ _)⟩

theorem findFirstMetadata_quiet (hd : h.Live d) (number : Int) :
    Quiet Held.monitor h (ffi L .findFirstMetadata [.int number, .ptr d, .ref]) :=
  Quiet.ffi L fun _ => Held.step_findFirstMetadata hd

theorem readTag_quiet : Quiet Held.monitor h (readTag L) := by
  simp only [readTag, FI.pure_bind, FI.raise_bind]
  exact Quiet.bind (Quiet.getTagCell L) fun _ => Quiet.bind (neutral_quiet L .getTagKey rfl)
    fun _ => Quiet.bind (Quiet.ite (fun _ => Quiet.pure) fun _ => Quiet.silent fun _ => rfl)
    fun _ => Quiet.bind (neutral_quiet L .getTagType rfl) fun _ =>
    Quiet.bind (neutral_quiet L .getTagLength rfl) fun _ => Quiet.unless fun _ =>
    Quiet.bind (neutral_quiet L .getTagValue rfl) fun _ => Quiet.unless fun _ =>
    Quiet.bind (Quiet.peekBytes L _ _) fun _ => Quiet.bind Quiet.ofExcept fun _ => Quiet.pure

theorem tagLoop_quiet (modelName : String) (mdhandle : Int) :
    ∀ fuel metadata, Quiet Held.monitor h (tagLoop L modelName mdhandle fuel metadata)
  | 0, _ => Quiet.raise
  | fuel + 1, _ => Quiet.bind (readTag_quiet L) fun _ =>
    Quiet.bind (neutral_quiet L .findNextMetadata rfl) fun _ =>
    Quiet.ite (fun _ => Quiet.pure) fun _ => tagLoop_quiet modelName mdhandle fuel _

theorem modelLoop_quiet (hd : h.Live d) (fuel : Nat) :
    ∀ models metadata, Quiet Held.monitor h (modelLoop L fuel d models metadata)
  | [], _ => Quiet.pure
  | (_, number) :: rest, _ => Quiet.bind (findFirstMetadata_quiet L hd number) fun _ =>
    Quiet.ite (fun _ => modelLoop_quiet hd fuel rest _) fun _ =>
      Quiet.bind (tagLoop_quiet L _ _ fuel _) fun _ =>
      Quiet.bind (neutral_quiet L .findCloseMetadata rfl) fun _ => modelLoop_quiet hd fuel rest _

theorem readMetadata_quiet (fuel : Nat) (hd : h.Live d) :
    Quiet Held.monitor h (_readMetadata L fuel d) :=
  modelLoop_quiet L hd fuel _ _

theorem installGreyPalette_quiet (hd : h.Live d) (array : NDArray) :
    Quiet Held.monitor h (installGreyPalette L array d) := by
  simp only [installGreyPalette, FI.pure_bind, FI.raise_bind]
  exact Quiet.ite (fun _ => Quiet.bind (query_quiet L .getPalette (by decide) hd) fun _ =>
    Quiet.unless fun _ => Quiet.pokeBytes L _ _) fun _ => Quiet.pure

theorem fillBitmap_quiet (hd : h.Live d) (array : NDArray) :
    Quiet Held.monitor h (fillBitmap L array d) := by
  simp only [fillBitmap, FI.pure_bind]
  refine Quiet.bind (wrapBitmapBitsInArray_quiet L hd _ _) fun _ =>
    Quiet.bind (swapsChannels_quiet L _ _) fun _ => Quiet.ite (fun _ => ?_) fun _ =>
    Quiet.bind (Quiet.silent fun _ => rfl) fun _ => installGreyPalette_quiet L hd array
  exact Quiet.bind Quiet.ofExcept fun _ => Quiet.bind (assignChannel_quiet L _ _ _) fun _ =>
    Quiet.bind Quiet.ofExcept fun _ => Quiet.bind (assignChannel_quiet L _ _ _) fun _ =>
    Quiet.bind Quiet.ofExcept fun _ => Quiet.bind (assignChannel_quiet L _ _ _) fun _ =>
    Quiet.ite (fun _ => Quiet.bind Quiet.ofExcept fun _ =>
      Quiet.bind (assignChannel_quiet L _ _ _) fun _ => installGreyPalette_quiet L hd array)
    fun _ => installGreyPalette_quiet L hd array

/-- The handles after `_array_to_bitmap`: the bitmap it returns besides those held before, or,
when it raises, only those; every run keeps the sessions and the locked page. -/
def Held.afterAlloc (h : Held) : Except PyErr (Int × Int) → Held → Prop
  | .ok (b, _), h' => b ≠ 0 ∧ h' = h.acquire b
  | .error e, h' => (e.kind ≠ .diverged → h' = h) ∧ h'.sessions = h.sessions ∧ h'.page = h.page

theorem arrayToBitmap_spec (array : NDArray) :
    Spec Held.monitor h (_arrayToBitmap L array) h.afterAlloc := by
  simp only [_arrayToBitmap, FI.pure_bind, FI.raise_bind]
  refine Spec.bind_at (Quiet.ite (fun _ => Quiet.pure) fun _ =>
    Quiet.ite (fun _ => Quiet.pure) fun _ => Quiet.raise) (fun _ => ?_) fun _ => ?_
  swap
  · exact ⟨fun _ => rfl, rfl, rfl⟩
  split
  · refine Spec.bind <| Spec.ffi L (fun _ _ => ⟨fun _ => rfl, rfl, rfl⟩) fun b =>
      ⟨h.acquire b, Held.step_allocateT, ?_⟩
    dsimp only
    by_cases hb : b = 0
    · rw [if_pos hb, hb, Held.acquire_null]
      exact Spec.raise ⟨fun _ => rfl, rfl, rfl⟩
    · rw [if_neg hb]
      exact Spec.tryExcept <| Spec.bind_at (fillBitmap_quiet L (Held.live_acquire hb) array)
        (fun _ => Spec.pure ⟨hb, rfl⟩) fun _ =>
          ⟨fun hd => ⟨fun hn => absurd hd hn, Held.sessions_acquire, Held.page_acquire⟩,
            fun _ => unload_spec L (Held.mem_acquire hb) fun o => by
              cases o <;> exact Held.release_acquire hb ▸ ⟨fun _ => rfl, rfl, rfl⟩⟩
  · exact Spec.raise ⟨fun _ => rfl, rfl, rfl⟩

theorem write_settled (array : NDArray) (filename : PyName) (flags : Int) :
    Settled Held.monitor h (write L array filename flags) := by
  simp only [write, FI.pure_bind, FI.raise_bind]
  refine Settled.bind (Quiet.settled Quiet.ofExcept) fun _ => Settled.bind
    (neutral_quiet L .getFIFFromFilename rfl).settled fun _ => Settled.unless fun _ => ?_
  refine Spec.bind <| (arrayToBitmap_spec L array).conseq fun r h' hr => ?_
  rcases r with e | ⟨b, fiType⟩
  · exact fun hd => hr.1 (diverges_error.1 hd)
  obtain ⟨hb, rfl⟩ := hr
  have hd := Held.live_acquire (h := h) hb
  refine Spec.tryFinally_release (Quiet.settled ?_)
    (unload_spec L (Held.mem_acquire hb) fun _ => Held.release_acquire hb)
  exact Quiet.bind (Quiet.ite (fun _ => Quiet.bind (query_quiet L .getBPP (by decide) hd) fun _ =>
      neutral_quiet L .fifSupportsExportBPP rfl) fun _ => neutral_quiet L .fifSupportsExportType rfl)
    fun _ => Quiet.unless fun _ => Quiet.bind (Quiet.ffi L fun _ => Held.step_save hd) fun _ =>
    Quiet.unless fun _ => Quiet.pure

end Processing

/-- A `process_func` of `_process_bitmap` and `_process_multipage`: given a bitmap or a page,
it makes only calls that keep every handle where it is, and may raise at any point. -/
structure BitmapProcess {σ : Type} (L : Lib σ) (α : Type) where
  run : Int → FI σ α
  quiet : ∀ h d, Held.Live h d → Quiet Held.monitor h (run d)

/-- `_array_from_bitmap`, the `process_func` of `read` and `read_multipage`. -/
def arrayFromBitmapProcess {σ : Type} (L : Lib σ) : BitmapProcess L NDArray :=
  ⟨_arrayFromBitmap L, fun _ _ => arrayFromBitmap_quiet L⟩

/-- `_read_metadata`, the `process_func` of `read_metadata` and `read_multipage_metadata`. -/
def readMetadataProcess {σ : Type} (L : Lib σ) (fuel : Nat) : BitmapProcess L Metadata :=
  ⟨_readMetadata L fuel, fun _ _ => readMetadata_quiet L fuel⟩

section Drivers
variable {σ α : Type} (L : Lib σ) (process : BitmapProcess L α) (filename : PyName)
  {h : Held}

theorem processBitmap_settled (flags : Int) :
    Settled Held.monitor h (_processBitmap L filename flags process.run) := by
  simp only [_processBitmap, FI.pure_bind, FI.raise_bind]
  refine Settled.bind (Quiet.settled Quiet.ofExcept) fun _ => Settled.bind
    (neutral_quiet L .getFileType rfl).settled fun _ => Settled.unless fun _ => ?_
  refine Spec.bind <| Spec.ffi L (fun _ _ _ => rfl) fun b => ⟨h.acquire b, Held.step_load, ?_⟩
  dsimp only
  by_cases hb : b = 0
  · rw [if_pos hb, hb, Held.acquire_null]
    exact Quiet.settled Quiet.raise
  · rw [if_neg hb]
    exact Spec.tryFinally_release (process.quiet _ b (Held.live_acquire hb)).settled
      (unload_spec L (Held.mem_acquire hb) fun _ => Held.release_acquire hb)

theorem pageLoop_settled (fn : List UInt8) {mb : Int} (hs : mb ∈ h.sessions)
    (hp : h.page = none) : ∀ pages, Settled Held.monitor h (pageLoop L fn mb process.run pages)
  | [] => Quiet.settled Quiet.pure
  | _ :: rest => by
    simp only [pageLoop, FI.pure_bind, FI.raise_bind]
    refine Spec.bind <| Spec.ffi L (fun _ _ _ => rfl) fun d =>
      ⟨h.lock mb d, Held.step_lockPage hs hp, ?_⟩
    dsimp only
    by_cases hd : d = 0
    · rw [if_pos hd, hd, Held.lock_null]
      exact Quiet.settled Quiet.raise
    · rw [if_neg hd]
      exact Spec.bind_settled (Spec.tryFinally_release
        (process.quiet _ d (Held.live_lock hd)).settled
        (unlockPage_spec L (Held.page_lock hd) fun _ => Held.unlock_lock hp hd))
        fun _ => Settled.bind (pageLoop_settled fn hs hp rest) fun _ => Quiet.settled Quiet.pure

theorem processMultipage_settled (flags : Int) (hp : h.page = none) :
    Settled Held.monitor h (_processMultipage L filename flags process.run) := by
  simp only [_processMultipage, FI.pure_bind, FI.raise_bind]
  refine Settled.bind (Quiet.settled Quiet.ofExcept) fun fn => Settled.bind
    (neutral_quiet L .getFileType rfl).settled fun _ => Settled.unless fun _ => ?_
  refine Spec.bind <| Spec.ffi L (fun _ _ _ => rfl) fun mb =>
    ⟨h.openSession mb, Held.step_openMultiBitmap, ?_⟩
  dsimp only
  by_cases hmb : mb = 0
  · rw [if_pos hmb, hmb, Held.openSession_null]
    exact Quiet.settled Quiet.raise
  · rw [if_neg hmb]
    have hs := Held.mem_openSession (h := h) hmb
    have hp' : (h.openSession mb).page = none := Held.page_openSession.trans hp
    exact Spec.tryFinally_release
      (Settled.bind (Quiet.ffi L fun _ => Held.step_getPageCount hs).settled fun _ =>
        pageLoop_settled L process fn hs hp' _)
      (closeMultiBitmap_spec L hs hp' (fun _ => Held.close_openSession hmb) fun _ he => nomatch he)

end Drivers

theorem handle_discipline {σ α : Type} (L : Lib σ) (process : BitmapProcess L α)
    (filename : PyName) (flags : Int) (fuel : Nat) (array : NDArray) :
    Disciplined (_processBitmap L filename flags process.run) ∧
    Disciplined (_processMultipage L filename flags process.run) ∧
    Disciplined (read L filename flags) ∧ Disciplined (readMetadata L fuel filename) ∧
    Disciplined (readMultipage L filename flags) ∧
    Disciplined (readMultipageMetadata L fuel filename) ∧
    Disciplined (write L array filename flags) :=
  ⟨processBitmap_settled L process filename flags,
    processMultipage_settled L process filename flags rfl,
    processBitmap_settled L (arrayFromBitmapProcess L) filename flags,
    processBitmap_settled L (readMetadataProcess L fuel) filename FIF_LOAD_NOPIXELS,
    processMultipage_settled L (arrayFromBitmapProcess L) filename flags rfl,
    processMultipage_settled L (readMetadataProcess L fuel) filename FIF_LOAD_NOPIXELS rfl,
    write_settled L array filename flags⟩

/-- In every run of the read operations and of `write` that ends, each bitmap, page and session
is released exactly as many times as it is acquired. -/
theorem handles_balanced {σ : Type} (L : Lib σ) (filename : PyName) (flags : Int)
    (fuel : Nat) (array : NDArray) :
    Balanced (read L filename flags) ∧ Balanced (readMetadata L fuel filename) ∧
    Balanced (readMultipage L filename flags) ∧ Balanced (readMultipageMetadata L fuel filename) ∧
    Balanced (write L array filename flags) :=
  ⟨Disciplined.balanced (processBitmap_settled L (arrayFromBitmapProcess L) filename flags),
    Disciplined.balanced (processBitmap_settled L (readMetadataProcess L fuel) filename
      FIF_LOAD_NOPIXELS),
    Disciplined.balanced (processMultipage_settled L (arrayFromBitmapProcess L) filename flags
      rfl),
    Disciplined.balanced (processMultipage_settled L (readMetadataProcess L fuel) filename
      FIF_LOAD_NOPIXELS rfl),
    Disciplined.balanced (write_settled L array filename flags)⟩


/-! ### `write_multipage`

`write_multipage` converts and appends each array, but never unloads the bitmaps it
converted, and it ignores what `FreeImage_AppendPage` and `FreeImage_CloseMultiBitmap`
return. -/

section WriteMultipage
variable {σ : Type} (L : Lib σ) {h : Held}

theorem appendLoop_spec {mb : Int} :
    ∀ (arrays : List NDArray) (h : Held), mb ∈ h.sessions →
      Spec Held.monitor h (appendLoop L mb arrays) fun r h' =>
        h'.sessions = h.sessions ∧ h'.page = h.page ∧
          (r = .ok () → h'.bitmaps.length = h.bitmaps.length + arrays.length)
  | [], _, _ => Spec.pure ⟨rfl, rfl, fun _ => rfl⟩
  | A :: rest, h, hs => by
    simp only [appendLoop]
    refine Spec.bind <| (arrayToBitmap_spec L A).conseq fun r h₁ hr => ?_
    rcases r with e | ⟨b, _⟩
    · exact ⟨hr.2.1, hr.2.2, nofun⟩
    obtain ⟨hb, rfl⟩ := hr
    have hs₁ : mb ∈ (h.acquire b).sessions := by simpa using hs
    refine Spec.bind_at (Quiet.ffi L fun _ => Held.step_appendPage hs₁ (Held.mem_acquire hb))
      (fun _ => (appendLoop_spec rest _ hs₁).conseq fun r h' ⟨hs', hp', hlen⟩ => ?_)
      fun _ => ⟨by simp, by simp, nofun⟩
    refine ⟨by simp [hs'], by simp [hp'], fun hr => ?_⟩
    rw [hlen hr, Held.length_acquire hb, List.length_cons]
    omega

/-- Every run of `write_multipage` keeps each page rule, and one that returns has closed its
session and holds one more bitmap for each array. -/
theorem writeMultipage_spec (arrays : List NDArray) (filename : PyName) (flags : Int)
    (hp : h.page = none) :
    Spec Held.monitor h (writeMultipage L arrays filename flags) fun r h' =>
      h'.page = h.page ∧
        (r = .ok () → h'.sessions = h.sessions ∧
          h'.bitmaps.length = h.bitmaps.length + arrays.length) := by
  simp only [writeMultipage, FI.pure_bind, FI.raise_bind]
  refine Spec.bind_at Quiet.ofExcept (fun _ => ?_) fun _ => ⟨rfl, nofun⟩
  refine Spec.bind_at (neutral_quiet L .getFIFFromFilename rfl)
    (fun _ => Spec.unless ⟨rfl, nofun⟩ fun _ => ?_) fun _ => ⟨rfl, nofun⟩
  refine Spec.bind <| Spec.ffi L (fun _ _ => ⟨rfl, nofun⟩) fun mb =>
    ⟨h.openSession mb, Held.step_openMultiBitmap, ?_⟩
  dsimp only
  by_cases hmb : mb = 0
  · rw [if_pos hmb, hmb, Held.openSession_null]
    exact Spec.raise ⟨rfl, nofun⟩
  rw [if_neg hmb]
  have hs := Held.mem_openSession (h := h) hmb
  refine Spec.tryFinally <| (appendLoop_spec L arrays _ hs).conseq fun r h₁ ⟨hs₁, hp₁, hlen⟩ => ?_
  have hpage : h₁.page = h.page := hp₁.trans Held.page_openSession
  refine ⟨fun hd => ⟨hpage, fun hr => by rw [hr] at hd; cases hd⟩, fun _ => ?_⟩
  refine closeMultiBitmap_spec L (hs₁ ▸ hs) (hpage.trans hp) (fun o => ⟨hpage, fun hr => ?_⟩)
    fun _ _ => ⟨hpage, nofun⟩
  have hr' : r = .ok () := by cases o <;> simp_all
  refine ⟨?_, by simpa using hlen hr'⟩
  simpa [hs₁] using congrArg Held.sessions (Held.close_openSession (h := h) hmb)

/-- A library that answers each entry point `f` with `answer f`, whose memory reads as zeros
and ignores writes. -/
def constLib (answer : Fn → Int) : Lib Unit where
  call f _ s := (answer f, s)
  peek _ _ := 0
  poke _ _ s := s
  cString _ _ := []
  tagCell _ := 0
  littleEndian := true

/-- A library that grants every request of `write_multipage` for a TIFF file and then fails
to write it: `FreeImage_CloseMultiBitmap` returns false. -/
def closeFails : Fn → Int
  | .getFIFFromFilename => 18
  | .openMultiBitmap => 1
  | .allocateT => 2
  | .getPitch => 2
  | .getBits => 16
  | _ => 0

/-- A 1×1 `uint16` image. -/
def pixel16 : NDArray := ⟨.uint16, [1, 1], [[0, 0]], rfl, by decide⟩

/-- The calls `write_multipage([pixel16], b'a')` makes of `constLib closeFails`. -/
def closeFailsTrace : List Event :=
  [⟨.getFIFFromFilename, [.bytes [97]], 18⟩,
    ⟨.openMultiBitmap, [.int 18, .bytes [97], .int 1, .int 0, .int 1, .int 0], 1⟩,
    ⟨.allocateT, [.int 2, .int 1, .int 1, .int 16, .int 0, .int 0, .int 0], 2⟩,
    ⟨.getPitch, [.ptr 2], 2⟩, ⟨.getBits, [.ptr 2], 16⟩,
    ⟨.appendPage, [.ptr 1, .ptr 2], 0⟩, ⟨.closeMultiBitmap, [.ptr 1, .int 0], 0⟩]

theorem writeMultipage_close_fails :
    (writeMultipage (constLib closeFails) [pixel16] (.bytes [97]) 0).run ⟨(), []⟩ =
      (.ok (), ⟨(), closeFailsTrace⟩) ∧
    Held.monitor.run Held.empty closeFailsTrace = some ⟨[2], none, []⟩ :=
  ⟨rfl, by decide⟩

theorem writeMultipage_spec_closeFails :
    Held.empty.page = none ∧
    Spec Held.monitor Held.empty
      (writeMultipage (constLib closeFails) [pixel16] (.bytes [97]) 0)
      fun r h' => h'.page = Held.empty.page ∧ (r = .ok () → h'.sessions = Held.empty.sessions ∧
        h'.bitmaps.length = Held.empty.bitmaps.length + [pixel16].length) :=
  ⟨rfl, writeMultipage_spec (constLib closeFails) [pixel16] (.bytes [97]) 0 rfl⟩

end WriteMultipage

end FreeImagePy
