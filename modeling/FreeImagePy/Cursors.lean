import FreeImagePy.Handles

/-!
# Metadata cursors

`_read_metadata` opens one cursor per metadata model with `FreeImage_FindFirstMetadata`,
walks the model's tags with `FreeImage_FindNextMetadata`, and passes the cursor to
`FreeImage_FindCloseMetadata` after the `while more:` loop. The close is not in a `finally`
clause, so a tag that fails to decode skips it. The cursor monitor tracks the open cursors:
it accepts a step or a close only of an open cursor, so a cursor is closed at most once.
Over any library, a run that returns has closed every cursor it opened, and a run that
raises leaves at most one open; `readMetadata_leaks_cursor` is a run that leaves one.
-/

namespace FreeImagePy

namespace Cursor

/-- The step of the monitor on the open cursors, newest first. -/
def step (cs : List Int) (e : Event) : Option (List Int) :=
  match e.fn, e.args with
  | .findFirstMetadata, _ => some (if e.ret = 0 then cs else e.ret :: cs)
  | .findNextMetadata, .ptr c :: _ | .findCloseMetadata, [.ptr c] =>
    if c ∈ cs then some (if e.fn = .findCloseMetadata then cs.erase c else cs) else none
  | .findNextMetadata, _ | .findCloseMetadata, _ => none
  | _, _ => some cs

def monitor : Monitor (List Int) := ⟨step⟩

variable {cs : List Int}

theorem step_findFirstMetadata {args : List Arg} {r : Int} :
    monitor.step cs ⟨.findFirstMetadata, args, r⟩ = some (if r = 0 then cs else r :: cs) := rfl

theorem step_findNextMetadata {c r : Int} (hc : c ∈ cs) :
    monitor.step cs ⟨.findNextMetadata, [.ptr c, .ref], r⟩ = some cs := if_pos hc

theorem step_findCloseMetadata {c r : Int} (hc : c ∈ cs) :
    monitor.step cs ⟨.findCloseMetadata, [.ptr c], r⟩ = some (cs.erase c) := if_pos hc

end Cursor

section Read
variable {σ : Type} (L : Lib σ) {cs : List Int}

theorem readTag_keeps_cursors : Quiet Cursor.monitor cs (readTag L) := by
  simp only [readTag, FI.pure_bind, FI.raise_bind]
  exact Quiet.bind (Quiet.getTagCell L) fun _ => Quiet.bind (Quiet.ffi L fun _ => rfl)
    fun _ => Quiet.bind (Quiet.ite (fun _ => Quiet.pure) fun _ => Quiet.silent fun _ => rfl)
    fun _ => Quiet.bind (Quiet.ffi L fun _ => rfl) fun _ =>
    Quiet.bind (Quiet.ffi L fun _ => rfl) fun _ => Quiet.unless fun _ =>
    Quiet.bind (Quiet.ffi L fun _ => rfl) fun _ => Quiet.unless fun _ =>
    Quiet.bind (Quiet.peekBytes L _ _) fun _ => Quiet.bind Quiet.ofExcept fun _ => Quiet.pure

theorem tagLoop_keeps_cursors (modelName : String) {mdhandle : Int} (hc : mdhandle ∈ cs) :
    ∀ fuel metadata, Quiet Cursor.monitor cs (tagLoop L modelName mdhandle fuel metadata)
  | 0, _ => Quiet.raise
  | fuel + 1, _ => Quiet.bind (readTag_keeps_cursors L) fun _ =>
    Quiet.bind (Quiet.ffi L fun _ => Cursor.step_findNextMetadata hc) fun _ =>
    Quiet.ite (fun _ => Quiet.pure) fun _ => tagLoop_keeps_cursors modelName hc fuel _

/-- The cursors a run of `_read_metadata` leaves open: none when it returns, at most the one of
the model it was reading when it raises. -/
def Cursor.AfterRead : Except PyErr Metadata → List Int → Prop
  | .ok _, cs => cs = []
  | .error _, cs => cs.length ≤ 1

theorem modelLoop_cursors (fuel : Nat) (bitmap : Int) :
    ∀ models metadata, Spec Cursor.monitor [] (modelLoop L fuel bitmap models metadata)
      Cursor.AfterRead
  | [], _ => Spec.pure rfl
  | (_, number) :: rest, _ => by
    refine Spec.bind <| Spec.ffi L (fun _ _ => Nat.zero_le 1) fun c =>
      ⟨_, Cursor.step_findFirstMetadata, ?_⟩
    dsimp only
    by_cases hc : c = 0
    · rw [if_pos hc, if_pos hc]
      exact modelLoop_cursors fuel bitmap rest _
    rw [if_neg hc, if_neg hc]
    refine Spec.bind_at (tagLoop_keeps_cursors L _ (List.mem_singleton_self c) fuel _)
      (fun _ => ?_) fun _ => ?_
    swap
    · exact le_refl 1
    refine Spec.bind <| Spec.ffi L (fun _ h => nomatch h) fun _ => ⟨[], ?_, ?_⟩
    · exact (Cursor.step_findCloseMetadata (List.mem_singleton_self c)).trans
        (by rw [List.erase_cons_head])
    exact modelLoop_cursors fuel bitmap rest _

/-- Over any library, `_read_metadata` closes only open cursors, each once; a run that returns
has closed every cursor it opened, and a run that raises leaves at most one open. -/
theorem readMetadata_cursors (fuel : Nat) (bitmap : Int) :
    Spec Cursor.monitor [] (_readMetadata L fuel bitmap) Cursor.AfterRead :=
  modelLoop_cursors L fuel bitmap _ _

end Read

/-- A library whose first metadata model holds one tag, of the unregistered type 15, behind
cursor 5. -/
def unknownTagType : Fn → Int
  | .findFirstMetadata => 5
  | .getTagType => 15
  | .getTagValue => 16
  | _ => 0

/-- `_read_metadata` raises `KeyError(15)` for that tag and never closes cursor 5. -/
theorem readMetadata_leaks_cursor :
    ((_readMetadata (constLib unknownTagType) 1 7).run ⟨(), []⟩).1 = .error ⟨.keyError, "15"⟩ ∧
    Cursor.monitor.run [] ((_readMetadata (constLib unknownTagType) 1 7).run ⟨(), []⟩).2.trace =
      some [5] :=
  ⟨rfl, rfl⟩

end FreeImagePy
