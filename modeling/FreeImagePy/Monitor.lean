import FreeImagePy.Files

/-!
# Monitors over the call trace

A monitor reads the trace of calls a run makes and either accepts it, in some state, or
rejects it. `Spec mon m x Q` says that every run of `x`, from any library state and any
earlier trace, appends only events the monitor accepts from state `m`, and ends in a
monitor state satisfying `Q` of the outcome. The library is arbitrary, so each call may
return any value. The rules are stated backwards, one per combinator of the module,
including its `try: ... finally:` and bare `except: ...; raise` brackets, so that a proof
follows the code from its first statement to its last. `Quiet mon m x` says that `x`
leaves the monitor in state `m` whatever its outcome, and `Settled mon m x` says so of the
runs that end: a run that used up the model's fuel never reaches a `finally` clause.
-/

namespace FreeImagePy

/-- A safety monitor over call traces: a partial step on a state. -/
structure Monitor (M : Type) where
  step : M → Event → Option M

namespace Monitor
variable {M : Type} (mon : Monitor M)

def run : M → List Event → Option M
  | m, [] => some m
  | m, e :: es => (mon.step m e).bind (run · es)

theorem run_append (m : M) (a b : List Event) :
    mon.run m (a ++ b) = (mon.run m a).bind (mon.run · b) := by
  induction a generalizing m with
  | nil => rfl
  | cons e es ih => cases h : mon.step m e <;> simp [run, h, ih]

theorem run_singleton (m : M) (e : Event) : mon.run m [e] = mon.step m e := by
  cases h : mon.step m e <;> simp [run, h]

end Monitor

section Spec
variable {σ M α β : Type} {mon : Monitor M} {m : M} {Q : Except PyErr α → M → Prop}

variable (mon) in
/-- Every run of `x` from monitor state `m` appends events the monitor accepts and ends in a
state satisfying `Q` of the outcome. -/
def Spec (m : M) (x : FI σ α) (Q : Except PyErr α → M → Prop) : Prop :=
  ∀ w, ∃ new m', (x.run w).2.trace = w.trace ++ new ∧ mon.run m new = some m' ∧
    Q (x.run w).1 m'

theorem Spec.conseq {x : FI σ α} {Q' : Except PyErr α → M → Prop} (h : Spec mon m x Q)
    (hq : ∀ r m', Q r m' → Q' r m') : Spec mon m x Q' := fun w =>
  let ⟨new, m', h1, h2, h3⟩ := h w
  ⟨new, m', h1, h2, hq _ _ h3⟩

/-- A computation that calls nothing keeps the monitor where it is. -/
theorem Spec.silent {x : FI σ α} (hx : ∀ w, (x.run w).2.trace = w.trace) (hq : ∀ r, Q r m) :
    Spec mon m x Q := fun w => ⟨[], m, by simp [hx], rfl, hq _⟩

theorem Spec.pure {a : α} (h : Q (.ok a) m) : Spec mon m (pure a : FI σ α) Q :=
  fun _ => ⟨[], m, by simp, rfl, h⟩

theorem Spec.raise {e : PyErr} (h : Q (.error e) m) : Spec mon m (FI.raise e : FI σ α) Q :=
  fun _ => ⟨[], m, by simp, rfl, h⟩

theorem Spec.ofExcept {r : Except PyErr α} (h : Q r m) : Spec mon m (FI.ofExcept r : FI σ α) Q := by
  cases r with
  | ok a => exact Spec.pure h
  | error e => exact Spec.raise h

theorem Spec.bind {x : FI σ α} {f : α → FI σ β} {Q : Except PyErr β → M → Prop}
    (h : Spec mon m x fun r m' => match r with
      | .ok a => Spec mon m' (f a) Q
      | .error e => Q (.error e) m') : Spec mon m (x >>= f) Q := by
  intro w
  obtain ⟨new, m', htr, hrun, hR⟩ := h w
  simp only [FI.run_bind]
  rcases hxr : x.run w with ⟨_ | a, w'⟩ <;> rw [hxr] at htr hR
  · exact ⟨new, m', htr, hrun, hR⟩
  · obtain ⟨new', m'', htr', hrun', hQ⟩ := hR w'
    refine ⟨new ++ new', m'', by rw [htr', htr, List.append_assoc], ?_, hQ⟩
    rw [Monitor.run_append, hrun]
    exact hrun'

theorem Spec.ite {c : Prop} [Decidable c] {x y : FI σ α} (hx : c → Spec mon m x Q)
    (hy : ¬c → Spec mon m y Q) : Spec mon m (if c then x else y) Q := by
  split
  · exact hx ‹_›
  · exact hy ‹_›

/-- A call: the monitor sees the arguments as ctypes converted them and any return value;
a failed conversion raises before the call. -/
theorem Spec.ffi (L : Lib σ) {f : Fn} {args : List Arg} {Q : Except PyErr Int → M → Prop}
    (herr : ∀ e, convertArgs 1 args = .error e → Q (.error e) m)
    (hok : ∀ r, ∃ m', mon.step m ⟨f, args.map Arg.conv, r⟩ = some m' ∧ Q (.ok r) m') :
    Spec mon m (FreeImagePy.ffi L f args) Q := by
  intro w
  simp only [FreeImagePy.ffi]
  split
  · exact ⟨[], m, by simp, rfl, herr _ ‹_›⟩
  · rename_i cargs hc
    obtain rfl := convertArgs_ok hc
    obtain ⟨m', hs, hq⟩ := hok _
    exact ⟨[_], m', rfl, by rw [Monitor.run_singleton]; exact hs, hq⟩

/-- `try: body finally: final`: the finalizer runs from wherever the body left the monitor,
unless the body never ends, and its own exception, if any, replaces the body's outcome. -/
theorem Spec.tryFinally {body : FI σ α} {final : FI σ Unit}
    (h : Spec mon m body fun r m' => (diverges r = true → Q r m') ∧
      (diverges r = false → Spec mon m' final fun o => Q (match o with
        | .ok () => r
        | .error e => .error e))) :
    Spec mon m (FI.tryFinally body final) Q := by
  intro w
  obtain ⟨new, m', htr, hrun, hd, hR⟩ := h w
  rw [FI.run_tryFinally]
  cases hdiv : diverges (body.run w).1
  · obtain ⟨new', m'', htr', hrun', hQ⟩ := hR hdiv (body.run w).2
    refine ⟨new ++ new', m'', ?_, by rw [Monitor.run_append, hrun]; exact hrun', hQ⟩
    rw [if_neg Bool.false_ne_true, htr', htr, List.append_assoc]
  · rw [if_pos rfl]
    exact ⟨new, m', htr, hrun, hd hdiv⟩

/-- `try: body except: cleanup; raise`: the cleanup runs only after an exception of a run
that ends, which is raised again unless the cleanup raises its own. -/
theorem Spec.tryExcept {body : FI σ α} {cleanup : FI σ Unit}
    (h : Spec mon m body fun r m' => match r with
      | .ok a => Q (.ok a) m'
      | .error e => (e.kind = .diverged → Q (.error e) m') ∧
        (e.kind ≠ .diverged → Spec mon m' cleanup fun o => Q (match o with
          | .ok () => .error e
          | .error e' => .error e'))) :
    Spec mon m (FI.tryExcept body cleanup) Q := by
  intro w
  obtain ⟨new, m', htr, hrun, hR⟩ := h w
  rw [FI.run_tryExcept]
  rcases hbr : body.run w with ⟨_ | a, w'⟩ <;> rw [hbr] at htr hR
  · dsimp only
    split
    · exact ⟨new, m', htr, hrun, hR.1 ‹_›⟩
    · obtain ⟨new', m'', htr', hrun', hQ⟩ := hR.2 ‹_› w'
      refine ⟨new ++ new', m'', ?_, by rw [Monitor.run_append, hrun]; exact hrun', hQ⟩
      rw [htr', htr, List.append_assoc]
  · exact ⟨new, m', htr, hrun, hR⟩

/-- `if c: raise e`, then the rest of the block. -/
theorem Spec.unless {c : Prop} [Decidable c] {e : PyErr} {x : FI σ α} (he : Q (.error e) m)
    (hx : ¬c → Spec mon m x Q) : Spec mon m (if c then FI.raise e else x) Q :=
  Spec.ite (fun _ => Spec.raise he) hx

/-- A computation that ends in state `m'` whatever its outcome, then a continuation from
there. -/
theorem Spec.bind_at {m' : M} {x : FI σ α} {f : α → FI σ β} {Q : Except PyErr β → M → Prop}
    (hx : Spec mon m x fun _ => (· = m')) (hf : ∀ a, Spec mon m' (f a) Q)
    (he : ∀ e, Q (.error e) m') : Spec mon m (x >>= f) Q :=
  Spec.bind <| hx.conseq fun r _ hm => by
    subst hm
    cases r with
    | ok a => exact hf a
    | error e => exact he e

variable (mon) in
/-- `x` leaves the monitor in state `m`, whatever its outcome. -/
def Quiet (m : M) (x : FI σ α) : Prop := Spec mon m x fun _ => (· = m)

theorem Quiet.bind {x : FI σ α} {f : α → FI σ β} (hx : Quiet mon m x)
    (hf : ∀ a, Quiet mon m (f a)) : Quiet mon m (x >>= f) :=
  Spec.bind_at hx hf fun _ => rfl

theorem Quiet.pure {a : α} : Quiet mon m (pure a : FI σ α) := Spec.pure rfl

theorem Quiet.raise {e : PyErr} : Quiet mon m (FI.raise e : FI σ α) := Spec.raise rfl

theorem Quiet.ofExcept {r : Except PyErr α} : Quiet mon m (FI.ofExcept r : FI σ α) :=
  Spec.ofExcept rfl

theorem Quiet.silent {x : FI σ α} (hx : ∀ w, (x.run w).2.trace = w.trace) : Quiet mon m x :=
  Spec.silent hx fun _ => rfl

theorem Quiet.ite {c : Prop} [Decidable c] {x y : FI σ α} (hx : c → Quiet mon m x)
    (hy : ¬c → Quiet mon m y) : Quiet mon m (if c then x else y) := Spec.ite hx hy

theorem Quiet.unless {c : Prop} [Decidable c] {e : PyErr} {x : FI σ α}
    (hx : ¬c → Quiet mon m x) : Quiet mon m (if c then FI.raise e else x) :=
  Spec.unless rfl hx

/-- A call the monitor accepts in state `m` and stays in `m`, whatever it returns. -/
theorem Quiet.ffi (L : Lib σ) {f : Fn} {args : List Arg}
    (h : ∀ r, mon.step m ⟨f, args.map Arg.conv, r⟩ = some m) :
    Quiet mon m (FreeImagePy.ffi L f args) :=
  Spec.ffi L (fun _ _ => rfl) fun r => ⟨m, h r, rfl⟩

variable (mon) in
/-- `x` leaves the monitor in state `m` at the end of every run that ends, whatever its
outcome; a run past the model's fuel stands for one that never returns. -/
def Settled (m : M) (x : FI σ α) : Prop := Spec mon m x fun r m' => diverges r = false → m' = m

theorem Quiet.settled {x : FI σ α} (h : Quiet mon m x) : Settled mon m x :=
  h.conseq fun _ _ hm _ => hm

/-- A computation whose runs that end do so at `m`, then a continuation settled at `m`. -/
theorem Spec.bind_settled {m' : M} {x : FI σ α} {f : α → FI σ β}
    (hx : Spec mon m' x fun r m'' => diverges r = false → m'' = m)
    (hf : ∀ a, Settled mon m (f a)) :
    Spec mon m' (x >>= f) fun r m'' => diverges r = false → m'' = m :=
  Spec.bind <| hx.conseq fun r _ hm => by
    cases r with
    | ok a =>
      obtain rfl := hm rfl
      exact hf a
    | error e => exact hm

theorem Settled.bind {x : FI σ α} {f : α → FI σ β} (hx : Settled mon m x)
    (hf : ∀ a, Settled mon m (f a)) : Settled mon m (x >>= f) :=
  Spec.bind_settled hx hf

theorem Settled.unless {c : Prop} [Decidable c] {e : PyErr} {x : FI σ α}
    (hx : ¬c → Settled mon m x) : Settled mon m (if c then FI.raise e else x) :=
  Spec.unless (fun _ => rfl) hx

/-- `try: body finally: final` around a body that ends where it began, at `m'`, and a clause
that takes the monitor from `m'` to `m`: every run that ends does so at `m`. -/
theorem Spec.tryFinally_release {m' : M} {body : FI σ α} {final : FI σ Unit}
    (hb : Settled mon m' body) (hf : Spec mon m' final fun _ => (· = m)) :
    Spec mon m' (FI.tryFinally body final) fun r m'' => diverges r = false → m'' = m :=
  Spec.tryFinally <| hb.conseq fun _ _ hm =>
    ⟨fun hd h' => (nomatch hd.symm.trans h'),
      fun hd => (hm hd) ▸ hf.conseq fun _ _ h₂ _ => h₂⟩

section Memory
variable (L : Lib σ)

/-! Memory reads and writes are not calls: they keep every monitor where it is. -/

theorem Quiet.peekBytes (a : Int) (n : Nat) : Quiet mon m (peekBytes L a n) := Quiet.silent fun _ => rfl

theorem Quiet.pokeBytes (a : Int) (bs : List UInt8) : Quiet mon m (pokeBytes L a bs) :=
  Quiet.silent fun _ => rfl

theorem Quiet.getTagCell : Quiet mon m (getTagCell L) := Quiet.silent fun _ => rfl

theorem Quiet.getCString (p : Int) : Quiet mon m (getCString L p) := Quiet.silent fun _ => rfl

end Memory

end Spec

end FreeImagePy
