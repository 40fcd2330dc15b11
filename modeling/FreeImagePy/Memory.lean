import FreeImagePy.Pixels

/-!
# Library memory, views over it, and runs that return

The bytes numpy and ctypes move live in the library's memory, read by `peek` and written by
`poke` at raw addresses. A library is lawful when each address reads back the byte last
written there. Over lawful memory a view whose elements occupy disjoint bytes holds a
content, one value for each index, and a store through the view changes that content at
the index it stores to and nowhere else.

`Ok s x Q` is the other program logic of the development, next to the trace monitors of
`Monitor`: every run of `x` from library state `s` returns, with a value and a final state
satisfying `Q`.
-/

namespace FreeImagePy

section Bytes
variable {σ : Type} {L : Lib σ}

/-- A library whose memory reads back, at each address, the byte last written there. -/
def Lib.Lawful (L : Lib σ) : Prop :=
  ∀ s a b c, L.peek (L.poke a b s) c = if c = a then b else L.peek s c

theorem peek_writeBytes (hL : L.Lawful) :
    ∀ (a : Int) (bs : List UInt8) (s : σ) (c : Int), L.peek (writeBytes L a bs s) c =
      if a ≤ c ∧ c < a + bs.length then bs.getD (c - a).toNat 0 else L.peek s c
  | a, [], s, c => by
    rw [if_neg (by simp)]
    rfl
  | a, b :: bs, s, c => by
    rw [writeBytes, peek_writeBytes hL (a + 1) bs, hL]
    by_cases h₁ : a + 1 ≤ c ∧ c < a + 1 + bs.length
    · have hk : (c - a).toNat = (c - (a + 1)).toNat + 1 := by omega
      rw [if_pos h₁, if_pos (by simp; omega), hk]
      rfl
    · rw [if_neg h₁]
      by_cases h₂ : c = a
      · subst h₂
        simp
      · rw [if_neg h₂, if_neg (by simp; omega)]

theorem readBytes_writeBytes_self (hL : L.Lawful) (a : Int) (bs : List UInt8) (s : σ) :
    readBytes L (writeBytes L a bs s) a bs.length = bs := by
  refine List.ext_get (by simp) fun k hk _ => ?_
  simp only [readBytes_length] at hk
  simp [readBytes, peek_writeBytes hL, hk]

theorem readBytes_writeBytes_of_disjoint (hL : L.Lawful) {a b : Int} {bs : List UInt8} {n : Nat}
    (s : σ) (h : a + bs.length ≤ b ∨ b + n ≤ a) :
    readBytes L (writeBytes L a bs s) b n = readBytes L s b n := by
  refine List.map_congr_left fun k hk => ?_
  rw [List.mem_range] at hk
  rw [peek_writeBytes hL, if_neg (by omega)]

end Bytes

section Views
variable {σ : Type} {L : Lib σ} {s : σ} {v : View} {f : List Nat → List UInt8}

/-- The view `v` over the memory of `s` holds `f`: each index of `v` reads as its value. -/
def View.Holds (L : Lib σ) (s : σ) (v : View) (f : List Nat → List UInt8) : Prop :=
  ∀ idx, ValidIndex v.shape idx → readBytes L s (v.addr idx) v.itemsize = f idx

/-- Distinct indices of `v` occupy disjoint bytes. -/
def View.Separated (v : View) : Prop :=
  ∀ i j, ValidIndex v.shape i → ValidIndex v.shape j → i ≠ j →
    v.addr i + v.itemsize ≤ v.addr j ∨ v.addr j + v.itemsize ≤ v.addr i

/-- The bytes of every element of `v` lie in `[lo, hi)`. -/
def View.Within (v : View) (lo hi : Int) : Prop :=
  ∀ i, ValidIndex v.shape i → lo ≤ v.addr i ∧ v.addr i + v.itemsize ≤ hi

theorem View.holds_self (L : Lib σ) (s : σ) (v : View) :
    v.Holds L s fun idx => readBytes L s (v.addr idx) v.itemsize := fun _ _ => rfl

/-- A store of one element: the content changes at its index only. -/
theorem View.holds_writeBytes (hL : L.Lawful) (hsep : v.Separated) {i : List Nat}
    {e : List UInt8} (hi : ValidIndex v.shape i) (he : e.length = v.itemsize)
    (hf : v.Holds L s f) : v.Holds L (writeBytes L (v.addr i) e s) (Function.update f i e) := by
  intro j hj
  by_cases hji : j = i
  · subst hji
    rw [Function.update_same, ← he, readBytes_writeBytes_self hL]
  · rw [Function.update_noteq hji, readBytes_writeBytes_of_disjoint hL _ (by
      rw [he]; exact (hsep i j hi hj (Ne.symm hji)).imp id id), hf j hj]

/-- A write outside the view's bytes keeps its content. -/
theorem View.holds_writeBytes_outside (hL : L.Lawful) {lo hi a : Int} {bs : List UInt8}
    (hw : v.Within lo hi) (hd : hi ≤ a ∨ a + bs.length ≤ lo) (hf : v.Holds L s f) :
    v.Holds L (writeBytes L a bs s) f := by
  intro j hj
  have := hw j hj
  rw [readBytes_writeBytes_of_disjoint hL _ (by omega), hf j hj]

/-- Stores of `g i` at each index `i` of a list without repeats: the content becomes `g` at
those indices and stays elsewhere. -/
theorem View.holds_writeElems (hL : L.Lawful) (hsep : v.Separated) {g : List Nat → List UInt8} :
    ∀ {idxs : List (List Nat)} {s : σ} {f : List Nat → List UInt8}, idxs.Nodup →
      (∀ i ∈ idxs, ValidIndex v.shape i) → (∀ i ∈ idxs, (g i).length = v.itemsize) →
      v.Holds L s f →
      v.Holds L (writeElems L v idxs (idxs.map g) s) fun i => if i ∈ idxs then g i else f i
  | [], _, _, _, _, _, hf => by simpa [writeElems] using hf
  | i :: is, s, f, hnd, hv, hg, hf => by
    rw [List.nodup_cons] at hnd
    have h₁ := v.holds_writeBytes hL hsep (hv i (.head _)) (hg i (.head _)) hf
    have h₂ := holds_writeElems hL hsep hnd.2 (fun j hj => hv j (.tail _ hj))
      (fun j hj => hg j (.tail _ hj)) h₁
    intro j hj
    rw [List.map_cons, writeElems, h₂ j hj]
    by_cases hji : j = i
    · subst hji
      simp [hnd.1]
    · simp [hji, Function.update_noteq hji]

/-- `array.copy()` of a view holding `f`: the values at the indices in C order. -/
theorem View.copy_data {dtype : DType} (hd : dtype.itemsize = v.itemsize) (hf : v.Holds L s f) :
    (v.copy L dtype s).data = (List.range v.shape.prod).map fun k => f (unflatten v.shape k) := by
  refine List.map_congr_left fun k hk => ?_
  rw [hd, hf _ (unflatten_valid (List.mem_range.1 hk))]

/-- The copy of a view holding `f` has `f`'s value at each index. -/
theorem View.copy_get {dtype : DType} (hd : dtype.itemsize = v.itemsize) (hf : v.Holds L s f)
    {i : List Nat} (hi : ValidIndex v.shape i) : (v.copy L dtype s).get i = f i := by
  have hk := flatIndex_lt hi
  rw [NDArray.get, View.copy_data hd hf, List.getD_eq_getElem _ _ (by simpa using hk),
    List.getElem_map, List.getElem_range]
  exact congrArg f (unflatten_flatIndex hi)

/-- A view holds in `t` what `v` holds in `s` when each of its elements sits `δ` bytes past the
same element of `v`, and the memory of `t` repeats that of `s` over `[lo, hi)`, `δ` bytes on. -/
theorem View.holds_shift {τ : Type} {L' : Lib τ} {t : τ} {v' : View} {lo hi δ : Int}
    (hsh : v'.shape = v.shape) (hsz : v'.itemsize = v.itemsize)
    (ha : ∀ i, v'.addr i = v.addr i + δ) (hw : v.Within lo hi)
    (hm : ∀ c, lo ≤ c → c < hi → L'.peek t (c + δ) = L.peek s c) (hf : v.Holds L s f) :
    v'.Holds L' t f := by
  intro i hi'
  rw [hsh] at hi'
  obtain ⟨h₁, h₂⟩ := hw i hi'
  rw [← hf i hi', hsz, ha]
  refine List.map_congr_left fun k hk => ?_
  rw [List.mem_range] at hk
  rw [show v.addr i + δ + (k : Int) = v.addr i + k + δ by ring]
  exact hm _ (by omega) (by omega)

end Views

/-! ### Indices in C order -/

theorem validIndex_two {W H : Nat} {idx : List Nat} :
    ValidIndex [W, H] idx ↔ ∃ x y, idx = [x, y] ∧ x < W ∧ y < H := by
  rcases idx with _ | ⟨x, _ | ⟨y, _ | ⟨c, rest⟩⟩⟩ <;> simp [ValidIndex, and_assoc]

theorem validIndex_three {W H C : Nat} {idx : List Nat} :
    ValidIndex [W, H, C] idx ↔ ∃ x y c, idx = [x, y, c] ∧ x < W ∧ y < H ∧ c < C := by
  rcases idx with _ | ⟨x, _ | ⟨y, _ | ⟨c, _ | ⟨d, rest⟩⟩⟩⟩ <;> simp [ValidIndex, and_assoc]

/-- The indices of an array of shape `shape` in C order are its valid indices, each once. -/
theorem mem_indices {shape idx : List Nat} :
    idx ∈ (List.range shape.prod).map (unflatten shape) ↔ ValidIndex shape idx := by
  refine ⟨fun h => ?_, fun h => List.mem_map.2 ⟨_, List.mem_range.2 (flatIndex_lt h),
    unflatten_flatIndex h⟩⟩
  obtain ⟨k, hk, rfl⟩ := List.mem_map.1 h
  exact unflatten_valid (List.mem_range.1 hk)

theorem nodup_indices (shape : List Nat) :
    ((List.range shape.prod).map (unflatten shape)).Nodup :=
  (List.nodup_range _).map_on fun _ hk _ hk' h =>
    unflatten_inj (List.mem_range.1 hk) (List.mem_range.1 hk') h

theorem mem_planePositions {W H C : Nat} {p : List Nat} :
    p ∈ planePositions [W, H, C] ↔ ∃ x y, p = [x, y] ∧ x < W ∧ y < H :=
  mem_indices.trans validIndex_two

/-- The indices `view[:, :, k]` stores to, for a `(W, H, C)` view and `k < C`. -/
theorem mem_channelIndices {W H C k : Nat} {idx : List Nat} (hk : k < C) :
    idx ∈ (planePositions [W, H, C]).map (· ++ [k]) ↔
      ValidIndex [W, H, C] idx ∧ idx.getD 2 0 = k := by
  rw [List.mem_map, validIndex_three]
  constructor
  · rintro ⟨_, hp, rfl⟩
    obtain ⟨x, y, rfl, hx, hy⟩ := mem_planePositions.1 hp
    exact ⟨⟨x, y, k, rfl, hx, hy, hk⟩, rfl⟩
  · rintro ⟨⟨x, y, c, rfl, hx, hy, -⟩, rfl⟩
    exact ⟨[x, y], mem_planePositions.2 ⟨x, y, rfl, hx, hy⟩, rfl⟩

theorem nodup_channelIndices (shape : List Nat) (k : Nat) :
    ((planePositions shape).map (· ++ [k])).Nodup :=
  (nodup_indices _).map fun _ _ h => List.append_cancel_right h

section Arrays
variable (A : NDArray)

theorem NDArray.get_length {idx : List Nat} (h : ValidIndex A.shape idx) :
    (A.get idx).length = A.dtype.itemsize := by
  have hlt : flatIndex A.shape idx < A.data.length := A.size_eq ▸ flatIndex_lt h
  rw [NDArray.get, List.getD_eq_getElem _ _ hlt]
  exact A.item_size _ (List.getElem_mem hlt)

/-- An owned array's data is its values at its indices in C order. -/
theorem NDArray.data_eq_map_get :
    A.data = ((List.range A.shape.prod).map (unflatten A.shape)).map A.get := by
  refine List.ext_get (by simp [A.size_eq]) fun k h₁ _ => ?_
  have hk : k < A.shape.prod := A.size_eq ▸ h₁
  simp [NDArray.get, flatIndex_unflatten hk, List.getElem?_eq_getElem h₁]

end Arrays

section BitmapViews
variable {W H C s P : Nat} {bits : Int} {shape : List Nat}

theorem validIndex_pixel (hshape : shape = [W, H] ∧ C = 1 ∨ shape = [W, H, C]) {idx : List Nat}
    (h : ValidIndex shape idx) :
    ∃ x y c, idx = pixelIndex shape.length x y c ∧ x < W ∧ y < H ∧ c < C := by
  rcases hshape with ⟨rfl, rfl⟩ | rfl
  · obtain ⟨x, y, rfl, hx, hy⟩ := validIndex_two.1 h
    exact ⟨x, y, 0, rfl, hx, hy, Nat.one_pos⟩
  · obtain ⟨x, y, c, rfl, hx, hy, hc⟩ := validIndex_three.1 h
    exact ⟨x, y, c, rfl, hx, hy, hc⟩

@[simp] theorem shape_bitmapView : (bitmapView bits P (shape.map (↑)) s).shape = shape := by
  simp [bitmapView, Function.comp_def]

theorem bitmapView_separated (hshape : shape = [W, H] ∧ C = 1 ∨ shape = [W, H, C])
    (hP : W * C * s ≤ P) : (bitmapView bits P (shape.map (↑)) s).Separated := by
  intro i j hi hj hne
  rw [shape_bitmapView] at hi hj
  obtain ⟨x, y, c, rfl, hx, hy, hc⟩ := validIndex_pixel hshape hi
  obtain ⟨x', y', c', rfl, hx', hy', hc'⟩ := validIndex_pixel hshape hj
  refine bitmapView_addr_disjoint bits shape hshape hP hx hy hc hx' hy' hc' fun h => hne ?_
  simp only [Prod.mk.injEq] at h
  obtain ⟨rfl, rfl, rfl⟩ := h
  rfl

theorem bitmapView_within (hshape : shape = [W, H] ∧ C = 1 ∨ shape = [W, H, C])
    (hP : W * C * s ≤ P) :
    (bitmapView bits P (shape.map (↑)) s).Within bits (bits + ((H * P : Nat) : Int)) := by
  intro i hi
  rw [shape_bitmapView] at hi
  obtain ⟨x, y, c, rfl, hx, hy, hc⟩ := validIndex_pixel hshape hi
  obtain ⟨-, -, h₁, h₂⟩ := bitmapView_addr_bounds bits shape hshape hP hx hy hc
  exact ⟨h₁, h₂⟩

/-- numpy accepts the strides of `_wrap_bitmap_bits_in_array` over `H` rows of `P` bytes. -/
theorem checkStrides_bitmapView (hshape : shape = [W, H] ∧ C = 1 ∨ shape = [W, H, C])
    (hP : W * C * s ≤ P) (hW : 0 < W) (hH : 0 < H) (hC : 0 < C) (hs : 0 < s) :
    checkStrides s ((shape.map ((↑) : Nat → Int)).getD 1 0 * P) (P * ((H : Int) - 1)) shape
      (bitmapStrides P (shape.map (↑)) s) = true := by
  have hP' : ((W * C * s : Nat) : Int) ≤ P := by exact_mod_cast hP
  have hWs : (0 : Int) ≤ s * ((W : Int) - 1) := mul_nonneg (by positivity) (by omega)
  have hHP : (0 : Int) ≤ P * ((H : Int) - 1) := mul_nonneg (by positivity) (by omega)
  have hpos : (0 : Int) < H * P := by
    have : 0 < W * C * s := Nat.mul_pos (Nat.mul_pos hW hC) hs
    have : (0 : Int) < P := by omega
    positivity
  -- the last row starts `P * (H - 1)` bytes past the first, so the buffer ends `P` past it
  have hrows : (H : Int) * P - P * (H - 1) = P := by ring
  rcases hshape with ⟨rfl, rfl⟩ | rfl
  · simp only [checkStrides, offsetBounds, List.mem_cons, hW.ne, hH.ne, List.not_mem_nil, or_self,
      List.pure_def, List.bind_eq_flatMap, List.flatMap_cons, List.flatMap_nil,
      List.singleton_append, bitmapStrides, List.map_cons, List.map_nil, List.length_cons,
      List.length_nil, zero_add, Nat.reduceAdd, Nat.reduceEqDiff, List.getD_eq_getElem?_getD,
      List.getElem?_cons_succ, List.getElem?_nil, Option.getD_none, if_false,
      List.zipWith_cons_cons, neg_mul, List.zipWith_same, min_eq_right hWs, Left.neg_nonpos_iff,
      hHP, inf_of_le_left, List.sum_cons, List.sum_nil, add_zero, max_eq_left hWs,
      sup_of_le_right, le_refl, Nat.one_lt_ofNat, List.getElem?_eq_getElem,
      List.getElem_cons_succ, List.getElem_cons_zero, Option.getD_some, hpos.ne', hrows, true_and,
      decide_eq_true_eq]
    push_cast at hP'
    linarith
  · have hCs : (0 : Int) ≤ s * ((C : Int) - 1) := mul_nonneg (by positivity) (by omega)
    have hCsW : (0 : Int) ≤ C * s * ((W : Int) - 1) := mul_nonneg (by positivity) (by omega)
    simp only [checkStrides, offsetBounds, List.mem_cons, hW.ne, hH.ne, hC.ne, List.not_mem_nil,
      or_self, List.pure_def, List.bind_eq_flatMap, List.flatMap_cons, List.flatMap_nil,
      List.singleton_append, bitmapStrides, List.map_cons, List.map_nil, List.length_cons,
      List.length_nil, zero_add, Nat.reduceAdd, List.getD_eq_getElem?_getD, Nat.lt_add_one,
      List.getElem?_eq_getElem, List.getElem_cons_succ, List.getElem_cons_zero, Option.getD_some,
      if_true, List.zipWith_cons_cons, neg_mul, List.zipWith_same, min_eq_right hCsW,
      Left.neg_nonpos_iff, hHP, inf_of_le_left, min_eq_right hCs, List.sum_cons, List.sum_nil,
      add_zero, max_eq_left hCsW, sup_of_le_right, max_eq_left hCs, if_false, le_refl,
      Nat.one_lt_ofNat, hpos.ne', hrows, true_and, decide_eq_true_eq]
    push_cast at hP'
    linarith

end BitmapViews

section Ok
variable {σ α β : Type} {s : σ} {Q : α → σ → Prop}

/-- Every run of `x` from library state `s`, whatever the earlier trace, returns a value,
with the value and the final state satisfying `Q`. -/
def Ok (s : σ) (x : FI σ α) (Q : α → σ → Prop) : Prop :=
  ∀ tr, ∃ a, (x.run ⟨s, tr⟩).1 = .ok a ∧ Q a (x.run ⟨s, tr⟩).2.lib

theorem Ok.conseq {x : FI σ α} {Q' : α → σ → Prop} (h : Ok s x Q)
    (hq : ∀ a s', Q a s' → Q' a s') : Ok s x Q' := fun tr =>
  let ⟨a, h₁, h₂⟩ := h tr
  ⟨a, h₁, hq _ _ h₂⟩

theorem Ok.pure {a : α} (h : Q a s) : Ok s (pure a : FI σ α) Q := fun _ => ⟨a, rfl, h⟩

/-- A computation that reads the library state and changes nothing. -/
theorem Ok.read {g : σ → α} (h : Q (g s) s) : Ok s (⟨fun w => (.ok (g w.lib), w)⟩ : FI σ α) Q :=
  fun _ => ⟨_, rfl, h⟩

theorem Ok.peekBytes (L : Lib σ) {a : Int} {n : Nat} {Q : List UInt8 → σ → Prop}
    (h : Q (readBytes L s a n) s) : Ok s (FreeImagePy.peekBytes L a n) Q := fun _ => ⟨_, rfl, h⟩

theorem Ok.bind {x : FI σ α} {f : α → FI σ β} {Q : β → σ → Prop}
    (h : Ok s x fun a s' => Ok s' (f a) Q) : Ok s (x >>= f) Q := by
  intro tr
  obtain ⟨a, hx, hf⟩ := h tr
  simp only [FI.run_bind]
  rcases hr : x.run ⟨s, tr⟩ with ⟨r, w'⟩
  rw [hr] at hx hf
  cases hx
  exact hf w'.trace

theorem Ok.ite {c : Prop} [Decidable c] {x y : FI σ α} (hx : c → Ok s x Q) (hy : ¬c → Ok s y Q) :
    Ok s (if c then x else y) Q := by
  split
  · exact hx ‹_›
  · exact hy ‹_›

theorem Ok.unless {c : Prop} [Decidable c] {e : PyErr} {x : FI σ α} (hc : ¬c) (h : Ok s x Q) :
    Ok s (if c then FI.raise e else x) Q := by
  rwa [if_neg hc]

theorem Ok.ofExcept {r : Except PyErr α} {a : α} (hr : r = .ok a) (h : Q a s) :
    Ok s (FI.ofExcept r) Q := by
  subst hr
  exact Ok.pure h

/-- A call whose arguments convert, answered by the library. -/
theorem Ok.ffi (L : Lib σ) {f : Fn} {args cargs : List Arg} {Q : Int → σ → Prop}
    (hc : convertArgs 1 args = .ok cargs)
    (h : Q (if f.returnsPointer then (L.call f cargs s).1 else cInt (L.call f cargs s).1)
      (L.call f cargs s).2) :
    Ok s (FreeImagePy.ffi L f args) Q := fun _ => by
  simp only [FreeImagePy.ffi, hc]
  exact ⟨_, rfl, h⟩

/-- A call whose arguments pass ctypes unchanged, answered `r` by the library. -/
theorem Ok.call (L : Lib σ) {f : Fn} {args : List Arg} {r : Int} {s' : σ} {Q : Int → σ → Prop}
    (hc : convertArgs 1 args = .ok args) (hcall : L.call f args s = (r, s'))
    (hr : f.returnsPointer = false → cInt r = r) (h : Q r s') :
    Ok s (FreeImagePy.ffi L f args) Q := by
  refine Ok.ffi _ hc ?_
  rw [hcall]
  cases hp : f.returnsPointer
  · rwa [if_neg Bool.false_ne_true, hr hp]
  · rwa [if_pos rfl]

/-- A call whose ints all fit a C `long`, answered `r` on the converted arguments; Python sees
`r` as a C `int` unless the entry point returns a pointer. -/
theorem Ok.callConv (L : Lib σ) {f : Fn} {args : List Arg} {r : Int} {s' : σ} {Q : Int → σ → Prop}
    (hc : ∀ n, Arg.int n ∈ args → fitsLong n = true)
    (hcall : L.call f (args.map Arg.conv) s = (r, s'))
    (h : Q (if f.returnsPointer then r else cInt r) s') : Ok s (FreeImagePy.ffi L f args) Q := by
  refine Ok.ffi _ (convertArgs_conv hc) ?_
  rwa [hcall]

theorem Ok.callInt (L : Lib σ) {f : Fn} {args : List Arg} {r : Int} {s' : σ} {Q : Int → σ → Prop}
    (hp : f.returnsPointer = false) (hc : ∀ n, Arg.int n ∈ args → fitsLong n = true)
    (hcall : L.call f (args.map Arg.conv) s = (r, s')) (h : Q (cInt r) s') :
    Ok s (FreeImagePy.ffi L f args) Q :=
  Ok.callConv L hc hcall (by rwa [hp, if_neg Bool.false_ne_true])

theorem Ok.callPtr (L : Lib σ) {f : Fn} {args : List Arg} {r : Int} {s' : σ} {Q : Int → σ → Prop}
    (hp : f.returnsPointer = true) (hc : ∀ n, Arg.int n ∈ args → fitsLong n = true)
    (hcall : L.call f (args.map Arg.conv) s = (r, s')) (h : Q r s') :
    Ok s (FreeImagePy.ffi L f args) Q :=
  Ok.callConv L hc hcall (by rwa [hp, if_pos rfl])

/-- `try: body finally: final`, when the body returns and then the final clause does. -/
theorem Ok.tryFinally {body : FI σ α} {final : FI σ Unit}
    (h : Ok s body fun a s' => Ok s' final fun _ s'' => Q a s'') :
    Ok s (FI.tryFinally body final) Q := fun tr => by
  obtain ⟨a, hb, hf⟩ := h tr
  obtain ⟨⟨⟩, hu, hq⟩ := hf (body.run ⟨s, tr⟩).2.trace
  rw [FI.run_tryFinally, hb, if_neg (show ¬diverges (Except.ok a) = true from Bool.false_ne_true)]
  exact ⟨a, by rw [hu], hq⟩

theorem Ok.tryExcept {body : FI σ α} {cleanup : FI σ Unit} (h : Ok s body Q) :
    Ok s (FI.tryExcept body cleanup) Q := fun tr => by
  obtain ⟨a, hb, hq⟩ := h tr
  rw [FI.run_tryExcept]
  rcases hr : body.run ⟨s, tr⟩ with ⟨_ | a', w'⟩ <;> rw [hr] at hb hq <;> cases hb
  exact ⟨a, rfl, hq⟩

end Ok

section Raises
variable {σ α β : Type} {s : σ} {Q : PyErr → σ → Prop}

/-- Every run of `x` from library state `s`, whatever the earlier trace, raises, with the
exception and the final state satisfying `Q`. -/
def Raises (s : σ) (x : FI σ α) (Q : PyErr → σ → Prop) : Prop :=
  ∀ tr, ∃ e, (x.run ⟨s, tr⟩).1 = .error e ∧ Q e (x.run ⟨s, tr⟩).2.lib

theorem Raises.raise {e : PyErr} (h : Q e s) : Raises s (FI.raise e : FI σ α) Q :=
  fun _ => ⟨e, rfl, h⟩

/-- A computation that returns, then one that raises. -/
theorem Ok.bind_raises {x : FI σ α} {f : α → FI σ β} (h : Ok s x fun a s' => Raises s' (f a) Q) :
    Raises s (x >>= f) Q := by
  intro tr
  obtain ⟨a, hx, hf⟩ := h tr
  simp only [FI.run_bind]
  rcases hr : x.run ⟨s, tr⟩ with ⟨r, w'⟩
  rw [hr] at hx hf
  cases hx
  exact hf w'.trace

theorem Raises.ite_pos {c : Prop} [Decidable c] {e : PyErr} {x : FI σ α} (hc : c) (h : Q e s) :
    Raises s (if c then FI.raise e else x) Q := by
  rw [if_pos hc]
  exact Raises.raise h

/-- A computation that raises, and whatever would have come after it. -/
theorem Raises.bind {x : FI σ α} {f : α → FI σ β} (h : Raises s x Q) : Raises s (x >>= f) Q := by
  intro tr
  obtain ⟨e, hx, hq⟩ := h tr
  simp only [FI.run_bind]
  rcases hr : x.run ⟨s, tr⟩ with ⟨r, w'⟩
  rw [hr] at hx hq
  cases hx
  exact ⟨e, rfl, hq⟩

theorem Raises.ofExcept {e : PyErr} (h : Q e s) : Raises s (FI.ofExcept (.error e) : FI σ α) Q :=
  fun _ => ⟨e, rfl, h⟩

/-- `try: body except: cleanup; raise`, when the body raises an exception and the clean-up then
returns: the body's exception, raised again. -/
theorem Raises.tryExcept {body : FI σ α} {cleanup : FI σ Unit}
    (h : Raises s body fun e s' => e.kind ≠ .diverged ∧ Ok s' cleanup fun _ s'' => Q e s'') :
    Raises s (FI.tryExcept body cleanup) Q := fun tr => by
  obtain ⟨e, hb, hd, hf⟩ := h tr
  obtain ⟨⟨⟩, hu, hq⟩ := hf (body.run ⟨s, tr⟩).2.trace
  rw [FI.run_tryExcept, ← Prod.mk.eta (p := body.run ⟨s, tr⟩), hb]
  dsimp only
  rw [if_neg hd]
  exact ⟨e, by rw [hu], hq⟩

/-- `try: body finally: final`, when the body raises an exception and the final clause then
returns. -/
theorem Raises.tryFinally {body : FI σ α} {final : FI σ Unit}
    (h : Raises s body fun e s' => e.kind ≠ .diverged ∧ Ok s' final fun _ s'' => Q e s'') :
    Raises s (FI.tryFinally body final) Q := fun tr => by
  obtain ⟨e, hb, hd, hf⟩ := h tr
  obtain ⟨⟨⟩, hu, hq⟩ := hf (body.run ⟨s, tr⟩).2.trace
  rw [FI.run_tryFinally, hb, if_neg (by simpa [diverges] using hd)]
  exact ⟨e, by rw [hu], hq⟩

end Raises

end FreeImagePy
