import FreeImagePy.Registry

/-!
# Strided views over bottom-up bitmaps

numpy's array over a foreign buffer, as `_wrap_bitmap_bits_in_array` builds it: a base
address, a shape, signed strides and an offset, with numpy's own check that the strides
keep every element inside the buffer. FreeImage stores the bottom scanline first, and the
view reads it top-down by starting at the last scanline and stepping back one pitch per
row. `bitmapView_addressing` says where each element lands; the rest of the module is the
C-order numbering of indices that numpy uses for its own contiguous arrays.
-/

namespace FreeImagePy

/-- `numpy.ndarray(shape, dtype, buffer, strides, offset)` over a buffer at `base`. -/
structure View where
  base : Int
  shape : List Nat
  strides : List Int
  offset : Int
  itemsize : Nat
  deriving DecidableEq, Repr

def dot : List Nat → List Int → Int
  | i :: is, s :: ss => i * s + dot is ss
  | _, _ => 0

/-- The address of the first byte of the element at `idx`. -/
def View.addr (v : View) (idx : List Nat) : Int := v.base + v.offset + dot idx v.strides

/-- numpy's `offset_bounds_from_strides`: the half-open byte range an array covers around
its first element, empty when an axis has length zero. -/
def offsetBounds (itemsize : Nat) (dims : List Nat) (strides : List Int) : Int × Int :=
  if 0 ∈ dims then (0, 0) else
    let ext := List.zipWith (fun d s => s * ((d : Int) - 1)) dims strides
    ((ext.map fun e => min e 0).sum, (ext.map fun e => max e 0).sum + itemsize)

/-- numpy's `PyArray_CheckStrides`: the elements stay inside `numbytes` bytes past `offset`. -/
def checkStrides (itemsize : Nat) (numbytes offset : Int) (dims : List Nat)
    (strides : List Int) : Bool :=
  let numbytes := if numbytes = 0 then ((dims.prod * itemsize : Nat) : Int) else numbytes
  let b := offsetBounds itemsize dims strides
  decide (-offset ≤ b.1 ∧ b.2 ≤ numbytes - offset)

/-- The strides of `_wrap_bitmap_bits_in_array`: `(nchannels * itemsize, -pitch, itemsize)`
for three axes, `(itemsize, -pitch)` for two. -/
def bitmapStrides (pitch : Int) (shape : List Int) (itemsize : Nat) : List Int :=
  if shape.length = 3 then [shape.getD 2 0 * itemsize, -pitch, itemsize]
  else [itemsize, -pitch]

/-- The view `_wrap_bitmap_bits_in_array` builds over the bits at `bits`, starting at the
last scanline: `offset = pitch * (height - 1)`. -/
def bitmapView (bits pitch : Int) (shape : List Int) (itemsize : Nat) : View where
  base := bits
  shape := shape.map Int.toNat
  strides := bitmapStrides pitch shape itemsize
  offset := pitch * (shape.getD 1 0 - 1)
  itemsize := itemsize

/-- The position `(x, y, c)` as an index of a `(W, H)` or a `(W, H, C)` array. -/
def pixelIndex (rank x y c : Nat) : List Nat := if rank = 3 then [x, y, c] else [x, y]

section Addressing
variable {W H C s P x y c : Nat}

theorem pixel_offset_lt (hx : x < W) (hc : c < C) : (x * C + c) * s + s ≤ W * C * s := by
  have h : x * C + c + 1 ≤ W * C := by
    calc x * C + c + 1 ≤ x * C + C := by omega
      _ = (x + 1) * C := by ring
      _ ≤ W * C := Nat.mul_le_mul_right C hx
  calc (x * C + c) * s + s = (x * C + c + 1) * s := by ring
    _ ≤ W * C * s := Nat.mul_le_mul_right s h

theorem pixel_offset_inj {x' c' : Nat} (hc : c < C) (hc' : c' < C)
    (h : x * C + c = x' * C + c') : x = x' ∧ c = c' := by
  have hpos : 0 < C := by omega
  have hx : x = x' := by
    have h1 : (x * C + c) / C = x := by
      rw [Nat.add_comm, Nat.add_mul_div_right _ _ hpos, Nat.div_eq_of_lt hc, Nat.zero_add]
    have h2 : (x' * C + c') / C = x' := by
      rw [Nat.add_comm, Nat.add_mul_div_right _ _ hpos, Nat.div_eq_of_lt hc', Nat.zero_add]
    rw [← h1, ← h2, h]
  subst hx
  exact ⟨rfl, by omega⟩

/-- Byte ranges of `s` bytes at distinct multiples of `s` do not overlap. -/
theorem disjoint_of_ne {s i j : Nat} (h : i ≠ j) : i * s + s ≤ j * s ∨ j * s + s ≤ i * s := by
  rcases Nat.lt_or_gt_of_ne h with h | h
  · exact .inl (by nlinarith)
  · exact .inr (by nlinarith)

/-- The element `(x, y, c)` of the view starts `P * (H - 1 - y) + (x * C + c) * s` bytes into
the bits. -/
theorem bitmapView_addr (bits : Int) (shape : List Nat)
    (hshape : shape = [W, H] ∧ C = 1 ∨ shape = [W, H, C]) (hy : y < H) (hc : c < C) :
    (bitmapView bits P (shape.map (↑)) s).addr (pixelIndex shape.length x y c) =
      bits + ((P * (H - 1 - y) + (x * C + c) * s : Nat) : Int) := by
  obtain ⟨k, rfl⟩ : ∃ k, H = y + 1 + k := ⟨H - 1 - y, by omega⟩
  have hk : y + 1 + k - 1 - y = k := by omega
  rcases hshape with ⟨rfl, rfl⟩ | rfl
  · have hc0 : c = 0 := by omega
    subst hc0
    simp [bitmapView, bitmapStrides, View.addr, pixelIndex, dot, hk]
    ring
  · simp [bitmapView, bitmapStrides, View.addr, pixelIndex, dot, hk]
    ring

theorem pixel_byte_bounds (hP : W * C * s ≤ P) (hx : x < W) (hy : y < H) (hc : c < C) :
    P * (H - 1 - y) + (x * C + c) * s + s ≤ P * (H - 1 - y) + P ∧
      P * (H - 1 - y) + P ≤ H * P := by
  refine ⟨by have := pixel_offset_lt (s := s) hx hc; omega, ?_⟩
  calc P * (H - 1 - y) + P = P * (H - 1 - y + 1) := by ring
    _ ≤ P * H := Nat.mul_le_mul_left P (by omega)
    _ = H * P := Nat.mul_comm P H

theorem bitmapView_addr_bounds (bits : Int) (shape : List Nat)
    (hshape : shape = [W, H] ∧ C = 1 ∨ shape = [W, H, C]) (hP : W * C * s ≤ P)
    (hx : x < W) (hy : y < H) (hc : c < C) :
    let a := (bitmapView bits P (shape.map (↑)) s).addr (pixelIndex shape.length x y c)
    bits + ((P * (H - 1 - y) : Nat) : Int) ≤ a ∧
      a + s ≤ bits + ((P * (H - 1 - y) + P : Nat) : Int) ∧
      bits ≤ a ∧ a + s ≤ bits + ((H * P : Nat) : Int) := by
  intro a
  have ha : a = bits + ((P * (H - 1 - y) + (x * C + c) * s : Nat) : Int) :=
    bitmapView_addr bits shape hshape hy hc
  obtain ⟨h1, h2⟩ := pixel_byte_bounds hP hx hy hc
  rw [ha]
  generalize P * (H - 1 - y) = r at *
  generalize (x * C + c) * s = q at *
  generalize H * P = t at *
  omega

theorem bitmapView_addr_disjoint (bits : Int) (shape : List Nat)
    (hshape : shape = [W, H] ∧ C = 1 ∨ shape = [W, H, C]) (hP : W * C * s ≤ P)
    {x' y' c' : Nat} (hx : x < W) (hy : y < H) (hc : c < C) (hx' : x' < W) (hy' : y' < H)
    (hc' : c' < C) (hne : (x, y, c) ≠ (x', y', c')) :
    let v := bitmapView bits P (shape.map (↑)) s
    v.addr (pixelIndex shape.length x y c) + s ≤ v.addr (pixelIndex shape.length x' y' c') ∨
      v.addr (pixelIndex shape.length x' y' c') + s ≤
        v.addr (pixelIndex shape.length x y c) := by
  have b := bitmapView_addr_bounds bits shape hshape hP hx hy hc
  have b' := bitmapView_addr_bounds bits shape hshape hP hx' hy' hc'
  simp only at b b' ⊢
  rcases Nat.lt_trichotomy y y' with hlt | rfl | hgt
  · have : P * (H - 1 - y') + P ≤ P * (H - 1 - y) := by
      calc P * (H - 1 - y') + P = P * (H - 1 - y' + 1) := by ring
        _ ≤ P * (H - 1 - y) := Nat.mul_le_mul_left P (by omega)
    have : ((P * (H - 1 - y') + P : Nat) : Int) ≤ ((P * (H - 1 - y) : Nat) : Int) := by
      exact_mod_cast this
    right; omega
  · have hoff : x * C + c ≠ x' * C + c' := fun h => by
      obtain ⟨rfl, rfl⟩ := pixel_offset_inj hc hc' h
      exact hne rfl
    have h := disjoint_of_ne (s := s) hoff
    rw [bitmapView_addr bits shape hshape hy hc, bitmapView_addr bits shape hshape hy hc']
    generalize P * (H - 1 - y) = r
    generalize (x * C + c) * s = q at *
    generalize (x' * C + c') * s = q' at *
    omega
  · have : P * (H - 1 - y) + P ≤ P * (H - 1 - y') := by
      calc P * (H - 1 - y) + P = P * (H - 1 - y + 1) := by ring
        _ ≤ P * (H - 1 - y') := Nat.mul_le_mul_left P (by omega)
    have : ((P * (H - 1 - y) + P : Nat) : Int) ≤ ((P * (H - 1 - y') : Nat) : Int) := by
      exact_mod_cast this
    left; omega

/-- Where `_wrap_bitmap_bits_in_array` puts the elements of a `(W, H)` or `(W, H, C)` view
over rows of `P ≥ W * C * s` bytes: element `(x, y, c)` starts
`P * (H - 1 - y) + (x * C + c) * s` bytes into the bits, its `s` bytes lie in physical row
`H - 1 - y` and inside the buffer, and distinct positions occupy disjoint bytes. -/
theorem bitmapView_addressing (bits : Int) (shape : List Nat)
    (hshape : shape = [W, H] ∧ C = 1 ∨ shape = [W, H, C]) (hP : W * C * s ≤ P) :
    (let a := fun x y c =>
      (bitmapView bits P (shape.map (↑)) s).addr (pixelIndex shape.length x y c)
    (∀ x y c, x < W → y < H → c < C →
      a x y c = bits + ((P * (H - 1 - y) + (x * C + c) * s : Nat) : Int) ∧
      bits + ((P * (H - 1 - y) : Nat) : Int) ≤ a x y c ∧
      a x y c + s ≤ bits + ((P * (H - 1 - y) + P : Nat) : Int) ∧
      bits ≤ a x y c ∧ a x y c + s ≤ bits + ((H * P : Nat) : Int)) ∧
    (∀ x y c x' y' c', x < W → y < H → c < C → x' < W → y' < H → c' < C →
      (x, y, c) ≠ (x', y', c') → a x y c + s ≤ a x' y' c' ∨ a x' y' c' + s ≤ a x y c)) :=
  ⟨fun _ _ _ hx hy hc => ⟨bitmapView_addr bits shape hshape hy hc,
      bitmapView_addr_bounds bits shape hshape hP hx hy hc⟩,
    fun _ _ _ _ _ _ hx hy hc hx' hy' hc' hne =>
      bitmapView_addr_disjoint bits shape hshape hP hx hy hc hx' hy' hc' hne⟩

end Addressing

/-- `idx` is an index of an array of shape `shape`. -/
def ValidIndex : List Nat → List Nat → Prop
  | [], [] => True
  | n :: ns, i :: is => i < n ∧ ValidIndex ns is
  | _, _ => False

/-- numpy's `ravel_multi_index`: the C-order position of an index. -/
def flatIndex : List Nat → List Nat → Nat
  | _ :: ns, i :: is => i * ns.prod + flatIndex ns is
  | _, _ => 0

/-- numpy's `unravel_index`: the index at a C-order position. -/
def unflatten : List Nat → Nat → List Nat
  | [], _ => []
  | _ :: ns, k => (k / ns.prod) :: unflatten ns (k % ns.prod)

theorem flatIndex_lt : ∀ {shape idx : List Nat}, ValidIndex shape idx →
    flatIndex shape idx < shape.prod
  | [], [], _ => by simp [flatIndex]
  | n :: ns, i :: is, ⟨hi, h⟩ => by
    have ih := flatIndex_lt h
    simp only [flatIndex, List.prod_cons]
    calc i * ns.prod + flatIndex ns is < i * ns.prod + ns.prod := by omega
      _ = (i + 1) * ns.prod := by ring
      _ ≤ n * ns.prod := Nat.mul_le_mul_right _ hi

theorem unflatten_valid : ∀ {shape : List Nat} {k : Nat}, k < shape.prod →
    ValidIndex shape (unflatten shape k)
  | [], _, _ => trivial
  | n :: ns, k, hk => by
    simp only [List.prod_cons] at hk
    have hpos : 0 < ns.prod := Nat.pos_of_ne_zero fun h => by simp [h] at hk
    exact ⟨Nat.div_lt_of_lt_mul (by rwa [Nat.mul_comm]), unflatten_valid (Nat.mod_lt _ hpos)⟩

theorem flatIndex_unflatten : ∀ {shape : List Nat} {k : Nat}, k < shape.prod →
    flatIndex shape (unflatten shape k) = k
  | [], _, hk => by simp [flatIndex, unflatten] at hk ⊢; omega
  | n :: ns, k, hk => by
    simp only [List.prod_cons] at hk
    have hpos : 0 < ns.prod := Nat.pos_of_ne_zero fun h => by simp [h] at hk
    simp only [unflatten, flatIndex, flatIndex_unflatten (Nat.mod_lt k hpos)]
    exact Nat.div_add_mod' k ns.prod

theorem unflatten_flatIndex : ∀ {shape idx : List Nat}, ValidIndex shape idx →
    unflatten shape (flatIndex shape idx) = idx
  | [], [], _ => rfl
  | n :: ns, i :: is, ⟨_, h⟩ => by
    have hlt := flatIndex_lt h
    have hpos : 0 < ns.prod := by omega
    simp only [unflatten, flatIndex]
    rw [Nat.add_comm, Nat.add_mul_div_right _ _ hpos, Nat.div_eq_of_lt hlt,
      Nat.add_mul_mod_self_right, Nat.mod_eq_of_lt hlt, unflatten_flatIndex h, Nat.zero_add]

theorem unflatten_inj {shape : List Nat} {k k' : Nat} (hk : k < shape.prod)
    (hk' : k' < shape.prod) (h : unflatten shape k = unflatten shape k') : k = k' := by
  rw [← flatIndex_unflatten hk, ← flatIndex_unflatten hk', h]

end FreeImagePy
