import FreeImagePy.Metadata
import FreeImagePy.Memory

/-!
# Decoding metadata tags

`_read_metadata` against a library that serves the tags of one bitmap: for each metadata
model, the sequence of tags the FreeImage iteration yields, each with its key, its type code
and its payload. When every tag has a registered type, a payload whose length is a multiple
of the element size and a length that fits a C `int`, the dict `_read_metadata` returns holds
one entry for each distinct (model name, tag key) pair enumerated, with the decoding of the
last tag enumerated under that pair. ctypes' `.value` stops at the first NUL, so an
`FIDT_ASCII` payload decodes to the text before its first NUL, not to the whole payload
without its trailing terminator.
-/

namespace FreeImagePy

/-! ### The metadata dict -/

/-- `d.get(k)` on the metadata dict. -/
def dictGet : Metadata → String × String → Option TagValue
  | [], _ => none
  | p :: d, k => if p.1 = k then some p.2 else dictGet d k

section Dict
variable {d : Metadata} {k k' : String × String} {v : TagValue}

@[simp] theorem dictGet_nil : dictGet [] k = none := rfl

theorem dictGet_append (d' : Metadata) :
    dictGet (d ++ d') k = (dictGet d k).or (dictGet d' k) := by
  induction d with
  | nil => rfl
  | cons p d ih => by_cases h : p.1 = k <;> simp [dictGet, h, ih]

theorem dictGet_eq_none (h : ¬ d.any (·.1 == k)) : dictGet d k = none := by
  induction d with
  | nil => rfl
  | cons p d ih =>
    simp only [List.any_cons, Bool.or_eq_true, beq_iff_eq, not_or] at h
    rw [dictGet, if_neg h.1, ih h.2]

theorem dictGet_update :
    dictGet (d.map fun p => if p.1 = k then (k, v) else p) k' =
      if k' = k ∧ d.any (·.1 == k) then some v else dictGet d k' := by
  induction d with
  | nil => exact (if_neg fun h => Bool.false_ne_true h.2).symm
  | cons p d ih =>
    simp only [List.map_cons, dictGet, ih, List.any_cons, Bool.or_eq_true, beq_iff_eq]
    by_cases hp : p.1 = k
    · obtain rfl | hk := eq_or_ne k' k
      · simp only [hp, if_true, true_or, and_self]
      · simp only [hp, if_true, hk, Ne.symm hk, false_and, if_false]
    · by_cases hk : p.1 = k'
      · have hk' : k' ≠ k := hk ▸ hp
        simp only [hp, hk, hk', if_false, if_true, false_and]
      · simp only [hp, hk, if_false, false_or]

theorem dictGet_dictSet : dictGet (dictSet d k v) k' = if k' = k then some v else dictGet d k' := by
  unfold dictSet
  split_ifs with h₁ h₂ h₂
  · rw [dictGet_update, if_pos ⟨h₂, h₁⟩]
  · rw [dictGet_update, if_neg fun h => h₂ h.1]
  · rw [dictGet_append, h₂, dictGet_eq_none h₁]
    simp [dictGet]
  · rw [dictGet_append]
    simp [dictGet, Ne.symm h₂]

theorem keys_dictSet (h : (d.map Prod.fst).Nodup) : ((dictSet d k v).map Prod.fst).Nodup := by
  unfold dictSet
  split_ifs with h₁
  · rw [List.map_map]
    convert h using 1
    exact List.map_congr_left fun p _ => by by_cases hp : p.1 = k <;> simp [hp]
  · rw [List.map_append, List.nodup_append]
    refine ⟨h, List.nodup_singleton _, ?_⟩
    simp only [List.any_eq_true, beq_iff_eq, not_exists, not_and] at h₁
    intro a ha hb
    obtain ⟨p, hp, rfl⟩ := List.mem_map.1 ha
    exact h₁ p hp (List.mem_singleton.1 hb)
theorem mem_keys_iff_dictGet {k : String × String} :
    ∀ {d : Metadata}, k ∈ d.map Prod.fst ↔ (dictGet d k).isSome
  | [] => by simp [dictGet]
  | p :: d => by
    rw [List.map_cons, List.mem_cons, dictGet, mem_keys_iff_dictGet]
    by_cases h : p.1 = k
    · simp [h]
    · simp [h, Ne.symm h]

end Dict

/-! ### A library that serves tags -/

/-- A metadata tag as FreeImage keeps it: its key, a C string, its type code and its
payload. -/
structure Tag where
  key : List UInt8
  type : Int
  value : List UInt8
  key_cstr : 0 ∉ key

/-- The library's state: the tags of each metadata model of the bitmap, the tags each open
cursor has yet to yield, the last cursor handed out, the tags handed out so far, and the cell
`tag`, which `FreeImage_FindFirstMetadata` and `FreeImage_FindNextMetadata` fill with the
handle of the tag they yield. -/
structure TagState where
  tags : Int → List Tag
  cursors : Int → Option (List Tag)
  lastCursor : Nat
  yielded : List Tag
  cell : Int

def TagState.init (tags : Int → List Tag) : TagState := ⟨tags, fun _ => none, 0, [], 0⟩

/-- The handle of the `i`-th tag handed out: its payload starts there, and its key is the C
string `2^31` bytes on. -/
def tagHandle (i : Nat) : Int := 2 ^ 32 * (i + 1)

namespace TagState

/-- The tag whose `2^32`-byte block holds address `a`. -/
def blockAt (s : TagState) (a : Int) : Option Tag :=
  if 0 < a then s.yielded[(a / 2 ^ 32 - 1).toNat]? else none

/-- The tag behind the handle `h`. -/
def tagAt (s : TagState) (h : Int) : Option Tag := if h % 2 ^ 32 = 0 then s.blockAt h else none

/-- Cursor `c` yields `t`, with `ts` still to come: `t` is handed out and the cell points at
it. -/
def yield (s : TagState) (c : Int) (t : Tag) (ts : List Tag) : TagState :=
  ⟨s.tags, Function.update s.cursors c (some ts), s.lastCursor, s.yielded ++ [t],
    tagHandle s.yielded.length⟩

/-- A cursor opened on the tags `t :: ts` under the next handle. -/
def openCursor (s : TagState) (t : Tag) (ts : List Tag) : TagState :=
  { s.yield (s.lastCursor + 1) t ts with lastCursor := s.lastCursor + 1 }

/-- `FreeImage_FindFirstMetadata`: a cursor on the model's tags that yields the first, or 0 for
a model without tags. -/
def findFirst (s : TagState) (m : Int) : Int × TagState :=
  match s.tags m with
  | [] => (0, s)
  | t :: ts => (s.lastCursor + 1, s.openCursor t ts)

/-- `FreeImage_FindNextMetadata`: 1 and the cursor's next tag, or 0 when it has none left. -/
def findNext (s : TagState) (c : Int) : Int × TagState :=
  match s.cursors c with
  | some (t :: ts) => (1, s.yield c t ts)
  | _ => (0, s)

end TagState

/-- A library that serves the tags of one bitmap: a cursor walks a model's tags, each tag it
yields is handed out under a handle of its own, and the getters read the tag behind the handle
they are given. -/
def tagLib : Lib TagState where
  call f args s := match f, args with
    | .findFirstMetadata, [.int m, _, _] => s.findFirst m
    | .findNextMetadata, [.ptr c, _] => s.findNext c
    | .findCloseMetadata, [.ptr c] => (0, { s with cursors := Function.update s.cursors c none })
    | .getTagKey, [.ptr h] => (if (s.tagAt h).isSome then h + 2 ^ 31 else 0, s)
    | .getTagType, [.ptr h] => (((s.tagAt h).map Tag.type).getD 0, s)
    | .getTagLength, [.ptr h] => (((s.tagAt h).map fun t => (t.value.length : Int)).getD 0, s)
    | .getTagValue, [.ptr h] => (if (s.tagAt h).isSome then h else 0, s)
    | _, _ => (0, s)
  peek s a := ((s.blockAt a).map fun t => t.value.getD (a % 2 ^ 32).toNat 0).getD 0
  poke _ _ s := s
  cString s p := ((s.blockAt p).map Tag.key).getD []
  tagCell s := s.cell
  littleEndian := true

/-- The tags the description ranges over: a registered type, a payload whose length is a
multiple of the element size, and a length that fits a C `int`. -/
def Tag.Registered (t : Tag) : Prop :=
  t.value.length < 2 ^ 31 ∧ (t.type = MetadataDatatype.FIDT_ASCII ∨
    ∃ dt, MetadataDatatype.dtypes t.type = some dt ∧ t.value.length % dt.itemsize = 0)

/-- The value the description gives the payload `b` of a tag of type `type`, with the text
of an `FIDT_ASCII` payload taken up to its first NUL: the latin-1 text of those bytes, or for
a registered type the `len(b) / itemsize` elements of consecutive `itemsize`-byte chunks, a
bare scalar when there is one. -/
def describedValue (type : Int) (b : List UInt8) : Option TagValue :=
  if type = MetadataDatatype.FIDT_ASCII then some (.text (latin1 (b.takeWhile (· != 0))))
  else (MetadataDatatype.dtypes type).map fun dt =>
    match (List.range (b.length / dt.itemsize)).map fun i =>
      (b.drop (i * dt.itemsize)).take dt.itemsize with
    | [v] => .scalar dt v
    | vs => .array dt vs

theorem dtypes_range {t : Int} {m : MetaDtype} (h : MetadataDatatype.dtypes t = some m) :
    1 ≤ t ∧ t ≤ 18 := by
  unfold MetadataDatatype.dtypes at h
  split at h <;> cases h <;> decide

theorem Tag.Registered.type_range {t : Tag} (h : t.Registered) : 1 ≤ t.type ∧ t.type ≤ 18 := by
  rcases h.2 with h | ⟨_, h, -⟩
  · rw [h]
    decide
  · exact dtypes_range h

/-- A registered tag decodes, to the value the description gives it. -/
theorem decodeTag_registered {t : Tag} (h : t.Registered) :
    ∃ v, decodeTag t.type t.value = .ok v ∧ describedValue t.type t.value = some v := by
  rcases h.2 with ha | ⟨dt, hdt, hmod⟩
  · simp only [decodeTag, describedValue, if_pos ha]
    exact ⟨_, rfl, rfl⟩
  · have hna : t.type ≠ MetadataDatatype.FIDT_ASCII := fun ha => by
      rw [ha] at hdt
      cases hdt
    simp only [decodeTag, describedValue, if_neg hna, hdt, fromstring, hmod, ne_eq,
      not_true_eq_false, if_false, Except.map, Option.map_some']
    exact ⟨_, rfl, rfl⟩

/-! ### `_read_metadata` over the tag library -/

/-- `metadata[(model_name, tag_name)] = tag_val` for a tag that decodes; a tag that does not
decode raises instead. -/
def addTag (d : Metadata) (e : (String × String) × Tag) : Metadata :=
  match decodeTag e.2.type e.2.value with
  | .ok v => dictSet d e.1 v
  | .error _ => d

/-- The tags of a model as `_read_metadata` files them: under the model's name and the
latin-1 text of the tag's key. -/
def filed (name : String) (ts : List Tag) : List ((String × String) × Tag) :=
  ts.map fun t => ((name, latin1 t.key), t)

section Loops
variable {s : TagState} {t : Tag}

theorem ok_tagCall {f : Fn} {args : List Arg} {r : Int} {s' : TagState}
    {Q : Int → TagState → Prop} (hc : convertArgs 1 args = .ok args)
    (hcall : tagLib.call f args s = (r, s')) (hr : f.returnsPointer = false → cInt r = r)
    (h : Q r s') : Ok s (ffi tagLib f args) Q := by
  refine Ok.ffi _ hc ?_
  rw [hcall]
  cases hp : f.returnsPointer
  · rwa [if_neg Bool.false_ne_true, hr hp]
  · rwa [if_pos rfl]

namespace TagState

/-- The cell points at `t`, the tag handed out under its handle. -/
def Current (s : TagState) (t : Tag) : Prop := ∃ i, s.cell = tagHandle i ∧ s.yielded[i]? = some t

theorem blockAt_tagHandle {i k : Nat} (hk : k < 2 ^ 32) :
    s.blockAt (tagHandle i + k) = s.yielded[i]? ∧ (tagHandle i + k) % 2 ^ 32 = k := by
  have h₁ : (tagHandle i + k) / 2 ^ 32 - 1 = i := by unfold tagHandle; omega
  have h₂ : (tagHandle i + k) % 2 ^ 32 = k := by unfold tagHandle; omega
  have h₀ : 0 < tagHandle i + k := by unfold tagHandle; omega
  rw [blockAt, if_pos h₀, h₁, Int.toNat_natCast]
  exact ⟨rfl, h₂⟩

theorem Current.cell_pos (hs : s.Current t) : 0 < s.cell := by
  obtain ⟨i, hc, -⟩ := hs
  rw [hc, tagHandle]
  omega

/-- The getters find `t` behind the cell. -/
theorem Current.tagAt (hs : s.Current t) : s.tagAt s.cell = some t := by
  obtain ⟨i, hc, hi⟩ := hs
  have := blockAt_tagHandle (s := s) (i := i) (k := 0) (by norm_num)
  rw [Nat.cast_zero, add_zero] at this
  rw [TagState.tagAt, hc, if_pos this.2, this.1, hi]

/-- The payload of `t` starts at the cell. -/
theorem Current.peek (hs : s.Current t) {k : Nat} (hk : k < t.value.length) (hk' : k < 2 ^ 32) :
    tagLib.peek s (s.cell + k) = t.value[k] := by
  obtain ⟨i, hc, hi⟩ := hs
  obtain ⟨hb, hm⟩ := blockAt_tagHandle (s := s) (i := i) hk'
  simp only [tagLib, hc, hb, hm, hi, Int.toNat_natCast, Option.map_some', Option.getD_some]
  simp [hk]

/-- The key of `t` is the C string `2^31` bytes on. -/
theorem Current.cString (hs : s.Current t) : tagLib.cString s (s.cell + 2 ^ 31) = t.key := by
  obtain ⟨i, hc, hi⟩ := hs
  obtain ⟨hb, -⟩ := blockAt_tagHandle (s := s) (i := i) (k := 2 ^ 31) (by norm_num)
  rw [show ((2 ^ 31 : Nat) : Int) = 2 ^ 31 by norm_num] at hb
  simp only [tagLib, hc, hb, hi, Option.map_some', Option.getD_some]

theorem current_yield (c : Int) (t : Tag) (ts : List Tag) : (s.yield c t ts).Current t :=
  ⟨s.yielded.length, rfl, by simp [yield]⟩

theorem cursors_yield (c : Int) (t : Tag) (ts : List Tag) : (s.yield c t ts).cursors c = some ts :=
  Function.update_same _ _ _

theorem current_openCursor (t : Tag) (ts : List Tag) : (s.openCursor t ts).Current t :=
  current_yield (s := s) (s.lastCursor + 1) t ts

theorem cursors_openCursor (t : Tag) (ts : List Tag) :
    (s.openCursor t ts).cursors (s.lastCursor + 1) = some ts :=
  cursors_yield _ t ts

end TagState

theorem readBytes_tagLib (hs : s.Current t) (hlen : t.value.length < 2 ^ 31) :
    readBytes tagLib s s.cell t.value.length = t.value := by
  refine List.ext_get (by simp) fun k hk _ => ?_
  rw [readBytes_length] at hk
  simp only [readBytes, List.get_eq_getElem, List.getElem_map, List.getElem_range]
  exact hs.peek hk (by omega)

theorem tagLib_getTagKey {h : Int} (ht : s.tagAt h = some t) :
    tagLib.call .getTagKey [.ptr h] s = (h + 2 ^ 31, s) := by
  show (if (s.tagAt h).isSome then h + 2 ^ 31 else 0, s) = _
  rw [ht]
  rfl

theorem tagLib_getTagType {h : Int} (ht : s.tagAt h = some t) :
    tagLib.call .getTagType [.ptr h] s = (t.type, s) := by
  show (((s.tagAt h).map Tag.type).getD 0, s) = _
  rw [ht]
  rfl

theorem tagLib_getTagLength {h : Int} (ht : s.tagAt h = some t) :
    tagLib.call .getTagLength [.ptr h] s = ((t.value.length : Int), s) := by
  show (((s.tagAt h).map fun t => (t.value.length : Int)).getD 0, s) = _
  rw [ht]
  rfl

theorem tagLib_getTagValue {h : Int} (ht : s.tagAt h = some t) :
    tagLib.call .getTagValue [.ptr h] s = (h, s) := by
  show (if (s.tagAt h).isSome then h else 0, s) = _
  rw [ht]
  rfl

/-- The body of `while more:` on the tag the cell points at: its key and its decoded value,
and nothing changes. -/
theorem readTag_ok (hs : s.Current t) (ht : t.Registered) {Q : String × TagValue → TagState → Prop}
    (h : ∀ v, decodeTag t.type t.value = .ok v → Q (latin1 t.key, v) s) :
    Ok s (readTag tagLib) Q := by
  obtain ⟨v, hv, -⟩ := decodeTag_registered ht
  have htype := ht.type_range
  have hlen : (t.value.length : Int) < 2 ^ 31 := by exact_mod_cast ht.1
  have hpos := hs.cell_pos
  simp only [readTag, FI.pure_bind, FI.raise_bind]
  refine Ok.bind (Ok.read ?_)
  simp only [show tagLib.tagCell s = s.cell from rfl]
  refine Ok.bind (ok_tagCall rfl (tagLib_getTagKey hs.tagAt) nofun
    (Ok.bind (Ok.ite (fun h => absurd h (by omega))
    fun _ => Ok.read (g := fun st => latin1 (tagLib.cString st (s.cell + 2 ^ 31))) ?_)))
  refine Ok.bind (ok_tagCall rfl (tagLib_getTagType hs.tagAt) (fun _ => cInt_of_lt (by omega)
    (by omega)) (Ok.bind (ok_tagCall rfl (tagLib_getTagLength hs.tagAt)
    (fun _ => cInt_of_lt (by omega) hlen) (Ok.unless (by omega) ?_))))
  refine Ok.bind (ok_tagCall rfl (tagLib_getTagValue hs.tagAt) nofun (Ok.unless hpos.ne'
    (Ok.bind (Ok.peekBytes _ ?_))))
  simp only [Int.toNat_natCast, readBytes_tagLib hs ht.1, hv, hs.cString]
  exact Ok.bind (Ok.pure (Ok.pure (h v hv)))

theorem tagLib_findFirstMetadata_nil {m : Int} (hm : s.tags m = []) (a b : Arg) :
    tagLib.call .findFirstMetadata [.int m, a, b] s = (0, s) := by
  show s.findFirst m = _
  rw [TagState.findFirst, hm]

theorem tagLib_findFirstMetadata_cons {m : Int} {u : Tag} {us : List Tag} (hm : s.tags m = u :: us)
    (a b : Arg) :
    tagLib.call .findFirstMetadata [.int m, a, b] s =
      ((s.lastCursor : Int) + 1, s.openCursor u us) := by
  show s.findFirst m = _
  rw [TagState.findFirst, hm]

theorem tagLib_findNextMetadata_nil {c : Int} (hc : s.cursors c = some []) (a : Arg) :
    tagLib.call .findNextMetadata [.ptr c, a] s = (0, s) := by
  show s.findNext c = _
  rw [TagState.findNext, hc]

theorem tagLib_findNextMetadata_cons {c : Int} {u : Tag} {us : List Tag}
    (hc : s.cursors c = some (u :: us)) (a : Arg) :
    tagLib.call .findNextMetadata [.ptr c, a] s = (1, s.yield c u us) := by
  show s.findNext c = _
  rw [TagState.findNext, hc]

/-- The `while more:` loop of cursor `c` on the tag `t`, with the tags `ts` still to come: it
files each of them. -/
theorem tagLoop_ok (name : String) (c : Int) :
    ∀ (ts : List Tag) (fuel : Nat) (md : Metadata) (s : TagState) (t : Tag),
      s.Current t → s.cursors c = some ts → ts.length < fuel → (∀ u ∈ t :: ts, u.Registered) →
      Ok s (tagLoop tagLib name c fuel md) fun md' s' =>
        md' = (filed name (t :: ts)).foldl addTag md ∧ s'.tags = s.tags
  | _, 0, _, _, _, _, _, h, _ => absurd h (Nat.not_lt_zero _)
  | ts, fuel + 1, md, s, t, hs, hp, hlen, hreg => by
    simp only [tagLoop]
    refine Ok.bind (readTag_ok hs (hreg t (.head _)) fun v hv => ?_)
    have hadd : addTag md ((name, latin1 t.key), t) = dictSet md (name, latin1 t.key) v := by
      simp only [addTag, hv]
    cases ts with
    | nil =>
      refine Ok.bind (ok_tagCall rfl (tagLib_findNextMetadata_nil hp _) (fun _ => rfl) ?_)
      rw [if_pos rfl]
      exact Ok.pure ⟨by rw [filed, List.map_singleton, List.foldl_cons, hadd]; rfl, rfl⟩
    | cons u us =>
      refine Ok.bind (ok_tagCall rfl (tagLib_findNextMetadata_cons hp _) (fun _ => rfl) ?_)
      rw [if_neg one_ne_zero]
      refine (tagLoop_ok name c us fuel _ _ u (TagState.current_yield c u us)
        (TagState.cursors_yield c u us) (by simpa using hlen)
        fun w hw => hreg w (.tail _ hw)).conseq fun md' s' ⟨hmd, htags⟩ => ⟨?_, htags⟩
      rw [hmd]
      simp only [filed, List.map_cons, List.foldl_cons, hadd]

/-- The `for model_name, number in models:` loop: it files the tags of each model in turn. -/
theorem modelLoop_ok (tags : Int → List Tag) (hreg : ∀ m, ∀ t ∈ tags m, t.Registered)
    (fuel : Nat) (hfuel : ∀ m, (tags m).length ≤ fuel) (bitmap : Int) :
    ∀ (ms : List (String × Int)) (md : Metadata) (s : TagState), s.tags = tags →
      (∀ p ∈ ms, 0 ≤ p.2 ∧ p.2 < 2 ^ 31) →
      Ok s (modelLoop tagLib fuel bitmap ms md) fun md' _ =>
        md' = (ms.flatMap fun p => filed p.1 (tags p.2)).foldl addTag md
  | [], md, s, _, _ => Ok.pure rfl
  | (name, m) :: rest, md, s, hs, hm => by
    have hm' := hm (name, m) (.head _)
    have hrest := fun p hp => hm p (List.mem_cons_of_mem _ hp)
    simp only [modelLoop]
    rcases htm : tags m with _ | ⟨t, ts⟩
    · refine Ok.bind (ok_tagCall (convertArgs_of_lt (by simpa using hm'))
        (tagLib_findFirstMetadata_nil (hs ▸ htm) _ _) nofun ?_)
      rw [if_pos rfl]
      refine (modelLoop_ok tags hreg fuel hfuel bitmap rest md s hs hrest).conseq fun _ _ h => ?_
      rw [h, List.flatMap_cons, htm]
      rfl
    · refine Ok.bind (ok_tagCall (convertArgs_of_lt (by simpa using hm'))
        (tagLib_findFirstMetadata_cons (hs ▸ htm) _ _) nofun ?_)
      rw [if_neg (by omega)]
      have hlen : ts.length < fuel := by simpa [htm] using hfuel m
      refine Ok.bind ((tagLoop_ok name _ ts fuel md _ t (TagState.current_openCursor t ts)
        (TagState.cursors_openCursor t ts) hlen fun u hu => hreg m u (htm ▸ hu)).conseq
        fun md' s' ⟨hmd, htags⟩ => ?_)
      refine Ok.bind (ok_tagCall rfl rfl (fun _ => rfl) ?_)
      refine (modelLoop_ok tags hreg fuel hfuel bitmap rest md' _ (by exact htags.trans hs)
        hrest).conseq fun _ _ h => ?_
      rw [h, hmd, List.flatMap_cons, htm, List.foldl_append]

end Loops

/-! ### The dict the tags make -/

/-- The value the description gives the key `k`: that of the last tag filed under `k`. -/
def lastValue : List ((String × String) × Tag) → String × String → Option TagValue
  | [], _ => none
  | e :: es, k => (lastValue es k).or (if e.1 = k then describedValue e.2.type e.2.value else none)

section Filing
variable {k : String × String}

theorem dictGet_foldl_addTag : ∀ (es : List ((String × String) × Tag)) (d : Metadata),
    (∀ e ∈ es, e.2.Registered) → dictGet (es.foldl addTag d) k = (lastValue es k).or (dictGet d k)
  | [], _, _ => rfl
  | e :: es, d, h => by
    obtain ⟨v, hv, hdv⟩ := decodeTag_registered (h e (.head _))
    have hadd : addTag d e = dictSet d e.1 v := by simp only [addTag, hv]
    rw [List.foldl_cons, hadd, dictGet_foldl_addTag es _ fun e he => h e (.tail _ he),
      dictGet_dictSet, lastValue, Option.or_assoc]
    by_cases hk : e.1 = k
    · simp [hk, hdv]
    · simp [hk, Ne.symm hk]

theorem keys_foldl_addTag : ∀ (es : List ((String × String) × Tag)) (d : Metadata),
    (d.map Prod.fst).Nodup → ((es.foldl addTag d).map Prod.fst).Nodup
  | [], _, h => h
  | e :: es, d, h => by
    rw [List.foldl_cons]
    refine keys_foldl_addTag es _ ?_
    unfold addTag
    split
    · exact keys_dictSet h
    · exact h

theorem lastValue_isSome : ∀ {es : List ((String × String) × Tag)}, (∀ e ∈ es, e.2.Registered) →
    ((lastValue es k).isSome ↔ k ∈ es.map Prod.fst)
  | [], _ => ⟨nofun, nofun⟩
  | e :: es, h => by
    obtain ⟨v, -, hdv⟩ := decodeTag_registered (h e (.head _))
    rw [lastValue, List.map_cons, List.mem_cons, Option.isSome_or, Bool.or_eq_true,
      lastValue_isSome fun e he => h e (.tail _ he)]
    by_cases hk : e.1 = k
    · simp only [hk, if_true, hdv, Option.isSome_some, or_true, true_or]
    · simp only [hk, if_false, Option.isSome_none, Bool.false_eq_true, or_false, Ne.symm hk,
        false_or]

end Filing

/-- The tags the FreeImage iteration yields, filed under (model name, tag key), model by
model in the order of `METADATA_MODELS`. -/
def enumerated (tags : Int → List Tag) : List ((String × String) × Tag) :=
  models.flatMap fun p => filed p.1 (tags p.2)

/-- Metadata extraction, over a library that yields for each metadata model any finite
sequence of tags with registered types, payloads whose length is a multiple of the element
size, and lengths that fit a C `int`: `_read_metadata` returns a dict with one entry for each
distinct (model name, tag key) pair enumerated, and the entry holds the value the description
gives the payload of the last tag enumerated under that pair, the text of an `FIDT_ASCII`
payload ending at its first NUL. -/
theorem readMetadata_decodes (tags : Int → List Tag) (hreg : ∀ m, ∀ t ∈ tags m, t.Registered)
    (fuel : Nat) (hfuel : ∀ m, (tags m).length ≤ fuel) (bitmap : Int) (tr : List Event) :
    ∃ md, ((_readMetadata tagLib fuel bitmap).run ⟨TagState.init tags, tr⟩).1 = .ok md ∧
      (md.map Prod.fst).Nodup ∧
      (∀ k, k ∈ md.map Prod.fst ↔ k ∈ (enumerated tags).map Prod.fst) ∧
      ∀ k, dictGet md k = lastValue (enumerated tags) k := by
  have hm : ∀ p ∈ models, 0 ≤ p.2 ∧ p.2 < 2 ^ 31 := by decide
  have hreg' : ∀ e ∈ enumerated tags, e.2.Registered := fun e he => by
    obtain ⟨p, -, he⟩ := List.mem_flatMap.1 he
    obtain ⟨t, ht, rfl⟩ := List.mem_map.1 he
    exact hreg _ t ht
  obtain ⟨md, hrun, hmd⟩ := modelLoop_ok tags hreg fuel hfuel bitmap models []
    (TagState.init tags) rfl hm tr
  replace hmd : md = (enumerated tags).foldl addTag [] := hmd
  subst hmd
  refine ⟨_, hrun, keys_foldl_addTag _ _ List.nodup_nil, fun k => ?_, fun k => ?_⟩
  · rw [mem_keys_iff_dictGet, dictGet_foldl_addTag _ _ hreg', ← lastValue_isSome hreg',
      dictGet_nil, Option.or_none]
  · rw [dictGet_foldl_addTag _ _ hreg', dictGet_nil, Option.or_none]

/-- The bytes of an ASCII string. -/
def asciiBytes (s : String) : List UInt8 := s.toList.map fun c => c.toNat.toUInt8

/-- The EXIF main model of a photograph: its maker as text and its orientation as one short. -/
def exifTags (m : Int) : List Tag :=
  if m = 1 then
    [⟨asciiBytes "Make", 2, asciiBytes "Canon" ++ [0], by decide⟩,
      ⟨asciiBytes "Orientation", 3, [1, 0], by decide⟩]
  else []

theorem readMetadata_decodes_exif :
    (∀ m, ∀ t ∈ exifTags m, t.Registered) ∧ (∀ m, (exifTags m).length ≤ 2) ∧
    ∃ md, ((_readMetadata tagLib 2 0).run ⟨TagState.init exifTags, []⟩).1 = .ok md ∧
      (md.map Prod.fst).Nodup ∧
      (∀ k, k ∈ md.map Prod.fst ↔ k ∈ (enumerated exifTags).map Prod.fst) ∧
      ∀ k, dictGet md k = lastValue (enumerated exifTags) k := by
  have hreg : ∀ m, ∀ t ∈ exifTags m, t.Registered := by
    intro m t ht
    unfold exifTags at ht
    split at ht
    · simp only [List.mem_cons, List.mem_singleton, List.not_mem_nil, or_false] at ht
      rcases ht with rfl | rfl
      · exact ⟨by decide, .inl rfl⟩
      · exact ⟨by decide, .inr ⟨_, rfl, rfl⟩⟩
    · cases ht
  have hfuel : ∀ m, (exifTags m).length ≤ 2 := fun m => by
    unfold exifTags
    split <;> decide
  exact ⟨hreg, hfuel, readMetadata_decodes exifTags hreg 2 hfuel 0 []⟩

/-- The text the description gives an `FIDT_ASCII` payload: its latin-1 text without its
trailing NUL terminator. -/
def asciiWithoutTerminator (b : List UInt8) : String :=
  latin1 (if b.getLast? = some 0 then b.dropLast else b)

/-- An EXIF copyright of two NUL-separated strings, the photographer's then the editor's. -/
def copyrightTags (m : Int) : List Tag :=
  if m = 1 then
    [⟨asciiBytes "Copyright", 2, asciiBytes "Photographer" ++ [0] ++ asciiBytes "Editor" ++ [0],
      by decide⟩]
  else []

/-- `_read_metadata` keeps the photographer only, where the description keeps the editor too. -/
theorem ascii_value_stops_at_nul :
    ((_readMetadata tagLib 1 0).run ⟨TagState.init copyrightTags, []⟩).1 =
      .ok [(("EXIF_MAIN", "Copyright"), .text "Photographer")] ∧
    asciiWithoutTerminator (asciiBytes "Photographer" ++ [0] ++ asciiBytes "Editor" ++ [0]) =
      "Photographer" ++ (Char.ofNat 0).toString ++ "Editor" :=
  ⟨rfl, rfl⟩

end FreeImagePy
