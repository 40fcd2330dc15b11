import FreeImagePy.Interface

/-!
# Loading the FreeImage library

`load_freeimage`: the candidates `glob` finds beside the module are tried in order with the
platform's loader, and the first one that loads is the library; the exceptions of those that
fail before it are kept. When none loads, the message joins one `'%s:\n%s'` line per failure,
but Python concatenates the adjacent literals of the header with the `'\n\n'` that `.join` is
called on, so the header is the separator: one failure gives its line alone. With no candidate
at all the message names `lib_dirs`, which the module never defines, and the call raises
`NameError`. The library that loads is then given the `error_handler` callback through
`FreeImage_SetOutputMessage`; ctypes looks the symbol up first and raises `AttributeError` when
the library lacks it, so a first candidate without it is fatal, whatever comes after it. The
platform's loader and its symbol lookup are the parameters `loadLibrary` and `dlsym`; what the
callback does once FreeImage calls it is not modelled.
-/

namespace FreeImagePy

section Loading
variable {H : Type} (loadLibrary : String → Except (List String) H)
  (dlsym : H → String → Except String Unit)

/-- The `for lib in possible_freeimage_libs:` loop: the library of the first candidate that
loads, and each candidate that failed before it with the `str` of each of its exception's
`args`. -/
def loadLoop : List String → Option H × List (String × List String)
  | [] => (none, [])
  | lib :: rest => match loadLibrary lib with
    | .ok freeimage => (some freeimage, [])
    | .error args => ((loadLoop rest).1, (lib, args) :: (loadLoop rest).2)

/-- The string `.join` is called on: the three adjacent literals of the `raise`, concatenated. -/
def loadErrorsSeparator : String :=
  "One or more FreeImage libraries were found, but " ++
    "could not be loaded due to the following errors:\n" ++ "\n\n"

/-- `'%s:\n%s' % (l, str(e.args[0]))`. -/
def errorLine (l : String) : List String → Except PyErr String
  | a :: _ => .ok (l ++ ":\n" ++ a)
  | [] => .error ⟨.indexError, "tuple index out of range"⟩

/-- `freeimage.FreeImage_SetOutputMessage(error_handler)`: the attribute lookup raises
`AttributeError` with the loader's message when the library lacks the symbol; the call returns
nothing the module keeps. -/
def setOutputMessage (freeimage : H) : Except PyErr Unit :=
  match dlsym freeimage "FreeImage_SetOutputMessage" with
  | .ok () => .ok ()
  | .error msg => .error ⟨.attributeError, msg⟩

/-- `load_freeimage`, for the candidates `glob` returns. -/
def loadFreeimage (candidates : List String) : Except PyErr H :=
  match loadLoop loadLibrary candidates with
  | (some freeimage, _) => do
    setOutputMessage dlsym freeimage
    pure freeimage
  | (none, []) => .error ⟨.nameError, "name 'lib_dirs' is not defined"⟩
  | (none, errors) => do
    let errTxt ← errors.mapM fun e => errorLine e.1 e.2
    .error ⟨.runtimeError, loadErrorsSeparator.intercalate errTxt⟩

theorem loadLoop_some {freeimage : H} :
    ∀ {candidates : List String}, (loadLoop loadLibrary candidates).1 = some freeimage ↔
      ∃ failed lib rest, candidates = failed ++ lib :: rest ∧
        (∀ l ∈ failed, ∃ args, loadLibrary l = .error args) ∧ loadLibrary lib = .ok freeimage
  | [] => by simp [loadLoop]
  | lib :: rest => by
    rw [loadLoop]
    cases hl : loadLibrary lib with
    | ok h =>
      refine ⟨fun hh => ⟨[], lib, rest, rfl, nofun, hl.trans (congrArg _ (Option.some.inj hh))⟩,
        fun ⟨failed, lib', rest', he, hf, hok⟩ => ?_⟩
      rcases failed with _ | ⟨l, failed⟩
      · obtain ⟨rfl, rfl⟩ := List.cons.inj he
        exact congrArg some (Except.ok.inj (hl.symm.trans hok))
      · obtain ⟨rfl, -⟩ := List.cons.inj he
        obtain ⟨args, ha⟩ := hf _ (.head _)
        cases hl.symm.trans ha
    | error args =>
      rw [loadLoop_some]
      constructor
      · rintro ⟨failed, lib', rest', rfl, hf, hok⟩
        exact ⟨lib :: failed, lib', rest', rfl, by
          rintro l (_ | ⟨_, hl'⟩)
          exacts [⟨args, hl⟩, hf l hl'], hok⟩
      · rintro ⟨_ | ⟨l, failed⟩, lib', rest', he, hf, hok⟩
        · obtain ⟨rfl, rfl⟩ := List.cons.inj he
          cases hl.symm.trans hok
        · obtain ⟨rfl, rfl⟩ := List.cons.inj he
          exact ⟨failed, lib', rest', rfl, fun l' hl' => hf l' (.tail _ hl'), hok⟩

theorem runtimeError_ne_ok {errors : List (String × List String)} {freeimage : H} :
    ((errors.mapM fun e => errorLine e.1 e.2) >>= fun errTxt =>
      (.error ⟨.runtimeError, loadErrorsSeparator.intercalate errTxt⟩ : Except PyErr H)) ≠
      .ok freeimage := by
  cases errors.mapM fun e => errorLine e.1 e.2 <;> nofun

theorem loadFreeimage_of_loaded {candidates : List String} {h : H}
    {errors : List (String × List String)} (hl : loadLoop loadLibrary candidates = (some h, errors)) :
    loadFreeimage loadLibrary dlsym candidates = match dlsym h "FreeImage_SetOutputMessage" with
      | .ok () => .ok h
      | .error msg => .error ⟨.attributeError, msg⟩ := by
  unfold loadFreeimage setOutputMessage
  rw [hl]
  dsimp only
  split <;> rfl

theorem loadFreeimage_ne_ok {candidates : List String} {freeimage : H}
    (hl : (loadLoop loadLibrary candidates).1 = none) :
    loadFreeimage loadLibrary dlsym candidates ≠ .ok freeimage := by
  unfold loadFreeimage
  rcases h : loadLoop loadLibrary candidates with ⟨_ | _, _ | ⟨e, errors⟩⟩
  · nofun
  · exact runtimeError_ne_ok
  all_goals
    rw [h] at hl
    cases hl

/-- The candidates split at the first that loads, with a fact `D` about its library. -/
theorem exists_first_loaded (candidates : List String) (freeimage : H) (D : Prop) :
    (∃ failed lib rest, candidates = failed ++ lib :: rest ∧
      (∀ l ∈ failed, ∃ args, loadLibrary l = .error args) ∧ loadLibrary lib = .ok freeimage ∧ D) ↔
      (loadLoop loadLibrary candidates).1 = some freeimage ∧ D := by
  rw [loadLoop_some]
  constructor
  · rintro ⟨failed, lib, rest, h₁, h₂, h₃, hD⟩
    exact ⟨⟨failed, lib, rest, h₁, h₂, h₃⟩, hD⟩
  · rintro ⟨⟨failed, lib, rest, h₁, h₂, h₃⟩, hD⟩
    exact ⟨failed, lib, rest, h₁, h₂, h₃, hD⟩

/-- `load_freeimage` returns a library exactly when some candidate loads and the first that
does exports `FreeImage_SetOutputMessage`, and then it is that library; when the first that loads
lacks the symbol it raises `AttributeError` with the loader's message, whatever the candidates
after it. -/
theorem loadFreeimage_first (candidates : List String) (freeimage : H) :
    (loadFreeimage loadLibrary dlsym candidates = .ok freeimage ↔
      ∃ failed lib rest, candidates = failed ++ lib :: rest ∧
        (∀ l ∈ failed, ∃ args, loadLibrary l = .error args) ∧
        loadLibrary lib = .ok freeimage ∧ dlsym freeimage "FreeImage_SetOutputMessage" = .ok ()) ∧
    ∀ msg, (∃ failed lib rest, candidates = failed ++ lib :: rest ∧
        (∀ l ∈ failed, ∃ args, loadLibrary l = .error args) ∧
        loadLibrary lib = .ok freeimage ∧
        dlsym freeimage "FreeImage_SetOutputMessage" = .error msg) →
      loadFreeimage loadLibrary dlsym candidates = .error ⟨.attributeError, msg⟩ := by
  simp only [exists_first_loaded]
  rcases hl : loadLoop loadLibrary candidates with ⟨_ | h, errors⟩
  · exact ⟨⟨fun he => absurd he (loadFreeimage_ne_ok loadLibrary dlsym (congrArg Prod.fst hl)),
      fun ⟨h, _⟩ => nomatch h⟩, fun _ ⟨h, _⟩ => nomatch h⟩
  · rw [loadFreeimage_of_loaded loadLibrary dlsym hl]
    refine ⟨⟨fun he => ?_, fun ⟨he, hd⟩ => ?_⟩, fun msg ⟨he, hd⟩ => ?_⟩
    · split at he
      · cases he
        exact ⟨rfl, ‹_›⟩
      · cases he
    all_goals
      cases he
      rw [hd]

/-- The first candidate loads but lacks `FreeImage_SetOutputMessage`: `AttributeError`, though
the second candidate is a complete library. -/
theorem loadFreeimage_first_lacks_symbol :
    loadFreeimage (fun l => if l = "a.so" then .ok 1 else .ok 2 : String → Except (List String) Nat)
      (fun h _ => if h = 1 then .error "undefined symbol: FreeImage_SetOutputMessage" else .ok ())
      ["a.so", "b.so"] =
      .error ⟨.attributeError, "undefined symbol: FreeImage_SetOutputMessage"⟩ :=
  (loadFreeimage_first _ _ ["a.so", "b.so"] 1).2 _ ⟨[], "a.so", ["b.so"], rfl, nofun, rfl, rfl⟩

theorem loadLoop_failed : ∀ {fails : List (String × String)},
    (∀ p ∈ fails, ∃ rest, loadLibrary p.1 = .error (p.2 :: rest)) →
    (loadLoop loadLibrary (fails.map Prod.fst)).1 = none ∧
    ((loadLoop loadLibrary (fails.map Prod.fst)).2.mapM fun e => errorLine e.1 e.2) =
      .ok (fails.map fun p => p.1 ++ ":\n" ++ p.2) ∧
    ((loadLoop loadLibrary (fails.map Prod.fst)).2 = [] ↔ fails = [])
  | [], _ => ⟨rfl, rfl, by simp [loadLoop]⟩
  | p :: fails, hf => by
    obtain ⟨rest, hp⟩ := hf p (.head _)
    obtain ⟨h₁, h₂, -⟩ := loadLoop_failed fun q hq => hf q (.tail _ hq)
    simp only [List.map_cons, loadLoop, hp, h₁, List.mapM_cons, h₂, reduceCtorEq, iff_false,
      and_true, true_and]
    rfl

/-- When no candidate loads and each failure's exception has an argument, `load_freeimage`
raises `RuntimeError` whose message is the failures' lines joined by the header, so that a
single failure gives its line without the header; with no candidate it raises `NameError`. -/
theorem loadFreeimage_failed (fails : List (String × String))
    (hf : ∀ p ∈ fails, ∃ rest, loadLibrary p.1 = .error (p.2 :: rest)) :
    loadFreeimage loadLibrary dlsym (fails.map Prod.fst) = .error
      (if fails = [] then ⟨.nameError, "name 'lib_dirs' is not defined"⟩
      else ⟨.runtimeError,
        loadErrorsSeparator.intercalate (fails.map fun p => p.1 ++ ":\n" ++ p.2)⟩) := by
  obtain ⟨h₁, h₂, h₃⟩ := loadLoop_failed loadLibrary hf
  unfold loadFreeimage
  rcases hl : loadLoop loadLibrary (fails.map Prod.fst) with ⟨_ | _, _ | ⟨e, errors⟩⟩
  · rw [hl] at h₃
    rw [if_pos (h₃.1 rfl)]
  · rw [hl] at h₂ h₃
    rw [if_neg (fun h => nomatch h₃.2 h)]
    simp only [h₂]
    rfl
  all_goals rw [hl] at h₁; cases h₁

end Loading

/-- One candidate that does not load: the header is not in the message. -/
theorem loadFreeimage_failed_one :
    (∀ p ∈ [("_freeimage.so", "cannot open shared object file")], ∃ rest,
      (fun _ => .error ["cannot open shared object file"] : String → Except (List String) Unit)
        p.1 = .error (p.2 :: rest)) ∧
    loadFreeimage (fun _ => .error ["cannot open shared object file"]) (fun _ _ => .ok ())
      (List.map Prod.fst [("_freeimage.so", "cannot open shared object file")]) =
      (.error (if [("_freeimage.so", "cannot open shared object file")] = [] then
          ⟨.nameError, "name 'lib_dirs' is not defined"⟩
        else ⟨.runtimeError, loadErrorsSeparator.intercalate
          ([("_freeimage.so", "cannot open shared object file")].map
            fun p => p.1 ++ ":\n" ++ p.2)⟩) : Except PyErr Unit) ∧
    loadErrorsSeparator.intercalate ["_freeimage.so:\ncannot open shared object file"] =
      "_freeimage.so:\ncannot open shared object file" :=
  ⟨fun _ hp => ⟨[], by rw [List.mem_singleton.1 hp]⟩,
    loadFreeimage_failed _ _ _ fun _ hp => ⟨[], by rw [List.mem_singleton.1 hp]⟩, rfl⟩

end FreeImagePy
