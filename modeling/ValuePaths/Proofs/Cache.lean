import Mathlib
import ValuePaths.Proofs.Oblivious

/-!
# The cache of compiled paths

A cache keeps each compiled path under its root shape and path text and hands it out again,
the same one, until it is cleared; a compilation that fails is not kept.  Here a cache is
driven by any sequence of calls (`CacheCall`), all with one access context, and over every
such run:

* a request answers exactly what compiling the path afresh gives, its descriptor or its
  error, and a request that fails leaves the cache as it was;
* a path handed out is handed out again, as the same one, by every later request for it
  until the cache is cleared, and a path compiled anew is one never handed out before;
* the cache counts the distinct root shapes and paths compiled since it was last cleared.

The serial number a cache gives each path it compiles stands for the identity of that path:
two answers hold the same path exactly when they carry the same number.

The proofs carry three invariants, measured against the calls made since the last clear
(`CacheCall.sinceClear`): `Cache.Sound` (a cached path is what compiling its root shape and
text gives), `Cache.Tracks` (the cached keys are the distinct pairs compiled since the last
clear) and `Cache.Serials` (every serial number is below the next one).  Each call keeps them
(`Cache.Sound.call`, `Cache.Tracks.call`, `Cache.Serials.call`), so every run does.

## Main statements

* `Cache.getOrCompile_cases` — the three things a request can do.
* `Cache.getOrCompile_answers` — a request answers what a fresh compilation gives.
* `Cache.find?_run` — a cached path stays cached until the cache is cleared.
* `Cache.size_run` — the size of a cache after a run.
* `Cache.cache_memoizes_compilation` — the cache over any run of calls.
-/

namespace ValuePaths

variable [Catalogue]

open Logged

/-- A call on a cache of compiled paths. -/
inductive CacheCall where
  /-- The cached path of a root shape and path text, compiled if it is not there. -/
  | getOrCompile (root : Shape) (path : String)
  /-- The number of cached paths. -/
  | len
  /-- Whether no path is cached. -/
  | isEmpty
  /-- Forgets every cached path. -/
  | clear
  deriving DecidableEq, Repr

/-- What a call on a cache answers. -/
inductive CacheAnswer where
  /-- A path with its serial number and whether it came from the cache, or why it does not
  compile. -/
  | compiled (result : Except AccessError (Nat × Descriptor × Bool))
  | len (n : Nat)
  | isEmpty (empty : Bool)
  | cleared
  deriving Repr

namespace CacheCall

/-- The root shape and path text a call asks to compile. -/
def request : CacheCall → Option (Shape × String)
  | getOrCompile root path => some (root, path)
  | _ => none

/-- The calls made since the last `clear`, once one more call is made. -/
def extend (since : List CacheCall) (k : CacheCall) : List CacheCall :=
  if k = clear then [] else since ++ [k]

/-- The calls of a history made after its last `clear`. -/
def sinceClear (calls : List CacheCall) : List CacheCall := calls.foldl extend []

omit [Catalogue] in
@[simp] theorem extend_clear (since : List CacheCall) : extend since clear = [] := if_pos rfl

omit [Catalogue] in
theorem extend_of_ne_clear (since : List CacheCall) {k : CacheCall} (hk : k ≠ clear) :
    extend since k = since ++ [k] := if_neg hk

/-- The root shapes and paths that a list of calls asks to compile and that compile. -/
def compiledKeys (ctx : Context) (calls : List CacheCall) : List (Shape × String) :=
  (calls.filterMap request).filter fun key => (ctx.compile key.1 key.2).val.isOk

theorem compiledKeys_append (ctx : Context) (calls : List CacheCall) (k : CacheCall) :
    compiledKeys ctx (calls ++ [k]) = compiledKeys ctx calls ++ compiledKeys ctx [k] := by
  simp [compiledKeys, List.filterMap_append, List.filter_append]

/-- A request adds its key to what a history compiled, when it compiles. -/
theorem mem_compiledKeys_request (ctx : Context) (calls : List CacheCall) (root : Shape)
    (path : String) (key : Shape × String) :
    key ∈ compiledKeys ctx (calls ++ [getOrCompile root path]) ↔
      key ∈ compiledKeys ctx calls ∨ (key = (root, path) ∧ (ctx.compile root path).val.isOk) := by
  rw [compiledKeys_append, List.mem_append]
  have hsingle : compiledKeys ctx [getOrCompile root path] =
      [(root, path)].filter fun key => (ctx.compile key.1 key.2).val.isOk := rfl
  rw [hsingle, List.mem_filter, List.mem_singleton]
  constructor
  · rintro (h | ⟨rfl, h⟩)
    · exact .inl h
    · exact .inr ⟨rfl, h⟩
  · rintro (h | ⟨rfl, h⟩)
    · exact .inl h
    · exact .inr ⟨rfl, h⟩

/-- A call that asks to compile nothing adds nothing to what a history compiled. -/
theorem compiledKeys_append_of_request {k : CacheCall} (hk : k.request = none) (ctx : Context)
    (calls : List CacheCall) : compiledKeys ctx (calls ++ [k]) = compiledKeys ctx calls := by
  rw [compiledKeys_append]
  simp [compiledKeys, hk]

end CacheCall

namespace Cache

variable (ctx : Context)

/-- Answers one call, with the cache it leaves. -/
def call (c : Cache) : CacheCall → Cache × CacheAnswer
  | .getOrCompile root path =>
    ((c.getOrCompile ctx root path).val.1, .compiled (c.getOrCompile ctx root path).val.2)
  | .len => (c, .len c.size)
  | .isEmpty => (c, .isEmpty c.isEmpty)
  | .clear => (c.clear, .cleared)

/-- Answers calls in order, from a cache: the cache they leave and their answers. -/
def run (c : Cache) : List CacheCall → Cache × List CacheAnswer
  | [] => (c, [])
  | k :: ks =>
    let first := c.call ctx k
    let rest := run first.1 ks
    (rest.1, first.2 :: rest.2)

@[simp] theorem call_getOrCompile (c : Cache) (root : Shape) (path : String) :
    c.call ctx (.getOrCompile root path) =
      ((c.getOrCompile ctx root path).val.1, .compiled (c.getOrCompile ctx root path).val.2) :=
  rfl

@[simp] theorem call_len (c : Cache) : c.call ctx .len = (c, .len c.size) := rfl

@[simp] theorem call_isEmpty (c : Cache) : c.call ctx .isEmpty = (c, .isEmpty (c.size == 0)) := rfl

@[simp] theorem call_clear (c : Cache) : c.call ctx .clear = (c.clear, .cleared) := rfl

@[simp] theorem run_nil (c : Cache) : c.run ctx [] = (c, []) := rfl

@[simp] theorem run_cons (c : Cache) (k : CacheCall) (ks : List CacheCall) :
    c.run ctx (k :: ks) =
      (((c.call ctx k).1.run ctx ks).1, (c.call ctx k).2 :: ((c.call ctx k).1.run ctx ks).2) :=
  rfl

/-- The keys of the cached paths, in order. -/
def keys (c : Cache) : List (Shape × String) := c.entries.map (·.1)

/-- Every cached path is what compiling its root shape and path text gives. -/
def Sound (c : Cache) : Prop :=
  ∀ key n d, (key, n, d) ∈ c.entries → (ctx.compile key.1 key.2).val = .ok d

/-- The cached keys are the distinct root shapes and paths that the calls `since` compiled. -/
structure Tracks (c : Cache) (since : List CacheCall) : Prop where
  nodup : c.keys.Nodup
  mem_keys : ∀ key, key ∈ c.keys ↔ key ∈ CacheCall.compiledKeys ctx since

/-- Every serial number of a cached path is below the next one. -/
def Serials (c : Cache) : Prop := ∀ e ∈ c.entries, e.2.1 < c.next

/-! ## One request -/

section Request

variable {ctx} {c : Cache} {root : Shape} {path : String}

omit [Catalogue] in
/-- A cache finds a path by the first entry under its root shape and path text. -/
theorem find?_eq_some_iff {n : Nat} {d : Descriptor} :
    c.find? root path = some (n, d) ↔
      c.entries.find? (·.1 == (root, path)) = some ((root, path), n, d) := by
  unfold find?
  constructor
  · intro h
    obtain ⟨e, he, hed⟩ := Option.map_eq_some_iff.mp h
    have hkey : e.1 = (root, path) := by simpa using List.find?_some he
    rw [he]
    exact congrArg some (Prod.ext hkey hed)
  · intro h
    rw [h]
    rfl

omit [Catalogue] in
theorem mem_entries_of_find? {n : Nat} {d : Descriptor} (h : c.find? root path = some (n, d)) :
    ((root, path), n, d) ∈ c.entries :=
  List.mem_of_find?_eq_some (find?_eq_some_iff.mp h)

omit [Catalogue] in
theorem not_mem_keys_of_find? (h : c.find? root path = none) : (root, path) ∉ c.keys := by
  unfold find? at h
  unfold keys
  intro hmem
  obtain ⟨e, he, hkey⟩ := List.mem_map.mp hmem
  have hnone := List.find?_eq_none.mp (Option.map_eq_none_iff.mp h) e he
  simp [hkey] at hnone

/-- A cached path is handed out from the cache. -/
theorem val_getOrCompile_of_find? {n : Nat} {d : Descriptor}
    (h : c.find? root path = some (n, d)) :
    (c.getOrCompile ctx root path).val = (c, .ok (n, d, true)) := by
  unfold getOrCompile val
  rw [h]
  rfl

/-- A path that is not cached and fails to compile fails, and leaves the cache. -/
theorem val_getOrCompile_error {e : AccessError} (h : c.find? root path = none)
    (he : (ctx.compile root path).val = .error e) :
    (c.getOrCompile ctx root path).val = (c, .error e) := by
  unfold getOrCompile val
  rw [h]
  simp only [run_bind_eq]
  rw [Oblivious.fst_run (ctx.oblivious_compile _ _), he]
  rfl

/-- A path that is not cached and compiles is kept, under the next serial number. -/
theorem val_getOrCompile_ok {d : Descriptor} (h : c.find? root path = none)
    (hd : (ctx.compile root path).val = .ok d) :
    (c.getOrCompile ctx root path).val =
      (⟨c.entries ++ [((root, path), c.next, d)], c.next + 1⟩, .ok (c.next, d, false)) := by
  unfold getOrCompile val
  rw [h]
  simp only [run_bind_eq]
  rw [Oblivious.fst_run (ctx.oblivious_compile _ _), hd]
  rfl

omit [Catalogue] in
/-- Appending an entry keeps what a cache finds for the keys it holds already. -/
theorem find?_append {n : Nat} {d : Descriptor}
    (e : (Shape × String) × Nat × Descriptor) (m : Nat) (h : c.find? root path = some (n, d)) :
    (⟨c.entries ++ [e], m⟩ : Cache).find? root path = some (n, d) := by
  rw [find?_eq_some_iff] at h ⊢
  rw [List.find?_append, h]
  rfl

/-- **What a request does**: it hands out the cached path; or, when none is cached, it fails
as compiling does and keeps the cache, or keeps what it compiles under the next serial
number. -/
theorem getOrCompile_cases (ctx : Context) (c : Cache) (root : Shape) (path : String) :
    (∃ n d, c.find? root path = some (n, d) ∧
      (c.getOrCompile ctx root path).val = (c, .ok (n, d, true))) ∨
    (∃ e, c.find? root path = none ∧ (ctx.compile root path).val = .error e ∧
      (c.getOrCompile ctx root path).val = (c, .error e)) ∨
    (∃ d, c.find? root path = none ∧ (ctx.compile root path).val = .ok d ∧
      (c.getOrCompile ctx root path).val =
        (⟨c.entries ++ [((root, path), c.next, d)], c.next + 1⟩, .ok (c.next, d, false))) := by
  cases hfind : c.find? root path with
  | some found =>
    obtain ⟨n, d⟩ := found
    exact .inl ⟨n, d, rfl, val_getOrCompile_of_find? hfind⟩
  | none =>
    cases hc : (ctx.compile root path).val with
    | error e => exact .inr (.inl ⟨e, rfl, rfl, val_getOrCompile_error hfind hc⟩)
    | ok d => exact .inr (.inr ⟨d, rfl, rfl, val_getOrCompile_ok hfind hc⟩)

/-- A request that fails leaves the cache as it was. -/
theorem getOrCompile_error_keeps {e : AccessError}
    (h : (c.getOrCompile ctx root path).val.2 = .error e) :
    (c.getOrCompile ctx root path).val.1 = c := by
  rcases getOrCompile_cases ctx c root path with ⟨n, d, -, heq⟩ | ⟨e', -, -, heq⟩ | ⟨d, -, -, heq⟩
  · rw [heq] at h
    cases h
  · rw [heq]
  · rw [heq] at h
    cases h

/-- A path not taken from the cache gets the next serial number. -/
theorem serial_getOrCompile_new {n : Nat} {d : Descriptor}
    (h : (c.getOrCompile ctx root path).val.2 = .ok (n, d, false)) : n = c.next := by
  rcases getOrCompile_cases ctx c root path with ⟨n', d', -, heq⟩ | ⟨e, -, -, heq⟩ | ⟨d', -, -, heq⟩
  all_goals rw [heq] at h
  all_goals cases h
  rfl

/-- After a request is answered with a path, the cache holds that path under the request. -/
theorem find?_getOrCompile {n : Nat} {d : Descriptor} {b : Bool}
    (h : (c.getOrCompile ctx root path).val.2 = .ok (n, d, b)) :
    (c.getOrCompile ctx root path).val.1.find? root path = some (n, d) := by
  rcases getOrCompile_cases ctx c root path with
    ⟨n', d', hfind, heq⟩ | ⟨e, -, -, heq⟩ | ⟨d', hfind, -, heq⟩
  all_goals rw [heq] at h ⊢
  · cases h
    exact hfind
  · cases h
  · cases h
    have hnone : c.entries.find? (·.1 == (root, path)) = none := Option.map_eq_none_iff.mp hfind
    rw [find?_eq_some_iff, List.find?_append, hnone]
    simp

end Request

/-- **A request answers what compiling the path afresh gives**, its descriptor or its error,
when every cached path is what compiling its key gives. -/
theorem getOrCompile_answers {c : Cache} (hs : c.Sound ctx) (root : Shape) (path : String) :
    (c.getOrCompile ctx root path).val.2.map (·.2.1) = (ctx.compile root path).val := by
  rcases getOrCompile_cases ctx c root path with
    ⟨n, d, hfind, heq⟩ | ⟨e, -, hc, heq⟩ | ⟨d, -, hc, heq⟩
  · rw [heq, hs _ _ _ (mem_entries_of_find? hfind)]
    rfl
  · rw [heq, hc]
    rfl
  · rw [heq, hc]
    rfl

/-! ## Each call keeps the invariants -/

section Calls

variable {ctx} {c : Cache}

/-- A call that does not clear the cache keeps every cached path where it is. -/
theorem find?_call {k : CacheCall} (hk : k ≠ .clear) {root : Shape} {path : String} {n : Nat}
    {d : Descriptor} (h : c.find? root path = some (n, d)) :
    (c.call ctx k).1.find? root path = some (n, d) := by
  cases k with
  | getOrCompile root' path' =>
    rw [call_getOrCompile]
    rcases getOrCompile_cases ctx c root' path' with
      ⟨_, _, -, heq⟩ | ⟨_, -, -, heq⟩ | ⟨_, -, -, heq⟩
    · rw [heq]; exact h
    · rw [heq]; exact h
    · rw [heq]; exact find?_append _ _ h
  | len | isEmpty => exact h
  | clear => exact absurd rfl hk

theorem Sound.call (hs : c.Sound ctx) (k : CacheCall) : (c.call ctx k).1.Sound ctx := by
  cases k with
  | getOrCompile root path =>
    rw [call_getOrCompile]
    rcases getOrCompile_cases ctx c root path with ⟨_, _, -, heq⟩ | ⟨_, -, -, heq⟩ | ⟨d, -, hc, heq⟩
    · rw [heq]; exact hs
    · rw [heq]; exact hs
    · rw [heq]
      intro key n d' he
      rcases List.mem_append.mp he with he | he
      · exact hs key n d' he
      · cases List.mem_singleton.mp he
        exact hc
  | len | isEmpty => exact hs
  | clear => intro _ _ _ he; cases he

/-- Each call keeps the cached keys the distinct pairs compiled since the last clear. -/
theorem Tracks.call {since : List CacheCall} (ht : c.Tracks ctx since) (k : CacheCall) :
    (c.call ctx k).1.Tracks ctx (CacheCall.extend since k) := by
  cases k with
  | getOrCompile root path =>
    rw [call_getOrCompile, CacheCall.extend_of_ne_clear _ (by simp)]
    have hkeys := CacheCall.mem_compiledKeys_request ctx since root path
    rcases getOrCompile_cases ctx c root path with
      ⟨n, d, hfind, heq⟩ | ⟨e, -, hc, heq⟩ | ⟨d, hfind, hc, heq⟩
    · -- the request is cached already, so its key compiled since the last clear
      have hmem : (root, path) ∈ c.keys :=
        List.mem_map.mpr ⟨_, mem_entries_of_find? hfind, rfl⟩
      rw [heq]
      refine ⟨ht.nodup, fun key => ?_⟩
      rw [hkeys, ← ht.mem_keys]
      constructor
      · exact .inl
      · rintro (h | ⟨rfl, _⟩)
        · exact h
        · exact hmem
    · rw [heq]
      refine ⟨ht.nodup, fun key => ?_⟩
      rw [hkeys, ← ht.mem_keys, hc]
      simp [Except.isOk, Except.toBool]
    · rw [heq]
      have hnew := not_mem_keys_of_find? hfind
      have hk : (⟨c.entries ++ [((root, path), c.next, d)], c.next + 1⟩ : Cache).keys =
          c.keys ++ [(root, path)] := by
        simp [keys]
      have hok : (Except.ok d : Except AccessError Descriptor).isOk = true := rfl
      refine ⟨?_, fun key => ?_⟩
      · rw [hk]
        exact List.nodup_append.mpr ⟨ht.nodup, List.nodup_singleton _,
          fun a ha b hb => by cases List.mem_singleton.mp hb; exact fun h => hnew (h ▸ ha)⟩
      · rw [hk, hkeys, ← ht.mem_keys, hc, List.mem_append, List.mem_singleton, hok]
        simp
  | len | isEmpty =>
    simp only [call_len, call_isEmpty]
    refine ⟨ht.nodup, fun key => ?_⟩
    rw [CacheCall.extend_of_ne_clear _ (by simp), ht.mem_keys,
      CacheCall.compiledKeys_append_of_request rfl]
  | clear => exact ⟨List.nodup_nil, fun key => by simp [keys, clear, CacheCall.compiledKeys]⟩

/-- A call never lowers the next serial number. -/
theorem next_le_call (k : CacheCall) : c.next ≤ (c.call ctx k).1.next := by
  cases k with
  | getOrCompile root path =>
    rw [call_getOrCompile]
    rcases getOrCompile_cases ctx c root path with ⟨_, _, -, heq⟩ | ⟨_, -, -, heq⟩ | ⟨_, -, -, heq⟩
    · rw [heq]
    · rw [heq]
    · rw [heq]
      exact Nat.le_succ _
  | len | isEmpty | clear => exact Nat.le_refl _

/-- Each call keeps every serial number below the next one, that of the path it answers
too. -/
theorem Serials.call (hser : c.Serials) (k : CacheCall) :
    (c.call ctx k).1.Serials ∧
      ∀ n d b, (c.call ctx k).2 = .compiled (.ok (n, d, b)) → n < (c.call ctx k).1.next := by
  cases k with
  | getOrCompile root path =>
    rw [call_getOrCompile]
    rcases getOrCompile_cases ctx c root path with
      ⟨_, _, hfind, heq⟩ | ⟨_, -, -, heq⟩ | ⟨_, -, -, heq⟩
    · rw [heq]
      refine ⟨hser, fun n d b h => ?_⟩
      cases h
      exact hser _ (mem_entries_of_find? hfind)
    · rw [heq]
      exact ⟨hser, fun n d b h => by cases h⟩
    · rw [heq]
      refine ⟨fun e he => ?_, fun n d b h => ?_⟩
      · rcases List.mem_append.mp he with he | he
        · exact Nat.lt_succ_of_lt (hser e he)
        · cases List.mem_singleton.mp he
          exact Nat.lt_succ_self _
      · cases h
        exact Nat.lt_succ_self _
  | len | isEmpty => exact ⟨hser, fun n d b h => by cases h⟩
  | clear =>
    rw [call_clear]
    exact ⟨fun e he => (by cases he), fun n d b h => by cases h⟩

end Calls

/-! ## Runs of calls -/

section Runs

variable {ctx}

theorem fst_run_append (c : Cache) (ks ks' : List CacheCall) :
    (c.run ctx (ks ++ ks')).1 = ((c.run ctx ks).1.run ctx ks').1 := by
  induction ks generalizing c with
  | nil => rfl
  | cons k ks ih => simp only [List.cons_append, run_cons, ih]

/-- A cached path stays cached, where it is, through every call until the cache is cleared. -/
theorem find?_run {root : Shape} {path : String} {n : Nat} {d : Descriptor} :
    ∀ (ks : List CacheCall) {c : Cache}, CacheCall.clear ∉ ks →
      c.find? root path = some (n, d) → (c.run ctx ks).1.find? root path = some (n, d) := by
  intro ks
  induction ks with
  | nil => intro c _ h; exact h
  | cons k ks ih =>
    intro c hclear h
    have hk : k ≠ .clear := fun hk => hclear (hk ▸ List.mem_cons_self)
    exact ih (fun h' => hclear (List.mem_cons_of_mem _ h')) (find?_call hk h)

/-- A path handed out is handed out again, as the same one, after any calls that do not clear
the cache. -/
theorem getOrCompile_again {c : Cache} {root : Shape} {path : String} {n : Nat} {d : Descriptor}
    {b : Bool} {ks : List CacheCall} (hok : (c.getOrCompile ctx root path).val.2 = .ok (n, d, b))
    (hclear : CacheCall.clear ∉ ks) :
    ((c.run ctx (.getOrCompile root path :: ks)).1.getOrCompile ctx root path).val.2 =
      .ok (n, d, true) := by
  rw [run_cons, call_getOrCompile]
  exact congrArg Prod.snd (val_getOrCompile_of_find? (find?_run ks hclear (find?_getOrCompile hok)))

/-- Every run keeps the invariants, the keys measured against the calls since the last
clear. -/
theorem invariants_run : ∀ (ks : List CacheCall) {c : Cache} {since : List CacheCall},
    c.Sound ctx → c.Tracks ctx since → c.Serials →
      (c.run ctx ks).1.Sound ctx ∧ (c.run ctx ks).1.Tracks ctx (ks.foldl CacheCall.extend since) ∧
        (c.run ctx ks).1.Serials := by
  intro ks
  induction ks with
  | nil => intro c since hs ht hser; exact ⟨hs, ht, hser⟩
  | cons k ks ih =>
    intro c since hs ht hser
    exact ih (hs.call k) (ht.call k) (hser.call k).1

/-- A run never lowers the next serial number. -/
theorem next_le_run : ∀ (ks : List CacheCall) {c : Cache}, c.next ≤ (c.run ctx ks).1.next := by
  intro ks
  induction ks with
  | nil => intro c; exact Nat.le_refl _
  | cons k ks ih => intro c; exact Nat.le_trans (next_le_call k) ih

/-- Every serial number a run hands out is below the next one of the cache it leaves. -/
theorem serial_lt_run : ∀ (ks : List CacheCall) {c : Cache}, c.Serials →
    ∀ n d b, CacheAnswer.compiled (.ok (n, d, b)) ∈ (c.run ctx ks).2 →
      n < (c.run ctx ks).1.next := by
  intro ks
  induction ks with
  | nil => intro c _ n d b h; cases h
  | cons k ks ih =>
    intro c hser n d b h
    rw [run_cons] at h ⊢
    rcases List.mem_cons.mp h with h | h
    · -- the first answer is below the next number after it, which later calls never lower
      exact Nat.lt_of_lt_of_le ((hser.call k).2 n d b h.symm) (next_le_run ks)
    · exact ih (hser.call k).1 n d b h

theorem sound_empty : empty.Sound ctx := fun _ _ _ he => by cases he

theorem tracks_empty : empty.Tracks ctx [] :=
  ⟨List.nodup_nil, fun key => by simp [keys, empty, CacheCall.compiledKeys]⟩

omit [Catalogue] in
theorem serials_empty : empty.Serials := fun _ he => by cases he

end Runs

/-- The invariants of the cache a history of calls leaves, from the empty one. -/
theorem invariants_history (h : List CacheCall) :
    (empty.run ctx h).1.Sound ctx ∧ (empty.run ctx h).1.Tracks ctx (CacheCall.sinceClear h) ∧
      (empty.run ctx h).1.Serials :=
  invariants_run h sound_empty tracks_empty serials_empty

/-- The cache a history leaves holds one path for each distinct root shape and path compiled
since the last clear. -/
theorem size_run (h : List CacheCall) :
    (empty.run ctx h).1.size =
      (CacheCall.compiledKeys ctx (CacheCall.sinceClear h)).toFinset.card := by
  have ht := (invariants_history ctx h).2.1
  have hkeys : (empty.run ctx h).1.keys.toFinset =
      (CacheCall.compiledKeys ctx (CacheCall.sinceClear h)).toFinset := by
    ext key
    simp only [List.mem_toFinset]
    exact ht.mem_keys key
  rw [← hkeys, List.toFinset_card_of_nodup ht.nodup]
  simp [keys, size]

/-- **The cache memoizes compilation**, over every run of calls on one cache with one access
context, from the empty cache:

* a request answers exactly what compiling the path afresh gives, its descriptor or its error;
* a request that fails leaves the cache as it was;
* a path handed out for a root shape and path text is handed out again, as the same one, by
  every later request for them until the cache is cleared, so every path handed out since
  the last clear is the first one;
* a path not taken from the cache is new: its serial number is that of no path handed out
  before;
* the number of cached paths, and whether there are none, count the distinct root shapes
  and paths compiled since the last clear. -/
theorem cache_memoizes_compilation :
    (∀ (h : List CacheCall) (root : Shape) (path : String),
      ((empty.run ctx h).1.getOrCompile ctx root path).val.2.map (·.2.1) =
        (ctx.compile root path).val) ∧
    (∀ (h : List CacheCall) (root : Shape) (path : String) (e : AccessError),
      ((empty.run ctx h).1.getOrCompile ctx root path).val.2 = .error e →
        ((empty.run ctx h).1.getOrCompile ctx root path).val.1 = (empty.run ctx h).1) ∧
    (∀ (h₁ h₂ : List CacheCall) (root : Shape) (path : String) (n : Nat) (d : Descriptor)
      (b : Bool), CacheCall.clear ∉ h₂ →
      ((empty.run ctx h₁).1.getOrCompile ctx root path).val.2 = .ok (n, d, b) →
      ((empty.run ctx (h₁ ++ .getOrCompile root path :: h₂)).1.getOrCompile ctx root path).val.2 =
        .ok (n, d, true)) ∧
    (∀ (h : List CacheCall) (root : Shape) (path : String) (n : Nat) (d : Descriptor),
      ((empty.run ctx h).1.getOrCompile ctx root path).val.2 = .ok (n, d, false) →
      ∀ m d' b', CacheAnswer.compiled (.ok (m, d', b')) ∈ (empty.run ctx h).2 → m ≠ n) ∧
    (∀ h : List CacheCall,
      ((empty.run ctx h).1.call ctx .len).2 =
          .len (CacheCall.compiledKeys ctx (CacheCall.sinceClear h)).toFinset.card ∧
        ((empty.run ctx h).1.call ctx .isEmpty).2 =
          .isEmpty ((CacheCall.compiledKeys ctx (CacheCall.sinceClear h)).toFinset.card == 0)) := by
  refine ⟨fun h root path => getOrCompile_answers ctx (invariants_history ctx h).1 root path,
    fun h root path e he => getOrCompile_error_keeps he,
    fun h₁ h₂ root path n d b hclear hok => ?_,
    fun h root path n d hnew m d' b' hm => ?_, fun h => ?_⟩
  · rw [fst_run_append]
    exact getOrCompile_again hok hclear
  · -- a path compiled anew takes the next serial number, above every one handed out
    rw [serial_getOrCompile_new hnew]
    exact Nat.ne_of_lt (serial_lt_run h serials_empty m d' b' hm)
  · rw [call_len, call_isEmpty, size_run]
    exact ⟨rfl, rfl⟩

end Cache

end ValuePaths
