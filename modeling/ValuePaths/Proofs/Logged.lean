import ValuePaths.Log

/-!
# What a logged computation returns

A logged computation appends notes and never reads the ones made before it, so what it
returns does not depend on them.  That is what lets a walk be compared with another that
notes something else on the way: a compiled path notes no resolution warnings, a second
write notes what the first noted twice.

The result of a computation is taken once and for all from a run that starts with no
notes, `Logged.val`, and `Logged.Oblivious` says that every other start gives the same.
The lemmas below take both through `pure`, `bind`, `note` and the failure layer of
`Checked`; each computation of the library gets its own `Oblivious` lemma, and proofs
about results then work with `val` alone.

## Main definitions

* `Logged.val` — the result of a computation, run from no notes.
* `Logged.Oblivious` — the result does not depend on the notes made before.
* `Logged.FailsOnly` — every failure of a computation is of a given sort, which `bind`,
  `mapM` and `tryCatch` keep.
-/

namespace ValuePaths

namespace Logged

variable {α β ε : Type}

/-- What a computation returns when it runs from no notes. -/
def val (x : Logged α) : α := (x.run #[]).1

/-- A computation whose result does not depend on the notes made before it runs. -/
def Oblivious (x : Logged α) : Prop := ∀ s : Array Note, (x.run s).1 = x.val

@[simp] theorem collect_fst (x : Logged α) : x.collect.1 = x.val := rfl

theorem Oblivious.fst_run {x : Logged α} (hx : x.Oblivious) (s : Array Note) :
    (x.run s).1 = x.val := hx s

/-- A bind runs its continuation on the result and the notes of the first computation. -/
theorem run_bind_eq (x : Logged α) (f : α → Logged β) (s : Array Note) :
    (x >>= f).run s = (f (x.run s).1).run (x.run s).2 := rfl

/-- A map applies its function to the result and keeps the notes. -/
theorem run_map_eq (x : Logged α) (f : α → β) (s : Array Note) :
    (f <$> x).run s = (f (x.run s).1, (x.run s).2) := rfl

/-! ## Building blocks -/

@[simp] theorem val_pure (a : α) : (pure a : Logged α).val = a := rfl

theorem oblivious_pure (a : α) : (pure a : Logged α).Oblivious := fun _ => rfl

@[simp] theorem val_note (l : Level) (m : String) : (note l m).val = () := rfl

theorem oblivious_note (l : Level) (m : String) : (note l m).Oblivious := fun _ => rfl

/-- The continuation runs on the result of the first computation; only it has to be
oblivious at that result. -/
theorem val_bind {x : Logged α} {f : α → Logged β} (hf : (f x.val).Oblivious) :
    (x >>= f).val = (f x.val).val := hf _

theorem Oblivious.bind {x : Logged α} {f : α → Logged β} (hx : x.Oblivious)
    (hf : (f x.val).Oblivious) : (x >>= f).Oblivious := by
  intro s
  change ((f (x.run s).1).run (x.run s).2).1 = (x >>= f).val
  rw [hx s, hf, val_bind hf]

theorem Oblivious.map {x : Logged α} (hx : x.Oblivious) (f : α → β) :
    (f <$> x).Oblivious := by
  intro s
  change f (x.run s).1 = f (x.run #[]).1
  rw [hx s]
  rfl

@[simp] theorem val_map (x : Logged α) (f : α → β) : (f <$> x).val = f x.val := rfl

/-! ## Computations that may fail -/

@[simp] theorem val_run_pure (a : α) : (pure a : ExceptT ε Logged α).run.val = .ok a := rfl

theorem oblivious_run_pure (a : α) : (pure a : ExceptT ε Logged α).run.Oblivious :=
  fun _ => rfl

@[simp] theorem val_run_throw (e : ε) : (throw e : ExceptT ε Logged α).run.val = .error e :=
  rfl

theorem oblivious_run_throw (e : ε) : (throw e : ExceptT ε Logged α).run.Oblivious :=
  fun _ => rfl

/-- A failure stops the rest; a result is handed on. -/
theorem val_run_bind {x : ExceptT ε Logged α} {f : α → ExceptT ε Logged β}
    (hf : ∀ a, x.run.val = .ok a → (f a).run.Oblivious) :
    (x >>= f).run.val = match x.run.val with
      | .ok a => (f a).run.val
      | .error e => .error e := by
  rw [ExceptT.run_bind]
  match h : x.run.val with
  | .ok a => rw [val_bind (by rw [h]; exact hf a h), h]
  | .error e => rw [val_bind (by rw [h]; exact oblivious_pure _), h]; rfl

theorem Oblivious.run_bind {x : ExceptT ε Logged α} {f : α → ExceptT ε Logged β}
    (hx : x.run.Oblivious) (hf : ∀ a, x.run.val = .ok a → (f a).run.Oblivious) :
    (x >>= f).run.Oblivious := by
  rw [ExceptT.run_bind]
  refine hx.bind ?_
  match h : x.run.val with
  | .ok a => exact hf a h
  | .error e => exact oblivious_pure _

theorem Oblivious.run_map {x : ExceptT ε Logged α} (hx : x.run.Oblivious) (f : α → β) :
    (f <$> x).run.Oblivious := by
  rw [ExceptT.run_map]
  exact hx.map _

@[simp] theorem val_run_map (x : ExceptT ε Logged α) (f : α → β) :
    (f <$> x).run.val = Except.map f x.run.val := by
  rw [ExceptT.run_map]
  rfl

theorem Oblivious.run_tryCatch {x : ExceptT ε Logged α} {h : ε → ExceptT ε Logged α}
    (hx : x.run.Oblivious) (hh : ∀ e, x.run.val = .error e → (h e).run.Oblivious) :
    (tryCatch x h : ExceptT ε Logged α).run.Oblivious := by
  rw [ExceptT.run_tryCatch]
  refine hx.bind ?_
  match hv : x.run.val with
  | .ok a => exact oblivious_pure _
  | .error e => exact hh e hv

/-- A successful bind ran both parts successfully. -/
theorem run_bind_ok {x : ExceptT ε Logged α} {f : α → ExceptT ε Logged β} {b : β}
    (hf : ∀ a, x.run.val = .ok a → (f a).run.Oblivious) (h : (x >>= f).run.val = .ok b) :
    ∃ a, x.run.val = .ok a ∧ (f a).run.val = .ok b := by
  rw [val_run_bind hf] at h
  split at h
  · rename_i a ha
    exact ⟨a, ha, h⟩
  · cases h

/-- Converting every item, stopping at the first failure, is oblivious when converting
one item is. -/
theorem Oblivious.run_mapM {f : α → ExceptT ε Logged β} (hf : ∀ a, (f a).run.Oblivious) :
    ∀ xs : List α, (xs.mapM f).run.Oblivious
  | [] => oblivious_run_pure _
  | x :: xs => by
    rw [List.mapM_cons]
    exact (hf x).run_bind fun _ _ =>
      (Oblivious.run_mapM hf xs).run_bind fun _ _ => oblivious_run_pure _

/-- Converting every item succeeds with one result for each item. -/
theorem length_mapM_ok {f : α → ExceptT ε Logged β} (hf : ∀ a, (f a).run.Oblivious) :
    ∀ {xs : List α} {ys : List β}, (xs.mapM f).run.val = .ok ys → ys.length = xs.length
  | [], ys, h => by
    cases h
    rfl
  | x :: xs, ys, h => by
    rw [List.mapM_cons] at h
    obtain ⟨y, -, h⟩ := run_bind_ok (fun _ _ => (Oblivious.run_mapM hf xs).run_bind
      fun _ _ => oblivious_run_pure _) h
    obtain ⟨ys', hys', h⟩ := run_bind_ok (fun _ _ => oblivious_run_pure _) h
    cases h
    simp [length_mapM_ok hf hys']

/-- Each result of converting every item is the result of converting one of them. -/
theorem mem_mapM_ok {f : α → ExceptT ε Logged β} (hf : ∀ a, (f a).run.Oblivious) :
    ∀ {xs : List α} {ys : List β}, (xs.mapM f).run.val = .ok ys →
      ∀ y ∈ ys, ∃ x ∈ xs, (f x).run.val = .ok y
  | [], ys, h => by
    cases h
    simp
  | x :: xs, ys, h => by
    rw [List.mapM_cons] at h
    obtain ⟨y, hy, h⟩ := run_bind_ok (fun _ _ => (Oblivious.run_mapM hf xs).run_bind
      fun _ _ => oblivious_run_pure _) h
    obtain ⟨ys', hys', h⟩ := run_bind_ok (fun _ _ => oblivious_run_pure _) h
    cases h
    intro z hz
    rcases List.mem_cons.mp hz with rfl | hz
    · exact ⟨x, List.mem_cons_self, hy⟩
    · obtain ⟨x', hx', hz⟩ := mem_mapM_ok hf hys' z hz
      exact ⟨x', List.mem_cons_of_mem _ hx', hz⟩

/-- A property kept by every step of a fold holds of its result, whatever notes the fold
starts from. -/
theorem foldlM_invariant {f : β → α → Logged β} (P : β → Prop)
    (hf : ∀ b a s, P b → P ((f b a).run s).1) :
    ∀ (xs : List α) (b : β) (s : Array Note), P b → P ((xs.foldlM f b).run s).1
  | [], _, _, hb => hb
  | x :: xs, b, s, hb => by
    rw [List.foldlM_cons, run_bind_eq]
    exact foldlM_invariant P hf xs _ _ (hf b x s hb)

/-! ## What a computation can fail with -/

/-- A computation each of whose failures satisfies `P`, whatever notes it starts from. -/
def FailsOnly (P : ε → Prop) (x : ExceptT ε Logged α) : Prop :=
  ∀ s e, (x.run.run s).1 = .error e → P e

variable {P : ε → Prop}

theorem FailsOnly.val {x : ExceptT ε Logged α} (hx : FailsOnly P x) {e : ε}
    (h : x.run.val = .error e) : P e :=
  hx #[] e h

theorem failsOnly_pure (a : α) : FailsOnly P (pure a : ExceptT ε Logged α) :=
  fun _ _ h => by cases h

theorem failsOnly_throw {e : ε} (he : P e) : FailsOnly P (throw e : ExceptT ε Logged α) :=
  fun _ _ h => by
    cases h
    exact he

theorem FailsOnly.bind {x : ExceptT ε Logged α} {f : α → ExceptT ε Logged β}
    (hx : FailsOnly P x) (hf : ∀ a, FailsOnly P (f a)) : FailsOnly P (x >>= f) := by
  intro s e h
  rw [ExceptT.run_bind, run_bind_eq] at h
  cases hr : (x.run.run s).1 with
  | ok a =>
    rw [hr] at h
    exact hf a _ e h
  | error e' =>
    rw [hr] at h
    cases h
    exact hx s e hr

theorem FailsOnly.map {x : ExceptT ε Logged α} (hx : FailsOnly P x) (f : α → β) :
    FailsOnly P (f <$> x) := by
  intro s e h
  rw [ExceptT.run_map, run_map_eq] at h
  cases hr : (x.run.run s).1 with
  | ok a =>
    rw [hr] at h
    cases h
  | error e' =>
    rw [hr] at h
    cases h
    exact hx s e hr

theorem FailsOnly.tryCatch {x : ExceptT ε Logged α} {h : ε → ExceptT ε Logged α}
    (hh : ∀ e, FailsOnly P (h e)) : FailsOnly P (tryCatch x h : ExceptT ε Logged α) := by
  intro s e he
  rw [ExceptT.run_tryCatch, run_bind_eq] at he
  cases hr : (x.run.run s).1 with
  | ok a =>
    rw [hr] at he
    cases he
  | error e' =>
    rw [hr] at he
    exact hh e' _ e he

theorem FailsOnly.mapM {f : α → ExceptT ε Logged β} (hf : ∀ a, FailsOnly P (f a)) :
    ∀ xs : List α, FailsOnly P (xs.mapM f)
  | [] => failsOnly_pure _
  | x :: xs => by
    rw [List.mapM_cons]
    exact (hf x).bind fun _ => (FailsOnly.mapM hf xs).bind fun _ => failsOnly_pure _

end Logged

end ValuePaths
