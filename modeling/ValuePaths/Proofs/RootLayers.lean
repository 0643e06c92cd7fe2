import ValuePaths.Proofs.Idempotence
import ValuePaths.Proofs.RoundTrip
import ValuePaths.Proofs.Descriptor

/-!
# Option layers at the root

A read looks through the set `Option` layers of every value it meets: resolution binds an
element against the shape under the layers, and a read takes its container from under
them.  So a read from a value reads what a read from the value under its set layers reads,
along every path but the root path, and a compiled path does the same.

A write does not.  Each step enters its element and goes on from under the element's
layers, but the value a write starts at is entered as it is given, and a value of an
`Option` shape neither stores nor enters an element: a write along any path but the root
path into such a value fails, and leaves it as it was.

## Main statements

* `Context.get_inner` — a read from a value reads from the value under its set layers.
* `Context.readCompiled_inner` — so does a path compiled for the shape of either.
* `Context.set_option_fails` — a write into a value of an `Option` shape fails and changes
  nothing; `Context.writeCompiled_option_fails` for compiled paths.
-/

namespace ValuePaths

variable [Catalogue]

open Logged

/-- A read takes its container from under the set layers. -/
theorem Step.read_inner (step : Step) (v : Value) : step.read v.inner = step.read v := by
  unfold Step.read
  rw [Value.present_inner]

namespace Context

variable (ctx : Context)

/-! ## Reading through the layers of the root -/

/-- A step meets a well-typed value and the value under its set layers alike. -/
theorem legStep_inner {v : Value} (hv : v.WellTyped) (leg : Leg) (isLast : Bool) :
    ctx.legStep leg v.inner.shape isLast = ctx.legStep leg v.shape isLast := by
  cases leg with
  | element e => exact ctx.resolve_congr isLast hv.inner.2
  | resolved step => rfl

/-- A read along at least one leg reads in a well-typed value what it reads in the value
under its set layers. -/
theorem readFrom_inner {v : Value} (hv : v.WellTyped) (path : String) (i : Nat)
    (state : WalkState) (leg : Leg) (rest : List Leg) :
    (ctx.readFrom path i state (leg :: rest) v.inner).val =
      (ctx.readFrom path i state (leg :: rest) v).val := by
  simp only [val_readFrom_cons, ctx.legStep_inner hv, Step.read_inner]

/-- **A read looks through the layers of the root.**  Along every path but the root path, a
read from a well-typed value gives what a read from the value under its set `Option`
layers gives: the same value or absence, or the same error at the same element. -/
theorem get_inner {v : Value} (hv : v.WellTyped) {path : String} (hpath : path ≠ "") :
    (ctx.get v.inner path).val = (ctx.get v path).val := by
  rw [val_get, val_get]
  cases hp : Path.parse path with
  | error e => rfl
  | ok p =>
    obtain ⟨el, rest, hsteps⟩ := List.exists_cons_of_ne_nil (Path.steps_ne_nil hp hpath)
    simp only [readWalk, Path.route, hsteps, List.map_cons]
    exact ctx.readFrom_inner hv _ _ _ _ _

/-- Compiling depends on the root shape only up to its option layers. -/
theorem compileFrom_unwrap (path : String) {s s' : Shape} (h : s.unwrap = s'.unwrap) :
    ∀ (i : Nat) (segs : List Segment),
      ctx.compileFrom path i s segs = ctx.compileFrom path i s' segs
  | _, [] => rfl
  | i, e :: rest => by
    rw [compileFrom, compileFrom, ctx.resolve_congr _ h]

/-- A path compiles for a shape as it compiles for the shape under its option layers, into
the same steps. -/
theorem compile_unwrap {s s' : Shape} (h : s.unwrap = s'.unwrap) (path : String) :
    (ctx.compile s' path).val = (ctx.compile s path).val.map ({ · with root := s' }) := by
  rw [val_compile, val_compile]
  cases Path.parse path with
  | error e => rfl
  | ok p =>
    dsimp only
    rw [ctx.compileFrom_unwrap path h]
    cases (ctx.compileFrom path 0 s' (p.steps.map (·.segment))).val <;> rfl

/-- **A compiled path looks through the layers of the root.**  A path other than the root
path that compiles for the shape of a well-typed value compiles for the shape under its
set layers into the same steps, and reads in the value under the layers what it reads in
the value. -/
theorem readCompiled_inner {v : Value} (hv : v.WellTyped) {path : String} (hpath : path ≠ "")
    {d : Descriptor} (hd : (ctx.compile v.shape path).val = .ok d) :
    (ctx.compile v.inner.shape path).val = .ok { d with root := v.inner.shape } ∧
      (ctx.readCompiled { d with root := v.inner.shape } v.inner).val =
        (ctx.readCompiled d v).val := by
  refine ⟨by rw [ctx.compile_unwrap hv.inner.2.symm, hd]; rfl, ?_⟩
  rw [val_compile] at hd
  cases hp : Path.parse path with
  | error e => rw [hp] at hd; cases hd
  | ok p =>
    rw [hp] at hd
    dsimp only at hd
    cases hc : (ctx.compileFrom path 0 v.shape (p.steps.map (·.segment))).val with
    | error e => rw [hc] at hd; cases hd
    | ok steps =>
      rw [hc] at hd
      cases hd
      -- the compiled steps are as many as the elements, so there is a first one
      have hne : steps ≠ [] := by
        rintro rfl
        have hempty := ctx.compileFrom_isEmpty hc
        rw [List.isEmpty_nil, List.isEmpty_map, eq_comm, List.isEmpty_iff] at hempty
        exact Path.steps_ne_nil hp hpath hempty
      obtain ⟨step, rest, rfl⟩ := List.exists_cons_of_ne_nil hne
      simp only [val_readCompiled, Descriptor.checkRoot, beq_self_eq_true, if_true, readWalk,
        Descriptor.route, List.map_cons]
      exact ctx.readFrom_inner hv _ _ _ _ _

/-! ## Writing into an option -/

/-- A value of an `Option` shape enters no element. -/
theorem descend_option (step : Step) (t : Shape) (o : Option Value) :
    (ctx.descend step (.option t o)).val =
      (.option t o,
        .error (.unsupported step.kind (.option t) (.navigateInto step.key.describe))) := by
  obtain ⟨kind, key, container, target⟩ := step
  cases key <;> rfl

/-- A value of an `Option` shape stores no element. -/
theorem store_option (step : Step) (t : Shape) (o : Option Value) :
    ∃ f, ∀ v, (ctx.store step (.option t o) v).val = (.option t o, .error f) := by
  obtain ⟨kind, key, container, target⟩ := step
  cases key <;> exact ⟨_, fun _ => rfl⟩

/-- A write along at least one leg into a value of an `Option` shape fails and leaves the
value as it was: each way a first step can go ends in a failed store or entry, or fails
before it. -/
theorem writeFrom_option (path : String) (r : Raw) (i : Nat) (state : WalkState) (leg : Leg)
    (rest : List Leg) (t : Shape) (o : Option Value) :
    ∃ st e, (ctx.writeFrom path r i state (leg :: rest) (.option t o)).val =
      (.option t o, st, .error e) := by
  rw [val_writeFrom_cons]
  cases (ctx.legStep leg (Value.option t o).shape rest.isEmpty).run.val with
  | error f => exact ⟨_, _, rfl⟩
  | ok step =>
    dsimp only
    split
    · -- the last element: the text may convert, but the option does not store it
      cases (ctx.coerce step.target r).run.val with
      | error f => exact ⟨_, _, rfl⟩
      | ok v =>
        obtain ⟨f, hf⟩ := ctx.store_option step t o
        simp only [hf]
        exact ⟨_, _, rfl⟩
    · split
      · -- a set member built on its own is not stored in the option either
        cases (ctx.createMissing step.target).run.val with
        | error f => exact ⟨_, _, rfl⟩
        | ok member =>
          dsimp only
          split
          · exact ⟨_, _, rfl⟩
          · split
            · exact ⟨_, _, rfl⟩
            · obtain ⟨f, hf⟩ := ctx.store_option step t o
              simp only [hf]
              exact ⟨_, _, rfl⟩
      · simp only [ctx.descend_option step t o]
        exact ⟨_, _, rfl⟩

/-- **A write never goes into an `Option` root.**  Along every path but the root path, a
write into a value of an `Option` shape fails and leaves the value as it was, whether its
layers are set or not. -/
theorem set_option_fails (t : Shape) (o : Option Value) {path : String} (hpath : path ≠ "")
    (r : Raw) : ∃ e, (ctx.set (.option t o) path r).val = (.option t o, .error e) := by
  rw [val_set]
  cases hp : Path.parse path with
  | error e => exact ⟨_, rfl⟩
  | ok p =>
    obtain ⟨el, rest, hsteps⟩ := List.exists_cons_of_ne_nil (Path.steps_ne_nil hp hpath)
    obtain ⟨st, e, hw⟩ := ctx.writeFrom_option path r 0 .atRoot (.element el.segment)
      (rest.map (.element ·.segment)) t o
    refine ⟨e, ?_⟩
    simp only [val_writeWalk, Path.route, Path.parse_source hp, hsteps, List.map_cons,
      List.isEmpty_cons, Bool.false_eq_true, if_false, hw]

/-- A compiled path with at least one step writes nothing into a value of an `Option`
shape, either. -/
theorem writeCompiled_option_fails {d : Descriptor} (hd : d.steps ≠ []) (t : Shape)
    (o : Option Value) (r : Raw) :
    ∃ e, (ctx.writeCompiled d (.option t o) r).val = (.option t o, .error e) := by
  rw [val_writeCompiled]
  cases d.checkRoot (.option t o) with
  | error e => exact ⟨_, rfl⟩
  | ok u =>
    obtain ⟨step, rest, hsteps⟩ := List.exists_cons_of_ne_nil hd
    obtain ⟨st, e, hw⟩ := ctx.writeFrom_option d.path r 0 .atRoot (.resolved step)
      (rest.map .resolved) t o
    refine ⟨e, ?_⟩
    simp only [val_writeWalk, Descriptor.route, hsteps, List.map_cons, List.isEmpty_cons,
      Bool.false_eq_true, if_false, hw]

end Context

end ValuePaths
