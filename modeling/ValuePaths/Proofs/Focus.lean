import ValuePaths.Proofs.RoundTrip
import ValuePaths.Proofs.Alike
import ValuePaths.Proofs.Descriptor

/-!
# Where a walk along a path gets to

A write of a path `q ++ rest` first goes along `q`: it resolves each element against the value
it has reached, enters that element in place, creating what is missing (list elements, a map
entry, unset `Option` layers), and goes on under the element's layers.  `Context.Focus q c d
plug` records such a descent from `c` to `d`, and `plug` puts back, element by element, what
the rest of the write leaves in place of `d`.  A write enters nothing in place through a set
member, which it builds on its own, so `Focus` has no step through a set.

A read of `q ++ rest` goes along `q` by finding a value at each element; `Context.ReadFocus`
records that descent.

Both split their walk in two: a write of `q ++ rest` is the write of `rest` at `d`, plugged
back, and a read of `q ++ rest` is the read of `rest` from `d`.  The rest of a write depends on
the text of its path only through the errors, which name it, and not at all on the state the
walk is in when it starts.

## Main definitions

* `Context.Focus`, `Context.ReadFocus` — a write and a read along the first elements of a path.

## Main statements

* `Context.writeFrom_focus`, `Context.set_focus` — a write after the elements it enters.
* `Context.readFrom_focus`, `Context.get_focus` — a read after the elements it goes through.
* `Context.writeFrom_path` — a write names its path only in its errors.
-/

namespace ValuePaths

variable [Catalogue]

open Logged

namespace Context

variable (ctx : Context)

/-- A write along `q`, with more of the path still to come, enters one element after the other
in place and reaches `d` at the end of `q`; `plug` puts back along the way whatever the rest of
the write leaves in place of `d`. -/
inductive Focus : List Segment → Value → Value → (Value → Value) → Prop
  | here (c : Value) : Focus [] c c id
  | enter {e : Segment} {rest : List Segment} {c c₁ x d : Value} {step : Step}
      {plug : Value → Value} (hres : (ctx.resolve e c.shape false).run.val = .ok step)
      (hkind : step.kind ≠ .set) (hdesc : (ctx.descend step c).val = (c₁, .ok ()))
      (hx : c₁.child? step.key = some x) (hrest : Focus rest x.inner d plug) :
      Focus (e :: rest) c d fun d' => c₁.setChild step.key (x.withInner (plug d'))

/-- A read along `q`, with more of the path still to come, finds a value at each element and
reaches `d` at the end of `q`. -/
inductive ReadFocus : List Segment → Value → Value → Prop
  | here (c : Value) : ReadFocus [] c c
  | found {e : Segment} {rest : List Segment} {c x d : Value} {step : Step}
      (hres : (ctx.resolve e c.shape false).run.val = .ok step)
      (hread : step.read c = some (.value x)) (hrest : ReadFocus rest x d) :
      ReadFocus (e :: rest) c d

/-! ## What a write depends on -/

/-- A write along at least one leg does not look at the state it starts in. -/
theorem writeFrom_cons_state (path : String) (r : Raw) (i : Nat) (state state' : WalkState)
    (leg : Leg) (rest : List Leg) (c : Value) :
    (ctx.writeFrom path r i state (leg :: rest) c).val =
      (ctx.writeFrom path r i state' (leg :: rest) c).val := by
  rw [val_writeFrom_cons, val_writeFrom_cons]

/-- **A write names its path only in its errors.**  Writing along the same legs under another
path text leaves the same value and ends in the same state, with the same error, if any, at
the same element. -/
theorem writeFrom_path (path path' : String) (r : Raw) (legs : List Leg) :
    ∀ (i : Nat) (state : WalkState) (c : Value),
      (ctx.writeFrom path' r i state legs c).val =
        let w := (ctx.writeFrom path r i state legs c).val
        (w.1, w.2.1, w.2.2.mapError ({ · with path := path' })) := by
  induction legs with
  | nil => exact fun _ _ _ => rfl
  | cons leg rest ih =>
    intro i state c
    rw [val_writeFrom_cons, val_writeFrom_cons]
    -- every branch either fails here, naming the path, or hands on what the write below gives
    cases (ctx.legStep leg c.shape rest.isEmpty).run.val with
    | error f => rfl
    | ok step =>
      dsimp only
      split
      · cases (ctx.coerce step.target r).run.val with
        | error f => rfl
        | ok v =>
          dsimp only
          cases (ctx.store step c v).val.2 <;> rfl
      · split
        · cases (ctx.createMissing step.target).run.val with
          | error f => rfl
          | ok member =>
            dsimp only
            cases (ctx.fill member).val.2 with
            | error f => rfl
            | ok u =>
              dsimp only
              rw [ih]
              dsimp only
              cases (ctx.writeFrom path r (i + 1) (.applying step.kind) rest
                (ctx.fill member).val.1.inner).val.2.2 with
              | error e => rfl
              | ok u =>
                dsimp only
                cases (ctx.store step c _).val.2 <;> rfl
        · cases (ctx.descend step c).val.2 with
          | error f => rfl
          | ok u =>
            cases (ctx.descend step c).val.1.child? step.key with
            | none => rfl
            | some child =>
              dsimp only
              rw [ih]

/-! ## Splitting a walk -/

/-- **A write after the elements it enters.**  Writing `q ++ rest` is writing `rest` at the
element the write reaches at the end of `q`, and putting back along `q` what that leaves. -/
theorem writeFrom_focus {q : List Segment} {c d : Value} {plug : Value → Value}
    (hq : ctx.Focus q c d plug) (path : String) (r : Raw) {rest : List Segment}
    (hrest : rest ≠ []) :
    ∀ (i : Nat) (state : WalkState), ∃ state',
      (ctx.writeFrom path r i state ((q ++ rest).map .element) c).val =
        let w := (ctx.writeFrom path r (i + q.length) state' (rest.map .element) d).val
        (plug w.1, w.2) := by
  induction hq with
  | here c => exact fun i state => ⟨state, rfl⟩
  | @enter e q c c₁ x d step plug hres hkind hdesc hx _ ih =>
    intro i state
    obtain ⟨state', hw⟩ := ih (i + 1) (.applying step.kind)
    refine ⟨state', ?_⟩
    have hstep : (ctx.legStep (.element e) c.shape false).run.val = .ok step := hres
    have hmore : (q ++ rest).map Leg.element ≠ [] := by simp [hrest]
    rw [Nat.add_right_comm, Nat.add_assoc] at hw
    rw [List.cons_append, List.map_cons, List.length_cons]
    refine ctx.writeFrom_of_writesLeg ?_ state
    exact .entered (ctx.legStep_above hmore hstep) hmore hkind hdesc hx hw

/-- **A read after the elements it goes through.**  Reading `q ++ rest` is reading `rest` from
the value the read finds at the end of `q`. -/
theorem readFrom_focus {q : List Segment} {c d : Value} (hq : ctx.ReadFocus q c d)
    (path : String) {rest : List Segment} (hrest : rest ≠ []) :
    ∀ (i : Nat) (state : WalkState), ∃ state',
      (ctx.readFrom path i state ((q ++ rest).map .element) c).val =
        (ctx.readFrom path (i + q.length) state' (rest.map .element) d).val := by
  induction hq with
  | here c => exact fun i state => ⟨state, rfl⟩
  | @found e q c x d step hres hread _ ih =>
    intro i state
    obtain ⟨state', hr⟩ := ih (i + 1) (.applying step.kind)
    refine ⟨state', ?_⟩
    have hmore : ((q ++ rest).map Leg.element).isEmpty = false := by simp [hrest]
    rw [List.cons_append, List.map_cons, ctx.val_readFrom_value (by rw [hmore]; exact hres) hread,
      hr, List.length_cons, Nat.add_right_comm, Nat.add_assoc]

/-- `set` along the elements of `q` and then `rest`: the write of `rest` at the element the
write reaches at the end of `q`, put back along `q`. -/
theorem set_focus {root d : Value} {plug : Value → Value} {path : String} {p : Path}
    {q rest : List Segment} (hp : Path.parse path = .ok p)
    (hsegs : p.steps.map (·.segment) = q ++ rest) (hrest : rest ≠ [])
    (hq : ctx.Focus q root d plug) (r : Raw) :
    ∃ state, (ctx.set root path r).val =
      let w := (ctx.writeFrom path r q.length state (rest.map .element) d).val
      (plug w.1, w.2.2) := by
  have hlegs : p.route.legs = (q ++ rest).map .element := by
    simp [Path.route, ← hsegs]
  obtain ⟨state, hw⟩ := ctx.writeFrom_focus hq path r hrest 0 .atRoot
  refine ⟨state, ?_⟩
  rw [val_set, hp]
  dsimp only
  rw [val_writeWalk, if_neg (by simp [hlegs, hrest]), hlegs, show p.route.path = path from
    Path.parse_source hp, hw, Nat.zero_add]

/-- `get` along the elements of `q` and then `rest`: the read of `rest` from the value the read
finds at the end of `q`. -/
theorem get_focus {root d : Value} {path : String} {p : Path} {q rest : List Segment}
    (hp : Path.parse path = .ok p) (hsegs : p.steps.map (·.segment) = q ++ rest)
    (hrest : rest ≠ []) (hq : ctx.ReadFocus q root d) :
    ∃ state, (ctx.get root path).val =
      (ctx.readFrom path q.length state (rest.map .element) d).val := by
  have hlegs : p.route.legs = (q ++ rest).map .element := by
    simp [Path.route, ← hsegs]
  obtain ⟨state, hr⟩ := ctx.readFrom_focus hq path hrest 0 .atRoot
  refine ⟨state, ?_⟩
  rw [val_get, hp]
  dsimp only
  unfold readWalk
  rw [hlegs, show p.route.path = path from Path.parse_source hp, hr, Nat.zero_add]

/-! ## What a write reaches -/

variable {ctx}

/-- The elements a write enters in a tidy value are tidy. -/
theorem Focus.tidy {q : List Segment} {c d : Value} {plug : Value → Value}
    (hq : ctx.Focus q c d plug) (hc : c.Tidy) : d.Tidy := by
  induction hq with
  | here => exact hc
  | enter _ _ hdesc hx _ ih => exact ih (ctx.tidy_descend hc hdesc hx)

/-- The elements a write enters in a well-typed value are well typed. -/
theorem Focus.wellTyped {q : List Segment} {c d : Value} {plug : Value → Value}
    (hq : ctx.Focus q c d plug) (hc : c.WellTyped) : d.WellTyped := by
  induction hq with
  | here => exact hc
  | enter hres _ hdesc hx _ ih =>
    obtain ⟨hcont, hb⟩ := ctx.resolve_bound hres
    exact ih (ctx.wellTyped_descend hc hb hcont.symm hdesc hx).1.inner.1

end Context

end ValuePaths
