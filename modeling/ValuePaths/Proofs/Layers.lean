import ValuePaths.Proofs.Idempotence
import ValuePaths.Sample.Records

/-!
# Option layers, on shapes and on values

A shape is a bare shape under any number of `Option` layers, and `Shape.unwrap` strips
them all.  A value of that shape has as many layers, each set or unset.  Reading looks
through them and writing fills them, and both arrive at a value of the stripped shape.

* Reading (`Value.present`) finds a value exactly when every layer is set, and then it
  finds what the innermost layer holds (`Value.SetLayers`).
* Writing (`Context.fill`) sets the layers from the outside in (`Context.FillRun`).  A set
  layer keeps what it holds; an unset one takes the registered default of its inner shape;
  what a layer holds is filled in turn.  The default of an optional shape is unset, so an
  unset layer over an optional shape takes one default for itself and one for the layer
  below, where a set layer over an unset one takes only the second; both end with every
  layer set.  Filling stops at the first unset layer whose inner shape has no default to
  make, and keeps the layers it set before.

## Main statements

* `Shape.eq_iterate_unwrap` — a shape is its stripped shape under its layers.
* `Value.present_eq_some_iff` — reading finds a value exactly when every layer is set.
* `Context.fillRun_fill` — filling a well-typed value follows `FillRun`.
* `Context.FillRun.outcome` — a fill that succeeds leaves every layer set, and one that fails
  stops at an unset layer whose inner shape cannot be made.
* `Context.option_layers_strip_consistently` — the two levels agree.
-/

namespace ValuePaths

section

open Logged

namespace Shape

/-- A shape is its stripped shape under as many `Option` layers as it has. -/
theorem eq_iterate_unwrap (s : Shape) : ∃ n, s = Shape.option^[n] s.unwrap := by
  induction s with
  | option t ih =>
    obtain ⟨n, hn⟩ := ih
    refine ⟨n + 1, ?_⟩
    rw [unwrap_option, Function.iterate_succ_apply', ← hn]
  | _ => exact ⟨0, rfl⟩

end Shape

namespace Value

/-- Every `Option` layer of a value is set, and `y`, which is no option, is what the
innermost one holds. -/
inductive SetLayers : Value → Value → Prop
  | bare {y : Value} (hy : ∀ t o, y ≠ .option t o) : SetLayers y y
  | layer {t : Shape} {x y : Value} (h : SetLayers x y) : SetLayers (.option t (some x)) y

/-- Reading looks through the layers of a value: it finds a value exactly when every layer
is set, and then what the innermost one holds. -/
theorem present_eq_some_iff {x y : Value} : x.present = some y ↔ x.SetLayers y := by
  fun_induction present x with
  | case1 t =>
    constructor
    · intro h
      cases h
    · intro h
      cases h with
      | bare hy => exact absurd rfl (hy t none)
  | case2 t v ih =>
    rw [ih]
    refine ⟨.layer, fun h => ?_⟩
    cases h with
    | bare hy => exact absurd rfl (hy t (some v))
    | layer h => exact h
  | case3 v hnone hsome =>
    have hv : ∀ t o, v ≠ .option t o := by
      intro t o hvo
      cases o with
      | none => exact hnone t hvo
      | some w => exact hsome t w hvo
    constructor
    · intro h
      cases h
      exact .bare hv
    · intro h
      cases h with
      | bare => rfl
      | layer => exact absurd rfl (hv _ _)

end Value

variable [Catalogue]

namespace Context

variable (ctx : Context)

/-- Why no default of a shape can be made for a missing value: creating missing values is
switched off, or the shape is not registered, or it has no default. -/
inductive CannotCreate (t : Shape) : CreationReason → Prop
  | disabled (hoff : ctx.options.createMissing = false) : CannotCreate t .disabled
  | unregistered (hon : ctx.options.createMissing = true)
      (hreg : ctx.registry.contains t = false) : CannotCreate t .unregistered
  | noDefault (hon : ctx.options.createMissing = true) (hreg : ctx.registry.contains t = true)
      (hdef : t.hasDefault = false) : CannotCreate t .noDefault

/-- How filling the layers of a value `x` ends: the value `x'` it leaves and the outcome.
From the outside in, a set layer keeps what it holds, an unset one takes the registered
default of its inner shape, and what a layer holds is filled in turn; the first unset layer
whose inner shape has no default to make stops it, and stays unset. -/
inductive FillRun : Value → Value → Except Fault Unit → Prop
  | bare {v : Value} (hv : ∀ t o, v ≠ .option t o) : FillRun v v (.ok ())
  | kept {t : Shape} {v v' : Value} {r : Except Fault Unit} (h : FillRun v v' r) :
      FillRun (.option t (some v)) (.option t (some v')) r
  | created {t : Shape} {d d' : Value} {r : Except Fault Unit}
      (hon : ctx.options.createMissing = true) (hd : ctx.registry.createDefault t = some d)
      (h : FillRun d d' r) : FillRun (.option t none) (.option t (some d')) r
  | stopped {t : Shape} {reason : CreationReason} (h : ctx.CannotCreate t reason) :
      FillRun (.option t none) (.option t none) (.error (.creation t reason))

/-- Creating a missing value of a shape gives its registered default, or fails for one of
the reasons of `CannotCreate`. -/
theorem createMissing_typed_cases (t : Shape) :
    (ctx.options.createMissing = true ∧ ∃ d, ctx.registry.createDefault t = some d ∧
      (ctx.createMissing (.typed t)).run.val = .ok d) ∨
    ∃ reason, ctx.CannotCreate t reason ∧
      (ctx.createMissing (.typed t)).run.val = .error (.creation t reason) := by
  cases hon : ctx.options.createMissing with
  | false => exact .inr ⟨_, .disabled hon, by simp [createMissing, Target.shape, hon]⟩
  | true =>
    cases hreg : ctx.registry.contains t with
    | false =>
      exact .inr ⟨_, .unregistered hon hreg, by simp [createMissing, instantiate, hon, hreg]⟩
    | true =>
      cases hdef : t.hasDefault with
      | false =>
        refine .inr ⟨_, .noDefault hon hreg hdef, ?_⟩
        simp [createMissing, instantiate, Registry.createDefault, hon, hreg, hdef]
      | true =>
        refine .inl ⟨rfl, t.zero, by simp [Registry.createDefault, hreg, hdef], ?_⟩
        simp [createMissing, instantiate, Registry.createDefault, hon, hreg, hdef]

/-! ## Filling a well-typed value, layer by layer -/

/-- A value that is no option is filled already. -/
theorem val_fill_of_ne_option {v : Value} (hv : ∀ t o, v ≠ .option t o) :
    (ctx.fill v).val = (v, .ok ()) :=
  ctx.val_fillAt_of_shape (fun t h => by
    obtain ⟨o, ho⟩ := Value.shape_eq_option.mp h
    exact hv t o ho) _

/-- A set layer over a value of its inner shape is kept, and what it holds is filled. -/
theorem val_fill_option_some {t : Shape} {v : Value} (hv : v.shape = t) :
    (ctx.fill (.option t (some v))).val =
      (.option t (some (ctx.fill v).val.1), (ctx.fill v).val.2) := by
  unfold fill
  rw [Value.shape, val_fillAt_option_some, hv]

/-- An unset layer takes the default that creating a missing value of its inner shape
gives, filled in turn, or stays unset when none can be made. -/
theorem val_fill_option_none_ok {t : Shape} {d : Value}
    (hd : (ctx.createMissing (.typed t)).run.val = .ok d) :
    (ctx.fill (.option t none)).val =
      (.option t (some (ctx.fill d).val.1), (ctx.fill d).val.2) := by
  have hshape : d.shape = t := ctx.createMissing_typed hd ▸ (Shape.wellTyped_zero t).2
  unfold fill
  rw [Value.shape, val_fillAt_option_none, hd, hshape]

theorem val_fill_option_none_error {t : Shape} {f : Fault}
    (hf : (ctx.createMissing (.typed t)).run.val = .error f) :
    (ctx.fill (.option t none)).val = (.option t none, .error f) := by
  unfold fill
  rw [Value.shape, val_fillAt_option_none, hf]

/-- **Filling follows `FillRun`.**  The induction is on the shape of the value: what a set
layer holds has the layer's inner shape, and so has the default an unset layer takes. -/
theorem fillRun_fill (s : Shape) : ∀ {x : Value}, x.WellTyped → x.shape = s →
    ctx.FillRun x (ctx.fill x).val.1 (ctx.fill x).val.2 := by
  induction s with
  | option t ih =>
    intro x hx hs
    obtain ⟨o, rfl⟩ := Value.shape_eq_option.mp hs
    cases hx with
    | none =>
      rcases ctx.createMissing_typed_cases t with ⟨hon, d, hd, hm⟩ | ⟨reason, hcannot, hm⟩
      · have hzero := Shape.wellTyped_zero t
        rw [← ctx.createMissing_typed hm] at hzero
        rw [val_fill_option_none_ok ctx hm]
        exact .created hon hd (ih hzero.1 hzero.2)
      · rw [val_fill_option_none_error ctx hm]
        exact .stopped hcannot
    | some hv typed =>
      rw [val_fill_option_some ctx hv]
      exact .kept (ih typed hv)
  | _ =>
    intro x _ hs
    have hv : ∀ t o, x ≠ .option t o := fun t o h => by
      rw [h] at hs
      cases hs
    rw [val_fill_of_ne_option ctx hv]
    exact .bare hv

/-- **What a fill leaves.**  A fill that succeeds leaves every layer set; one that fails
stops at an unset layer, left innermost, whose inner shape cannot be made. -/
theorem FillRun.outcome {x x' : Value} {r : Except Fault Unit} (h : ctx.FillRun x x' r) :
    (r = .ok () ∧ x'.SetLayers x'.inner) ∨
    ∃ t reason, r = .error (.creation t reason) ∧ ctx.CannotCreate t reason ∧
      x'.inner = .option t none := by
  induction h with
  | bare hv =>
    refine .inl ⟨rfl, ?_⟩
    rw [Value.inner_of_ne_some (fun t w => hv t (some w))]
    exact .bare hv
  | kept _ ih | created _ _ _ ih =>
    rcases ih with ⟨hr, hset⟩ | ⟨t, reason, hr, hcannot, hinner⟩
    · exact .inl ⟨hr, .layer hset⟩
    · exact .inr ⟨t, reason, hr, hcannot, hinner⟩
  | stopped hcannot => exact .inr ⟨_, _, rfl, hcannot, rfl⟩

/-- A fill of a well-typed value that succeeds leaves every layer set, over a value of the
stripped shape. -/
theorem fill_ok {x : Value} (hx : x.WellTyped) (hok : (ctx.fill x).val.2 = .ok ()) :
    (ctx.fill x).val.1.SetLayers (ctx.fill x).val.1.inner ∧
      (ctx.fill x).val.1.inner.shape = x.shape.unwrap := by
  rcases (ctx.fillRun_fill x.shape hx rfl).outcome with ⟨_, hset⟩ | ⟨t, reason, hr, _⟩
  · have hfilled := ctx.wellTyped_fill hx
    have hpresent := hfilled.1.present (Value.present_eq_some_iff.mpr hset)
    exact ⟨hset, hfilled.2 ▸ hpresent.2⟩
  · rw [hok] at hr
    cases hr

/-- A fill of a well-typed value fails only for want of a default of the inner shape of the
unset layer where it stops. -/
theorem fill_error {x : Value} (hx : x.WellTyped) {f : Fault}
    (hf : (ctx.fill x).val.2 = .error f) :
    ∃ t reason, f = .creation t reason ∧ ctx.CannotCreate t reason ∧
      (ctx.fill x).val.1.inner = .option t none := by
  rcases (ctx.fillRun_fill x.shape hx rfl).outcome with
    ⟨hr, _⟩ | ⟨t, reason, hr, hcannot, hinner⟩
  · rw [hf] at hr
    cases hr
  · rw [hf] at hr
    cases hr
    exact ⟨t, reason, rfl, hcannot, hinner⟩

/-- **Option layers are stripped alike on shapes and on values.**  A shape is its stripped
shape under some number of `Option` layers.  In a well-typed value, reading finds a value
exactly when every layer is set, and then the innermost one, of the stripped shape.  Filling
follows `FillRun`: a set layer keeps what it holds and an unset one takes the registered
default of its inner shape, each filled in turn.  A fill that succeeds leaves every layer set
over a value of the stripped shape; one that fails does so for want of a default of the inner
shape of the unset layer where it stops. -/
theorem option_layers_strip_consistently {x : Value} (hx : x.WellTyped) :
    (∀ s : Shape, (∃ n, s = Shape.option^[n] s.unwrap) ∧ s.unwrap.kind ≠ .optional) ∧
    (∀ y, x.present = some y ↔ x.SetLayers y) ∧
    (∀ y, x.present = some y → y.shape = x.shape.unwrap) ∧
    ctx.FillRun x (ctx.fill x).val.1 (ctx.fill x).val.2 ∧
    ((ctx.fill x).val.2 = .ok () → (ctx.fill x).val.1.SetLayers (ctx.fill x).val.1.inner ∧
      (ctx.fill x).val.1.inner.shape = x.shape.unwrap) ∧
    (∀ f, (ctx.fill x).val.2 = .error f → ∃ t reason, f = .creation t reason ∧
      ctx.CannotCreate t reason ∧ (ctx.fill x).val.1.inner = .option t none) :=
  ⟨fun s => ⟨s.eq_iterate_unwrap, s.kind_unwrap_ne_optional⟩,
    fun _ => Value.present_eq_some_iff, fun _ hy => (hx.present hy).2,
    ctx.fillRun_fill x.shape hx rfl, ctx.fill_ok hx, fun _ hf => ctx.fill_error hx hf⟩

end Context

end

namespace Context

/-- An unset `Option<Option<u8>>` is well typed, and filling it without a registry follows
`FillRun`: it stops at once, for want of a registered `Option<u8>`. -/
theorem option_layers_strip_consistently_unregistered :
    (Value.option (.option (.scalar (.int .u8))) none).WellTyped ∧
      ({ registry := .empty } : Context).FillRun (.option (.option (.scalar (.int .u8))) none)
        (({ registry := .empty } : Context).fill
          (.option (.option (.scalar (.int .u8))) none)).val.1
        (({ registry := .empty } : Context).fill
          (.option (.option (.scalar (.int .u8))) none)).val.2 :=
  ⟨.none _, (option_layers_strip_consistently { registry := .empty } (.none _)).2.2.2.1⟩

end Context

end ValuePaths
