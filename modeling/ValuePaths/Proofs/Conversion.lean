import Mathlib
import ValuePaths.Proofs.Typing

/-!
# What conversion and creation give

A program starts from the empty registry or the standard one, registers shapes, installs
converters and registers the catalogue.  Each of these keeps one invariant: every
converter a registry holds yields the shape it is installed for (`Registry.Typed`), giving
well-typed values of that shape that tie only when equal.  The standard reading of a scalar
yields that scalar and registration installs it on scalars only; a program installs a
converter of its own only for the shape it yields, and installing puts it only on the
entries of that shape.

With such a registry everything the library makes is well typed and of the shape asked
for: a registered default is the default of its shape, and text converted for a shape is
a well-typed value of exactly that shape, however deep the containers it fills.  A
conversion or a creation that fails does so for a reason of its own, never because a
container refused a value of another shape: that fault is left to the containers.

## Main definitions

* `Converter.Yields` — a converter gives well-typed values of a shape, equal when they tie.
* `Registry.Typed` — every converter of a registry yields its entry's shape.
* `Registry.Built` — the registries a program builds.
* `Fault.isMisfit` — a container refused a value of another shape.
* `NoMisfit` — a computation that never fails with that fault.

## Main statements

* `Registry.Built.typed` — every registry a program builds is typed.
* `Registry.Typed.sound`, `Registry.Typed.faithful` — so its conversions give the shape asked
  for, and values that tie only when equal.
* `Registry.createDefault_wellTyped`, `Registry.Typed.convert` — defaults and converters.
* `Context.coerceTo_wellTyped` — text converted for a shape is a well-typed value of it.
* `Context.failsOnly_coerceTo`, `Context.failsOnly_resolve` — the faults conversion and
  resolution can raise, for any sort of fault that covers those of their steps.
* `Context.noMisfit_coerce`, `Context.noMisfit_resolve` — so conversion and resolution fail
  for reasons of their own.
-/

namespace ValuePaths

open Logged

/-! ## Converters -/

/-- Scalars of one shape tie only when they are equal. -/
theorem Value.eq_of_same_scalar {a b : Value} {k : Scalar} (ha : a.shape = .scalar k)
    (hb : b.shape = .scalar k) (h : Value.same a b = true) : a = b := by
  simp only [Value.same, beq_iff_eq] at h
  cases k <;> cases a <;> simp [Value.shape] at ha <;> cases b <;> simp [Value.shape] at hb <;>
    simp only [Value.cmp] at h
  all_goals subst_vars; rw [Std.LawfulEqOrd.eq_of_compare h]

variable [Catalogue]

namespace Converter

/-- A converter made for shape `s`: it gives only well-typed values of that shape, and two
values it gives that the order ties are the same value.  The host program lets a converter
be registered only for the type it produces, and orders the values of a type as it compares
them. -/
structure Yields (c : Converter) (s : Shape) : Prop where
  typed : ∀ raw v, c.read raw = .ok v → v.WellTyped ∧ v.shape = s
  faithful : ∀ {raw₁ raw₂ v₁ v₂}, c.read raw₁ = .ok v₁ → c.read raw₂ = .ok v₂ →
    Value.same v₁ v₂ = true → v₁ = v₂

/-- The standard reading of a scalar gives that scalar. -/
theorem standard_typed (sc : Scalar) (raw : String) (v : Value)
    (h : (standard sc).read raw = .ok v) : v.WellTyped ∧ v.shape = .scalar sc := by
  cases sc with
  | bool =>
    simp only [standard, Scalar.read] at h
    cases hb : readBool raw <;> rw [hb] at h <;> cases h
    exact ⟨.bool _, rfl⟩
  | char =>
    simp only [standard, Scalar.read] at h
    split at h <;> cases h
    exact ⟨.char _, rfl⟩
  | int t =>
    simp only [standard, Scalar.read, IntType.readValue] at h
    split at h <;> cases h
    exact ⟨.int _ _, rfl⟩
  | f32 =>
    simp only [standard, Scalar.read] at h
    split at h <;> cases h
    exact ⟨.f32 _, rfl⟩
  | f64 =>
    simp only [standard, Scalar.read] at h
    split at h <;> cases h
    exact ⟨.f64 _, rfl⟩
  | string =>
    cases h
    exact ⟨.string _, rfl⟩

/-- The standard reading of a scalar yields that scalar: scalars tie only when equal. -/
theorem yields_standard (sc : Scalar) : (standard sc).Yields (.scalar sc) where
  typed := standard_typed sc
  faithful h₁ h₂ h :=
    Value.eq_of_same_scalar (standard_typed sc _ _ h₁).2 (standard_typed sc _ _ h₂).2 h

end Converter

/-! ## The registries a program builds -/

namespace Registry

/-- Every converter of a registry gives well-typed values of the shape it is installed
for. -/
def Typed (reg : Registry) : Prop :=
  ∀ e ∈ reg.entries, ∀ c, e.converter = some c → c.Yields e.shape

/-- The registries a program builds: from the empty or the standard one, by registering
shapes, installing converters made for a shape, and registering the catalogue. -/
inductive Built : Registry → Prop
  | empty : Built Registry.empty
  | standard : Built Registry.standard.val
  | register {reg : Registry} (s : Shape) : Built reg → Built (reg.register s).val
  | install {reg : Registry} {s : Shape} {c : Converter} (hc : c.Yields s) :
      Built reg → Built (reg.install s c).val
  | catalogue {reg : Registry} : Built reg → Built reg.registerCatalogue.val

theorem typed_empty : empty.Typed := fun _ h => by cases h

/-- Registration appends entries whose converter is the standard reading of a scalar or
none. -/
theorem typed_enrol (fuel : Nat) :
    ∀ (s : Shape) (reg : Registry) (st : Array Note), reg.Typed →
      ((enrol fuel s reg).run st).1.Typed := by
  induction fuel with
  | zero => exact fun _ _ _ h => h
  | succ fuel ih =>
    intro s reg st h
    unfold enrol
    split
    · exact h
    · rw [run_bind_eq]
      refine foldlM_invariant Typed (fun r d st hr => ih d r st hr) _ _ _ ?_
      intro e he c hc
      rcases List.mem_append.mp he with he | he
      · exact h e he c hc
      · rw [List.mem_singleton] at he
        subst he
        split at hc
        · cases hc
          exact Converter.yields_standard _
        · cases hc

theorem typed_register {reg : Registry} (h : reg.Typed) (s : Shape) (st : Array Note) :
    ((reg.register s).run st).1.Typed :=
  typed_enrol _ s reg st h

/-- Installing a converter that yields a shape puts it on the entries of that shape only. -/
theorem typed_install {reg : Registry} (h : reg.Typed) {s : Shape} {c : Converter}
    (hc : c.Yields s) : (reg.install s c).val.Typed := by
  have hreg := typed_register h s #[]
  unfold install
  rw [val, run_bind_eq]
  intro e he c' hc'
  obtain ⟨e, he', rfl⟩ := List.mem_map.mp he
  by_cases hs : e.shape = s
  · simp only [hs, beq_self_eq_true, if_true] at hc' ⊢
    cases hc'
    exact hc
  · have hne : (e.shape == s) = false := by simpa using hs
    simp only [hne, Bool.false_eq_true, if_false] at hc' ⊢
    exact hreg e he' c' hc'

theorem typed_registerCatalogue {reg : Registry} (h : reg.Typed) :
    reg.registerCatalogue.val.Typed := by
  unfold registerCatalogue
  have key := foldlM_invariant Typed (fun _ rec st hr => typed_register hr (.record rec) st)
    Record.catalogue reg #[] h
  simp only [val, run_bind_eq, StateT.run_pure]
  -- the note after the registrations leaves the registry as they left it
  generalize (List.foldlM (fun (r : Registry) (rec : Record) => r.register (Shape.record rec))
    reg Record.catalogue).run #[] = res at key ⊢
  exact key

theorem typed_standard : standard.val.Typed :=
  foldlM_invariant Typed (fun _ _ st hr => typed_register hr _ st) _ _ _ typed_empty

/-- **Every registry a program builds is typed.** -/
theorem Built.typed {reg : Registry} (h : reg.Built) : reg.Typed := by
  induction h with
  | empty => exact typed_empty
  | standard => exact typed_standard
  | register s _ ih => exact typed_register ih s #[]
  | install hc _ ih => exact typed_install ih hc
  | catalogue _ ih => exact typed_registerCatalogue ih

omit [Catalogue] in
/-- A conversion by a registry runs the converter installed for the shape. -/
theorem convert_ok {reg : Registry} {raw : String} {s : Shape} {v : Value}
    (h : reg.convert raw s = .ok v) :
    ∃ e c, reg.find? s = some e ∧ e.converter = some c ∧ c.read raw = .ok v := by
  unfold Registry.convert at h
  split at h
  · cases h
  · cases h
  · rename_i shape c he
    split at h
    · rename_i w hw
      cases h
      exact ⟨_, c, he, rfl, hw⟩
    · cases h

/-- The converter of a typed registry that a conversion for a shape runs yields that shape. -/
theorem Typed.yields_of_convert {reg : Registry} (h : reg.Typed) {raw : String} {s : Shape}
    {v : Value} (hv : reg.convert raw s = .ok v) :
    ∃ c, (reg.find? s).bind (·.converter) = some c ∧ c.Yields s ∧ c.read raw = .ok v := by
  obtain ⟨e, c, he, hc, hr⟩ := convert_ok hv
  have hshape : e.shape = s := by simpa using List.find?_some he
  refine ⟨c, by simp [he, hc], ?_, hr⟩
  rw [← hshape]
  exact h e (List.mem_of_find?_eq_some he) c hc

/-- A typed registry converts text to a well-typed value of the shape asked for. -/
theorem Typed.convert {reg : Registry} (h : reg.Typed) {raw : String} {s : Shape} {v : Value}
    (hv : reg.convert raw s = .ok v) : v.WellTyped ∧ v.shape = s := by
  obtain ⟨c, -, hc, hr⟩ := h.yields_of_convert hv
  exact hc.typed raw v hr

theorem Typed.sound {reg : Registry} (h : reg.Typed) : reg.Sound :=
  fun _ _ _ hv => (h.convert hv).2

/-- Two texts that a typed registry converts for one shape go through one converter, so the
values tie only when they are equal. -/
theorem Typed.faithful {reg : Registry} (h : reg.Typed) : reg.Faithful := by
  intro raw₁ raw₂ s v₁ v₂ h₁ h₂ hsame
  obtain ⟨c, hc, hy, hr₁⟩ := h.yields_of_convert h₁
  obtain ⟨c', hc', -, hr₂⟩ := h.yields_of_convert h₂
  rw [hc] at hc'
  cases hc'
  exact hy.faithful hr₁ hr₂ hsame

/-- A registered default is a well-typed value of its shape. -/
theorem createDefault_wellTyped {reg : Registry} {s : Shape} {v : Value}
    (h : reg.createDefault s = some v) : v.WellTyped ∧ v.shape = s := by
  unfold createDefault at h
  split at h
  · cases h
    exact Shape.wellTyped_zero s
  · cases h

end Registry

/-! ## Converting text -/

namespace Members

variable (tbl : FixedTable)

omit [Catalogue] in
/-- A set built from values holds only those values. -/
theorem mem_build {l : Layout} {t : Shape} {vs : List Value} {m : Value}
    (h : m ∈ (build tbl l t vs).2) : m ∈ vs := by
  obtain ⟨U, hU⟩ : ∃ U, U = vs := ⟨_, rfl⟩
  have hsub : ∀ v ∈ vs, v ∈ U := fun v hv => hU ▸ hv
  rw [← hU]
  clear hU
  unfold build at h
  have hstart : ∀ x ∈ ((l.start, ([] : List Value)) : Placement × List Value).2, x ∈ U := by
    simp
  generalize ((l.start, []) : Placement × List Value) = acc at hstart h
  -- every member of the set built so far is one of the values added
  induction vs generalizing acc with
  | nil => exact hstart m h
  | cons v vs ih =>
    refine ih (fun x hx => hsub x (List.mem_cons_of_mem _ hx)) _ ?_ h
    intro x hx
    rcases mem_add hx with rfl | hx
    · exact hsub x List.mem_cons_self
    · exact hstart x hx

end Members

namespace Context

variable (ctx : Context)

theorem convertOne_wellTyped (htyped : ctx.registry.Typed) {raw : String} {s : Shape}
    {v : Value} (h : (ctx.convertOne raw s).run.val = .ok v) : v.WellTyped ∧ v.shape = s := by
  unfold convertOne at h
  split at h
  · split at h
    · rename_i w hw
      cases h
      exact htyped.convert hw
    · cases h
  · split at h <;> cases h

/-- **Text converted for a shape is a well-typed value of that shape**, when the registry
is typed.  By induction on the shape: a container converts each text for its element
shape. -/
theorem coerceTo_wellTyped (htyped : ctx.registry.Typed) (s : Shape) :
    ∀ {r : Raw} {v : Value}, (ctx.coerceTo s r).run.val = .ok v → v.WellTyped ∧ v.shape = s := by
  induction s with
  | option t ih =>
    intro r v h
    rcases coerceTo_option_ok h with ⟨_, -, -, h⟩ | ⟨w, rfl, hw⟩
    · exact ctx.convertOne_wellTyped htyped h
    · have hw' := ih hw
      exact ⟨.some hw'.2 hw'.1, rfl⟩
  | list l t ih =>
    intro r v h
    rcases coerceTo_list_ok h with ⟨_, -, -, h⟩ | ⟨vs, rfl, hvs⟩
    · exact ctx.convertOne_wellTyped htyped h
    · have hitems := forall_items ih hvs
      exact ⟨.list (fun x hx => (hitems x hx).2) (fun x hx => (hitems x hx).1), rfl⟩
  | untypedList =>
    intro r v h
    rcases coerceTo_untypedList_ok h with ⟨_, -, -, h⟩ | ⟨-, rfl⟩
    · exact ctx.convertOne_wellTyped htyped h
    · refine ⟨.untypedList fun x hx => ?_, rfl⟩
      obtain ⟨y, -, rfl⟩ := List.mem_map.mp hx
      exact .string y
  | set l t ih =>
    intro r v h
    rcases coerceTo_set_ok h with ⟨_, -, -, h⟩ | ⟨vs, rfl, hvs⟩
    · exact ctx.convertOne_wellTyped htyped h
    · have hitems := forall_items ih hvs
      refine ⟨.set (fun x hx => (hitems x (Members.mem_build _ hx)).2)
        (fun x hx => (hitems x (Members.mem_build _ hx)).1), ?_⟩
      simp [Value.shape, Members.build_layout]
  | array t n ih =>
    intro r v h
    rcases coerceTo_array_ok h with ⟨_, -, -, h⟩ | ⟨vs, hlen, rfl, hvs⟩
    · exact ctx.convertOne_wellTyped htyped h
    · have hitems := forall_items ih hvs
      have hlen' := length_mapM_ok (fun x => ctx.oblivious_coerceTo t (.one x)) hvs
      refine ⟨.array (fun x hx => (hitems x hx).2) (fun x hx => (hitems x hx).1), ?_⟩
      simp [Value.shape, hlen', hlen]
  | _ =>
    intro r v h
    unfold coerceTo at h
    split at h
    · exact ctx.convertOne_wellTyped htyped h
    · dsimp only at h
      split at h
      · exact ctx.convertOne_wellTyped htyped h
      · exact ctx.convertOne_wellTyped htyped h
      · cases h

/-- Text converted for a target is well typed, and of the target's shape when it has one. -/
theorem coerce_wellTyped (htyped : ctx.registry.Typed) {target : Target} {r : Raw} {v : Value}
    (h : (ctx.coerce target r).run.val = .ok v) :
    v.WellTyped ∧ ∀ t, target = .typed t → v.shape = t := by
  cases target with
  | typed s =>
    have hv := ctx.coerceTo_wellTyped htyped s h
    exact ⟨hv.1, fun t ht => by cases ht; exact hv.2⟩
  | untyped =>
    cases r with
    | one raw =>
      cases h
      exact ⟨.string raw, fun t ht => by cases ht⟩
    | many xs =>
      cases h
      refine ⟨.untypedList fun x hx => ?_, fun t ht => by cases ht⟩
      obtain ⟨y, -, rfl⟩ := List.mem_map.mp hx
      exact .string y

end Context

/-! ## Failures of their own -/

/-- Whether a reason is a container refusing a value of another shape. -/
def Reason.isMisfit : Reason → Bool
  | .doesNotFit _ => true
  | _ => false

/-- Whether a fault is a container refusing a value of another shape. -/
def Fault.isMisfit : Fault → Bool
  | .conversion e => e.reason.isMisfit
  | _ => false

/-- A computation that never fails because a container refused a value. -/
def NoMisfit {α : Type} (x : Checked α) : Prop :=
  FailsOnly (fun f : Fault => f.isMisfit = false) x

omit [Catalogue] in
/-- A conversion fails for a reason of its own: the shape is unregistered, has no converter,
or its converter refuses the text. -/
theorem Registry.convert_error {reg : Registry} {raw : String} {s : Shape}
    {e : ConversionError} (h : reg.convert raw s = .error e) : e.reason.isMisfit = false := by
  unfold Registry.convert at h
  split at h
  · cases h
    rfl
  · cases h
    rfl
  · split at h <;> cases h
    rfl

namespace Context

variable (ctx : Context)

/-! Creating a value, listing a container's element targets and converting one text fail
with faults of their own; any sort of fault that covers those covers the step. -/

section Steps

variable {P : Fault → Prop}

theorem failsOnly_instantiate (hcreation : ∀ s why, P (.creation s why)) (s : Shape) :
    FailsOnly P (ctx.instantiate s) := by
  unfold instantiate
  split
  · exact failsOnly_throw (hcreation _ _)
  · split
    · exact failsOnly_pure _
    · exact failsOnly_throw (hcreation _ _)

theorem failsOnly_createMissing (hcreation : ∀ s why, P (.creation s why)) (target : Target) :
    FailsOnly P (ctx.createMissing target) := by
  unfold createMissing
  split
  · exact failsOnly_throw (hcreation _ _)
  · split
    · exact ctx.failsOnly_instantiate hcreation _
    · exact failsOnly_pure _

/-- The element targets of a container fail only when strict generics refuse a list that
declares no element shape. -/
theorem failsOnly_elementTargets
    (hundeclared : ctx.options.strictGenerics = true → P (.undeclared .untypedList)) (s : Shape) :
    FailsOnly P (ctx.elementTargets s) := by
  unfold elementTargets
  split
  all_goals first
    | exact failsOnly_pure _
    | skip
  unfold undeclaredElement
  split
  · rename_i hstrict
    exact (failsOnly_throw (hundeclared hstrict)).bind fun _ => failsOnly_pure _
  · exact fun _ _ h => by cases h

theorem failsOnly_convertOne (hconversion : ∀ e, P (.conversion e)) (raw : String) (s : Shape) :
    FailsOnly P (ctx.convertOne raw s) := by
  unfold convertOne
  split
  · split
    · exact failsOnly_pure _
    · exact failsOnly_throw (hconversion _)
  · split <;> exact failsOnly_throw (hconversion _)

end Steps

theorem noMisfit_convertOne (raw : String) (s : Shape) : NoMisfit (ctx.convertOne raw s) := by
  unfold convertOne
  split
  · split
    · exact failsOnly_pure _
    · rename_i e he
      exact failsOnly_throw (Registry.convert_error he)
  · split <;> exact failsOnly_throw rfl

theorem noMisfit_instantiate (s : Shape) : NoMisfit (ctx.instantiate s) :=
  ctx.failsOnly_instantiate (P := fun f => f.isMisfit = false) (fun _ _ => rfl) s

theorem noMisfit_createMissing (target : Target) : NoMisfit (ctx.createMissing target) :=
  ctx.failsOnly_createMissing (P := fun f => f.isMisfit = false) (fun _ _ => rfl) target

theorem noMisfit_elementTargets (s : Shape) : NoMisfit (ctx.elementTargets s) :=
  ctx.failsOnly_elementTargets (P := fun f => f.isMisfit = false) (fun _ => rfl) s

/-- **Conversion fails only as its steps do**: with a converter's failure, a missing default,
an undeclared element shape, or a count of texts that does not fit the slots or the single
value asked for.  Any sort of fault that covers these covers every failure of a conversion. -/
theorem failsOnly_coerceTo {P : Fault → Prop}
    (hconvert : ∀ raw s, FailsOnly P (ctx.convertOne raw s))
    (hinstantiate : ∀ s, FailsOnly P (ctx.instantiate s))
    (htargets : ∀ s, FailsOnly P (ctx.elementTargets s))
    (hfill : ∀ t n count, P (.unsupported .array (.array t n) (.fill count n)))
    (hsingle : ∀ raw s n, P (.convert raw s (.singleExpected n))) (s : Shape) :
    ∀ r : Raw, FailsOnly P (ctx.coerceTo s r) := by
  induction s with
  | option t ih =>
    intro r
    unfold coerceTo
    split
    · exact hconvert _ _
    · exact (ih _).bind fun _ => failsOnly_pure _
  | list l t ih =>
    intro r
    unfold coerceTo
    split
    · exact hconvert _ _
    · exact (htargets _).bind fun _ => (hinstantiate _).bind
        fun _ => (FailsOnly.mapM (fun x => ih (.one x)) _).bind fun _ => failsOnly_pure _
  | untypedList =>
    intro r
    unfold coerceTo
    split
    · exact hconvert _ _
    · exact (htargets _).bind fun _ => (hinstantiate _).bind fun _ => failsOnly_pure _
  | set l t ih =>
    intro r
    unfold coerceTo
    split
    · exact hconvert _ _
    · exact (htargets _).bind fun _ => (hinstantiate _).bind
        fun _ => (FailsOnly.mapM (fun x => ih (.one x)) _).bind fun _ => failsOnly_pure _
  | array t n ih =>
    intro r
    unfold coerceTo
    split
    · exact hconvert _ _
    · dsimp only
      -- a count of texts other than the slots is refused before anything is converted
      split
      · refine FailsOnly.bind (failsOnly_throw (hfill _ _ _)) fun _ => ?_
        exact (hinstantiate _).bind fun _ =>
          (FailsOnly.mapM (fun x => ih (.one x)) _).bind fun _ => failsOnly_pure _
      · exact (hinstantiate _).bind fun _ =>
          (FailsOnly.mapM (fun x => ih (.one x)) _).bind fun _ => failsOnly_pure _
  | scalar | record | map | properties =>
    intro r
    unfold coerceTo
    split
    · exact hconvert _ _
    · dsimp only
      split
      · exact hconvert _ _
      · exact hconvert _ _
      · exact failsOnly_throw (hsingle _ _ _)

/-- Conversion fails for reasons of its own: a converter's, an unregistered shape, a
missing converter or default, a count of texts that does not fit. -/
theorem noMisfit_coerceTo (s : Shape) (r : Raw) : NoMisfit (ctx.coerceTo s r) :=
  ctx.failsOnly_coerceTo ctx.noMisfit_convertOne ctx.noMisfit_instantiate
    ctx.noMisfit_elementTargets (fun _ _ _ => rfl) (fun _ _ _ => rfl) s r

/-- Converting for a target fails as converting for its shape does; untyped text is kept. -/
theorem failsOnly_coerce {P : Fault → Prop} (hcoerceTo : ∀ s r, FailsOnly P (ctx.coerceTo s r))
    (target : Target) (r : Raw) : FailsOnly P (ctx.coerce target r) := by
  unfold coerce
  split
  · exact failsOnly_pure _
  · exact failsOnly_pure _
  · exact hcoerceTo _ _

theorem noMisfit_coerce (target : Target) (r : Raw) : NoMisfit (ctx.coerce target r) :=
  ctx.failsOnly_coerce ctx.noMisfit_coerceTo target r

/-- **Resolution fails only as its steps do**: with no such element, a subscript of a record,
an element count before the end, an index that does not read, a map key that does not
convert, or an element shape that is not declared. -/
theorem failsOnly_resolve {P : Fault → Prop} (hcoerce : ∀ t r, FailsOnly P (ctx.coerce t r))
    (htargets : ∀ s, FailsOnly P (ctx.elementTargets s)) (hnone : ∀ c name, P (.noProperty c name))
    (hsubscript : ∀ c raw, P (.unsupported .record c (.subscript raw)))
    (hcount : ∀ c name, P (.unsupported .length c (.throughLength name)))
    (hindex : ∀ raw (f : IntFault), P (.convert raw .usize (.unreadable f.message)))
    (e : Segment) (s : Shape)
    (isLast : Bool) : FailsOnly P (ctx.resolve e s isLast) := by
  unfold resolve
  dsimp only
  split
  · repeat' split
    all_goals first
      | exact failsOnly_pure _
      | exact failsOnly_throw (hnone _ _)
      | exact failsOnly_throw (hcount _ _)
  · refine (htargets _).bind fun _ => ?_
    split
    · split
      · exact failsOnly_throw (hsubscript _ _)
      · exact failsOnly_throw (hnone _ _)
    · split
      -- an index is read from the text
      iterate 3
        refine FailsOnly.bind ?_ fun _ => failsOnly_pure _
        split
        · exact failsOnly_pure _
        · exact failsOnly_throw (hindex _ _)
      · exact (hcoerce _ _).bind fun _ => failsOnly_pure _
      · exact (FailsOnly.tryCatch fun _ => failsOnly_pure _).bind fun _ => failsOnly_pure _
      · exact failsOnly_pure _

/-- Resolution fails for reasons of its own: no such element, a key that does not
convert, an element type that is not declared. -/
theorem noMisfit_resolve (e : Segment) (s : Shape) (isLast : Bool) :
    NoMisfit (ctx.resolve e s isLast) :=
  ctx.failsOnly_resolve ctx.noMisfit_coerce ctx.noMisfit_elementTargets (fun _ _ => rfl)
    (fun _ _ => rfl) (fun _ _ => rfl) (fun _ _ => rfl) e s isLast

end Context

end ValuePaths
