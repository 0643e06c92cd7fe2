import ValuePaths.Proofs.RawText
import ValuePaths.Proofs.Faults
import ValuePaths.Proofs.Reach
import ValuePaths.Proofs.TypedAccess
import ValuePaths.Sample.Records

/-!
# Strict generics

A list that declares no element shape gives its elements no shape to be converted for.  By
default the library keeps text written to it as text, with a warning; under strict generics
it refuses such a list wherever its element shape is asked for.  Resolution then binds no
step to an element of the list, only to its element count, and converting text for the list
itself fails.

So under strict generics a walk that meets such a list at a subscript fails there, whether
it reads, writes or compiles, and a write whose last element targets such a list fails
before it stores anything.  Nothing `set` or `apply` leaves behind holds text that was not
there before: every text a write stores goes through a conversion or into a text table.

The refusal is made while resolving.  A path compiled without strict generics keeps its
steps as they were resolved then, and writing it under strict generics stores text into
such a list.  Without strict generics the refusal is never raised, by any access.

## Main statements

* `Context.Changes.holdsRaw` — a write under strict generics adds no raw text.
* `Context.set_subscript_untypedList`, `Context.get_subscript_untypedList`,
  `Context.compile_subscript_untypedList` — the refusal at a subscript.
* `Context.set_last_untypedList` — the refusal of a write into such a list.
* `Context.strict_generics_keep_text_out` — all of it, with the accesses that never raise
  the refusal without strict generics.
* `Context.lenient_path_stores_text` — a path compiled without strict generics writes text
  into such a list under them.
-/

namespace ValuePaths

section

variable [Catalogue]

open Logged Value

/-- A fault other than the refusal of an element shape that is not declared. -/
def Fault.NotUndeclared (f : Fault) : Prop := ∀ ty, f ≠ .undeclared ty

namespace Context

/-! ## Resolving under strict generics -/

section Strict

variable {ctx : Context} (hstrict : ctx.options.strictGenerics = true)
include hstrict

/-- Under strict generics a list that declares no element shape resolves only its element
count. -/
theorem resolve_untypedList_strict {e : Segment} {s : Shape} {isLast : Bool} {step : Step}
    (hs : s.unwrap = .untypedList) (h : (ctx.resolve e s isLast).run.val = .ok step) :
    step = ⟨.length, .length, .untypedList, .typed .usize⟩ := by
  cases e with
  | subscript raw =>
    rw [ctx.val_resolve_untypedList hs, if_pos hstrict] at h
    cases h
  | property name =>
    rw [← ctx.resolve_unwrap, hs] at h
    unfold resolve at h
    dsimp only [Shape.unwrap] at h
    split at h
    · split at h
      · cases h
        rfl
      · cases h
    · cases h

/-- Under strict generics only a text table has elements of no declared shape. -/
theorem resolve_untyped_strict {e : Segment} {s : Shape} {isLast : Bool} {step : Step}
    (h : (ctx.resolve e s isLast).run.val = .ok step) (ht : step.target = .untyped) :
    step.container = .properties ∧ ∃ raw, step.key = .text raw := by
  obtain ⟨hcont, hb⟩ := ctx.resolve_bound h
  cases hb with
  | untypedList i => cases resolve_untypedList_strict hstrict hcont.symm h
  | properties raw => exact ⟨rfl, raw, rfl⟩
  | _ => cases ht

omit hstrict in
theorem Creates.untypedList {step : Step} {c : Value} {items : List Value}
    (h : ctx.Creates step c (.untypedList items)) : ∃ items', c = .untypedList items' := by
  cases h with
  | same => exact ⟨_, rfl⟩
  | padUntyped => exact ⟨_, rfl⟩

/-- Under strict generics a write meets a list that declares no element shape only for its
element count. -/
theorem key_of_untypedList {e : Segment} {isLast : Bool} {step : Step} {c c₀ : Value}
    (hres : (ctx.resolve e c.shape isLast).run.val = .ok step) (hcreate : ctx.Creates step c c₀) :
    ∀ items, c₀ = .untypedList items → step.key = .length := by
  intro items hc₀
  subst hc₀
  obtain ⟨items', rfl⟩ := hcreate.untypedList
  rw [resolve_untypedList_strict hstrict rfl hres]

/-! ## No raw text added -/

variable {s : String}

/-- What a write creates in a container holds no raw text: defaults, and keys converted
for their shape. -/
theorem Creates.holdsRaw (htext : ctx.registry.KeepsTextOut) {e : Segment} {isLast : Bool}
    {step : Step} {c c₀ : Value}
    (hres : (ctx.resolve e c.shape isLast).run.val = .ok step) (h : ctx.Creates step c c₀)
    (hc₀ : c₀.HoldsRaw s) : c.HoldsRaw s := by
  cases h with
  | same => exact hc₀
  | pad n hd =>
    obtain ⟨x, hx, hraw⟩ := hc₀.element fun _ h => by cases h
    rcases List.mem_append.mp hx with hx | hx
    · exact .inside hx hraw
    · rw [List.eq_of_mem_replicate hx] at hraw
      exact absurd hraw (ctx.createMissing_noRaw hd)
  | padUntyped n hd =>
    -- such a list is met for its count only, and the count's default is a number
    rw [resolve_untypedList_strict hstrict rfl hres] at hd
    have hzero := ctx.createMissing_typed hd
    cases hc₀ with
    | item hs =>
      rcases List.mem_append.mp hs with hs | hs
      · exact .item hs
      · cases (List.eq_of_mem_replicate hs).trans hzero
    | inside hx hraw =>
      rcases List.mem_append.mp hx with hx | hx
      · exact .inside hx hraw
      · rw [List.eq_of_mem_replicate hx] at hraw
        exact absurd hraw (ctx.createMissing_noRaw hd)
  | entry hkey hnone hd howned =>
    rcases holdsRaw_map_add hc₀ with h | h | h
    · exact h
    · exact absurd h (coerce_typed_noRaw hstrict htext howned)
    · exact absurd h (ctx.createMissing_noRaw hd)

omit hstrict in
/-- Filling layers adds only defaults, which hold no raw text. -/
theorem Fills.holdsRaw {x x' : Value} (h : ctx.Fills x x') (hx' : x'.HoldsRaw s) :
    x.HoldsRaw s := by
  induction h with
  | refl => exact hx'
  | create hd _ ih =>
    obtain ⟨y, hy, hraw⟩ := hx'.element fun _ h => by cases h
    simp only [elements, List.mem_singleton] at hy
    subst hy
    exact absurd (ih hraw) (ctx.createMissing_noRaw hd)
  | layer _ ih =>
    obtain ⟨y, hy, hraw⟩ := hx'.element fun _ h => by cases h
    simp only [elements, List.mem_singleton] at hy
    subst hy
    exact .inside (by simp [elements]) (ih hraw)

/-- Storing a value that holds no raw text adds none, unless it is put into a list that
declares no element shape, which a write meets only for its count. -/
theorem Stores.holdsRaw (htext : ctx.registry.KeepsTextOut) {step : Step} {v c₀ c' : Value}
    (hkey : ∀ items, c₀ = .untypedList items → step.key = .length) (hv : ¬v.HoldsRaw s)
    (h : ctx.Stores step v c₀ c') (hc' : c'.HoldsRaw s) : c₀.HoldsRaw s := by
  cases h with
  | put =>
    rcases holdsRaw_setChild hc' with h | h | ⟨items, i, rfl, hi, -⟩
    · exact h
    · exact absurd h hv
    · cases (hkey items rfl).symm.trans hi
  | push hk =>
    obtain ⟨x, hx, hraw⟩ := hc'.element fun _ h => by cases h
    rcases List.mem_append.mp hx with hx | hx
    · exact .inside hx hraw
    · rw [List.mem_singleton.mp hx] at hraw
      exact absurd hraw hv
  | pushUntyped hk => cases (hkey _ rfl).symm.trans hk
  | entry hk howned =>
    rcases holdsRaw_map_add hc' with h | h | h
    · exact h
    · exact absurd h (coerce_typed_noRaw hstrict htext howned)
    · exact absurd h hv
  | member =>
    rcases holdsRaw_set_add hc' with h | h
    · exact h
    · exact absurd h hv
  | text hk hv' =>
    exact absurd hc' (not_holdsRaw_of_elements (fun _ h => by cases h) (by simp [elements]))

omit hstrict in
/-- Text stored under a key of a text table stays in the table, which holds no raw text. -/
theorem Stores.holdsRaw_text {step : Step} {v c₀ c' : Value} {raw : String}
    (hkey : step.key = .text raw) (hc₀ : c₀.shape.unwrap = .properties)
    (h : ctx.Stores step v c₀ c') (hc' : c'.HoldsRaw s) : c₀.HoldsRaw s := by
  cases h with
  | put =>
    rw [hkey] at hc'
    cases c₀ <;> exact hc'
  | push hk => cases hkey.symm.trans hk
  | pushUntyped hk => cases hkey.symm.trans hk
  | entry hk => cases hkey.symm.trans hk
  | member => cases hc₀
  | text => exact absurd hc' (not_holdsRaw_of_elements (fun _ h => by cases h) (by simp [elements]))

/-- **A write under strict generics adds no raw text.**  By induction on the changes a
write may make: what it creates, fills and stores holds no raw text, a text given for an
untyped target goes into a text table, and an element it enters keeps only what it held and
what the write below it added. -/
theorem Changes.holdsRaw (htext : ctx.registry.KeepsTextOut) {r : Raw} {segs : List Segment}
    {ok : Bool} {c c' : Value}
    (h : ctx.Changes r segs ok c c') (hc' : c'.HoldsRaw s) : c.HoldsRaw s := by
  induction h with
  | done => exact hc'
  | stop => exact hc'
  | created hres hcreate => exact hcreate.holdsRaw hstrict htext hres hc'
  | @store e c c₀ c' v step hres hcreate hv hstore =>
    cases ht : step.target with
    | typed t =>
      rw [ht] at hv
      exact hcreate.holdsRaw hstrict htext hres (hstore.holdsRaw hstrict htext
        (key_of_untypedList hstrict hres hcreate) (coerce_typed_noRaw hstrict htext hv) hc')
    | untyped =>
      -- only a text table takes text unconverted, and it holds no raw text
      obtain ⟨hcont, raw, hkey⟩ := resolve_untyped_strict hstrict hres ht
      have hc : c.shape.unwrap = .properties := (ctx.resolve_bound hres).1 ▸ hcont
      cases hcreate with
      | same => exact hstore.holdsRaw_text hkey hc hc'
      | pad => cases hc
      | padUntyped => cases hc
      | entry => cases hc
  | @member e rest c c₀ c' d d' inner step hres hrest hkind hd hfill hbelow hcreate hstore ih =>
    -- the member is built from a default, and the write below it adds no raw text
    have hmember : ¬(d'.withInner inner).HoldsRaw s := by
      intro hm
      rcases holdsRaw_withInner hm with hm | hm
      · exact ctx.createMissing_noRaw hd (hfill.holdsRaw hm)
      · exact ctx.createMissing_noRaw hd (hfill.holdsRaw (holdsRaw_of_inner (ih hm)))
    exact hcreate.holdsRaw hstrict htext hres
      (hstore.holdsRaw hstrict htext (key_of_untypedList hstrict hres hcreate) hmember hc')
  | @enter e rest c c₀ x x' inner step ok hres hrest hkind hcreate hx hfill hbelow ih =>
    rcases holdsRaw_setChild hc' with h | h | ⟨items, i, rfl, hi, -⟩
    · exact hcreate.holdsRaw hstrict htext hres h
    · have hx' : x'.HoldsRaw s := by
        rcases holdsRaw_withInner h with h | h
        · exact h
        · exact holdsRaw_of_inner (ih h)
      exact hcreate.holdsRaw hstrict htext hres (holdsRaw_of_child? hx (hfill.holdsRaw hx'))
    · cases (key_of_untypedList hstrict hres hcreate items rfl).symm.trans hi

/-- `set` under strict generics adds no raw text. -/
theorem set_holdsRaw (htext : ctx.registry.KeepsTextOut) {root : Value} {path : String} {r : Raw}
    (h : (ctx.set root path r).val.1.HoldsRaw s) : root.HoldsRaw s := by
  cases hp : Path.parse path with
  | error e =>
    rw [val_set, hp] at h
    exact h
  | ok p => exact (ctx.changes_set hp).holdsRaw hstrict htext h

/-- Nor does a list of writes, however far it gets. -/
theorem applyFrom_holdsRaw (htext : ctx.registry.KeepsTextOut) :
    ∀ {props : List (String × Raw)} {done : Nat} {root : Value},
      (ctx.applyFrom done root props).val.1.HoldsRaw s → root.HoldsRaw s := by
  intro props
  induction props with
  | nil =>
    intro done root h
    exact h
  | cons prop rest ih =>
    intro done root h
    obtain ⟨key, r⟩ := prop
    rw [val_applyFrom_cons] at h
    generalize hs : (ctx.set root key r).val = out at h
    obtain ⟨root₁, res⟩ := out
    have hset : root₁.HoldsRaw s → root.HoldsRaw s := fun h₁ =>
      set_holdsRaw hstrict htext (by rw [hs]; exact h₁)
    cases res with
    | error e => exact hset h
    | ok u => exact hset (ih h)

/-! ## The refusal where a walk meets such a list -/

/-- Under strict generics a subscript of a list that declares no element shape is refused. -/
theorem legStep_subscript_untypedList {e : Segment} {s : Shape} (hs : s.unwrap = .untypedList)
    (he : ∃ raw, e = .subscript raw) (isLast : Bool) :
    (ctx.legStep (.element e) s isLast).run.val = .error (.undeclared .untypedList) := by
  obtain ⟨raw, rfl⟩ := he
  show (ctx.resolve (.subscript raw) s isLast).run.val = _
  rw [ctx.val_resolve_untypedList hs, if_pos hstrict]

/-- Under strict generics text converted for such a list is refused, under option layers
none of which has a converter of its own. -/
theorem coerceTo_untypedList_strict (hconv : ctx.registry.hasConverter .untypedList = false)
    {t : Shape} (hlayers : ctx.registry.LayersUnconverted t) (ht : t.unwrap = .untypedList)
    (r : Raw) : (ctx.coerceTo t r).run.val = .error (.undeclared .untypedList) := by
  induction hlayers with
  | @option u hconv' _ ih =>
    cases r with
    | one raw =>
      rw [ctx.val_coerceTo_one_option hconv', ih ht]
      rfl
    | many xs =>
      rw [val_coerceTo_many_option, ih ht]
      rfl
  | @bare u hbare =>
    -- a shape with no option layer is the list itself
    have hu : u = .untypedList := by
      cases u
      case option t => exact absurd rfl (hbare t)
      all_goals first
        | rfl
        | cases ht
    subst hu
    cases r with
    | one raw =>
      unfold coerceTo
      simp only [hconv]
      rw [val_run_bind fun _ _ => (ctx.oblivious_instantiate _).run_bind fun _ _ =>
        oblivious_run_pure _, val_elementTargets]
      simp only [hstrict, if_true]
    | many xs => rw [val_coerceTo_many_untypedList, if_pos hstrict]

section Walk

variable {root d : Value} {path : String} {p : Path} {q rest : List Segment} {raw : String}
  (hp : Path.parse path = .ok p) (hsegs : p.steps.map (·.segment) = q ++ .subscript raw :: rest)
include hp hsegs

/-- **A write that meets a list declaring no element shape at a subscript is refused
there** under strict generics, and leaves the list as it found it. -/
theorem set_subscript_untypedList (r : Raw) {plug : Value → Value}
    (hq : ctx.Reach (q.map .element) root d plug) (hd : d.shape.unwrap = .untypedList) :
    (ctx.set root path r).val = (plug d, .error ⟨.undeclared .untypedList, path, some q.length⟩) :=
  set_reach_error hp hsegs (List.cons_ne_nil _ _) hq fun _ =>
    ctx.writeFrom_legStep_error (legStep_subscript_untypedList hstrict hd ⟨raw, rfl⟩ _)

/-- So is a read that finds such a list. -/
theorem get_subscript_untypedList (hq : ctx.ReadReach (q.map .element) root d)
    (hd : d.shape.unwrap = .untypedList) :
    (ctx.get root path).val = .error ⟨.undeclared .untypedList, path, some q.length⟩ :=
  get_reach hp hsegs (List.cons_ne_nil _ _) hq fun _ => by
    rw [List.map_cons, ctx.readFrom_legStep_error
      (legStep_subscript_untypedList hstrict hd ⟨raw, rfl⟩ _)]
    rfl

/-- So is a compilation whose elements before the subscript resolve to such a list. -/
theorem compile_subscript_untypedList {s t : Shape} (hq : ctx.CompileReach q s t)
    (ht : t.unwrap = .untypedList) :
    (ctx.compile s path).val = .error ⟨.undeclared .untypedList, path, some q.length⟩ :=
  compile_reach_error hp hsegs (List.cons_ne_nil _ _) hq
    (ctx.compileFrom_resolve_error
      (legStep_subscript_untypedList hstrict ht ⟨raw, rfl⟩ rest.isEmpty))

end Walk

/-- **A write whose last element targets a list declaring no element shape is refused**
under strict generics, when no option layer around the list has a converter of its own, and
leaves the value where the walk stands as it found it. -/
theorem set_last_untypedList (hconv : ctx.registry.hasConverter .untypedList = false)
    {root d : Value} {path : String} {p : Path} {q : List Segment} {e : Segment} {step : Step}
    {t : Shape} {plug : Value → Value} (hp : Path.parse path = .ok p)
    (hsegs : p.steps.map (·.segment) = q ++ [e]) (hq : ctx.Reach (q.map .element) root d plug)
    (hstep : (ctx.resolve e d.shape true).run.val = .ok step) (ht : step.target = .typed t)
    (hlayers : ctx.registry.LayersUnconverted t) (hu : t.unwrap = .untypedList) (r : Raw) :
    (ctx.set root path r).val = (plug d, .error ⟨.undeclared .untypedList, path, some q.length⟩) :=
  set_reach_error hp hsegs (List.cons_ne_nil _ _) hq fun _ => by
    have hleg : (ctx.legStep (.element e) d.shape true).run.val = .ok step := hstep
    refine ctx.writeFrom_coerce_error hleg ?_
    rw [ht]
    exact coerceTo_untypedList_strict hstrict hconv hlayers hu r

end Strict

/-! ## Without strict generics -/

/-- A list of writes fails as the first write that fails. -/
theorem applyFrom_fails {ctx : Context} {P : Fault → Prop} (hmalformed : ∀ e, P (.malformed e))
    (hP : ctx.CoversWrites P) :
    ∀ {props : List (String × Raw)} {done : Nat} {root root' : Value} {e : ApplyError},
      (ctx.applyFrom done root props).val = (root', .error e) → P e.source.fault := by
  intro props
  induction props with
  | nil =>
    intro done root root' e h
    cases h
  | cons prop rest ih =>
    intro done root root' e h
    obtain ⟨key, r⟩ := prop
    rw [val_applyFrom_cons] at h
    generalize hs : (ctx.set root key r).val = out at h
    obtain ⟨root₁, res⟩ := out
    cases res with
    | error e' =>
      cases h
      exact set_fails hmalformed hP hs
    | ok u => exact ih h

section Lenient

variable {ctx : Context} (hoff : ctx.options.strictGenerics = false)
include hoff

/-- Without strict generics a list that declares no element shape takes text. -/
theorem elementTargets_notUndeclared (s : Shape) :
    FailsOnly Fault.NotUndeclared (ctx.elementTargets s) :=
  ctx.failsOnly_elementTargets (fun hstrict => absurd (hoff.symm.trans hstrict) (by decide)) s

theorem coerce_notUndeclared (target : Target) (r : Raw) :
    FailsOnly Fault.NotUndeclared (ctx.coerce target r) :=
  ctx.failsOnly_coerce (ctx.failsOnly_coerceTo
    (ctx.failsOnly_convertOne fun _ _ h => by cases h)
    (ctx.failsOnly_instantiate fun _ _ _ h => by cases h)
    (elementTargets_notUndeclared hoff) (fun _ _ _ _ h => by cases h)
    (fun _ _ _ _ h => by cases h)) target r

theorem resolve_notUndeclared (e : Segment) (s : Shape) (isLast : Bool) :
    FailsOnly Fault.NotUndeclared (ctx.resolve e s isLast) :=
  ctx.failsOnly_resolve (coerce_notUndeclared hoff) (elementTargets_notUndeclared hoff)
    (fun _ _ _ h => by cases h) (fun _ _ _ h => by cases h) (fun _ _ _ h => by cases h)
    (fun _ _ _ h => by cases h) e s isLast

/-- Without strict generics the faults of every step of a write are other than the refusal
of an undeclared element shape. -/
theorem coversWrites_notUndeclared : ctx.CoversWrites Fault.NotUndeclared where
  resolve := resolve_notUndeclared hoff
  coerce := coerce_notUndeclared hoff
  create := ctx.failsOnly_createMissing fun _ _ _ h => by cases h
  noProperty _ _ _ h := by cases h
  readOnly _ _ _ h := by cases h
  writeOnly _ _ _ h := by cases h
  unsupported _ _ _ _ h := by cases h
  misfit _ _ _ h := by cases h

end Lenient

/-! ## Everything together -/

/-- **Strict generics keep text out of lists that declare no element shape.**  Under strict
generics: a write, a read or a compilation whose walk meets such a list at a subscript fails
there with the refusal of the undeclared element shape, the write leaving the list as it
found it; a write whose last element targets such a list fails the same way when no option
layer around the list has a converter of its own; and, when the registry's conversions
hold no raw text, neither `set` nor `apply` leaves text held unconverted in such a list that
was not held before.  Without strict generics no access
fails with that refusal. -/
theorem strict_generics_keep_text_out {ctx : Context} :
    (ctx.options.strictGenerics = true →
      (∀ {root d : Value} {path : String} {p : Path} {q rest : List Segment} {raw : String},
        Path.parse path = .ok p → p.steps.map (·.segment) = q ++ .subscript raw :: rest →
        (∀ (r : Raw) (plug : Value → Value), ctx.Reach (q.map .element) root d plug →
          d.shape.unwrap = .untypedList →
          (ctx.set root path r).val =
            (plug d, .error ⟨.undeclared .untypedList, path, some q.length⟩)) ∧
        (ctx.ReadReach (q.map .element) root d → d.shape.unwrap = .untypedList →
          (ctx.get root path).val = .error ⟨.undeclared .untypedList, path, some q.length⟩) ∧
        ∀ s t : Shape, ctx.CompileReach q s t → t.unwrap = .untypedList →
          (ctx.compile s path).val = .error ⟨.undeclared .untypedList, path, some q.length⟩) ∧
      (∀ {root d : Value} {path : String} {p : Path} {q : List Segment} {e : Segment} {step : Step}
          {t : Shape} (r : Raw) (plug : Value → Value),
        Path.parse path = .ok p → p.steps.map (·.segment) = q ++ [e] →
        ctx.Reach (q.map .element) root d plug → (ctx.resolve e d.shape true).run.val = .ok step →
        step.target = .typed t → t.unwrap = .untypedList → ctx.registry.LayersUnconverted t →
        ctx.registry.hasConverter .untypedList = false →
        (ctx.set root path r).val =
          (plug d, .error ⟨.undeclared .untypedList, path, some q.length⟩)) ∧
      (ctx.registry.KeepsTextOut →
        (∀ (root : Value) (path : String) (r : Raw) (s : String),
          (ctx.set root path r).val.1.HoldsRaw s → root.HoldsRaw s) ∧
        ∀ (root : Value) (props : List (String × Raw)) (s : String),
          (ctx.apply root props).val.1.HoldsRaw s → root.HoldsRaw s)) ∧
    (ctx.options.strictGenerics = false →
      (∀ (root : Value) (path : String) (e : AccessError),
        (ctx.get root path).val = .error e → e.fault.NotUndeclared) ∧
      (∀ (root root' : Value) (path : String) (r : Raw) (e : AccessError),
        (ctx.set root path r).val = (root', .error e) → e.fault.NotUndeclared) ∧
      (∀ (root root' : Value) (props : List (String × Raw)) (e : ApplyError),
        (ctx.apply root props).val = (root', .error e) → e.source.fault.NotUndeclared) ∧
      (∀ (s : Shape) (path : String) (e : AccessError),
        (ctx.compile s path).val = .error e → e.fault.NotUndeclared) ∧
      (∀ (desc : Descriptor) (v : Value) (e : AccessError),
        (ctx.readCompiled desc v).val = .error e → e.fault.NotUndeclared) ∧
      (∀ (desc : Descriptor) (v v' : Value) (r : Raw) (e : AccessError),
        (ctx.writeCompiled desc v r).val = (v', .error e) → e.fault.NotUndeclared) ∧
      ∀ (target : Target) (r : Raw) (f : Fault),
        (ctx.coerce target r).run.val = .error f → f.NotUndeclared) := by
  refine ⟨fun hstrict => ⟨?_, ?_, ?_⟩, fun hoff => ⟨?_, ?_, ?_, ?_, ?_, ?_, ?_⟩⟩
  · intro root d path p q rest raw hp hsegs
    exact ⟨fun r _ hq hd => set_subscript_untypedList hstrict hp hsegs r hq hd,
      get_subscript_untypedList hstrict hp hsegs,
      fun _ _ hq ht => compile_subscript_untypedList hstrict hp hsegs hq ht⟩
  · intro root d path p q e step t r plug hp hsegs hq hstep ht hu hlayers hconv
    exact set_last_untypedList hstrict hconv hp hsegs hq hstep ht hlayers hu r
  · exact fun htext => ⟨fun root path r s => set_holdsRaw hstrict htext,
      fun root props s => applyFrom_holdsRaw hstrict htext⟩
  · exact fun root path e => get_fails (fun _ _ h => by cases h) (resolve_notUndeclared hoff)
  · exact fun root root' path r e =>
      set_fails (fun _ _ h => by cases h) (coversWrites_notUndeclared hoff)
  · exact fun root root' props e =>
      applyFrom_fails (fun _ _ h => by cases h) (coversWrites_notUndeclared hoff)
  · exact fun s path e => compile_fails (fun _ _ h => by cases h) (resolve_notUndeclared hoff)
      (fun _ _ _ _ h => by cases h)
  · intro desc v e h
    rw [readCompiled_fails h]
    intro _ h
    cases h
  · exact fun desc v v' r e =>
      writeCompiled_fails (coversWrites_notUndeclared hoff) (fun _ _ _ h => by cases h)
  · exact fun target r f => (coerce_notUndeclared hoff target r).val

end Context

end

namespace Context

/-- Under strict generics, text written into `raw[0]` of a fresh `Root` is not kept there. -/
theorem strict_generics_keep_text_out_root :
    ¬(({ registry := .empty, options := { strictGenerics := true } } : Context).set
      (Record.zero Sample.root) "raw[0]" (.one "x")).val.1.HoldsRaw "x" :=
  fun h => Record.zero_noRaw Sample.root
    (((strict_generics_keep_text_out.1 rfl).2.2 fun _ _ _ h => by cases h).1 _ _ _ _ h)

/-- **A path compiled without strict generics writes text into a list that declares no
element shape under them.**  The refusal is made while resolving: `raw[0]` compiled for a
`Root` without strict generics keeps a step into `raw` whose elements take text, and writing
it into a fresh `Root` under strict generics stores `x` there unconverted. -/
theorem lenient_path_stores_text :
    let lenient : Context := { registry := .empty }
    let strict : Context := { registry := .empty, options := { strictGenerics := true } }
    ∃ desc, (lenient.compile (.record Sample.root) "raw[0]").val = .ok desc ∧
      (strict.writeCompiled desc (Record.zero Sample.root) (.one "x")).val.2 = .ok () ∧
      (strict.writeCompiled desc (Record.zero Sample.root) (.one "x")).val.1.HoldsRaw "x" ∧
      ¬(Record.zero Sample.root).HoldsRaw "x" := by
  intro lenient strict
  have hsegments : Path.segments ['[', '0', ']'] 3 = .ok [⟨.subscript "0", 3⟩] := by
    rw [show ['[', '0', ']'] = '[' :: (['0'] ++ ']' :: []) from rfl,
      Path.segments_subscript (by decide), Path.segments]
    rfl
  have hparse : Path.parse "raw[0]" =
      .ok ⟨"raw[0]", [⟨.property "raw", 0⟩, ⟨.subscript "0", 3⟩]⟩ := by
    simp [Path.parse, Path.isDelimiter, Char.utf8Size, hsegments]
  have hcompile : (lenient.compile (.record Sample.root) "raw[0]").val =
    .ok ⟨.record Sample.root, "raw[0]",
      [⟨.record, .field "raw" .readWrite, .record Sample.root, .typed .untypedList⟩,
        ⟨.list, .index 0, .untypedList, .untyped⟩]⟩ := by
    rw [val_compile, hparse]
    rfl
  have hwrite : (strict.writeCompiled ⟨.record Sample.root, "raw[0]",
      [⟨.record, .field "raw" .readWrite, .record Sample.root, .typed .untypedList⟩,
        ⟨.list, .index 0, .untypedList, .untyped⟩]⟩ (Record.zero Sample.root) (.one "x")).val =
      ((Record.zero Sample.root).setChild (.field "raw" .readWrite) (.untypedList [.string "x"]),
        .ok ()) := by
    rw [val_writeCompiled]
    rfl
  refine ⟨_, hcompile, by rw [hwrite], ?_, Record.zero_noRaw Sample.root⟩
  rw [hwrite]
  exact Value.holdsRaw_of_child? (k := .field "raw" .readWrite) (x := .untypedList [.string "x"])
    rfl (.item (List.mem_singleton_self _))

end Context

end ValuePaths
