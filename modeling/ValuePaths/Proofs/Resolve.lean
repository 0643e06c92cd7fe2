import ValuePaths.Proofs.Walk

/-!
# What resolution binds

Resolving a path element against a container shape either fails or returns a step whose
container is that shape without its option layers, and whose key and target are the
ones the shape declares for that element.  `Context.Bound` lists these steps, one
constructor per kind of container; the walks only ever apply such steps, and the proofs
about them start from `resolve_bound`.
-/

namespace ValuePaths

open Logged

namespace Shape

@[simp] theorem unwrap_unwrap (s : Shape) : s.unwrap.unwrap = s.unwrap := by
  induction s <;> simp_all [unwrap]

end Shape

variable [Catalogue]

namespace Context

variable (ctx : Context)

/-- The steps that resolution binds: which kind, key and target go with which container
shape.  A field carries its declared shape and access, an element its declared type, a
map or set key its converted value; list elements of no declared type and text-table
entries are untyped. -/
inductive Bound : Step → Prop
  | field {r : Record} {f : Field} (hf : r.field? f.name = some f) :
      Bound ⟨.record, .field f.name f.access, .record r, .typed f.shape⟩
  | length {c : Shape} (hc : c.kind.isContainer) : Bound ⟨.length, .length, c, .typed .usize⟩
  | list (l : ListLayout) (t : Shape) (i : Nat) : Bound ⟨.list, .index i, .list l t, .typed t⟩
  | untypedList (i : Nat) : Bound ⟨.list, .index i, .untypedList, .untyped⟩
  | array (t : Shape) (n i : Nat) : Bound ⟨.array, .index i, .array t n, .typed t⟩
  | map (l : Layout) (k v : Shape) (raw : String) (key : Value)
      (hkey : (ctx.coerce (.typed k) (.one raw)).run.val = .ok key) :
      Bound ⟨.map, .member raw key, .map l k v, .typed v⟩
  | member (l : Layout) (t : Shape) (raw : String) (key : Value)
      (hkey : (ctx.coerce (.typed t) (.one raw)).run.val = .ok key) :
      Bound ⟨.set, .member raw key, .set l t, .typed t⟩
  | text (l : Layout) (t : Shape) (raw : String) : Bound ⟨.set, .text raw, .set l t, .typed t⟩
  | properties (raw : String) : Bound ⟨.properties, .text raw, .properties, .untyped⟩

theorem val_elementTargets (s : Shape) :
    (ctx.elementTargets s).run.val = match s with
      | .list _ t => .ok (some (.typed .usize, .typed t))
      | .untypedList =>
        if ctx.options.strictGenerics then .error (.undeclared .untypedList)
        else .ok (some (.typed .usize, .untyped))
      | .array t _ => .ok (some (.typed .usize, .typed t))
      | .set _ t => .ok (some (.typed t, .typed t))
      | .map _ k v => .ok (some (.typed k, .typed v))
      | .properties => .ok (some (.untyped, .untyped))
      | _ => .ok none := by
  cases s <;> try rfl
  unfold elementTargets undeclaredElement
  dsimp only
  cases ctx.options.strictGenerics <;> rfl

/-- Resolution looks through the option layers of its container. -/
theorem resolve_unwrap (e : Segment) (s : Shape) (isLast : Bool) :
    ctx.resolve e s.unwrap isLast = ctx.resolve e s isLast := by
  unfold resolve
  rw [Shape.unwrap_unwrap]

/-- Every step that resolution returns is bound to the container without its option
layers. -/
theorem resolve_bound {e : Segment} {s : Shape} {isLast : Bool} {step : Step}
    (h : (ctx.resolve e s isLast).run.val = .ok step) :
    step.container = s.unwrap ∧ ctx.Bound step := by
  unfold resolve at h
  cases e with
  | property name =>
    dsimp only at h
    split at h
    · split at h
      · rename_i _ r hs _ f hf
        cases h
        have hname : f.name = name := by simpa using List.find?_some hf
        rw [hs]
        exact ⟨rfl, .field (hname ▸ hf)⟩
      · cases h
    · split at h
      · rename_i hcount
        split at h
        · cases h
          simp only [Bool.and_eq_true] at hcount
          exact ⟨rfl, .length hcount.2⟩
        · cases h
      · cases h
  | subscript raw =>
    simp only [val, ExceptT.run_bind, run_bind_eq] at h
    rw [Oblivious.fst_run (ctx.oblivious_elementTargets _)] at h
    rw [val_elementTargets] at h
    generalize s.unwrap = c at h ⊢
    cases c with
    | list l t =>
      simp only [ExceptT.run_bind, run_bind_eq] at h
      cases hr : IntType.usize.read raw with
      | ok i => simp only [hr] at h; cases h; exact ⟨rfl, .list l t _⟩
      | error f => simp only [hr] at h; cases h
    | untypedList =>
      cases hstrict : ctx.options.strictGenerics
      · simp only [hstrict] at h
        cases hr : IntType.usize.read raw with
        | ok i => simp only [hr] at h; cases h; exact ⟨rfl, .untypedList _⟩
        | error f => simp only [hr] at h; cases h
      · simp only [hstrict] at h
        cases h
    | array t n =>
      simp only [ExceptT.run_bind, run_bind_eq] at h
      cases hr : IntType.usize.read raw with
      | ok i => simp only [hr] at h; cases h; exact ⟨rfl, .array t n _⟩
      | error f => simp only [hr] at h; cases h
    | map l k v =>
      simp only [ExceptT.run_bind, run_bind_eq] at h
      rw [Oblivious.fst_run (ctx.oblivious_coerce _ _)] at h
      cases hkey : (ctx.coerce (.typed k) (.one raw)).run.val with
      | ok key => rw [hkey] at h; cases h; exact ⟨rfl, .map l k v raw key hkey⟩
      | error f => rw [hkey] at h; cases h
    | set l t =>
      simp only [ExceptT.run_bind, run_bind_eq, ExceptT.run_tryCatch, ExceptT.run_map,
        run_map_eq] at h
      rw [Oblivious.fst_run (ctx.oblivious_coerce _ _)] at h
      cases hkey : (ctx.coerce (.typed t) (.one raw)).run.val with
      | ok key => rw [hkey] at h; cases h; exact ⟨rfl, .member l t raw key hkey⟩
      | error f => rw [hkey] at h; cases h; exact ⟨rfl, .text l t raw⟩
    | properties =>
      cases h
      exact ⟨rfl, .properties raw⟩
    | scalar | record | option =>
      simp only at h
      cases h

/-- A leg of a path element steps from the container it starts at, at a key bound to it. -/
theorem legStep_bound {e : Segment} {rest : List Segment} {s : Shape} {step : Step}
    (hstep : (ctx.legStep (.element e) s (rest.map Leg.element).isEmpty).run.val = .ok step) :
    step.container = s.unwrap ∧ ctx.Bound step :=
  ctx.resolve_bound (ctx.resolve_of_legStep hstep)

end Context

end ValuePaths
