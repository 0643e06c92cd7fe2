import ValuePaths.Proofs.Slot

/-!
# Well-typed values

A value is well typed when each of its parts has the shape its container declares.  The
values of the host program are well typed by construction; here it is a predicate, and
the accesses keep it where a walk needs it: what a read meets under a well-typed
container, and what a write enters or creates there, is well typed and has the shape the
step targets.

## Main results

* `Shape.wellTyped_zero` — every default is well typed and has its shape.
* `Value.WellTyped.present`, `Value.WellTyped.child` — what a read meets is well typed.
* `Context.wellTyped_fill`, `Context.wellTyped_descend` — so is what a write enters.
-/

namespace ValuePaths

variable [Catalogue]

open Logged

namespace Value

/-- A value each of whose parts has the shape its container declares: the fields of a
record the shapes of the record's fields, the items of a list, array or set and the
content of a set option their element shape, the keys and values of a map its key and
value shapes. -/
inductive WellTyped : Value → Prop
  | bool (b : Bool) : WellTyped (.bool b)
  | char (c : Char) : WellTyped (.char c)
  | int (t : IntType) (n : Int) : WellTyped (.int t n)
  | f32 (bits : UInt32) : WellTyped (.f32 bits)
  | f64 (bits : UInt64) : WellTyped (.f64 bits)
  | string (s : String) : WellTyped (.string s)
  | record {r : Record} {fields : List Value}
      (shapes : fields.map shape = r.fields.map (·.shape)) (typed : ∀ x ∈ fields, WellTyped x) :
      WellTyped (.record r fields)
  | list {l : ListLayout} {t : Shape} {items : List Value} (shapes : ∀ x ∈ items, x.shape = t)
      (typed : ∀ x ∈ items, WellTyped x) : WellTyped (.list l t items)
  | untypedList {items : List Value} (typed : ∀ x ∈ items, WellTyped x) :
      WellTyped (.untypedList items)
  | array {t : Shape} {items : List Value} (shapes : ∀ x ∈ items, x.shape = t)
      (typed : ∀ x ∈ items, WellTyped x) : WellTyped (.array t items)
  | none (t : Shape) : WellTyped (.option t none)
  | some {t : Shape} {x : Value} (shape : x.shape = t) (typed : WellTyped x) :
      WellTyped (.option t (some x))
  | map {p : Placement} {k v : Shape} {es : List (Value × Value)}
      (shapes : ∀ e ∈ es, e.1.shape = k ∧ e.2.shape = v) (typedKeys : ∀ e ∈ es, WellTyped e.1)
      (typedValues : ∀ e ∈ es, WellTyped e.2) : WellTyped (.map p k v es)
  | set {p : Placement} {t : Shape} {ms : List Value} (shapes : ∀ x ∈ ms, x.shape = t)
      (typed : ∀ x ∈ ms, WellTyped x) : WellTyped (.set p t ms)
  | properties (es : List (String × String)) : WellTyped (.properties es)

/-- A list of integers of one type is well typed. -/
theorem WellTyped.intList (l : ListLayout) (t : IntType) (ns : List Int) :
    WellTyped (.list l (.scalar (.int t)) (ns.map (.int t))) :=
  .list (by simp [shape]) (by simpa using fun n _ => .int t n)

/-- The value under the set layers of a well-typed value is well typed, of the same shape
up to layers. -/
theorem WellTyped.inner {v : Value} (hv : v.WellTyped) :
    v.inner.WellTyped ∧ v.inner.shape.unwrap = v.shape.unwrap := by
  have hv' := hv
  induction hv with
  | @some t x hx _ ih =>
    cases hv' with
    | some _ typed =>
      rw [← hx]
      exact ih typed
  | _ => exact ⟨hv', rfl⟩

/-- What a well-typed value holds under all its layers is well typed, of its shape without
layers. -/
theorem WellTyped.present {v w : Value} (hv : v.WellTyped) (h : v.present = .some w) :
    w.WellTyped ∧ w.shape = v.shape.unwrap := by
  have hv' := hv
  induction hv with
  | none t => cases h
  | @some t x hx _ ih =>
    cases hv' with
    | some _ typed =>
      rw [← hx]
      exact ih h typed
  | _ =>
    cases h
    exact ⟨hv', rfl⟩

end Value

namespace Record

/-- The field a record finds by name sits at the position it finds by name. -/
theorem getElem?_fieldIndex {r : Record} {f : Field} {i : Nat} (hf : r.field? f.name = some f)
    (hi : Value.fieldIndex r f.name = some i) : r.fields[i]? = some f := by
  unfold field? at hf
  unfold Value.fieldIndex at hi
  rw [List.find?_eq_bind_findIdx?_getElem?, hi] at hf
  exact hf

/-- A field found by name has a place in the record. -/
theorem fieldIndex_of_field? {r : Record} {f : Field} (hf : r.field? f.name = some f) :
    ∃ i, Value.fieldIndex r f.name = some i ∧ r.fields[i]? = some f := by
  cases hi : Value.fieldIndex r f.name with
  | none =>
    unfold field? at hf
    unfold Value.fieldIndex at hi
    rw [List.find?_eq_bind_findIdx?_getElem?, hi] at hf
    cases hf
  | some i => exact ⟨i, rfl, getElem?_fieldIndex hf hi⟩

end Record

namespace Value

/-- An element of a well-typed container, at a key bound to the container, is well typed
and has the shape the step targets. -/
theorem WellTyped.child {ctx : Context} {c x : Value} {step : Step} (hc : c.WellTyped)
    (hb : ctx.Bound step) (hs : c.shape.unwrap = step.container) (h : c.child? step.key = .some x) :
    x.WellTyped ∧ ∀ t, step.target = .typed t → x.shape = t := by
  rw [shape_unwrap_of_child? h] at hs
  cases hb with
  | field hf =>
    cases c <;> cases hs
    rename_i fields
    cases hc with
    | record shapes typed =>
      obtain ⟨i, hi, hx⟩ := Option.bind_eq_some_iff.mp h
      refine ⟨typed x (List.mem_of_getElem? hx), fun t ht => ?_⟩
      cases ht
      have h1 : (fields.map shape)[i]? = .some x.shape := by simp [hx]
      rw [shapes, List.getElem?_map, Record.getElem?_fieldIndex hf hi] at h1
      exact (Option.some.inj h1).symm
  | length hc => cases c <;> simp [child?] at h
  | list l t i =>
    cases c <;> cases hs
    cases hc with
    | list shapes typed =>
      have hx := List.mem_of_getElem? h
      exact ⟨typed x hx, fun t ht => by cases ht; exact shapes x hx⟩
  | untypedList i =>
    cases c <;> cases hs
    cases hc with
    | untypedList typed => exact ⟨typed x (List.mem_of_getElem? h), fun t ht => by cases ht⟩
  | array t n i =>
    cases c <;> cases hs
    cases hc with
    | array shapes typed =>
      have hx := List.mem_of_getElem? h
      exact ⟨typed x hx, fun t ht => by cases ht; exact shapes x hx⟩
  | map l k v raw key hkey =>
    cases c <;> cases hs
    cases hc with
    | map shapes _ typedValues =>
      obtain ⟨e, he, -, rfl⟩ := Entries.find?_mem h
      exact ⟨typedValues e he, fun t ht => by cases ht; exact (shapes e he).2⟩
  | member l t raw key hkey =>
    cases c <;> cases hs
    cases hc with
    | set shapes typed =>
      have hx := List.mem_of_find?_eq_some h
      exact ⟨typed x hx, fun t ht => by cases ht; exact shapes x hx⟩
  | text l t raw =>
    cases c <;> cases hs
    simp [child?] at h
  | properties raw =>
    cases c <;> cases hs
    obtain ⟨s, -, rfl⟩ := Option.map_eq_some_iff.mp h
    exact ⟨.string s, fun t ht => by cases ht⟩

end Value

/-! ## Defaults

A record's default is built by recursion over its fields, as deep as the records held
outside containers nest.  It is the record of the defaults of its fields (`Record.zero_eq`),
and what holds of a record when it holds of the records its fields hold directly holds of
every record (`Record.induction_direct`). -/

namespace Shape

omit [Catalogue] in
/-- A default depends on the record defaults it is given only at the records it holds
directly. -/
theorem zeroWith_congr {z z' : Record → Value} (s : Shape)
    (h : ∀ r ∈ s.directRecords, z r = z' r) : s.zeroWith z = s.zeroWith z' := by
  induction s with
  | scalar k => cases k <;> rfl
  | record r => exact h r (List.mem_singleton_self r)
  | array t n ih => simp only [zeroWith, ih h]
  | _ => rfl

/-- A default is well typed and of its shape when the defaults of the records it holds
directly are. -/
theorem wellTyped_zeroWith {z : Record → Value} (s : Shape)
    (hz : ∀ r ∈ s.directRecords, (z r).WellTyped ∧ (z r).shape = .record r) :
    (s.zeroWith z).WellTyped ∧ (s.zeroWith z).shape = s := by
  induction s with
  | scalar k => cases k <;> exact ⟨by constructor, rfl⟩
  | record r => exact hz r (List.mem_singleton_self r)
  | list l t => exact ⟨.list (by simp) (by simp), rfl⟩
  | untypedList => exact ⟨.untypedList (by simp), rfl⟩
  | array t n ih =>
    obtain ⟨ht, hs⟩ := ih hz
    -- every element is the zero of the element shape
    exact ⟨.array (List.forall_mem_replicate.mpr (.inr hs))
      (List.forall_mem_replicate.mpr (.inr ht)), by simp [zeroWith, Value.shape]⟩
  | option t => exact ⟨.none t, rfl⟩
  | map l k v => exact ⟨.map (by simp) (by simp) (by simp), by simp [zeroWith, Value.shape]⟩
  | set l t => exact ⟨.set (by simp) (by simp), by simp [zeroWith, Value.shape]⟩
  | properties => exact ⟨.properties [], rfl⟩

end Shape

namespace Record

/-- A record built from the defaults of its fields is well typed when the defaults of the
records its fields hold directly are. -/
theorem wellTyped_fieldDefaults (r : Record) {z : Record → Value}
    (hz : ∀ f ∈ r.fields, ∀ r' ∈ f.shape.directRecords,
      (z r').WellTyped ∧ (z r').shape = .record r') :
    (Value.record r (r.fields.map fun f => f.shape.zeroWith z)).WellTyped := by
  refine .record ?_ ?_
  · rw [List.map_map]
    apply List.map_congr_left
    intro f hf
    exact (Shape.wellTyped_zeroWith f.shape (hz f hf)).2
  · intro x hx
    obtain ⟨f, hf, rfl⟩ := List.mem_map.mp hx
    exact (Shape.wellTyped_zeroWith f.shape (hz f hf)).1

/-- Records built deeper than a record's records nest are all its default. -/
theorem zeroUpTo_congr : ∀ {n m : Nat} {r : Record}, Catalogue.depth r < n →
    Catalogue.depth r < m → zeroUpTo n r = zeroUpTo m r
  | 0, _, _, hn, _ => absurd hn (Nat.not_lt_zero _)
  | _, 0, _, _, hm => absurd hm (Nat.not_lt_zero _)
  | n + 1, m + 1, r, hn, hm => by
    simp only [zeroUpTo, Value.record.injEq, true_and]
    apply List.map_congr_left
    intro f hf
    apply Shape.zeroWith_congr
    -- a record held directly nests less deeply, so both depths still exceed its own
    intro r' hr'
    have hlt := Catalogue.depth_lt r f hf r' hr'
    exact zeroUpTo_congr (by omega) (by omega)

/-- **The default of a record is the record of the defaults of its fields.** -/
theorem zero_eq (r : Record) : r.zero = .record r (r.fields.map (·.shape.zero)) := by
  rw [zero, zeroUpTo]
  congr 1
  apply List.map_congr_left
  intro f hf
  apply Shape.zeroWith_congr
  intro r' hr'
  exact zeroUpTo_congr (Catalogue.depth_lt r f hf r' hr') (Nat.lt_succ_self _)

/-- What holds of a record when it holds of the records its fields hold directly holds of
every record: those nest less deeply. -/
theorem induction_direct {P : Record → Prop}
    (step : ∀ r, (∀ f ∈ r.fields, ∀ r' ∈ f.shape.directRecords, P r') → P r) (r : Record) :
    P r :=
  step r fun f hf r' hr' =>
    have := Catalogue.depth_lt r f hf r' hr'
    induction_direct step r'
termination_by Catalogue.depth r

theorem wellTyped_zero (r : Record) : r.zero.WellTyped ∧ r.zero.shape = .record r := by
  induction r using induction_direct with
  | step r ih => exact ⟨zero_eq r ▸ r.wellTyped_fieldDefaults ih, by rw [zero_eq]; rfl⟩

end Record

/-- Every default is well typed and has its shape. -/
theorem Shape.wellTyped_zero (s : Shape) : s.zero.WellTyped ∧ s.zero.shape = s :=
  s.wellTyped_zeroWith fun r _ => r.wellTyped_zero

namespace Context

variable (ctx : Context)

/-- What a write creates for a typed element is the default of its shape. -/
theorem createMissing_typed {s : Shape} {m : Value}
    (h : (ctx.createMissing (.typed s)).run.val = .ok m) : m = s.zero := by
  unfold createMissing instantiate Registry.createDefault at h
  split at h
  · cases h
  · dsimp only at h
    split at h
    · cases h
    · split at h
      · rename_i v hv
        cases h
        split at hv
        · cases hv
          rfl
        · cases hv
      · cases h

/-- Filling the layers of a well-typed value keeps it well typed and of its shape. -/
theorem wellTyped_fillAt (s : Shape) : ∀ {v : Value}, v.WellTyped → v.shape = s →
    (ctx.fillAt s v).val.1.WellTyped ∧ (ctx.fillAt s v).val.1.shape = s := by
  induction s with
  | option t ih =>
    intro v hv hs
    cases v <;> cases hs
    rename_i o
    cases o with
    | none =>
      rw [val_fillAt_option_none]
      cases hm : (ctx.createMissing (.typed t)).run.val with
      | error f => exact ⟨.none t, rfl⟩
      | ok inner =>
        have hinner := ctx.createMissing_typed hm ▸ Shape.wellTyped_zero t
        have hfill := ih hinner.1 hinner.2
        exact ⟨.some hfill.2 hfill.1, rfl⟩
    | some x =>
      cases hv with
      | some hx typed =>
        rw [val_fillAt_option_some]
        have hfill := ih typed hx
        exact ⟨.some hfill.2 hfill.1, rfl⟩
  | _ =>
    intro v hv hs
    exact ⟨hv, hs⟩

theorem wellTyped_fill {v : Value} (hv : v.WellTyped) :
    (ctx.fill v).val.1.WellTyped ∧ (ctx.fill v).val.1.shape = v.shape :=
  ctx.wellTyped_fillAt v.shape hv rfl

/-- What a write creates is well typed: the default of a typed element's shape, or text. -/
theorem wellTyped_createMissing {target : Target} {m : Value}
    (h : (ctx.createMissing target).run.val = .ok m) :
    m.WellTyped ∧ ∀ t, target = .typed t → m.shape = t := by
  cases target with
  | typed s =>
    rw [ctx.createMissing_typed h]
    exact ⟨(Shape.wellTyped_zero s).1,
      fun t ht => by cases ht; exact (Shape.wellTyped_zero s).2⟩
  | untyped =>
    unfold createMissing at h
    split at h
    · cases h
    · cases h
      exact ⟨.string "", fun t ht => by cases ht⟩

/-- The element a write enters in a well-typed container, at a key bound to it, is well
typed and has the shape the step targets. -/
theorem wellTyped_descend {step : Step} {c c' child : Value} (hc : c.WellTyped)
    (hb : ctx.Bound step) (hs : c.shape.unwrap = step.container)
    (h : (ctx.descend step c).val = (c', .ok ())) (hchild : c'.child? step.key = some child) :
    child.WellTyped ∧ ∀ t, step.target = .typed t → child.shape = t := by
  obtain ⟨old, hold, hfill⟩ := ctx.descend_child h hchild
  have hold' : old.WellTyped ∧ ∀ t, step.target = .typed t → old.shape = t := by
    rcases hold with hold | hold
    · exact hc.child hb hs hold
    · exact ctx.wellTyped_createMissing hold
  have hfilled := ctx.wellTyped_fill hold'.1
  rw [hfill] at hfilled
  exact ⟨hfilled.1, fun t ht => hfilled.2.trans (hold'.2 t ht)⟩

end Context

end ValuePaths
