import Mathlib
import ValuePaths.Proofs.Lookup

/-!
# Values alike, and tidy values

Two writes at different places of a value may leave maps, sets and text tables that hold the
same entries in another order: a fixed-seed table places its entries by the buckets free
when each arrives, and two sorted insertions of keys that tie keep whichever came first.
`Value.Alike` compares values as collections: a map by what a lookup finds under each key, a
set by which members it holds, a text table by the text under each key, at the value itself
or at any element along the way; everything else must be equal.

Lookups in a fixed-seed table depend only on its entries when the table has a slot for each
entry and each key occurs once.  Every table a program builds is so; `Value.Tidy` asks it of
every map and set that a path can reach in a value.  Defaults are tidy, and so are the
elements a write enters and fills.

## Main definitions

* `Value.Alike` — equal as collections, at any depth.
* `Value.Tidy` — every table a path reaches has a slot for each entry, each key once.

## Main statements

* `Value.Tidy.child` — the elements of a tidy value are tidy.
* `Context.tidy_descend` — so is the element a write enters.
-/

namespace ValuePaths

variable [Catalogue]

open Logged

namespace Value

/-- Two values equal as collections: maps with the same value under each key, sets with the
same members and text tables with the same text under each key, whatever their placement and
order, at the value itself or at any element along the way. -/
inductive Alike : Value → Value → Prop
  | refl (v : Value) : Alike v v
  | symm {v w : Value} (h : Alike v w) : Alike w v
  | trans {u v w : Value} (h₁ : Alike u v) (h₂ : Alike v w) : Alike u w
  | entries {p p' : Placement} {kt vt : Shape} {es es' : List (Value × Value)}
      (hp : p.layout = p'.layout) (h : ∀ k, Entries.find? k es = Entries.find? k es') :
      Alike (.map p kt vt es) (.map p' kt vt es')
  | members {p p' : Placement} {t : Shape} {ms ms' : List Value} (hp : p.layout = p'.layout)
      (h : ∀ m, (Members.find? m ms).isSome = (Members.find? m ms').isSome) :
      Alike (.set p t ms) (.set p' t ms')
  | texts {es es' : List (String × String)} (h : ∀ k, Table.find? k es = Table.find? k es') :
      Alike (.properties es) (.properties es')
  | within {c y y' : Value} {k : Key} (h : Alike y y') : Alike (c.setChild k y) (c.setChild k y')
  | layer {t : Shape} {y y' : Value} (h : Alike y y') :
      Alike (.option t (some y)) (.option t (some y'))

/-- Values alike under the set layers of one value are alike there. -/
theorem Alike.withInner (x : Value) {y y' : Value} (h : Alike y y') :
    Alike (x.withInner y) (x.withInner y') := by
  fun_induction Value.withInner x y with
  | case1 t v w ih => exact .layer (ih h)
  | case2 v w hv =>
    rw [withInner_of_ne_some hv]
    exact h

/-- A map or a set whose placement keeps its entries as lookups need; every other value. -/
def Kept : Value → Prop
  | map p _ _ es => Entries.Kept p es
  | set p _ ms => Members.Kept p ms
  | _ => True

/-- A value whose maps and sets keep their entries as lookups need: the value itself, and
every element a path reaches in it, under its set `Option` layers. -/
inductive Tidy : Value → Prop
  | intro {v : Value} (here : v.Kept) (below : ∀ k x, v.child? k = some x → Tidy x.inner) :
      Tidy v

theorem Tidy.kept {v : Value} (h : v.Tidy) : v.Kept := by
  cases h with
  | intro here _ => exact here

theorem Tidy.child {v x : Value} {k : Key} (h : v.Tidy) (hx : v.child? k = some x) :
    x.inner.Tidy := by
  cases h with
  | intro _ below => exact below k x hx

/-- A value with no elements is tidy when it keeps its own entries. -/
theorem tidy_of_childless {v : Value} (here : v.Kept) (h : ∀ k, v.child? k = none) : v.Tidy :=
  .intro here fun k x hx => by rw [h k] at hx; cases hx

theorem mem_of_child?_record {r : Record} {fields : List Value} {k : Key} {x : Value}
    (h : (record r fields).child? k = some x) : x ∈ fields := by
  cases k <;> simp only [child?, reduceCtorEq] at h
  obtain ⟨i, -, hi⟩ := Option.bind_eq_some_iff.mp h
  exact List.mem_of_getElem? hi

theorem mem_of_child?_array {t : Shape} {items : List Value} {k : Key} {x : Value}
    (h : (array t items).child? k = some x) : x ∈ items := by
  cases k <;> simp only [child?, reduceCtorEq] at h
  exact List.mem_of_getElem? h

end Value

namespace Shape

/-- A default is tidy when the defaults of the records it holds directly are: its maps and
sets are empty. -/
theorem tidy_zeroWith {z : Record → Value} (s : Shape)
    (hz : ∀ r ∈ s.directRecords, (z r).inner.Tidy) : (s.zeroWith z).inner.Tidy := by
  induction s with
  | record r => exact hz r (List.mem_singleton_self r)
  | array t n ih =>
    show (Value.array t (List.replicate n (t.zeroWith z))).Tidy
    refine .intro trivial fun k x hx => ?_
    rw [List.eq_of_mem_replicate (Value.mem_of_child?_array hx)]
    exact ih hz
  | map l k v =>
    show (Value.map l.start k v []).Tidy
    refine Value.tidy_of_childless ?_ fun key => by cases key <;> rfl
    cases l
    · trivial
    · trivial
    · exact ⟨rfl, fun _ h => by cases h⟩
  | set l t =>
    show (Value.set l.start t []).Tidy
    refine Value.tidy_of_childless ?_ fun key => by cases key <;> rfl
    cases l <;> trivial
  | list l t => exact Value.tidy_of_childless trivial fun key => by cases key <;> rfl
  | untypedList => exact Value.tidy_of_childless trivial fun key => by cases key <;> rfl
  | properties => exact Value.tidy_of_childless trivial fun key => by cases key <;> rfl
  | option t => exact Value.tidy_of_childless trivial fun key => by cases key <;> rfl
  | scalar k =>
    refine Value.tidy_of_childless ?_ fun key => ?_
    · cases k <;> trivial
    · cases k <;> cases key <;> rfl

end Shape

namespace Record

theorem tidy_fieldDefaults (r : Record) {z : Record → Value}
    (hz : ∀ f ∈ r.fields, ∀ r' ∈ f.shape.directRecords, (z r').inner.Tidy) :
    (Value.record r (r.fields.map fun f => f.shape.zeroWith z)).inner.Tidy := by
  refine .intro trivial fun k x hx => ?_
  obtain ⟨f, hf, rfl⟩ := List.mem_map.mp (Value.mem_of_child?_record hx)
  exact f.shape.tidy_zeroWith (hz f hf)

theorem tidy_zero (r : Record) : r.zero.inner.Tidy := by
  induction r using induction_direct with
  | step r ih => exact zero_eq r ▸ r.tidy_fieldDefaults ih

end Record

/-- Every default is tidy. -/
theorem Shape.tidy_zero (s : Shape) : s.zero.inner.Tidy :=
  s.tidy_zeroWith fun r _ => r.tidy_zero

namespace Context

variable (ctx : Context)

theorem tidy_createMissing {target : Target} {m : Value}
    (h : (ctx.createMissing target).run.val = .ok m) : m.inner.Tidy := by
  cases target with
  | typed s =>
    rw [ctx.createMissing_typed h]
    exact s.tidy_zero
  | untyped =>
    unfold createMissing at h
    split at h
    · cases h
    · cases h
      exact Value.tidy_of_childless trivial fun k => by cases k <;> rfl

/-- Filling the layers of a value whose content is tidy sets them to defaults, which are. -/
theorem tidy_fillAt (s : Shape) :
    ∀ {v : Value}, v.inner.Tidy → (ctx.fillAt s v).val.1.inner.Tidy := by
  induction s with
  | option t ih =>
    intro v hv
    cases v with
    | option t' o =>
      cases o with
      | none =>
        rw [val_fillAt_option_none]
        cases hm : (ctx.createMissing (.typed t')).run.val with
        | error f => exact hv
        | ok inner => exact ih (ctx.tidy_createMissing hm)
      | some x =>
        rw [val_fillAt_option_some]
        exact ih hv
    | _ =>
      rw [ctx.val_fillAt_of_shape (by simp [Value.shape])]
      exact hv
  | _ =>
    intro v hv
    rwa [ctx.val_fillAt_of_not_option (fun t h => by cases h)]

/-- The element a write enters in a tidy container is tidy: a stored element of it, or a
default, with its layers filled. -/
theorem tidy_descend {step : Step} {c c' child : Value} (hc : c.Tidy)
    (h : (ctx.descend step c).val = (c', .ok ())) (hchild : c'.child? step.key = some child) :
    child.inner.Tidy := by
  obtain ⟨old, hold, hfill⟩ := ctx.descend_child h hchild
  have hold' : old.inner.Tidy := by
    rcases hold with hold | hold
    · exact hc.child hold
    · exact ctx.tidy_createMissing hold
  have hfilled := ctx.tidy_fillAt old.shape hold'
  unfold fill at hfill
  rw [hfill] at hfilled
  exact hfilled

end Context

end ValuePaths
