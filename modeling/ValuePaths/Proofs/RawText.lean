import ValuePaths.Proofs.Subscripts
import ValuePaths.Proofs.Refusal

/-!
# Text kept as it was written

A list that declares no element shape keeps text written to it as text.  Every other
container converts what is written to it for its declared element shape, and a text table
holds text of its own, not values.  `Value.HoldsRaw s v` says that `v` holds the text `s`
unconverted, as an element of such a list, anywhere inside it.

Nothing a program makes without such a list holds raw text: not the default of any shape,
and, when its converters give none, not anything converted from text for a shape while
undeclared element shapes are refused.  Putting an element into a container adds no raw
text but what the element holds, or the element itself when it is text put into such a
list.

## Main definitions

* `Value.elements` — the values directly inside a value.
* `Value.HoldsRaw` — a value holds a text unconverted.
* `Registry.KeepsTextOut` — a registry whose conversions hold none.

## Main statements

* `Value.holdsRaw_setChild`, `Value.holdsRaw_withInner`, `Value.holdsRaw_of_child?` — the
  raw text held after an element is put or found.
* `Shape.zero_noRaw` — defaults hold none.
* `Context.coerceTo_noRaw` — nor does text converted for a shape under strict generics.
-/

namespace ValuePaths

open Logged

namespace Value

/-- The values directly inside a value: the fields of a record, the items of a list or an
array, the value under a set option, the keys and values of a map and the members of a
set.  A text table holds text, not values. -/
def elements : Value → List Value
  | record _ fields => fields
  | list _ _ items | untypedList items | array _ items => items
  | option _ (some x) => [x]
  | map _ _ _ es => es.flatMap fun e => [e.1, e.2]
  | set _ _ ms => ms
  | _ => []

/-- `v` holds the text `s` as it was written: as an element of a list that declares no
element shape, anywhere inside `v`. -/
inductive HoldsRaw (s : String) : Value → Prop
  | item {items : List Value} (h : string s ∈ items) : HoldsRaw s (untypedList items)
  | inside {v x : Value} (hx : x ∈ v.elements) (h : HoldsRaw s x) : HoldsRaw s v

variable {s : String}

/-- A value other than a list of no declared element shape holds raw text only inside one of
its elements. -/
theorem HoldsRaw.element {v : Value} (h : HoldsRaw s v) (hv : ∀ items, v ≠ untypedList items) :
    ∃ x ∈ v.elements, HoldsRaw s x := by
  cases h with
  | item => exact absurd rfl (hv _)
  | inside hx h => exact ⟨_, hx, h⟩

/-- A value other than a list of no declared element shape, none of whose elements holds
raw text, holds none. -/
theorem not_holdsRaw_of_elements {v : Value} (hv : ∀ items, v ≠ untypedList items)
    (h : ∀ x ∈ v.elements, ¬HoldsRaw s x) : ¬HoldsRaw s v := by
  intro hraw
  obtain ⟨x, hx, hraw⟩ := hraw.element hv
  exact h x hx hraw

/-- A scalar holds no raw text. -/
theorem not_holdsRaw_of_scalar {v : Value} {sc : Scalar} (h : v.shape = .scalar sc) :
    ¬HoldsRaw s v := by
  refine not_holdsRaw_of_elements (fun items hv => by subst hv; cases h) ?_
  cases v <;> simp_all [shape, elements]

/-- A record holds raw text only in a field. -/
theorem not_holdsRaw_record {r : Record} {fields : List Value} (h : ∀ x ∈ fields, ¬HoldsRaw s x) :
    ¬HoldsRaw s (record r fields) :=
  not_holdsRaw_of_elements (fun _ h => by cases h) h

/-! ## Putting and finding elements -/

/-- Replacing the value under the set layers adds no raw text but the new value's. -/
theorem holdsRaw_withInner {x w : Value} (h : HoldsRaw s (x.withInner w)) :
    HoldsRaw s x ∨ HoldsRaw s w := by
  fun_induction withInner x w with
  | case1 t v w ih =>
    obtain ⟨y, hy, h⟩ := h.element fun _ h => by cases h
    simp only [elements, List.mem_singleton] at hy
    subst hy
    rcases ih h with h | h
    · exact .inl (.inside (by simp [elements]) h)
    · exact .inr h
  | case2 v w _ => exact .inr h

/-- The value under the set layers holds only raw text the value holds. -/
theorem holdsRaw_of_inner {x : Value} (h : HoldsRaw s x.inner) : HoldsRaw s x := by
  fun_induction inner x with
  | case1 t v ih => exact .inside (by simp [elements]) (ih h)
  | case2 v _ => exact h

/-- Adding an entry to a map adds no raw text but the key's and the value's. -/
theorem holdsRaw_map_add {tbl : FixedTable} {p p' : Placement} {kt vt : Shape} {k v : Value}
    {es : List (Value × Value)}
    (h : HoldsRaw s (map p' kt vt (Entries.add tbl p kt vt k v es).2.1)) :
    HoldsRaw s (map p kt vt es) ∨ HoldsRaw s k ∨ HoldsRaw s v := by
  -- every key and value of the new map is an old one, the key or the value
  let Q (x : Value) : Prop :=
    HoldsRaw s x → HoldsRaw s (map p kt vt es) ∨ HoldsRaw s k ∨ HoldsRaw s v
  have hold : ∀ e ∈ es, Q e.1 ∧ Q e.2 := fun e he =>
    ⟨fun h => .inl (.inside (List.mem_flatMap.mpr ⟨e, he, by simp⟩) h),
      fun h => .inl (.inside (List.mem_flatMap.mpr ⟨e, he, by simp⟩) h)⟩
  have hnew : ∀ e ∈ (Entries.add tbl p kt vt k v es).2.1, Q e.1 ∧ Q e.2 :=
    Entries.forall_add tbl (fun h => .inr (.inl h)) (fun h => .inr (.inr h)) hold
  obtain ⟨x, hx, h⟩ := h.element fun _ h => by cases h
  obtain ⟨e, he, hx⟩ := List.mem_flatMap.mp hx
  simp only [List.mem_cons, List.not_mem_nil, or_false] at hx
  rcases hx with rfl | rfl
  · exact (hnew e he).1 h
  · exact (hnew e he).2 h

/-- Adding a member to a set adds no raw text but the member's. -/
theorem holdsRaw_set_add {tbl : FixedTable} {p p' : Placement} {t : Shape} {v : Value}
    {ms : List Value} (h : HoldsRaw s (set p' t (Members.add tbl p t v ms).2.1)) :
    HoldsRaw s (set p t ms) ∨ HoldsRaw s v := by
  obtain ⟨x, hx, hraw⟩ := h.element fun _ h => by cases h
  rcases Members.mem_add hx with rfl | hx
  · exact .inr hraw
  · exact .inl (.inside hx hraw)

variable [Catalogue]

/-- Replacing an element leaves the elements there were and the new one. -/
theorem mem_elements_setChild {c w x : Value} {k : Key} (h : x ∈ (c.setChild k w).elements) :
    x ∈ c.elements ∨ x = w := by
  cases c <;> cases k <;> simp only [setChild] at h
  all_goals first
    | exact .inl h
    | skip
  case record.field r fields name access =>
    split at h
    · exact List.mem_or_eq_of_mem_set h
    · exact .inl h
  case list.index => exact List.mem_or_eq_of_mem_set h
  case untypedList.index => exact List.mem_or_eq_of_mem_set h
  case array.index => exact List.mem_or_eq_of_mem_set h
  case map.member p kt vt es raw key =>
    simp only [elements, List.mem_flatMap, List.mem_cons, List.not_mem_nil, or_false] at h ⊢
    obtain ⟨e, he, hx⟩ := h
    obtain ⟨e', he', rfl⟩ := List.mem_map.mp he
    split at hx
    · rcases hx with rfl | rfl
      · exact .inl ⟨e', he', .inl rfl⟩
      · exact .inr rfl
    · exact .inl ⟨e', he', hx⟩

/-- **Putting an element adds no raw text but its own**, or itself when it is text put into
a list of no declared element shape. -/
theorem holdsRaw_setChild {c w : Value} {k : Key} (h : HoldsRaw s (c.setChild k w)) :
    HoldsRaw s c ∨ HoldsRaw s w ∨
      ∃ items i, c = untypedList items ∧ k = .index i ∧ w = string s := by
  generalize hv : c.setChild k w = v at h
  cases h with
  | item hs =>
    -- only a list of no declared element shape stays one when an element is put into it
    rename_i items
    cases c <;> cases k <;> simp only [setChild] at hv
    all_goals first
      | cases hv; done
      | skip
    case record.field r fields name access => split at hv <;> cases hv
    case untypedList.index its i =>
      cases hv
      rcases List.mem_or_eq_of_mem_set hs with hs | hs
      · exact .inl (.item hs)
      · exact .inr (.inr ⟨its, i, rfl, rfl, hs.symm⟩)
    all_goals
      cases hv
      exact .inl (.item hs)
  | inside hx h =>
    subst hv
    rcases mem_elements_setChild hx with hx | rfl
    · exact .inl (.inside hx h)
    · exact .inr (.inl h)

/-- An element found in a container is one of its elements, or text of a text table. -/
theorem mem_elements_of_child? {c x : Value} {k : Key} (h : c.child? k = some x) :
    x ∈ c.elements ∨ ∃ t, x = string t := by
  cases c
  case record => exact .inl (mem_of_child?_record h)
  case array => exact .inl (mem_of_child?_array h)
  all_goals cases k <;> simp only [child?, reduceCtorEq] at h
  case list.index => exact .inl (List.mem_of_getElem? h)
  case untypedList.index => exact .inl (List.mem_of_getElem? h)
  case map.member p kt vt es raw key =>
    obtain ⟨e, he, -, rfl⟩ := Entries.find?_mem h
    exact .inl (List.mem_flatMap.mpr ⟨e, he, by simp⟩)
  case set.member p t ms raw key => exact .inl (List.mem_of_find?_eq_some h)
  case properties.text es key =>
    obtain ⟨t, -, rfl⟩ := Option.map_eq_some_iff.mp h
    exact .inr ⟨t, rfl⟩

/-- A container holds the raw text of every element found in it. -/
theorem holdsRaw_of_child? {c x : Value} {k : Key} (hx : c.child? k = some x) (h : HoldsRaw s x) :
    HoldsRaw s c := by
  rcases mem_elements_of_child? hx with hx | ⟨t, rfl⟩
  · exact .inside hx h
  · exact absurd h (not_holdsRaw_of_scalar rfl)

end Value

/-! ## Values made without text -/

namespace Shape

open Value

variable {s : String}

/-- A default holds no raw text when the defaults of the records it holds directly hold none:
its containers are empty. -/
theorem zeroWith_noRaw {z : Record → Value} (t : Shape)
    (hz : ∀ r ∈ t.directRecords, ¬(z r).HoldsRaw s) : ¬(t.zeroWith z).HoldsRaw s := by
  induction t with
  | scalar sc =>
    have hshape : ((Shape.scalar sc).zeroWith z).shape = .scalar sc := by cases sc <;> rfl
    exact not_holdsRaw_of_scalar hshape
  | record r => exact hz r (List.mem_singleton_self r)
  | array t n ih =>
    refine not_holdsRaw_of_elements (fun _ h => by cases h) fun x hx => ?_
    rw [List.eq_of_mem_replicate hx]
    exact ih hz
  | untypedList =>
    intro h
    cases h with
    | item hs => cases hs
    | inside hx => cases hx
  | _ => exact not_holdsRaw_of_elements (fun _ h => by cases h) fun x hx => by cases hx

end Shape

variable [Catalogue]

namespace Record

open Value

variable {s : String}

theorem zero_noRaw (r : Record) : ¬r.zero.HoldsRaw s := by
  induction r using induction_direct with
  | step r ih =>
    rw [zero_eq]
    refine not_holdsRaw_record fun x hx => ?_
    obtain ⟨f, hf, rfl⟩ := List.mem_map.mp hx
    exact Shape.zeroWith_noRaw f.shape (ih f hf)

end Record

/-- **No default holds raw text.** -/
theorem Shape.zero_noRaw {s : String} (t : Shape) : ¬t.zero.HoldsRaw s :=
  t.zeroWith_noRaw fun r _ => r.zero_noRaw

namespace Registry

/-- A registry whose conversions give values that hold no raw text: no converter of its own
gives a list of undeclared elements that holds text. -/
def KeepsTextOut (reg : Registry) : Prop :=
  ∀ raw t v, reg.convert raw t = .ok v → ∀ s, ¬v.HoldsRaw s

end Registry

namespace Context

open Value

variable (ctx : Context) {s : String}

/-- What a write creates for a missing element holds no raw text: a default, or empty text
for an untyped element. -/
theorem createMissing_noRaw {target : Target} {d : Value}
    (h : (ctx.createMissing target).run.val = .ok d) : ¬d.HoldsRaw s := by
  cases target with
  | typed t =>
    rw [ctx.createMissing_typed h]
    exact t.zero_noRaw
  | untyped =>
    unfold createMissing at h
    split at h
    · cases h
    · cases h
      exact not_holdsRaw_of_scalar rfl

theorem convertOne_noRaw (htext : ctx.registry.KeepsTextOut) {raw : String} {t : Shape}
    {v : Value} (h : (ctx.convertOne raw t).run.val = .ok v) : ¬v.HoldsRaw s := by
  unfold convertOne at h
  split at h
  · split at h
    · rename_i w hw
      cases h
      exact htext _ _ _ hw s
    · cases h
  · split at h <;> cases h

section Strict

variable {ctx} (hstrict : ctx.options.strictGenerics = true)
  (htext : ctx.registry.KeepsTextOut)
include hstrict htext

/-- **Text converted for a shape under strict generics holds no raw text**, when the
registry's conversions hold none.  By induction on the shape: a list that declares no
element shape refuses the text, every other container converts each text for its element
shape. -/
theorem coerceTo_noRaw (t : Shape) :
    ∀ {r : Raw} {v : Value}, (ctx.coerceTo t r).run.val = .ok v → ¬v.HoldsRaw s := by
  induction t with
  | option t ih =>
    intro r v h
    rcases coerceTo_option_ok h with ⟨_, -, -, h⟩ | ⟨w, rfl, hw⟩
    · exact ctx.convertOne_noRaw htext h
    · refine not_holdsRaw_of_elements (fun _ h => by cases h) fun x hx => ?_
      simp only [elements, List.mem_singleton] at hx
      subst hx
      exact ih hw
  | list l t ih =>
    intro r v h
    rcases coerceTo_list_ok h with ⟨_, -, -, h⟩ | ⟨vs, rfl, hvs⟩
    · exact ctx.convertOne_noRaw htext h
    · exact not_holdsRaw_of_elements (fun _ h => by cases h) (forall_items ih hvs)
  | untypedList =>
    intro r v h
    rcases coerceTo_untypedList_ok h with ⟨_, -, -, h⟩ | ⟨⟨_, hel⟩, -⟩
    · exact ctx.convertOne_noRaw htext h
    · -- strict generics refuse the list before any text is kept
      simp [val_elementTargets, hstrict] at hel
  | set l t ih =>
    intro r v h
    rcases coerceTo_set_ok h with ⟨_, -, -, h⟩ | ⟨vs, rfl, hvs⟩
    · exact ctx.convertOne_noRaw htext h
    · exact not_holdsRaw_of_elements (fun _ h => by cases h) fun x hx =>
        forall_items ih hvs x (Members.mem_build _ hx)
  | array t n ih =>
    intro r v h
    rcases coerceTo_array_ok h with ⟨_, -, -, h⟩ | ⟨vs, -, rfl, hvs⟩
    · exact ctx.convertOne_noRaw htext h
    · exact not_holdsRaw_of_elements (fun _ h => by cases h) (forall_items ih hvs)
  | _ =>
    intro r v h
    unfold coerceTo at h
    split at h
    · exact ctx.convertOne_noRaw htext h
    · dsimp only at h
      split at h
      · exact ctx.convertOne_noRaw htext h
      · exact ctx.convertOne_noRaw htext h
      · cases h

/-- A key converted for a typed target under strict generics holds no raw text. -/
theorem coerce_typed_noRaw {t : Shape} {r : Raw} {v : Value}
    (h : (ctx.coerce (.typed t) r).run.val = .ok v) : ¬v.HoldsRaw s :=
  coerceTo_noRaw hstrict htext t h

end Strict

end Context

end ValuePaths
