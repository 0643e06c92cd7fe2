import ValuePaths.Proofs.Conversion
import ValuePaths.Proofs.Idempotence
import ValuePaths.Proofs.Descriptor
import ValuePaths.Proofs.Faults

/-!
# Where a container refuses a value

Every container of the host program checks the shape of what it is given: a record field,
a list or array slot, a map entry, a set member, an `Option` and a text table each refuse
a value of another shape than they hold, with the fault `value of type … does not fit`.
The typed registration of the host program makes that check idle wherever the element
shape is declared.  What a write creates is a registered default of the shape it is
created for, what it converts is converted for the declared shape, and, with a typed
registry, both are well typed and of that shape (`Conversion`).  So a write keeps a
well-typed value well typed, whether it succeeds or not (`Context.set_wellTyped`).

Only an element that declares no shape checks something.  Text written at an untyped
target is kept as text, or, as several texts, as an untyped list; a text table takes text
only, and an element of an untyped list is overwritten only by a value of its own shape.
`Context.Refuses` says where along a path that happens, and a write fails because a
container refused a value exactly there (`Context.set_refuses`).  Reads look values up and
never store one.

## Main definitions

* `Context.Refuses` — where a write of some text along a path meets a container that
  refuses it.

## Main statements

* `Context.writeFrom_wellTyped`, `Context.set_wellTyped` — writes keep values well typed.
* `Context.writeFrom_refuses`, `Context.set_refuses` — a write fails for a misfit only
  where `Refuses` says.
-/

namespace ValuePaths

open Logged

/-! ## Keeping values well typed -/

namespace Entries

variable (tbl : FixedTable)

/-- Adding an entry keeps each key among the old keys and the new one, and each value among
the old values and the new one. -/
theorem forall_insert {K V : Value → Prop} {k v : Value} (hk : K k) (hv : V v) :
    ∀ {es : List (Value × Value)}, (∀ e ∈ es, K e.1 ∧ V e.2) →
      ∀ e ∈ (insert k v es).1, K e.1 ∧ V e.2
  | [], _, e, he => by
    rw [List.mem_singleton.mp he]
    exact ⟨hk, hv⟩
  | (k', v') :: es, hes, e, he => by
    unfold insert at he
    split at he
    · rcases List.mem_cons.mp he with rfl | he
      · exact ⟨hk, hv⟩
      · exact hes e he
    · rcases List.mem_cons.mp he with rfl | he
      · exact ⟨(hes _ List.mem_cons_self).1, hv⟩
      · exact hes e (List.mem_cons_of_mem _ he)
    · rcases List.mem_cons.mp he with rfl | he
      · exact hes _ List.mem_cons_self
      · exact forall_insert hk hv (fun e he => hes e (List.mem_cons_of_mem _ he)) e he

theorem forall_update {K V : Value → Prop} {k v : Value} (hv : V v)
    {es : List (Value × Value)} (hes : ∀ e ∈ es, K e.1 ∧ V e.2) :
    ∀ e ∈ update k v es, K e.1 ∧ V e.2 := by
  intro e he
  obtain ⟨e', he', rfl⟩ := List.mem_map.mp he
  split
  · exact ⟨(hes e' he').1, hv⟩
  · exact hes e' he'

theorem forall_add {K V : Value → Prop} {p : Placement} {kt vt : Shape} {k v : Value}
    {es : List (Value × Value)} (hk : K k) (hv : V v) (hes : ∀ e ∈ es, K e.1 ∧ V e.2) :
    ∀ e ∈ (add tbl p kt vt k v es).2.1, K e.1 ∧ V e.2 := by
  intro e he
  unfold add at he
  split at he
  · rename_i b slots
    have hold : ∀ e ∈ (slots.zip es).map (·.2), K e.1 ∧ V e.2 :=
      fun e he => hes e (mem_of_mem_map_snd_zip he)
    -- a fixed-seed table holds the old entries, and the new one if its key is new
    cases hfound : (tbl.insertEntry kt vt b (slots.zip es) (k, v)).2.2 with
    | some y =>
      simp only [hfound] at he
      exact forall_update hv
        (fun e he => hold e (((tbl.entries kt vt).found hfound).1.mem_iff.mp he)) e he
    | none =>
      simp only [hfound] at he
      rcases List.mem_cons.mp (((tbl.entries kt vt).fresh hfound).1.mem_iff.mp he) with rfl | he
      · exact ⟨hk, hv⟩
      · exact hold e he
  · exact forall_insert hk hv hes e he

end Entries

/-- Setting an element keeps each element among the old ones and the new one. -/
theorem forall_mem_set {P : Value → Prop} {items : List Value} (h : ∀ x ∈ items, P x)
    {w : Value} (hw : P w) (i : Nat) : ∀ x ∈ items.set i w, P x :=
  fun x hx => (List.mem_or_eq_of_mem_set hx).elim (h x) (· ▸ hw)

variable [Catalogue]

namespace Value

theorem wellTyped_map {p : Placement} {kt vt : Shape} {es : List (Value × Value)}
    (h : ∀ e ∈ es, (e.1.WellTyped ∧ e.1.shape = kt) ∧ (e.2.WellTyped ∧ e.2.shape = vt)) :
    (Value.map p kt vt es).WellTyped :=
  .map (fun e he => ⟨(h e he).1.2, (h e he).2.2⟩) (fun e he => (h e he).1.1)
    (fun e he => (h e he).2.1)

theorem WellTyped.entries {p : Placement} {kt vt : Shape} {es : List (Value × Value)}
    (h : (Value.map p kt vt es).WellTyped) :
    ∀ e ∈ es, (e.1.WellTyped ∧ e.1.shape = kt) ∧ (e.2.WellTyped ∧ e.2.shape = vt) := by
  cases h with
  | map shapes typedKeys typedValues =>
    exact fun e he => ⟨⟨typedKeys e he, (shapes e he).1⟩, typedValues e he, (shapes e he).2⟩

@[simp] theorem setChild_option (t : Shape) (o : Option Value) (k : Key) (w : Value) :
    (Value.option t o).setChild k w = .option t o := by
  cases k <;> rfl

@[simp] theorem setChild_length (c w : Value) : c.setChild .length w = c := by
  cases c <;> rfl

/-- Putting a well-typed value of the targeted shape at a key bound to a well-typed
container keeps it well typed. -/
theorem WellTyped.setChild {ctx : Context} {c v : Value} {step : Step} (hc : c.WellTyped)
    (hb : ctx.Bound step) (hs : c.shape.unwrap = step.container) (hv : v.WellTyped)
    (hshape : ∀ t, step.target = .typed t → v.shape = t) : (c.setChild step.key v).WellTyped := by
  -- an option takes nothing in place
  by_cases hopt : c.shape.unwrap = c.shape
  case neg =>
    cases c
    case option t o => simpa using hc
    all_goals exact absurd rfl hopt
  rw [hopt] at hs
  cases hb with
  | @field r f hf =>
    cases c <;> cases hs
    rename_i fields
    cases hc with
    | record shapes typed =>
      simp only [Value.setChild]
      split
      · rename_i i hi
        have hfi := Record.getElem?_fieldIndex hf hi
        refine .record ?_ ?_
        · -- the field keeps the shape it is declared with
          have hget : (r.fields.map (·.shape))[i]? = Option.some f.shape := by simp [hfi]
          obtain ⟨hi', hget⟩ := List.getElem?_eq_some_iff.mp hget
          rw [List.map_set, shapes, hshape _ rfl, ← hget]
          exact List.set_getElem_self hi'
        · intro x hx
          rcases List.mem_or_eq_of_mem_set hx with hx | rfl
          · exact typed x hx
          · exact hv
      · exact .record shapes typed
  | length hc' => simpa using hc
  | list l t i =>
    cases c <;> cases hs
    cases hc with
    | list shapes typed =>
      exact .list (forall_mem_set shapes (hshape _ rfl) i) (forall_mem_set typed hv i)
  | untypedList i =>
    cases c <;> cases hs
    cases hc with
    | untypedList typed => exact .untypedList (forall_mem_set typed hv i)
  | array t n i =>
    cases c <;> cases hs
    cases hc with
    | array shapes typed =>
      exact .array (forall_mem_set shapes (hshape _ rfl) i) (forall_mem_set typed hv i)
  | map l k t raw key hkey =>
    cases c <;> cases hs
    exact wellTyped_map (Entries.forall_update (K := fun x => x.WellTyped ∧ x.shape = k)
      (V := fun x => x.WellTyped ∧ x.shape = t) ⟨hv, hshape _ rfl⟩ hc.entries)
  | member l t raw key hkey =>
    cases c <;> cases hs
    exact hc
  | text l t raw =>
    cases c <;> cases hs
    exact hc
  | properties raw =>
    cases c <;> cases hs
    exact hc

/-- Replacing what the layers of a well-typed value hold by a well-typed value of the same
shape keeps it well typed and of its shape. -/
theorem WellTyped.withInner {x w : Value} (hx : x.WellTyped) (hw : w.WellTyped)
    (hs : w.shape = x.inner.shape) : (x.withInner w).WellTyped := by
  fun_induction Value.withInner x w with
  | case1 t v w ih =>
    cases hx with
    | some hv typed =>
      exact .some ((shape_withInner v hs).trans hv) (ih typed hw hs)
  | case2 v w hv => exact hw

end Value

namespace Context

variable (ctx : Context)

theorem Fills.wellTyped {x x' : Value} (h : ctx.Fills x x') (hx : x.WellTyped) :
    x'.WellTyped := by
  induction h with
  | refl => exact hx
  | create hd hfill ih =>
    -- the layer is set to the default of its inner shape
    have hd' := ctx.wellTyped_createMissing hd
    exact .some (hfill.shape_eq.trans (hd'.2 _ rfl)) (ih hd'.1)
  | layer hfill ih =>
    cases hx with
    | some hv typed => exact .some (hfill.shape_eq.trans hv) (ih typed)

/-- What a write creates in a well-typed container, at a key bound to it, keeps it well
typed: a list is padded with defaults of its element shape, a map gets a default of its
value shape under the key converted for its key shape. -/
theorem Creates.wellTyped (htyped : ctx.registry.Typed) {step : Step} {c c₀ : Value}
    (h : ctx.Creates step c c₀) (hc : c.WellTyped) (hb : ctx.Bound step)
    (hs : c.shape.unwrap = step.container) (hkey : step.key ≠ .length) : c₀.WellTyped := by
  cases h with
  | same => exact hc
  | pad n hd =>
    cases hb <;> cases hs
    case length.refl => exact absurd rfl hkey
    case list.refl =>
      -- the defaults appended have the element shape
      have hd' := ctx.wellTyped_createMissing hd
      cases hc with
      | list shapes typed =>
        exact .list
          (List.forall_mem_append.mpr ⟨shapes, List.forall_mem_replicate.mpr (.inr (hd'.2 _ rfl))⟩)
          (List.forall_mem_append.mpr ⟨typed, List.forall_mem_replicate.mpr (.inr hd'.1)⟩)
  | padUntyped n hd =>
    have hd' := ctx.wellTyped_createMissing hd
    cases hc with
    | untypedList typed =>
      exact .untypedList
        (List.forall_mem_append.mpr ⟨typed, List.forall_mem_replicate.mpr (.inr hd'.1)⟩)
  | entry hkey' hnone hd howned =>
    cases hb <;> cases hs
    case length.refl => exact absurd rfl hkey
    case map.refl raw key hkey'' =>
      cases hkey'
      -- the key converted again has the key shape, as the key resolution converted did
      have hk := ctx.coerce_wellTyped htyped hkey''
      have howned' := ctx.coerce_wellTyped htyped howned
      have hd' := ctx.wellTyped_createMissing hd
      exact Value.wellTyped_map
        (Entries.forall_add ctx.table (K := fun x => x.WellTyped ∧ x.shape = _)
          (V := fun x => x.WellTyped ∧ x.shape = _) ⟨howned'.1, (howned'.2 _ rfl).trans
            (hk.2 _ rfl)⟩ ⟨hd'.1, hd'.2 _ rfl⟩ hc.entries)

/-- Storing a well-typed value of the targeted shape keeps a well-typed container well
typed. -/
theorem Stores.wellTyped (htyped : ctx.registry.Typed) {step : Step} {v c₀ c' : Value}
    (h : ctx.Stores step v c₀ c') (hc : c₀.WellTyped) (hb : ctx.Bound step)
    (hs : c₀.shape.unwrap = step.container) (hkey : step.key ≠ .length) (hv : v.WellTyped)
    (hshape : ∀ t, step.target = .typed t → v.shape = t) : c'.WellTyped := by
  cases h with
  | put => exact hc.setChild hb hs hv hshape
  | push hk =>
    cases hb <;> cases hs
    case length.refl => exact absurd rfl hkey
    case list.refl =>
      cases hc with
      | list shapes typed =>
        exact .list
          (List.forall_mem_append.mpr ⟨shapes, List.forall_mem_singleton.mpr (hshape _ rfl)⟩)
          (List.forall_mem_append.mpr ⟨typed, List.forall_mem_singleton.mpr hv⟩)
  | pushUntyped hk =>
    cases hc with
    | untypedList typed =>
      exact .untypedList (List.forall_mem_append.mpr ⟨typed, List.forall_mem_singleton.mpr hv⟩)
  | entry hkey' howned =>
    cases hb <;> cases hs
    case length.refl => exact absurd rfl hkey
    case map.refl raw key hkey'' =>
      cases hkey'
      have hk := ctx.coerce_wellTyped htyped hkey''
      have howned' := ctx.coerce_wellTyped htyped howned
      exact Value.wellTyped_map
        (Entries.forall_add ctx.table (K := fun x => x.WellTyped ∧ x.shape = _)
          (V := fun x => x.WellTyped ∧ x.shape = _) ⟨howned'.1, (howned'.2 _ rfl).trans
            (hk.2 _ rfl)⟩ ⟨hv, hshape _ rfl⟩ hc.entries)
  | member =>
    cases hb <;> cases hs
    case length.refl => exact absurd rfl hkey
    all_goals
      cases hc with
      | set shapes typed =>
        refine .set (fun x hx => ?_) (fun x hx => ?_) <;>
          rcases Members.mem_add hx with rfl | hx
        · exact hshape _ rfl
        · exact shapes x hx
        · exact hv
        · exact typed x hx
  | text hk hv' => exact .properties _

/-- The element count is neither stored nor entered. -/
theorem store_length {step : Step} (hkey : step.key = .length) (c v : Value) :
    (ctx.store step c v).val = (c, .error (.unsupported .length c.shape .assignment)) := by
  unfold store
  rw [hkey]
  cases c <;> rfl

theorem descend_length {step : Step} (hkey : step.key = .length) (c : Value) :
    (ctx.descend step c).val =
      (c, .error (.unsupported step.kind c.shape (.navigateInto "length"))) := by
  unfold descend
  rw [hkey]
  cases c <;> rfl

/-- A store of a well-typed value of the targeted shape, whether it succeeds or not, keeps a
well-typed container well typed. -/
theorem store_wellTyped (htyped : ctx.registry.Typed) {step : Step} {c c' v : Value}
    {res : Except Fault Unit} (h : (ctx.store step c v).val = (c', res)) (hc : c.WellTyped)
    (hb : ctx.Bound step) (hs : c.shape.unwrap = step.container) (hv : v.WellTyped)
    (hshape : ∀ t, step.target = .typed t → v.shape = t) : c'.WellTyped := by
  by_cases hkey : step.key = .length
  · rw [ctx.store_length hkey] at h
    cases h
    exact hc
  · obtain ⟨c₀, hcreate, hok, hfail⟩ := ctx.store_changes h
    have hc₀ := hcreate.wellTyped ctx htyped hc hb hs hkey
    have hs₀ : c₀.shape.unwrap = step.container := by rw [hcreate.shape_eq]; exact hs
    cases res with
    | ok u => exact (hok rfl).wellTyped ctx htyped hc₀ hb hs₀ hkey hv hshape
    | error f =>
      rw [hfail (by simp)]
      exact hc₀

/-- Entering an element of a well-typed container, whether it succeeds or not, keeps the
container well typed. -/
theorem descend_wellTyped (htyped : ctx.registry.Typed) {step : Step} {c c₁ : Value}
    {res : Except Fault Unit} (h : (ctx.descend step c).val = (c₁, res)) (hc : c.WellTyped)
    (hb : ctx.Bound step) (hs : c.shape.unwrap = step.container) : c₁.WellTyped := by
  by_cases hkey : step.key = .length
  · rw [ctx.descend_length hkey] at h
    cases h
    exact hc
  · obtain ⟨c₀, hcreate, hentered⟩ := ctx.descend_changes h
    have hc₀ := hcreate.wellTyped ctx htyped hc hb hs hkey
    have hs₀ : c₀.shape.unwrap = step.container := by rw [hcreate.shape_eq]; exact hs
    rcases hentered with rfl | ⟨x, x', hx, hfill, -, rfl⟩
    · exact hc₀
    · have hx' := hc₀.child hb hs₀ hx
      exact hc₀.setChild hb hs₀ (hfill.wellTyped ctx hx'.1)
        fun t ht => hfill.shape_eq.trans (hx'.2 t ht)

/-- **A write keeps a well-typed value well typed**, whether it succeeds or not.  By
induction on the path: each step stores, or builds a set member, or enters an element, and
each of these keeps its container well typed; what is written below an element keeps its
shape, so putting it back does too. -/
theorem writeFrom_wellTyped (htyped : ctx.registry.Typed) {path : String} {r : Raw} :
    ∀ {segs : List Segment} {i : Nat} {state st : WalkState} {c c' : Value}
      {res : Except AccessError Unit},
      (ctx.writeFrom path r i state (segs.map .element) c).val = (c', st, res) →
      c.WellTyped → c'.WellTyped
  | [], _, _, _, _, _, _, h, hc => by
    rw [List.map_nil, val_writeFrom_nil] at h
    cases h
    exact hc
  | e :: rest, i, state, st, c, c', res, h, hc => by
    rw [List.map_cons] at h
    cases ctx.writesLeg h with
    | unresolved | unconverted | uncreated | unfilled | memberRefused => exact hc
    | stored hstep _ hv hs | unstored hstep _ hv hs =>
      -- the last element: the text converted for its target is stored
      obtain ⟨hcont, hb⟩ := ctx.legStep_bound hstep
      have hv' := ctx.coerce_wellTyped htyped hv
      exact ctx.store_wellTyped htyped hs hc hb hcont.symm hv'.1 hv'.2
    | member hstep _ _ hd hfill hbelow hs | memberUnstored hstep _ _ hd hfill hbelow hs =>
      -- a set member built from a default, written below and stored
      obtain ⟨hcont, hb⟩ := ctx.legStep_bound hstep
      have hd₀ := ctx.wellTyped_createMissing hd
      have hd' := ctx.wellTyped_fill hd₀.1
      rw [hfill] at hd'
      have hishape := (ctx.writeFrom_changes hbelow).shape_eq
      have hinner := writeFrom_wellTyped htyped hbelow hd'.1.inner.1
      exact ctx.store_wellTyped htyped hs hc hb hcont.symm (hd'.1.withInner hinner hishape)
        fun t ht => (Value.shape_withInner _ hishape).trans (hd'.2.trans (hd₀.2 t ht))
    | unentered hstep _ _ hd | notFound hstep _ _ hd _ =>
      obtain ⟨hcont, hb⟩ := ctx.legStep_bound hstep
      exact ctx.descend_wellTyped htyped hd hc hb hcont.symm
    | @entered step c₁ x inner o hstep _ _ hd hch hbelow =>
      -- the element entered, written below and put back
      obtain ⟨hcont, hb⟩ := ctx.legStep_bound hstep
      have hc₁ := ctx.descend_wellTyped htyped hd hc hb hcont.symm
      have hs₁ : c₁.shape.unwrap = step.container := by
        rw [ctx.descend_shape hd, hcont]
      have hchild := hc₁.child hb hs₁ hch
      have hishape := (ctx.writeFrom_changes hbelow).shape_eq
      have hinner := writeFrom_wellTyped htyped hbelow hchild.1.inner.1
      exact hc₁.setChild hb hs₁ (hchild.1.withInner hinner hishape)
        fun t ht => (Value.shape_withInner _ hishape).trans (hchild.2 t ht)

/-- `set` keeps a well-typed root well typed, whether it succeeds or not. -/
theorem set_wellTyped (htyped : ctx.registry.Typed) {root : Value} (hroot : root.WellTyped)
    (path : String) (r : Raw) : (ctx.set root path r).val.1.WellTyped := by
  rw [val_set]
  split
  · exact hroot
  · rw [val_writeWalk]
    split
    · exact hroot
    · rename_i p _ _
      generalize hw : (ctx.writeFrom p.route.path r 0 .atRoot p.route.legs root).val = w
      obtain ⟨root', st, res⟩ := w
      have hlegs : p.route.legs = (p.steps.map (·.segment)).map .element := by
        simp [Path.route]
      rw [hlegs] at hw
      exact ctx.writeFrom_wellTyped htyped hw hroot

/-! ## Failures of the accesses -/

theorem pad_noMisfit {items items' : List Value} {n : Nat} {ty : Shape} {target : Target}
    {f : Fault} (h : (ctx.pad items n ty target).val = (items', .error f)) :
    f.isMisfit = false :=
  pad_fails ctx.noMisfit_createMissing (fun _ _ _ => rfl) h

/-- Padding up to an index leaves the element at the index as it was: a list too short
is padded up to the index and has none there. -/
theorem pad_getElem? {items items' : List Value} {i : Nat} {ty : Shape} {target : Target}
    (h : (ctx.pad items i ty target).val = (items', .ok ())) : items'[i]? = items[i]? := by
  rcases ctx.pad_ok h with ⟨rfl, -⟩ | ⟨filler, -, rfl⟩
  · rfl
  · rw [List.getElem?_append]
    split
    · rfl
    · rename_i hi
      rw [List.getElem?_replicate, if_neg (by omega), List.getElem?_eq_none (by omega)]

theorem fillAt_noMisfit (s : Shape) : ∀ {v v' : Value} {f : Fault},
    (ctx.fillAt s v).val = (v', .error f) → f.isMisfit = false :=
  fillAt_fails ctx.noMisfit_createMissing s

theorem fill_noMisfit {v v' : Value} {f : Fault} (h : (ctx.fill v).val = (v', .error f)) :
    f.isMisfit = false :=
  ctx.fillAt_noMisfit _ h

/-- Entering an element fails for reasons of its own: an element that cannot be reached,
a list that cannot grow, a default or a key that cannot be made. -/
theorem descend_noMisfit {step : Step} {c c' : Value} {f : Fault}
    (h : (ctx.descend step c).val = (c', .error f)) : f.isMisfit = false :=
  descend_fails ctx.noMisfit_createMissing ctx.noMisfit_coerce (fun _ _ => rfl) (fun _ _ => rfl)
    (fun _ _ _ => rfl) (fun _ _ => rfl) h

/-- **A store refuses a value only at an untyped target**: a text table takes text only,
and an element already in an untyped list only a value of its own shape.  Wherever the
element shape is declared, the value given has it, and the container's check passes.  The
fault names text as the target, and the value refused. -/
theorem store_misfit {step : Step} {c c' v : Value} {f : Fault} (hb : ctx.Bound step)
    (hs : c.shape.unwrap = step.container) (hshape : ∀ t, step.target = .typed t → v.shape = t)
    (h : (ctx.store step c v).val = (c', .error f)) (hf : f.isMisfit = true) :
    step.target = .untyped ∧ f = Fault.misfit .string v ∧
      ((∃ es, c = .properties es ∧ v.shape ≠ .string) ∨
        ∃ items i old, c = .untypedList items ∧ step.key = .index i ∧ items[i]? = some old ∧
          old.shape ≠ v.shape) := by
  cases ctx.store_unstored h with
  | readOnly | noField | outside | length | unsupported => cases hf
  | unpadded _ hp | unpaddedUntyped _ hp =>
    rw [ctx.pad_noMisfit hp] at hf
    cases hf
  | unconverted _ howned =>
    rw [(ctx.noMisfit_coerce _ _).val howned] at hf
    cases hf
  | fieldMisfit hkey _ hfd hv =>
    -- the step is bound to the field the record declares under that name
    cases hb with
    | field hf' =>
      cases hkey
      cases hs
      rw [hfd] at hf'
      cases hf'
      exact absurd (hshape _ rfl) hv
    | _ => cases hkey
  | listMisfit hkey _ hv | arrayMisfit hkey _ hv | entryMisfit hkey _ hv =>
    -- the element shape is declared, and the value given has it
    cases hb <;> cases hkey <;> cases hs
    all_goals exact absurd (hshape _ rfl) hv
  | memberMisfit hkey hv =>
    rcases hkey with ⟨raw, key, hkey⟩ | ⟨raw, hkey⟩ <;> cases hb <;> cases hkey <;> cases hs
    all_goals exact absurd (hshape _ rfl) hv
  | untypedMisfit hkey hp hold hv =>
    cases hb <;> cases hkey <;> cases hs
    -- the element was there before the padding, which stops short of it
    rw [ctx.pad_getElem? hp] at hold
    exact ⟨rfl, rfl, .inr ⟨_, _, _, rfl, rfl, hold, fun hsame => hv hsame.symm⟩⟩
  | notText hkey hv =>
    cases hb <;> cases hkey <;> cases hs
    refine ⟨rfl, rfl, .inl ⟨_, rfl, fun hstr => ?_⟩⟩
    cases v <;> first | exact hv _ rfl | cases hstr

/-- A set member is built for a declared element shape. -/
theorem Bound.typed_of_set {step : Step} (hb : ctx.Bound step) (hkind : step.kind = .set) :
    ∃ t, step.target = .typed t := by
  cases hb <;> first | exact ⟨_, rfl⟩ | cases hkind

/-! ## Where a write is refused -/

/-- Where a write of `r` along a path into a value meets a container that refuses the
value: at the last element, a text table given several texts, or an element already in an
untyped list that holds a value of another shape than the text kept untyped; else below
the element the write entered, or below the set member it built on its own. -/
inductive Refuses (r : Raw) : List Segment → Value → Prop
  /-- A text table takes one text under a key, not several. -/
  | table {e : Segment} {es : List (String × String)} {step : Step} {ts : List String}
      (hres : (ctx.resolve e .properties true).run.val = .ok step)
      (htarget : step.target = .untyped) (hr : r = .many ts) : Refuses r [e] (.properties es)
  /-- An element of an untyped list is overwritten only by a value of its own shape. -/
  | element {e : Segment} {items : List Value} {step : Step} {i : Nat} {old w : Value}
      (hres : (ctx.resolve e .untypedList true).run.val = .ok step)
      (hkey : step.key = .index i) (hold : items[i]? = some old)
      (hw : (ctx.coerce .untyped r).run.val = .ok w) (hshape : old.shape ≠ w.shape) :
      Refuses r [e] (.untypedList items)
  /-- A set member built from a registered default was refused below. -/
  | member {e : Segment} {rest : List Segment} {c d d' : Value} {step : Step}
      (hres : (ctx.resolve e c.shape false).run.val = .ok step) (hrest : rest ≠ [])
      (hkind : step.kind = .set) (hd : (ctx.createMissing step.target).run.val = .ok d)
      (hfill : ctx.Fills d d') (hbelow : Refuses r rest d'.inner) : Refuses r (e :: rest) c
  /-- The element entered, with what was missing created and its layers filled, was
  refused below. -/
  | enter {e : Segment} {rest : List Segment} {c c₀ x x' : Value} {step : Step}
      (hres : (ctx.resolve e c.shape false).run.val = .ok step) (hrest : rest ≠ [])
      (hkind : step.kind ≠ .set) (hcreate : ctx.Creates step c c₀)
      (hx : c₀.child? step.key = some x) (hfill : ctx.Fills x x')
      (hbelow : Refuses r rest x'.inner) : Refuses r (e :: rest) c

/-- **A write fails because a container refused a value only where `Refuses` says**, and
the value refused is the text kept untyped.  By induction on the path: resolution,
conversion, creation and entering fail for reasons of their own, a store at a declared
shape is given a value of that shape, and what is left is a store at an untyped target. -/
theorem writeFrom_refuses (htyped : ctx.registry.Typed) {path : String} {r : Raw} :
    ∀ {segs : List Segment} {i : Nat} {state st : WalkState} {c c' : Value} {e : AccessError},
      (ctx.writeFrom path r i state (segs.map .element) c).val = (c', st, .error e) →
      e.fault.isMisfit = true →
      ctx.Refuses r segs c ∧
        ∃ w, (ctx.coerce .untyped r).run.val = .ok w ∧ e.fault = Fault.misfit .string w
  | [], _, _, _, _, _, _, h, _ => by
    rw [List.map_nil, val_writeFrom_nil] at h
    cases h
  | seg :: rest, i, state, st, c, c', e, h, he => by
    rw [List.map_cons] at h
    cases ctx.writesLeg h with
    | unresolved hstep =>
      rw [(legStep_fails ctx.noMisfit_resolve _ _ _).val hstep] at he
      cases he
    | unconverted _ _ hv =>
      rw [(ctx.noMisfit_coerce _ _).val hv] at he
      cases he
    | uncreated _ _ _ hd =>
      rw [(ctx.noMisfit_createMissing _).val hd] at he
      cases he
    | unfilled _ _ _ _ hfill =>
      rw [ctx.fill_noMisfit hfill] at he
      cases he
    | unentered _ _ _ hd =>
      rw [ctx.descend_noMisfit hd] at he
      cases he
    | notFound => cases he
    | unstored hstep hlast hv hs =>
      -- the last element: the text converted for its target was refused by the store
      obtain rfl : rest = [] := List.map_eq_nil_iff.mp hlast
      obtain ⟨hcont, hb⟩ := ctx.legStep_bound hstep
      have hres := ctx.resolve_of_legStep hstep
      obtain ⟨htarget, hfault, hwhere⟩ :=
        ctx.store_misfit hb hcont.symm (ctx.coerce_wellTyped htyped hv).2 hs he
      rw [htarget] at hv
      refine ⟨?_, _, hv, hfault⟩
      rcases hwhere with ⟨es, rfl, hns⟩ | ⟨items, j, old, rfl, hkey, hold, hne⟩
      · -- one text is kept as text, which a table takes
        cases r with
        | one t =>
          cases hv
          exact absurd rfl hns
        | many ts => exact .table hres htarget rfl
      · exact .element hres hkey hold hv hne
    | memberRefused hstep hrest hkind hd hfill hbelow =>
      obtain ⟨hrest', hres⟩ := ctx.resolve_of_legStep_above hstep hrest
      obtain ⟨hrefuses, hw⟩ := writeFrom_refuses htyped hbelow he
      exact ⟨.member hres hrest' hkind hd (ctx.fills_fill hfill) hrefuses, hw⟩
    | memberUnstored hstep _ hkind hd hfill hbelow hs =>
      -- the member has the declared element shape, which the set takes
      obtain ⟨hcont, hb⟩ := ctx.legStep_bound hstep
      have hd₀ := ctx.wellTyped_createMissing hd
      have hd' := ctx.wellTyped_fill hd₀.1
      rw [hfill] at hd'
      have hishape := (ctx.writeFrom_changes hbelow).shape_eq
      obtain ⟨t, ht⟩ := Bound.typed_of_set ctx hb hkind
      have htarget := (ctx.store_misfit hb hcont.symm
        (fun t ht => (Value.shape_withInner _ hishape).trans (hd'.2.trans (hd₀.2 t ht))) hs he).1
      rw [ht] at htarget
      cases htarget
    | entered hstep hrest hkind hd hch hbelow =>
      -- refused below the element entered, with what was missing created
      obtain ⟨hrest', hres⟩ := ctx.resolve_of_legStep_above hstep hrest
      obtain ⟨hrefuses, hw⟩ := writeFrom_refuses htyped hbelow he
      obtain ⟨c₀, hcreate, hentered⟩ := ctx.descend_changes hd
      refine ⟨?_, hw⟩
      rcases hentered with rfl | ⟨x, x', hx, hfill, hfound, rfl⟩
      · exact .enter hres hrest' hkind hcreate hch (.refl _) hrefuses
      · rw [hfound] at hch
        cases hch
        exact .enter hres hrest' hkind hcreate hx hfill hrefuses

/-- **`set` fails because a container refused a value only where `Refuses` says**, along
the path it parsed, and the value refused is the text kept untyped. -/
theorem set_refuses (htyped : ctx.registry.Typed) {root : Value} {path : String} {r : Raw}
    {e : AccessError} (h : (ctx.set root path r).val.2 = .error e)
    (he : e.fault.isMisfit = true) :
    ∃ p w, Path.parse path = .ok p ∧ ctx.Refuses r (p.steps.map (·.segment)) root ∧
      (ctx.coerce .untyped r).run.val = .ok w ∧ e.fault = Fault.misfit .string w := by
  rw [val_set] at h
  cases hp : Path.parse path with
  | error pe =>
    rw [hp] at h
    cases h
    cases he
  | ok p =>
    rw [hp] at h
    dsimp only at h
    rw [val_writeWalk] at h
    split at h
    · cases h
    · have hlegs : p.route.legs = (p.steps.map (·.segment)).map .element := by
        simp [Path.route]
      generalize hw : (ctx.writeFrom p.route.path r 0 .atRoot p.route.legs root).val = w at h
      obtain ⟨root', st, res⟩ := w
      rw [hlegs] at hw
      cases h
      obtain ⟨hrefuses, w, hw', hfault⟩ := ctx.writeFrom_refuses htyped hw he
      exact ⟨p, w, rfl, hrefuses, hw', hfault⟩

end Context

end ValuePaths
