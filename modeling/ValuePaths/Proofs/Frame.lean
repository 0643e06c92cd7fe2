import ValuePaths.Proofs.Store
import ValuePaths.Proofs.PathGrammar
import ValuePaths.Sample.Records

/-!
# What a write changes

A write changes the value it is given only along its path.  On the way down it may create
what is missing: it appends registered defaults at the end of a list (empty text for a list
of no declared element type), adds a registered default under the converted key to a map
that lacks it, and sets the unset `Option` layers of the element it enters to registered
defaults, layer by layer.  Only when it succeeds does it also store the converted text at
the last element, or add one member, built on its own, to the set that a subscript on the
way addresses.  Nothing else is changed or removed: every change goes through the element
that a step of the path addresses.

`Context.Changes` says this as an inductive relation between the value before and after,
one constructor for each way a write can end at an element; `Context.Creates`,
`Context.Fills` and `Context.Stores` are the changes at one container.  A write with the
creation of missing values switched off that fails leaves the value exactly as it was, as
long as each map in it holds each key once (`Value.Distinct`): entering a map entry puts
back the value found under its key, for every entry under that key.

## Main definitions

* `Context.Creates`, `Context.Fills`, `Context.Stores` — the changes at one container.
* `Context.Changes` — the changes a write may make along its path.
* `Value.Distinct` — every map holds each key once.

## Main statements

* `Context.writeFrom_changes` — every write, successful or not, changes only along its path.
* `Context.set_changes` — the same for `set`, and a failed write that creates nothing
  changes nothing.
-/

namespace ValuePaths

section

variable [Catalogue]

open Logged

namespace Value

/-- Every map in a value holds each key once: no lookup finds two of its entries. -/
inductive Distinct : Value → Prop
  | bool (b : Bool) : Distinct (.bool b)
  | char (c : Char) : Distinct (.char c)
  | int (t : IntType) (n : Int) : Distinct (.int t n)
  | f32 (bits : UInt32) : Distinct (.f32 bits)
  | f64 (bits : UInt64) : Distinct (.f64 bits)
  | string (s : String) : Distinct (.string s)
  | record {r : Record} {fields : List Value} (h : ∀ x ∈ fields, Distinct x) :
      Distinct (.record r fields)
  | list {l : ListLayout} {t : Shape} {items : List Value} (h : ∀ x ∈ items, Distinct x) :
      Distinct (.list l t items)
  | untypedList {items : List Value} (h : ∀ x ∈ items, Distinct x) :
      Distinct (.untypedList items)
  | array {t : Shape} {items : List Value} (h : ∀ x ∈ items, Distinct x) :
      Distinct (.array t items)
  | none (t : Shape) : Distinct (.option t none)
  | some {t : Shape} {x : Value} (h : Distinct x) : Distinct (.option t (Option.some x))
  | map {p : Placement} {k v : Shape} {es : List (Value × Value)}
      (once : ∀ a ∈ es, ∀ b ∈ es, ∀ key, same key a.1 → same key b.1 → a = b)
      (keys : ∀ e ∈ es, Distinct e.1) (values : ∀ e ∈ es, Distinct e.2) :
      Distinct (.map p k v es)
  | set {p : Placement} {t : Shape} {ms : List Value} (h : ∀ x ∈ ms, Distinct x) :
      Distinct (.set p t ms)
  | properties (es : List (String × String)) : Distinct (.properties es)

/-- The elements of a value whose maps hold each key once hold each key once too. -/
theorem Distinct.child {c x : Value} {k : Key} (hc : c.Distinct) (h : c.child? k = .some x) :
    x.Distinct := by
  cases hc with
  | record hf =>
    cases k <;> simp only [child?, reduceCtorEq] at h
    obtain ⟨i, -, hx⟩ := Option.bind_eq_some_iff.mp h
    exact hf x (List.mem_of_getElem? hx)
  | list hi =>
    cases k <;> simp only [child?, reduceCtorEq] at h
    exact hi x (List.mem_of_getElem? h)
  | untypedList hi =>
    cases k <;> simp only [child?, reduceCtorEq] at h
    exact hi x (List.mem_of_getElem? h)
  | array hi =>
    cases k <;> simp only [child?, reduceCtorEq] at h
    exact hi x (List.mem_of_getElem? h)
  | map _ _ values =>
    cases k <;> simp only [child?, reduceCtorEq] at h
    obtain ⟨e, he, -, rfl⟩ := Entries.find?_mem h
    exact values e he
  | set hm =>
    cases k <;> simp only [child?, reduceCtorEq] at h
    exact hm x (List.mem_of_find?_eq_some h)
  | properties es =>
    cases k <;> simp only [child?, reduceCtorEq] at h
    obtain ⟨s, -, rfl⟩ := Option.map_eq_some_iff.mp h
    exact .string s
  | _ => cases k <;> simp [child?] at h

omit [Catalogue] in
theorem Distinct.inner {x : Value} (hx : x.Distinct) : x.inner.Distinct := by
  have hx' := hx
  induction hx with
  | some _ ih =>
    cases hx' with
    | some h => exact ih h
  | _ => exact hx'

/-- Putting back what a lookup found changes nothing, when no lookup finds two entries. -/
theorem setChild_self {c x : Value} {k : Key} (hc : c.Distinct) (h : c.child? k = some x) :
    c.setChild k x = c := by
  cases hc with
  | @record r fields _ =>
    cases k <;> simp only [child?, reduceCtorEq] at h
    rename_i name access
    obtain ⟨i, hi, hx⟩ := Option.bind_eq_some_iff.mp h
    obtain ⟨hlt, rfl⟩ := List.getElem?_eq_some_iff.mp hx
    simp [setChild, hi, List.set_getElem_self hlt]
  | list _ =>
    cases k <;> simp only [child?, reduceCtorEq] at h
    obtain ⟨hlt, rfl⟩ := List.getElem?_eq_some_iff.mp h
    simp [setChild, List.set_getElem_self hlt]
  | untypedList _ =>
    cases k <;> simp only [child?, reduceCtorEq] at h
    obtain ⟨hlt, rfl⟩ := List.getElem?_eq_some_iff.mp h
    simp [setChild, List.set_getElem_self hlt]
  | array _ =>
    cases k <;> simp only [child?, reduceCtorEq] at h
    obtain ⟨hlt, rfl⟩ := List.getElem?_eq_some_iff.mp h
    simp [setChild, List.set_getElem_self hlt]
  | @map p kt vt es once _ _ =>
    cases k <;> simp only [child?, reduceCtorEq] at h
    rename_i raw key
    obtain ⟨e₀, he₀, hsame₀, rfl⟩ := Entries.find?_mem h
    -- every entry under the key is the one the lookup found
    have hupdate : Entries.update key e₀.2 es = es := by
      unfold Entries.update
      conv => rhs; rw [← List.map_id es]
      refine List.map_congr_left fun e he => ?_
      split
      · rename_i hsame
        rw [once e he e₀ he₀ key hsame hsame₀]
        rfl
      · rfl
    simp [setChild, hupdate]
  | _ => cases k <;> rfl

omit [Catalogue] in
/-- Putting a value back into the layers it came from gives the value. -/
@[simp] theorem withInner_inner (x : Value) : x.withInner x.inner = x := by
  fun_induction inner x with
  | case1 t v ih => simp [withInner, ih]
  | case2 v hv =>
    unfold withInner
    split
    · rename_i t w
      exact absurd rfl (hv t w)
    · rfl

/-- A second replacement of an element overrides the first. -/
@[simp] theorem setChild_setChild (c : Value) (k : Key) (y z : Value) :
    (c.setChild k y).setChild k z = c.setChild k z := by
  cases c <;> cases k <;> try rfl
  case record.field r fields name access =>
    cases hi : fieldIndex r name <;> simp [setChild, hi]
  case list.index => simp [setChild]
  case untypedList.index => simp [setChild]
  case array.index => simp [setChild]
  case map.member =>
    simp only [setChild, Entries.update, List.map_map]
    congr 1
    refine List.map_congr_left fun e _ => ?_
    split <;> simp_all

end Value

namespace Context

variable (ctx : Context)

/-- What a write creates in a container before it enters or stores at the element a step
addresses: registered defaults appended at the end of a list, or a registered default
added to a map under the key converted from the step's text, when the map lacks it. -/
inductive Creates (step : Step) : Value → Value → Prop
  | same (c : Value) : Creates step c c
  | pad {l : ListLayout} {t : Shape} {items : List Value} {d : Value} (n : Nat)
      (hd : (ctx.createMissing step.target).run.val = .ok d) :
      Creates step (.list l t items) (.list l t (items ++ List.replicate n d))
  | padUntyped {items : List Value} {d : Value} (n : Nat)
      (hd : (ctx.createMissing step.target).run.val = .ok d) :
      Creates step (.untypedList items) (.untypedList (items ++ List.replicate n d))
  | entry {p : Placement} {kt vt : Shape} {es : List (Value × Value)} {raw : String}
      {key d owned : Value} (hkey : step.key = .member raw key)
      (hnone : Entries.find? key es = none)
      (hd : (ctx.createMissing step.target).run.val = .ok d)
      (howned : (ctx.coerce (.typed key.shape) (.one raw)).run.val = .ok owned) :
      Creates step (.map p kt vt es)
        (.map (Entries.add ctx.table p kt vt owned d es).1 kt vt
          (Entries.add ctx.table p kt vt owned d es).2.1)

/-- The unset `Option` layers of a value set to registered defaults, layer by layer from
the outside, as far as a write got. -/
inductive Fills : Value → Value → Prop
  | refl (v : Value) : Fills v v
  | create {t : Shape} {d d' : Value} (hd : (ctx.createMissing (.typed t)).run.val = .ok d)
      (hfill : Fills d d') : Fills (.option t none) (.option t (some d'))
  | layer {t : Shape} {v v' : Value} (hfill : Fills v v') :
      Fills (.option t (some v)) (.option t (some v'))

/-- A value stored at the element a step addresses: in place, at the end of a list, under
the key converted from the step's text in a map, as a member of a set, or under a key of a
text table. -/
inductive Stores (step : Step) (v : Value) : Value → Value → Prop
  | put (c : Value) : Stores step v c (c.setChild step.key v)
  | push {l : ListLayout} {t : Shape} {items : List Value}
      (hkey : step.key = .index items.length) :
      Stores step v (.list l t items) (.list l t (items ++ [v]))
  | pushUntyped {items : List Value} (hkey : step.key = .index items.length) :
      Stores step v (.untypedList items) (.untypedList (items ++ [v]))
  | entry {p : Placement} {kt vt : Shape} {es : List (Value × Value)} {raw : String}
      {key owned : Value} (hkey : step.key = .member raw key)
      (howned : (ctx.coerce (.typed key.shape) (.one raw)).run.val = .ok owned) :
      Stores step v (.map p kt vt es)
        (.map (Entries.add ctx.table p kt vt owned v es).1 kt vt
          (Entries.add ctx.table p kt vt owned v es).2.1)
  | member {p : Placement} {t : Shape} {ms : List Value} :
      Stores step v (.set p t ms)
        (.set (Members.add ctx.table p t v ms).1 t (Members.add ctx.table p t v ms).2.1)
  | text {es : List (String × String)} {k s : String} (hkey : step.key = .text k)
      (hv : v = .string s) : Stores step v (.properties es) (.properties (Table.insert k s es).1)

/-- The changes a write of `r` along `segs` may make to a value `c`, giving `c'`; `ok` tells
whether the write succeeded.  Each step is the resolution of a segment against the shape of
the value it meets.  A write that stops keeps what it created; one that succeeds has stored
at the last element, or added a member built on its own to the set that a subscript
addresses. -/
inductive Changes (r : Raw) : List Segment → Bool → Value → Value → Prop
  /-- The empty path writes nothing. -/
  | done (c : Value) : Changes r [] true c c
  /-- The write stopped before it changed anything here. -/
  | stop (segs : List Segment) (c : Value) : Changes r segs false c c
  /-- The write stopped after creating what was missing in the container. -/
  | created {e : Segment} {rest : List Segment} {c c₀ : Value} {step : Step}
      (hres : (ctx.resolve e c.shape rest.isEmpty).run.val = .ok step)
      (hcreate : ctx.Creates step c c₀) : Changes r (e :: rest) false c c₀
  /-- The text converted for the last element's target and was stored there. -/
  | store {e : Segment} {c c₀ c' v : Value} {step : Step}
      (hres : (ctx.resolve e c.shape true).run.val = .ok step)
      (hcreate : ctx.Creates step c c₀) (hv : (ctx.coerce step.target r).run.val = .ok v)
      (hstore : ctx.Stores step v c₀ c') : Changes r [e] true c c'
  /-- A member built from a registered default and written below was added to a set. -/
  | member {e : Segment} {rest : List Segment} {c c₀ c' d d' inner : Value} {step : Step}
      (hres : (ctx.resolve e c.shape false).run.val = .ok step) (hrest : rest ≠ [])
      (hkind : step.kind = .set) (hd : (ctx.createMissing step.target).run.val = .ok d)
      (hfill : ctx.Fills d d') (hbelow : Changes r rest true d'.inner inner)
      (hcreate : ctx.Creates step c c₀) (hstore : ctx.Stores step (d'.withInner inner) c₀ c') :
      Changes r (e :: rest) true c c'
  /-- The element was entered, its layers filled, and written below. -/
  | enter {e : Segment} {rest : List Segment} {c c₀ x x' inner : Value} {step : Step} {ok : Bool}
      (hres : (ctx.resolve e c.shape false).run.val = .ok step) (hrest : rest ≠ [])
      (hkind : step.kind ≠ .set) (hcreate : ctx.Creates step c c₀)
      (hx : c₀.child? step.key = some x) (hfill : ctx.Fills x x')
      (hbelow : Changes r rest ok x'.inner inner) :
      Changes r (e :: rest) ok c (c₀.setChild step.key (x'.withInner inner))

/-! ## The changes at one container -/

/-- Filling sets unset layers to registered defaults and nothing else. -/
theorem fills_fillAt (s : Shape) : ∀ v : Value, ctx.Fills v (ctx.fillAt s v).val.1 := by
  induction s with
  | option t ih =>
    intro v
    cases v
    case option t' o =>
      cases o with
      | none =>
        rw [val_fillAt_option_none]
        cases hm : (ctx.createMissing (.typed t')).run.val with
        | error f => exact .refl _
        | ok inner => exact .create hm (ih inner)
      | some w =>
        rw [val_fillAt_option_some]
        exact .layer (ih w)
    all_goals exact .refl _
  | _ => exact fun v => .refl v

theorem fills_fill {x x' : Value} {res : Except Fault Unit} (h : (ctx.fill x).val = (x', res)) :
    ctx.Fills x x' := by
  have hfill := ctx.fills_fillAt x.shape x
  unfold fill at h
  rw [h] at hfill
  exact hfill

/-- A padded list is the list, or the list with registered defaults appended. -/
theorem pad_creates {items items' : List Value} {n : Nat} {ty : Shape} {target : Target}
    {res : Except Fault Unit} (h : (ctx.pad items n ty target).val = (items', res)) :
    items' = items ∨ ∃ d m, (ctx.createMissing target).run.val = .ok d ∧
      items' = items ++ List.replicate m d := by
  unfold pad at h
  dsimp only at h
  split at h
  · cases h
    exact .inl rfl
  · split at h
    · cases h
      exact .inl rfl
    · unfold val at h
      rw [run_bind_eq, Oblivious.fst_run (ctx.oblivious_createMissing _)] at h
      cases hm : (ctx.createMissing target).run.val with
      | error f =>
        rw [hm] at h
        cases h
        exact .inl rfl
      | ok d =>
        rw [hm] at h
        cases h
        exact .inr ⟨d, _, rfl, rfl⟩

theorem creates_pad {step : Step} {l : ListLayout} {t : Shape} {items items' : List Value}
    {n : Nat} {ty : Shape} {res : Except Fault Unit}
    (h : (ctx.pad items n ty step.target).val = (items', res)) :
    ctx.Creates step (.list l t items) (.list l t items') := by
  rcases ctx.pad_creates h with rfl | ⟨d, m, hd, rfl⟩
  · exact .same _
  · exact .pad m hd

theorem creates_padUntyped {step : Step} {items items' : List Value} {n : Nat} {ty : Shape}
    {res : Except Fault Unit} (h : (ctx.pad items n ty step.target).val = (items', res)) :
    ctx.Creates step (.untypedList items) (.untypedList items') := by
  rcases ctx.pad_creates h with rfl | ⟨d, m, hd, rfl⟩
  · exact .same _
  · exact .padUntyped m hd

/-- A store that succeeds creates what is missing in the container, then stores the value. -/
theorem Stored.stores {step : Step} {v c c' : Value} (h : ctx.Stored step v c c') :
    ∃ c₀, ctx.Creates step c c₀ ∧ ctx.Stores step v c₀ c' := by
  cases h with
  | field => exact ⟨_, .same _, .put _⟩
  | push hkey hp _ hi => exact ⟨_, ctx.creates_pad hp, .push (by rw [hkey, hi])⟩
  | @put i l t items items' hkey hp =>
    have hput : ctx.Stores step v (.list l t items')
        ((Value.list l t items').setChild step.key v) := .put _
    rw [hkey] at hput
    exact ⟨_, ctx.creates_pad hp, hput⟩
  | pushUntyped hkey hp hnone =>
    have hi := Nat.le_antisymm (ctx.pad_length hp) (List.getElem?_eq_none_iff.mp hnone)
    exact ⟨_, ctx.creates_padUntyped hp, .pushUntyped (by rw [hkey, hi])⟩
  | @putUntyped i items items' old hkey hp =>
    have hput : ctx.Stores step v (.untypedList items')
        ((Value.untypedList items').setChild step.key v) := .put _
    rw [hkey] at hput
    exact ⟨_, ctx.creates_padUntyped hp, hput⟩
  | @array i t items hkey =>
    have hput : ctx.Stores step v (.array t items)
        ((Value.array t items).setChild step.key v) := .put _
    rw [hkey] at hput
    exact ⟨_, .same _, hput⟩
  | entry hkey howned => exact ⟨_, .same _, .entry hkey howned⟩
  | member => exact ⟨_, .same _, .member⟩
  | text hkey hv => exact ⟨_, .same _, .text hkey hv⟩

/-- A store creates what is missing in the container and, when it succeeds, stores the
value; when it fails, what it created is all that changed. -/
theorem store_changes {step : Step} {c c' v : Value} {res : Except Fault Unit}
    (h : (ctx.store step c v).val = (c', res)) :
    ∃ c₀, ctx.Creates step c c₀ ∧ (res = .ok () → ctx.Stores step v c₀ c') ∧
      (res ≠ .ok () → c' = c₀) := by
  cases res with
  | ok u =>
    obtain ⟨c₀, hcreate, hstore⟩ := (ctx.store_ok h).stores
    exact ⟨c₀, hcreate, fun _ => hstore, fun h => absurd rfl h⟩
  | error f =>
    -- a failed store hands back the container, or the list it padded
    suffices hleft : ∃ c₀, ctx.Creates step c c₀ ∧ c' = c₀ by
      obtain ⟨c₀, hcreate, hc'⟩ := hleft
      exact ⟨c₀, hcreate, (fun h => by cases h), fun _ => hc'⟩
    rcases ctx.store_error h with rfl | ⟨i, items, items', -, hp, ⟨l, t, rfl, rfl⟩ | ⟨rfl, rfl⟩⟩
    · exact ⟨_, .same _, rfl⟩
    · exact ⟨_, ctx.creates_pad hp, rfl⟩
    · exact ⟨_, ctx.creates_padUntyped hp, rfl⟩

variable {ctx} in
/-- Opening a container creates what is missing in it. -/
theorem Opens.creates {step : Step} {c c₀ : Value} (ho : ctx.Opens step c c₀) :
    ctx.Creates step c c₀ := by
  cases ho with
  | list _ hp => exact ctx.creates_pad hp
  | untypedList _ hp => exact ctx.creates_padUntyped hp
  | added hkey hnone hfresh howned => exact .entry hkey hnone hfresh howned
  | _ => exact .same _

/-- Entering an element, whatever comes of it, creates what is missing in the container and
at most fills the element's layers and puts it back, where it is found again. -/
theorem descend_changes {step : Step} {c c₁ : Value} {res : Except Fault Unit}
    (h : (ctx.descend step c).val = (c₁, res)) :
    ∃ c₀, ctx.Creates step c c₀ ∧ (c₁ = c₀ ∨ ∃ x x', c₀.child? step.key = some x ∧
      ctx.Fills x x' ∧ (c₀.setChild step.key x').child? step.key = some x' ∧
      c₁ = c₀.setChild step.key x') := by
  rcases ctx.descend_opens h with ⟨-, -, rfl, -⟩ | ⟨c₀, ho, ⟨-, hc₁, -⟩ | ⟨x, hx, rfl, -⟩⟩
  · exact ⟨_, .same _, .inl rfl⟩
  · exact ⟨c₀, ho.creates, .inl hc₁⟩
  · exact ⟨c₀, ho.creates, .inr ⟨x, _, hx, ctx.fills_fill rfl, ho.child?_setChild hx _, rfl⟩⟩

/-! ## The changes along a path -/

/-- Where a write stops at an entry, what the entry created stays, and the element it entered
keeps its filled layers. -/
theorem changes_of_descend {r : Raw} {e : Segment} {rest : List Segment} {c c₁ : Value}
    {step : Step} {res : Except Fault Unit}
    (hres : (ctx.resolve e c.shape false).run.val = .ok step)
    (hrest : rest ≠ []) (hkind : step.kind ≠ .set) (hd : (ctx.descend step c).val = (c₁, res)) :
    ctx.Changes r (e :: rest) false c c₁ := by
  have hres' : (ctx.resolve e c.shape rest.isEmpty).run.val = .ok step := by
    rwa [List.isEmpty_eq_false_iff.mpr hrest]
  obtain ⟨c₀, hcreate, hentered⟩ := ctx.descend_changes hd
  rcases hentered with rfl | ⟨x, x', hx, hfill, -, rfl⟩
  · exact .created hres' hcreate
  · have hc : ctx.Changes r (e :: rest) false c (c₀.setChild step.key (x'.withInner x'.inner)) :=
      .enter hres hrest hkind hcreate hx hfill (.stop _ _)
    rwa [Value.withInner_inner] at hc

/-- **A write changes only along its path.**  Whether it succeeds or not, a write of `r`
along `segs` makes to the value it is given only the changes that `Changes` allows.  By
induction on the path, one case for each way a step of the write can end. -/
theorem writeFrom_changes {path : String} {r : Raw} {segs : List Segment} {i : Nat}
    {state st : WalkState} {c c' : Value} {res : Except AccessError Unit}
    (h : (ctx.writeFrom path r i state (segs.map .element) c).val = (c', st, res)) :
    ctx.Changes r segs res.isOk c c' := by
  induction segs generalizing i state st c c' res with
  | nil =>
    rw [List.map_nil, val_writeFrom_nil] at h
    cases h
    exact .done c
  | cons e rest ih =>
    rw [List.map_cons] at h
    cases ctx.writesLeg h with
    | unresolved | unconverted | uncreated | unfilled | memberRefused => exact .stop _ _
    | stored hstep hlast hv hs =>
      -- the last element: the converted text is stored
      obtain rfl : rest = [] := List.map_eq_nil_iff.mp hlast
      obtain ⟨c₀, hcreate, hstore⟩ := (ctx.store_ok hs).stores
      exact .store (ctx.resolve_of_legStep hstep) hcreate hv hstore
    | unstored hstep _ _ hs | memberUnstored hstep _ _ _ _ _ hs =>
      -- a refused store keeps what it created
      obtain ⟨c₀, hcreate, -, herr⟩ := ctx.store_changes hs
      rw [herr (fun h => by cases h)]
      exact .created (ctx.resolve_of_legStep hstep) hcreate
    | member hstep hrest hkind hd hfill hbelow hs =>
      -- a set member built on its own, written below and added
      obtain ⟨hrest', hres⟩ := ctx.resolve_of_legStep_above hstep hrest
      obtain ⟨c₀, hcreate, hstore⟩ := (ctx.store_ok hs).stores
      exact .member hres hrest' hkind hd (ctx.fills_fill hfill) (ih hbelow) hcreate hstore
    | unentered hstep hrest hkind hd | notFound hstep hrest hkind hd =>
      obtain ⟨hrest', hres⟩ := ctx.resolve_of_legStep_above hstep hrest
      exact ctx.changes_of_descend hres hrest' hkind hd
    | entered hstep hrest hkind hd hch hbelow =>
      -- the element entered and written below
      obtain ⟨hrest', hres⟩ := ctx.resolve_of_legStep_above hstep hrest
      obtain ⟨c₀, hcreate, hentered⟩ := ctx.descend_changes hd
      rcases hentered with rfl | ⟨x, x', hx, hfill, hfound, rfl⟩
      · exact .enter hres hrest' hkind hcreate hch (.refl _) (ih hbelow)
      · rw [hfound] at hch
        cases hch
        rw [Value.setChild_setChild]
        exact .enter hres hrest' hkind hcreate hx hfill (ih hbelow)

/-- `set` changes the value only along the path it is given. -/
theorem changes_set {root : Value} {path : String} {r : Raw} {p : Path}
    (hp : Path.parse path = .ok p) :
    ctx.Changes r (p.steps.map (·.segment)) (ctx.set root path r).val.2.isOk root
      (ctx.set root path r).val.1 := by
  rw [val_set, hp]
  dsimp only
  rw [val_writeWalk]
  split
  · rename_i hempty
    have hsteps : p.steps = [] := by simpa [Path.route] using hempty
    rw [hsteps]
    exact .done root
  · have hlegs : p.route.legs = (p.steps.map (·.segment)).map .element := by
      simp [Path.route]
    generalize hw : (ctx.writeFrom p.route.path r 0 .atRoot p.route.legs root).val = w
    obtain ⟨root', st, res⟩ := w
    rw [hlegs] at hw
    exact ctx.writeFrom_changes hw

/-! ## Writing with the creation of missing values switched off -/

section Off

variable {ctx}
variable (hoff : ctx.options.createMissing = false)
include hoff

theorem createMissing_off (target : Target) {d : Value} :
    (ctx.createMissing target).run.val ≠ .ok d := by
  unfold createMissing
  simp [hoff]

theorem creates_off {step : Step} {c c₀ : Value} (h : ctx.Creates step c c₀) : c₀ = c := by
  cases h with
  | same => rfl
  | pad n hd => exact absurd hd (createMissing_off hoff _)
  | padUntyped n hd => exact absurd hd (createMissing_off hoff _)
  | entry hkey hnone hd howned => exact absurd hd (createMissing_off hoff _)

theorem fills_off {x x' : Value} (h : ctx.Fills x x') : x' = x := by
  induction h with
  | refl => rfl
  | create hd => exact absurd hd (createMissing_off hoff _)
  | layer _ ih => rw [ih]

/-- A failed write that can create nothing changes nothing, when each map holds each key
once. -/
theorem Changes.eq_of_failed {r : Raw} {segs : List Segment} {ok : Bool} {c c' : Value}
    (h : ctx.Changes r segs ok c c') (hok : ok = false) (hc : c.Distinct) : c' = c := by
  induction h with
  | done => cases hok
  | stop => rfl
  | created _ hcreate => exact creates_off hoff hcreate
  | store => cases hok
  | member => cases hok
  | enter _ _ _ hcreate hx hfill _ ih =>
    obtain rfl := creates_off hoff hcreate
    obtain rfl := fills_off hoff hfill
    rw [ih hok (hc.child hx).inner, Value.withInner_inner, Value.setChild_self hc hx]

end Off

/-- **Writes change the root only along their path.**  `set` may create what is missing
along the path (registered defaults appended to lists, added to maps under the converted
key, set in unset `Option` layers), and only when it succeeds does it also store the
converted text at the last element or add one member to the set that a subscript
addresses; nothing else is changed or removed.  With the creation of missing values
switched off, a failed `set` leaves a value whose maps hold each key once as it was. -/
theorem set_changes (root : Value) (path : String) (r : Raw) :
    (∀ p, Path.parse path = .ok p →
      ctx.Changes r (p.steps.map (·.segment)) (ctx.set root path r).val.2.isOk root
        (ctx.set root path r).val.1) ∧
    (ctx.options.createMissing = false → (ctx.set root path r).val.2.isOk = false →
      root.Distinct → (ctx.set root path r).val.1 = root) := by
  refine ⟨fun p hp => ctx.changes_set hp, fun hoff hfail hroot => ?_⟩
  cases hp : Path.parse path with
  | error e =>
    rw [val_set, hp]
  | ok p =>
    exact (ctx.changes_set hp).eq_of_failed hoff hfail hroot

end Context

end

namespace Context

set_option maxRecDepth 4000 in
/-- A text table has no property `a`, and the first of two byte lists has no sixth byte: with
nothing to create, each failed write leaves the value as it was. -/
theorem set_changes_text_table :
    (({ registry := .empty, options := { createMissing := false } } : Context).Changes (.one "x")
        ((Path.steps ⟨"a", [⟨.property "a", 0⟩]⟩).map (·.segment))
        (({ registry := .empty, options := { createMissing := false } } : Context).set
          (.properties []) "a" (.one "x")).val.2.isOk
        (.properties [])
        (({ registry := .empty, options := { createMissing := false } } : Context).set
          (.properties []) "a" (.one "x")).val.1 ∧
      (({ registry := .empty, options := { createMissing := false } } : Context).set
        (.properties []) "a" (.one "x")).val.1 = .properties []) ∧
    let ctx : Context :=
      { registry := (Registry.empty.register
          (.list .contiguous (.list .contiguous (.scalar (.int .u8))))).val,
        options := { createMissing := false } }
    let path := Path.render [.subscript "0", .subscript "5"]
    let root : Value := .list .contiguous (.list .contiguous (.scalar (.int .u8)))
      [.list .contiguous (.scalar (.int .u8)) [.int .u8 1, .int .u8 2],
        .list .contiguous (.scalar (.int .u8)) [.int .u8 3]]
    ctx.Changes (.one "9")
        ((Path.steps ⟨path, Path.place [.subscript "0", .subscript "5"] 0⟩).map (·.segment))
        (ctx.set root path (.one "9")).val.2.isOk root (ctx.set root path (.one "9")).val.1 ∧
      (ctx.set root path (.one "9")).val.1 = root := by
  refine ⟨?_, ?_⟩
  · have hparse : Path.parse "a" = .ok ⟨"a", [⟨.property "a", 0⟩]⟩ := by
      simp [Path.parse, Path.segments, Path.isDelimiter]
    have hfail : (({ registry := .empty, options := { createMissing := false } } : Context).set
        (.properties []) "a" (.one "x")).val.2.isOk = false := by
      rw [val_set, hparse]
      rfl
    exact ⟨(set_changes _ _ _ _).1 _ hparse, (set_changes _ _ _ _).2 rfl hfail (.properties [])⟩
  · intro ctx path root
    have hparse : Path.parse path = .ok ⟨path, Path.place [.subscript "0", .subscript "5"] 0⟩ :=
      Path.parse_render (List.cons_ne_nil _ _) (by decide)
    have hfail : (ctx.set root path (.one "9")).val.2.isOk = false := by
      rw [val_set, hparse]
      rfl
    have hbytes (ns : List Int) : (Value.list .contiguous (.scalar (.int .u8))
        (ns.map (.int .u8))).Distinct :=
      .list fun x hx => by
        obtain ⟨n, -, rfl⟩ := List.mem_map.1 hx
        exact .int _ _
    have hroot : root.Distinct := .list fun x hx => by
      simp only [List.mem_cons, List.not_mem_nil, or_false] at hx
      rcases hx with rfl | rfl
      · exact hbytes [1, 2]
      · exact hbytes [3]
    exact ⟨(set_changes _ _ _ _).1 _ hparse, (set_changes _ _ _ _).2 rfl hfail hroot⟩

end Context

end ValuePaths
