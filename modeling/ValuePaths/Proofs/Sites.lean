import Mathlib
import ValuePaths.Proofs.Alike
import ValuePaths.Proofs.Conversion

/-!
# The sites a path addresses

A path names, element by element, the sites a write goes through: a field by its name, a
list or array element by its index read as a `usize`, a map entry or a set member by its key
converted to the key shape, a text-table entry by its text, and a set member whose key does
not convert by its text too.  `Context.sites` lists them as the write meets them: each
element is resolved against the value the write reaches there, created where it is missing,
so that the sites of a path depend on the value written to only through the shapes met.

Two texts that convert to keys the map's order ties convert to the same key, when the
registry's conversions tie only when equal (`Registry.Faithful`): every container of converted
text holds one converted item.  So the sites of two paths are compared by equality, and two
different sites never meet in one entry.  Two steps
resolved at one container and naming one site are one step, up to the text of a map key.

## Main definitions

* `Site` — what a step addresses in its container.
* `Context.sites`, `Context.address` — the sites a path addresses in a value.

## Main statements

* `Context.coerceTo_one_eq_of_same` — keys converted from text tie only when equal.
* `Context.Bound.apart` — steps bound to one container at different sites are apart.
-/

namespace ValuePaths

open Logged

/-- What a step addresses in its container once its subscript is converted: a field by
name, an element by index, a map entry or set member by its converted key, a text-table
entry (or a set member whose key does not convert) by its text, or the element count. -/
inductive Site where
  | field (name : String)
  | index (i : Nat)
  | key (v : Value)
  | text (raw : String)
  | length

/-- The site a key addresses: a map or set key by its converted value, whatever its text. -/
def Key.site : Key → Site
  | .field name _ => .field name
  | .index i => .index i
  | .member _ v => .key v
  | .text raw => .text raw
  | .length => .length

/-- Two sites that a write at one cannot reach from the other: different sites, and for
keys, keys the order does not tie. -/
def Site.Apart (p q : Site) : Prop :=
  p ≠ q ∧ ∀ a b, p = .key a → q = .key b → Value.same a b = false

namespace Value

variable [Catalogue]

/-- Keys at one site address one element: lookups ignore the text of a key and the access of
a field. -/
theorem child?_congr_site {k k' : Key} (h : k.site = k'.site) (c : Value) :
    c.child? k = c.child? k' := by
  cases k <;> cases k' <;> simp only [Key.site, reduceCtorEq, Site.field.injEq,
    Site.index.injEq, Site.key.injEq, Site.text.injEq] at h <;> (try subst h) <;>
    cases c <;> rfl

end Value

/-! ## Converted keys -/

namespace Value

/-- Lists of scalars of one shape tie only when they are equal. -/
theorem eq_of_cmpList_scalar {k : Scalar} : ∀ {xs ys : List Value},
    (∀ x ∈ xs, x.shape = .scalar k) → (∀ y ∈ ys, y.shape = .scalar k) → cmpList xs ys = .eq →
      xs = ys
  | [], [], _, _, _ => rfl
  | [], _ :: _, _, _, h => by simp [cmpList] at h
  | _ :: _, [], _, _, h => by simp [cmpList] at h
  | x :: xs, y :: ys, hx, hy, h => by
    simp only [cmpList, Ordering.then_eq_eq] at h
    rw [eq_of_same_scalar (hx x List.mem_cons_self) (hy y List.mem_cons_self) (same_iff.mpr h.1),
      eq_of_cmpList_scalar (fun x' hx' => hx x' (List.mem_cons_of_mem _ hx'))
        (fun y' hy' => hy y' (List.mem_cons_of_mem _ hy')) h.2]

end Value

namespace Members

variable (tbl : FixedTable)

/-- A member added to an empty set is its only member. -/
theorem add_nil (p : Placement) (t : Shape) (v : Value) : (add tbl p t v []).2.1 = [v] := by
  cases p with
  | table b slots =>
    unfold add
    dsimp only
    rw [List.zip_nil_right]
    cases hfound : (tbl.insertMember t b [] v).2.2 with
    | some y =>
      have hy := ((tbl.members t).found hfound).2.1
      simp at hy
    | none => exact List.perm_singleton.mp ((tbl.members t).fresh hfound).1
  | tree => rfl
  | hash => rfl

theorem build_singleton (l : Layout) (t : Shape) (v : Value) : (build tbl l t [v]).2 = [v] := by
  simp [build, add_nil]

end Members

theorem Logged.mapM_singleton_ok {α β ε : Type} {f : α → ExceptT ε Logged β}
    (hf : ∀ a, (f a).run.Oblivious) {x : α} {ys : List β} (h : ([x].mapM f).run.val = .ok ys) :
    ∃ y, ys = [y] ∧ (f x).run.val = .ok y := by
  have hlen := length_mapM_ok hf h
  obtain ⟨y, rfl⟩ : ∃ y, ys = [y] := List.length_eq_one_iff.mp hlen
  obtain ⟨x', hx', hy⟩ := mem_mapM_ok hf h y List.mem_cons_self
  rw [List.mem_singleton.mp hx'] at hy
  exact ⟨y, rfl, hy⟩

variable [Catalogue]

namespace Context

variable (ctx : Context)

theorem convertOne_eq_of_same (hfaith : ctx.registry.Faithful) {raw₁ raw₂ : String} {s : Shape}
    {v₁ v₂ : Value} (h₁ : (ctx.convertOne raw₁ s).run.val = .ok v₁)
    (h₂ : (ctx.convertOne raw₂ s).run.val = .ok v₂) (h : Value.same v₁ v₂ = true) : v₁ = v₂ := by
  -- a conversion that succeeds went through the registry's converter for the shape
  have hconv {raw : String} {v : Value} (hv : (ctx.convertOne raw s).run.val = .ok v) :
      ctx.registry.convert raw s = .ok v := by
    unfold convertOne at hv
    split at hv
    · split at hv
      · cases hv
        assumption
      · cases hv
    · split at hv <;> cases hv
  exact hfaith (hconv h₁) (hconv h₂) h

/-- A conversion of one text with no converter for the shape goes through the shape. -/
theorem convertOne_error {raw : String} {s : Shape} {v : Value}
    (hc : ctx.registry.hasConverter s = false) : (ctx.convertOne raw s).run.val ≠ .ok v := by
  unfold convertOne
  simp only [hc, Bool.false_eq_true, if_false]
  split <;> exact fun h => by cases h

theorem coerceTo_one_of_converter {s : Shape} (hc : ctx.registry.hasConverter s = true)
    (raw : String) : ctx.coerceTo s (.one raw) = ctx.convertOne raw s := by
  conv => lhs; unfold coerceTo
  simp only [hc]

/-! What one text converts to for a container shape with no converter of its own: the
container of one item, that text converted for the element shape. -/

section OneText

variable {ctx} {raw : String} {v : Value}

theorem coerceTo_one_option {t : Shape} (hc : ctx.registry.hasConverter (.option t) = false)
    (h : (ctx.coerceTo (.option t) (.one raw)).run.val = .ok v) :
    ∃ w, v = .option t (some w) ∧ (ctx.coerceTo t (.one raw)).run.val = .ok w := by
  rcases coerceTo_option_ok h with ⟨_, -, hc', -⟩ | hw
  · exact absurd (hc.symm.trans hc') (by decide)
  · exact hw

theorem coerceTo_one_list {l : ListLayout} {t : Shape}
    (hc : ctx.registry.hasConverter (.list l t) = false)
    (h : (ctx.coerceTo (.list l t) (.one raw)).run.val = .ok v) :
    ∃ w, v = .list l t [w] ∧ (ctx.coerceTo t (.one raw)).run.val = .ok w := by
  rcases coerceTo_list_ok h with ⟨_, -, hc', -⟩ | ⟨vs, rfl, hvs⟩
  · exact absurd (hc.symm.trans hc') (by decide)
  · obtain ⟨w, rfl, hw⟩ :=
      Logged.mapM_singleton_ok (fun x => ctx.oblivious_coerceTo t (.one x)) hvs
    exact ⟨w, rfl, hw⟩

theorem coerceTo_one_untypedList (hc : ctx.registry.hasConverter .untypedList = false)
    (h : (ctx.coerceTo .untypedList (.one raw)).run.val = .ok v) :
    v = .untypedList [.string raw] := by
  rcases coerceTo_untypedList_ok h with ⟨_, -, hc', -⟩ | ⟨-, rfl⟩
  · exact absurd (hc.symm.trans hc') (by decide)
  · rfl

theorem coerceTo_one_set {l : Layout} {t : Shape}
    (hc : ctx.registry.hasConverter (.set l t) = false)
    (h : (ctx.coerceTo (.set l t) (.one raw)).run.val = .ok v) :
    ∃ w, v = .set (Members.build ctx.table l t [w]).1 t [w] ∧
      (ctx.coerceTo t (.one raw)).run.val = .ok w := by
  rcases coerceTo_set_ok h with ⟨_, -, hc', -⟩ | ⟨vs, rfl, hvs⟩
  · exact absurd (hc.symm.trans hc') (by decide)
  · obtain ⟨w, rfl, hw⟩ :=
      Logged.mapM_singleton_ok (fun x => ctx.oblivious_coerceTo t (.one x)) hvs
    exact ⟨w, by rw [Members.build_singleton], hw⟩

theorem coerceTo_one_array {t : Shape} {n : Nat}
    (hc : ctx.registry.hasConverter (.array t n) = false)
    (h : (ctx.coerceTo (.array t n) (.one raw)).run.val = .ok v) :
    ∃ w, v = .array t [w] ∧ (ctx.coerceTo t (.one raw)).run.val = .ok w := by
  rcases coerceTo_array_ok h with ⟨_, -, hc', -⟩ | ⟨vs, -, rfl, hvs⟩
  · exact absurd (hc.symm.trans hc') (by decide)
  · obtain ⟨w, rfl, hw⟩ :=
      Logged.mapM_singleton_ok (fun x => ctx.oblivious_coerceTo t (.one x)) hvs
    exact ⟨w, rfl, hw⟩

end OneText

/-- **Keys converted from text tie only when equal**: two texts converted for one shape give
values that the order ties only when they are the same value, when the registry's conversions
do.  By induction on the shape: an option, list, set or array made of one text holds one
converted item. -/
theorem coerceTo_one_eq_of_same (hfaith : ctx.registry.Faithful) (s : Shape) :
    ∀ {raw₁ raw₂ : String} {v₁ v₂ : Value},
    (ctx.coerceTo s (.one raw₁)).run.val = .ok v₁ → (ctx.coerceTo s (.one raw₂)).run.val = .ok v₂ →
      Value.same v₁ v₂ = true → v₁ = v₂ := by
  -- a shape with a converter of its own converts through it
  have converted {s : Shape} (hc : ctx.registry.hasConverter s = true) {raw₁ raw₂ : String}
      {v₁ v₂ : Value} (h₁ : (ctx.coerceTo s (.one raw₁)).run.val = .ok v₁)
      (h₂ : (ctx.coerceTo s (.one raw₂)).run.val = .ok v₂) (h : Value.same v₁ v₂ = true) :
      v₁ = v₂ := by
    rw [ctx.coerceTo_one_of_converter hc] at h₁ h₂
    exact ctx.convertOne_eq_of_same hfaith h₁ h₂ h
  induction s with
  | option t ih =>
    intro raw₁ raw₂ v₁ v₂ h₁ h₂ h
    cases hc : ctx.registry.hasConverter (.option t)
    case true => exact converted hc h₁ h₂ h
    case false =>
      obtain ⟨w₁, rfl, hw₁⟩ := coerceTo_one_option hc h₁
      obtain ⟨w₂, rfl, hw₂⟩ := coerceTo_one_option hc h₂
      simp only [Value.same_iff, Value.cmp] at h
      rw [ih hw₁ hw₂ (Value.same_iff.mpr h)]
  | list l t ih =>
    intro raw₁ raw₂ v₁ v₂ h₁ h₂ h
    cases hc : ctx.registry.hasConverter (.list l t)
    case true => exact converted hc h₁ h₂ h
    case false =>
      obtain ⟨w₁, rfl, hw₁⟩ := coerceTo_one_list hc h₁
      obtain ⟨w₂, rfl, hw₂⟩ := coerceTo_one_list hc h₂
      simp only [Value.same_iff, Value.cmp, Value.cmpList, Ordering.then_eq_eq] at h
      rw [ih hw₁ hw₂ (Value.same_iff.mpr h.1)]
  | untypedList =>
    intro raw₁ raw₂ v₁ v₂ h₁ h₂ h
    cases hc : ctx.registry.hasConverter .untypedList
    case true => exact converted hc h₁ h₂ h
    case false =>
      rw [coerceTo_one_untypedList hc h₁, coerceTo_one_untypedList hc h₂] at h ⊢
      simp only [Value.same_iff, Value.cmp] at h
      rw [Value.eq_of_cmpList_scalar (k := .string) (by simp [Value.shape])
        (by simp [Value.shape]) h]
  | set l t ih =>
    intro raw₁ raw₂ v₁ v₂ h₁ h₂ h
    cases hc : ctx.registry.hasConverter (.set l t)
    case true => exact converted hc h₁ h₂ h
    case false =>
      obtain ⟨w₁, rfl, hw₁⟩ := coerceTo_one_set hc h₁
      obtain ⟨w₂, rfl, hw₂⟩ := coerceTo_one_set hc h₂
      simp only [Value.same_iff, Value.cmp, Value.cmpList, Ordering.then_eq_eq] at h
      rw [ih hw₁ hw₂ (Value.same_iff.mpr h.1)]
  | array t n ih =>
    intro raw₁ raw₂ v₁ v₂ h₁ h₂ h
    cases hc : ctx.registry.hasConverter (.array t n)
    case true => exact converted hc h₁ h₂ h
    case false =>
      obtain ⟨w₁, rfl, hw₁⟩ := coerceTo_one_array hc h₁
      obtain ⟨w₂, rfl, hw₂⟩ := coerceTo_one_array hc h₂
      simp only [Value.same_iff, Value.cmp, Value.cmpList, Ordering.then_eq_eq] at h
      rw [ih hw₁ hw₂ (Value.same_iff.mpr h.1)]
  | _ =>
    intro raw₁ raw₂ v₁ v₂ h₁ h₂ h
    cases hc : ctx.registry.hasConverter _
    case true => exact converted hc h₁ h₂ h
    case false =>
      unfold coerceTo at h₁
      simp only [hc] at h₁
      exact absurd h₁ (ctx.convertOne_error hc)

/-! ## Places -/

/-- A default for a target, where one can be made. -/
def missing (target : Target) : Option Value := (ctx.createMissing target).run.val.toOption

/-- The element a write below a step starts from, before its layers are filled: a set member
is built from a default on its own; any other element is the one stored, or a default where
none is. -/
def reach (step : Step) (c : Value) : Option Value :=
  if step.kind = .set then ctx.missing step.target
  else (c.child? step.key).or (ctx.missing step.target)

/-- The sites a write of a path meets in a value: each element is resolved against the value
reached so far, and the write goes on below it into the element it reaches, with the
element's layers filled. -/
def sites (c : Value) : List Segment → List Site
  | [] => []
  | seg :: rest =>
    match (ctx.resolve seg c.shape rest.isEmpty).run.val with
    | .error _ => []
    | .ok step =>
      step.key.site ::
        ((ctx.reach step c).map fun x => sites (ctx.fill x).val.1.inner rest).getD []

/-- The sites a path addresses in a value; a path that does not parse addresses none. -/
def address (root : Value) (path : String) : List Site :=
  match Path.parse path with
  | .ok p => ctx.sites root (p.steps.map (·.segment))
  | .error _ => []

theorem sites_cons {seg : Segment} {rest : List Segment} {c : Value} {step : Step}
    (h : (ctx.resolve seg c.shape rest.isEmpty).run.val = .ok step) :
    ctx.sites c (seg :: rest) = step.key.site ::
      ((ctx.reach step c).map fun x => ctx.sites (ctx.fill x).val.1.inner rest).getD [] := by
  rw [sites, h]

/-- Below a step that reaches an element, the sites go on from that element, filled. -/
theorem sites_cons_of_reach {seg : Segment} {rest : List Segment} {c old : Value} {step : Step}
    (h : (ctx.resolve seg c.shape rest.isEmpty).run.val = .ok step)
    (hreach : ctx.reach step c = some old) :
    ctx.sites c (seg :: rest) = step.key.site :: ctx.sites (ctx.fill old).val.1.inner rest := by
  rw [ctx.sites_cons h, hreach]
  rfl

/-! ## Steps bound to one container -/

section Bound

variable {ctx} {s₁ s₂ : Step}

/-- Steps bound to one container at one site are of one kind and reach one target. -/
theorem Bound.target_eq (h₁ : ctx.Bound s₁) (h₂ : ctx.Bound s₂)
    (hc : s₁.container = s₂.container) (hp : s₁.key.site = s₂.key.site) :
    s₁.kind = s₂.kind ∧ s₁.target = s₂.target := by
  cases h₁ <;> cases h₂ <;> simp only [Key.site, Shape.record.injEq, reduceCtorEq,
    Site.field.injEq, Site.key.injEq, Site.text.injEq] at hc hp <;> try exact ⟨rfl, rfl⟩
  all_goals try (obtain ⟨rfl, rfl⟩ := hc; exact ⟨rfl, rfl⟩)
  -- two fields of one record with one name are one field
  rename_i r f hf r' f' hf'
  subst hc
  rw [hp, hf'] at hf
  cases hf
  exact ⟨rfl, rfl⟩

/-- Steps bound to one container at different sites are apart: two keys converted from text
tie only when they are equal. -/
theorem Bound.apart (hfaith : ctx.registry.Faithful) (h₁ : ctx.Bound s₁) (h₂ : ctx.Bound s₂)
    (hc : s₁.container = s₂.container) (hp : s₁.key.site ≠ s₂.key.site) :
    s₁.key.site.Apart s₂.key.site := by
  refine ⟨hp, fun a b ha hb => ?_⟩
  cases hs : Value.same a b
  · rfl
  -- both keys are conversions of a text for the key shape of one container
  exfalso
  cases h₁ <;> simp only [Key.site, reduceCtorEq, Site.key.injEq] at ha <;>
    cases h₂ <;> simp only [Key.site, reduceCtorEq, Site.key.injEq] at hb <;>
    simp only [Shape.map.injEq, Shape.set.injEq, reduceCtorEq] at hc
  case map.map hkey₁ _ _ _ _ _ hkey₂ =>
    obtain ⟨-, rfl, -⟩ := hc
    subst ha hb
    exact hp (congrArg Site.key (ctx.coerceTo_one_eq_of_same hfaith _ hkey₁ hkey₂ hs))
  case member.member hkey₁ _ _ _ _ hkey₂ =>
    obtain ⟨-, rfl⟩ := hc
    subst ha hb
    exact hp (congrArg Site.key (ctx.coerceTo_one_eq_of_same hfaith _ hkey₁ hkey₂ hs))

end Bound

end Context

end ValuePaths
