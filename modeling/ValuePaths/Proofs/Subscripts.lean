import ValuePaths.Proofs.Bulk
import ValuePaths.Sample.Records

/-!
# Subscripts name elements, not texts

A subscript is text, and the walk uses its text only to find the element it names: the index it
reads as in a list or an array, the key it converts to in a map or a set.  Two paths whose
subscripts name the same elements of the containers the walk meets read the same result, and
write the same value with the same outcome, up to the text of the path in errors and the data of
a fault that names a key by its text.

A text takes part in its conversion only at a converter, so two texts for one shape that both do
not convert fail alike (`Fault.Alike`): with one fault, or with two failed conversions, which a
read takes for an absent element.  Resolution gives two subscripts that name one element steps
alike (`Context.StepAlike`): equal, or keys given by two texts for one converted key, which every
read, entry and store of the walk looks up by the converted key only.

## Main definitions

* `Context.SameSubscript`, `Context.SameSegment` — two path elements that name one element of a
  container.
* `Context.StepAlike`, `Context.EffectAlike`, `Context.WriteAlike` — steps, accesses and writes
  that differ only in the texts of keys.
* `Context.SameElements` — two paths that name the same elements of every container a read or a
  write along them meets.

## Main statements

* `Context.coerceTo_one_error_text` — a failure that is not a conversion is the same for every text.
* `Context.resolve_alike` — resolution of two subscripts that name one element.
* `Context.readFrom_alike`, `Context.writeFrom_alike` — the walks along two alike paths.
* `Context.subscripts_name_elements` — the same for `get` and `set`.
-/

namespace ValuePaths

section

variable [Catalogue]

open Logged

/-- Two faults that the text of a subscript alone may tell apart: one fault, or two failed
conversions of text. -/
def Fault.Alike (f₁ f₂ : Fault) : Prop :=
  f₁ = f₂ ∨ ∃ e₁ e₂, f₁ = .conversion e₁ ∧ f₂ = .conversion e₂

/-- The kind of an access error and the element it blames. -/
def AccessError.kindAt (e : AccessError) : Nat × Option Nat := (e.fault.ctorIdx, e.step)

namespace Fault.Alike

omit [Catalogue]

variable {f₁ f₂ : Fault}

/-- Faults alike read alike: both as an absent element, or neither. -/
theorem readsAsAbsent_eq (h : f₁.Alike f₂) : f₁.readsAsAbsent = f₂.readsAsAbsent := by
  rcases h with rfl | ⟨e₁, e₂, rfl, rfl⟩ <;> rfl

theorem ctorIdx_eq (h : f₁.Alike f₂) : f₁.ctorIdx = f₂.ctorIdx := by
  rcases h with rfl | ⟨e₁, e₂, rfl, rfl⟩ <;> rfl

/-- Faults alike that a read does not take for absence are one fault. -/
theorem eq_of_readsAsAbsent (h : f₁.Alike f₂) (hf : f₁.readsAsAbsent = false) : f₁ = f₂ := by
  rcases h with h | ⟨e₁, e₂, rfl, rfl⟩
  · exact h
  · cases hf

end Fault.Alike

namespace Context

variable (ctx : Context)

/-! ## Where a text takes part in its conversion -/

/-- A converter fails only with a failed conversion of text. -/
theorem convertOne_error_conversion {raw : String} {s : Shape} {f : Fault}
    (h : (ctx.convertOne raw s).run.val = .error f) : ∃ e, f = .conversion e := by
  unfold convertOne at h
  split at h
  · split at h
    · cases h
    · rename_i e _
      cases h
      exact ⟨e, rfl⟩
  · split at h <;> (cases h; exact ⟨_, rfl⟩)

/-- Without a converter of its own, a list, a set or an array takes one text as a bulk
assignment of that text alone. -/
theorem coerceTo_one_collecting {s : Shape} (hconv : ctx.registry.hasConverter s = false)
    (hbare : ∀ t, s ≠ .option t) (hc : s.collects = true) (raw : String) :
    ctx.coerceTo s (.one raw) = ctx.coerceTo s (.many [raw]) := by
  cases s
  case option t => exact absurd rfl (hbare t)
  case list | untypedList | set | array =>
    rw [coerceTo.eq_def, hconv]
    rfl
  all_goals simp [Shape.collects, Shape.unwrap, Shape.kind] at hc

theorem convertEach_singleton (t : Shape) (x : String) :
    ctx.convertEach t [x] = (fun v => [v]) <$> (ctx.coerceTo t (.one x)).run.val := by
  unfold convertEach
  rw [List.mapM_cons, List.mapM_nil]
  cases (ctx.coerceTo t (.one x)).run.val <;> rfl

/-- A container built from one text, after checks that do not look at the text, fails for
another text as it does for this one, unless the conversion of the text for the element shape
failed. -/
theorem error_text_of_each {α : Type} {pre : Except Fault α} {g : List Value → Value}
    {t : Shape} {raw₁ raw₂ : String} {f : Fault}
    (ih : ∀ {f : Fault}, (ctx.coerceTo t (.one raw₁)).run.val = .error f →
      (∃ e, f = .conversion e) ∨ (ctx.coerceTo t (.one raw₂)).run.val = .error f)
    (h : (pre >>= fun _ => g <$> ctx.convertEach t [raw₁]) = .error f) :
    (∃ e, f = .conversion e) ∨ (pre >>= fun _ => g <$> ctx.convertEach t [raw₂]) = .error f := by
  cases pre with
  | error f' =>
    cases h
    exact .inr rfl
  | ok a =>
    rw [convertEach_singleton] at h ⊢
    cases hv : (ctx.coerceTo t (.one raw₁)).run.val with
    | ok v =>
      rw [hv] at h
      cases h
    | error f' =>
      rw [hv] at h
      cases h
      rcases ih hv with hconv | hv₂
      · exact .inl hconv
      · rw [hv₂]
        exact .inr rfl

/-- A text converted by the converter of its shape fails only as a failed conversion. -/
theorem error_conversion_of_converter {s : Shape} (hconv : ctx.registry.hasConverter s = true)
    {raw : String} {f : Fault} (h : (ctx.coerceTo s (.one raw)).run.val = .error f) :
    ∃ e, f = .conversion e := by
  rw [coerceTo_one_of_converter _ hconv] at h
  exact ctx.convertOne_error_conversion h

/-- So does a text for a shape that is no option and collects nothing. -/
theorem error_conversion_bare {s : Shape} (hbare : ∀ t, s ≠ .option t) (hc : s.collects = false)
    {raw : String} {f : Fault} (h : (ctx.coerceTo s (.one raw)).run.val = .error f) :
    ∃ e, f = .conversion e := by
  rw [coerceTo_bare_one hbare hc] at h
  exact ctx.convertOne_error_conversion h

/-- **A text takes part in its conversion only at a converter.**  A conversion of one text
that fails with anything but a failed conversion of text fails so for every text. -/
theorem coerceTo_one_error_text (s : Shape) :
    ∀ {raw₁ : String} (raw₂ : String) {f : Fault}, (ctx.coerceTo s (.one raw₁)).run.val = .error f →
      (∃ e, f = .conversion e) ∨ (ctx.coerceTo s (.one raw₂)).run.val = .error f := by
  -- by the shape: an option converts for its inner shape, a container checks what does not
  -- depend on the text before it converts the text for its element shape
  induction s with
  | option t ih =>
    intro raw₁ raw₂ f h
    cases hconv : ctx.registry.hasConverter (.option t)
    case true => exact .inl (ctx.error_conversion_of_converter hconv h)
    rw [ctx.val_coerceTo_one_option hconv] at h ⊢
    cases hv : (ctx.coerceTo t (.one raw₁)).run.val with
    | ok v =>
      rw [hv] at h
      cases h
    | error f' =>
      rw [hv] at h
      cases h
      rcases ih raw₂ hv with hconv' | hv₂
      · exact .inl hconv'
      · rw [hv₂]
        exact .inr rfl
  | list l t ih =>
    intro raw₁ raw₂ f h
    cases hconv : ctx.registry.hasConverter (.list l t)
    case true => exact .inl (ctx.error_conversion_of_converter hconv h)
    rw [ctx.coerceTo_one_collecting hconv (fun _ h => by cases h) rfl,
      ctx.val_coerceTo_many_list] at h
    rw [ctx.coerceTo_one_collecting hconv (fun _ h => by cases h) rfl, ctx.val_coerceTo_many_list]
    exact ctx.error_text_of_each (ih raw₂) h
  | untypedList =>
    intro raw₁ raw₂ f h
    cases hconv : ctx.registry.hasConverter .untypedList
    case true => exact .inl (ctx.error_conversion_of_converter hconv h)
    rw [ctx.coerceTo_one_collecting hconv (fun _ h => by cases h) rfl,
      ctx.val_coerceTo_many_untypedList] at h
    rw [ctx.coerceTo_one_collecting hconv (fun _ h => by cases h) rfl,
      ctx.val_coerceTo_many_untypedList]
    -- the texts are kept as they are: only the checks can fail
    by_cases hstrict : ctx.options.strictGenerics = true
    · rw [if_pos hstrict] at h ⊢
      exact .inr h
    · rw [if_neg hstrict] at h ⊢
      cases hd : (ctx.instantiate .untypedList).run.val with
      | error f' =>
        rw [hd] at h
        exact .inr h
      | ok d =>
        rw [hd] at h
        cases h
  | set l t ih =>
    intro raw₁ raw₂ f h
    cases hconv : ctx.registry.hasConverter (.set l t)
    case true => exact .inl (ctx.error_conversion_of_converter hconv h)
    rw [ctx.coerceTo_one_collecting hconv (fun _ h => by cases h) rfl,
      ctx.val_coerceTo_many_set] at h
    rw [ctx.coerceTo_one_collecting hconv (fun _ h => by cases h) rfl, ctx.val_coerceTo_many_set]
    exact ctx.error_text_of_each (ih raw₂) h
  | array t n ih =>
    intro raw₁ raw₂ f h
    cases hconv : ctx.registry.hasConverter (.array t n)
    case true => exact .inl (ctx.error_conversion_of_converter hconv h)
    rw [ctx.coerceTo_one_collecting hconv (fun _ h => by cases h) rfl,
      ctx.val_coerceTo_many_array] at h
    rw [ctx.coerceTo_one_collecting hconv (fun _ h => by cases h) rfl,
      ctx.val_coerceTo_many_array]
    simp only [List.length_singleton] at h ⊢
    by_cases hlen : 1 = n
    · rw [if_pos hlen] at h
      rw [if_pos hlen]
      exact ctx.error_text_of_each (ih raw₂) h
    · rw [if_neg hlen] at h
      rw [if_neg hlen]
      exact .inr h
  | _ =>
    -- a scalar, a record, a map or a text table converts the text as it is
    intro raw₁ raw₂ f h
    exact .inl (ctx.error_conversion_bare (fun _ h => by cases h) rfl h)

/-- Two texts for one shape that both do not convert fail alike. -/
theorem coerceTo_one_alike (s : Shape) {raw₁ raw₂ : String} {f₁ f₂ : Fault}
    (h₁ : (ctx.coerceTo s (.one raw₁)).run.val = .error f₁)
    (h₂ : (ctx.coerceTo s (.one raw₂)).run.val = .error f₂) : f₁.Alike f₂ := by
  rcases ctx.coerceTo_one_error_text s raw₂ h₁ with ⟨e₁, rfl⟩ | h₁₂
  · rcases ctx.coerceTo_one_error_text s raw₁ h₂ with ⟨e₂, rfl⟩ | h₂₁
    · exact .inr ⟨e₁, e₂, rfl, rfl⟩
    · rw [h₂₁] at h₁
      cases h₁
      exact .inl rfl
  · rw [h₁₂] at h₂
    cases h₂
    exact .inl rfl

/-! ## Subscripts that name one element -/

/-- Two subscript texts that name one element of a container of shape `s`, under its layers:
of a list or an array, texts that read as one index; of a map or a set, texts that convert to one
key of the key shape, or that both do not convert; of any container, one text. -/
inductive SameSubscript : Shape → String → String → Prop
  | index {s : Shape} {raw₁ raw₂ : String} {n : Int}
      (hkind : s.unwrap.kind = .list ∨ s.unwrap.kind = .array)
      (h₁ : IntType.usize.read raw₁ = .ok n) (h₂ : IntType.usize.read raw₂ = .ok n) :
      SameSubscript s raw₁ raw₂
  | key {s k : Shape} {raw₁ raw₂ : String}
      (hkey : (∃ l v, s.unwrap = .map l k v) ∨ ∃ l, s.unwrap = .set l k)
      (h : (ctx.coerce (.typed k) (.one raw₁)).run.val.toOption =
        (ctx.coerce (.typed k) (.one raw₂)).run.val.toOption) :
      SameSubscript s raw₁ raw₂
  | text (s : Shape) (raw : String) : SameSubscript s raw raw

/-- Two path elements that name one element of a container of shape `s`: one element, or two
subscripts that name one element. -/
def SameSegment (s : Shape) (e₁ e₂ : Segment) : Prop :=
  e₁ = e₂ ∨ ∃ raw₁ raw₂, e₁ = .subscript raw₁ ∧ e₂ = .subscript raw₂ ∧ ctx.SameSubscript s raw₁ raw₂

/-- Two steps that bind one element: one step, or a key given by two texts that convert to one
value, or a set member given by two texts that do not convert. -/
inductive StepAlike : Step → Step → Prop
  | refl (step : Step) : StepAlike step step
  | member {kind : StepKind} {container : Shape} {target : Target} {raw₁ raw₂ : String}
      {v : Value} (h₁ : (ctx.coerce (.typed v.shape) (.one raw₁)).run.val = .ok v)
      (h₂ : (ctx.coerce (.typed v.shape) (.one raw₂)).run.val = .ok v) :
      StepAlike ⟨kind, .member raw₁ v, container, target⟩ ⟨kind, .member raw₂ v, container, target⟩
  | text {l : Layout} {t : Shape} {target : Target} {raw₁ raw₂ : String} :
      StepAlike ⟨.set, .text raw₁, .set l t, target⟩ ⟨.set, .text raw₂, .set l t, target⟩

/-- Two resolutions alike: to steps alike, or to faults alike. -/
inductive ResolvedAlike : Except Fault Step → Except Fault Step → Prop
  | ok {step₁ step₂ : Step} (h : ctx.StepAlike step₁ step₂) : ResolvedAlike (.ok step₁) (.ok step₂)
  | error {f₁ f₂ : Fault} (h : f₁.Alike f₂) : ResolvedAlike (.error f₁) (.error f₂)

theorem resolvedAlike_refl (x : Except Fault Step) : ctx.ResolvedAlike x x := by
  cases x with
  | ok step => exact .ok (.refl step)
  | error f => exact .error (.inl rfl)

/-! ## Resolving a subscript -/

theorem val_resolve_list {s : Shape} {l : ListLayout} {t : Shape} (hs : s.unwrap = .list l t)
    (raw : String) (isLast : Bool) :
    (ctx.resolve (.subscript raw) s isLast).run.val =
      ((IntType.usize.read raw).mapError fun f =>
          Fault.convert raw .usize (.unreadable f.message)).map
        fun i => ⟨.list, .index i.toNat, .list l t, .typed t⟩ := by
  rw [← ctx.resolve_unwrap, hs]
  unfold resolve
  conv => lhs; simp only [Shape.unwrap, val, ExceptT.run_bind, run_bind_eq]
  rw [Oblivious.fst_run (ctx.oblivious_elementTargets _), val_elementTargets]
  simp only [ExceptT.run_bind, run_bind_eq]
  cases IntType.usize.read raw <;> rfl

theorem val_resolve_untypedList {s : Shape} (hs : s.unwrap = .untypedList) (raw : String)
    (isLast : Bool) :
    (ctx.resolve (.subscript raw) s isLast).run.val =
      if ctx.options.strictGenerics then .error (.undeclared .untypedList)
      else ((IntType.usize.read raw).mapError fun f =>
          Fault.convert raw .usize (.unreadable f.message)).map
        fun i => ⟨.list, .index i.toNat, .untypedList, .untyped⟩ := by
  rw [← ctx.resolve_unwrap, hs]
  unfold resolve
  conv => lhs; simp only [Shape.unwrap, val, ExceptT.run_bind, run_bind_eq]
  rw [Oblivious.fst_run (ctx.oblivious_elementTargets _), val_elementTargets]
  cases ctx.options.strictGenerics
  · cases IntType.usize.read raw <;> rfl
  · rfl

theorem val_resolve_array {s : Shape} {t : Shape} {n : Nat} (hs : s.unwrap = .array t n)
    (raw : String) (isLast : Bool) :
    (ctx.resolve (.subscript raw) s isLast).run.val =
      ((IntType.usize.read raw).mapError fun f =>
          Fault.convert raw .usize (.unreadable f.message)).map
        fun i => ⟨.array, .index i.toNat, .array t n, .typed t⟩ := by
  rw [← ctx.resolve_unwrap, hs]
  unfold resolve
  conv => lhs; simp only [Shape.unwrap, val, ExceptT.run_bind, run_bind_eq]
  rw [Oblivious.fst_run (ctx.oblivious_elementTargets _), val_elementTargets]
  simp only [ExceptT.run_bind, run_bind_eq]
  cases IntType.usize.read raw <;> rfl

theorem val_resolve_map {s : Shape} {l : Layout} {k v : Shape} (hs : s.unwrap = .map l k v)
    (raw : String) (isLast : Bool) :
    (ctx.resolve (.subscript raw) s isLast).run.val =
      (ctx.coerce (.typed k) (.one raw)).run.val.map
        fun w => ⟨.map, .member raw w, .map l k v, .typed v⟩ := by
  rw [← ctx.resolve_unwrap, hs]
  unfold resolve
  conv => lhs; simp only [Shape.unwrap, val, ExceptT.run_bind, run_bind_eq]
  rw [Oblivious.fst_run (ctx.oblivious_elementTargets _), val_elementTargets]
  simp only [ExceptT.run_bind, run_bind_eq]
  rw [Oblivious.fst_run (ctx.oblivious_coerce _ _)]
  cases (ctx.coerce (.typed k) (.one raw)).run.val <;> rfl

/-- A subscript of a list or an array names its element by the index its text reads as. -/
theorem resolve_index_text {s : Shape} {raw₁ raw₂ : String} {n : Int}
    (hkind : s.unwrap.kind = .list ∨ s.unwrap.kind = .array)
    (h₁ : IntType.usize.read raw₁ = .ok n) (h₂ : IntType.usize.read raw₂ = .ok n)
    (isLast : Bool) :
    (ctx.resolve (.subscript raw₁) s isLast).run.val =
      (ctx.resolve (.subscript raw₂) s isLast).run.val := by
  cases hs : s.unwrap
  case list l t => rw [ctx.val_resolve_list hs, ctx.val_resolve_list hs, h₁, h₂]; rfl
  case untypedList =>
    rw [ctx.val_resolve_untypedList hs, ctx.val_resolve_untypedList hs, h₁, h₂]
    rfl
  case array t m => rw [ctx.val_resolve_array hs, ctx.val_resolve_array hs, h₁, h₂]; rfl
  all_goals simp [hs, Shape.kind] at hkind

/-- A subscript of a map or a set names its element by the key its text converts to; texts
that both do not convert fail alike for a map and name no member of a set. -/
theorem resolve_key_alike (hsound : ctx.registry.Sound) {s k : Shape} {raw₁ raw₂ : String}
    (hkey : (∃ l v, s.unwrap = .map l k v) ∨ ∃ l, s.unwrap = .set l k)
    (h : (ctx.coerce (.typed k) (.one raw₁)).run.val.toOption =
      (ctx.coerce (.typed k) (.one raw₂)).run.val.toOption) (isLast : Bool) :
    ctx.ResolvedAlike (ctx.resolve (.subscript raw₁) s isLast).run.val
      (ctx.resolve (.subscript raw₂) s isLast).run.val := by
  cases hv₁ : (ctx.coerce (.typed k) (.one raw₁)).run.val <;>
    cases hv₂ : (ctx.coerce (.typed k) (.one raw₂)).run.val <;>
    rw [hv₁, hv₂] at h <;> simp only [Except.toOption, Option.some.injEq, reduceCtorEq] at h
  case error.error f₁ f₂ =>
    rcases hkey with ⟨l, v, hs⟩ | ⟨l, hs⟩
    · rw [ctx.val_resolve_map hs, ctx.val_resolve_map hs, hv₁, hv₂]
      exact .error (ctx.coerceTo_one_alike k hv₁ hv₂)
    · rw [← ctx.resolve_unwrap (.subscript raw₁), ← ctx.resolve_unwrap (.subscript raw₂), hs,
        resolve_set_subscript, resolve_set_subscript]
      simp only [memberKey, hv₁, hv₂, Except.toOption, Option.map_none, Option.getD_none]
      exact .ok .text
  case ok.ok w₁ w₂ =>
    subst h
    -- the converted key has the key shape, so a conversion for its own shape gives it again
    have hshape : w₁.shape = k := ctx.coerce_typed_shape hsound hv₁
    have h₁ : (ctx.coerce (.typed w₁.shape) (.one raw₁)).run.val = .ok w₁ := by
      rw [hshape]
      exact hv₁
    have h₂ : (ctx.coerce (.typed w₁.shape) (.one raw₂)).run.val = .ok w₁ := by
      rw [hshape]
      exact hv₂
    rcases hkey with ⟨l, v, hs⟩ | ⟨l, hs⟩
    · rw [ctx.val_resolve_map hs, ctx.val_resolve_map hs, hv₁, hv₂]
      exact .ok (.member h₁ h₂)
    · rw [← ctx.resolve_unwrap (.subscript raw₁), ← ctx.resolve_unwrap (.subscript raw₂), hs,
        resolve_set_subscript, resolve_set_subscript]
      simp only [memberKey, hv₁, hv₂, Except.toOption, Option.map_some, Option.getD_some]
      exact .ok (.member h₁ h₂)

/-- **Two path elements that name one element resolve alike**: to steps alike, or to faults
alike. -/
theorem resolve_alike (hsound : ctx.registry.Sound) {s : Shape} {e₁ e₂ : Segment}
    (he : ctx.SameSegment s e₁ e₂) (isLast : Bool) :
    ctx.ResolvedAlike (ctx.resolve e₁ s isLast).run.val (ctx.resolve e₂ s isLast).run.val := by
  rcases he with rfl | ⟨raw₁, raw₂, rfl, rfl, hsub⟩
  · exact ctx.resolvedAlike_refl _
  cases hsub with
  | index hkind h₁ h₂ =>
    rw [ctx.resolve_index_text hkind h₁ h₂]
    exact ctx.resolvedAlike_refl _
  | key hkey h => exact ctx.resolve_key_alike hsound hkey h isLast
  | text => exact ctx.resolvedAlike_refl _

/-! ## One step -/

section Steps

variable {ctx}

/-- Steps alike find one element of any value. -/
theorem StepAlike.child?_eq {s₁ s₂ : Step} (h : ctx.StepAlike s₁ s₂) {c : Value}
    (hs : s₁.container = c.shape.unwrap) : c.child? s₁.key = c.child? s₂.key := by
  cases h with
  | refl => rfl
  | member => cases c <;> rfl
  | text =>
    cases c <;> first | rfl | simp [Value.shape, Shape.unwrap] at hs

/-- Steps alike replace one element of any value. -/
theorem StepAlike.setChild_eq {s₁ s₂ : Step} (h : ctx.StepAlike s₁ s₂) (c w : Value) :
    c.setChild s₁.key w = c.setChild s₂.key w := by
  cases h with
  | refl => rfl
  | member => cases c <;> rfl
  | text => cases c <;> rfl

/-- Entering an element at steps alike leaves one value, and fails, when it fails, with faults
of one kind. -/
theorem StepAlike.descend_eq {s₁ s₂ : Step} (h : ctx.StepAlike s₁ s₂) (c : Value) :
    (ctx.descend s₁ c).val.1 = (ctx.descend s₂ c).val.1 ∧
      (ctx.descend s₁ c).val.2.mapError Fault.ctorIdx =
        (ctx.descend s₂ c).val.2.mapError Fault.ctorIdx := by
  cases h with
  | refl => exact ⟨rfl, rfl⟩
  | @member kind container target raw₁ raw₂ v h₁ h₂ =>
    cases c
    case map l kt vt es =>
      unfold descend
      simp only [Value.child?, Value.setChild]
      cases hf : Entries.find? v es with
      | some x =>
        -- the entry is there: it is entered under the converted key
        exact ⟨rfl, rfl⟩
      | none =>
        -- it is created and added under the key that both texts convert to again
        unfold val
        rw [run_bind_eq, run_bind_eq, Oblivious.fst_run (ctx.oblivious_createMissing _)]
        cases (ctx.createMissing target).run.val with
        | error f => exact ⟨rfl, rfl⟩
        | ok fresh =>
          dsimp only
          rw [run_bind_eq, run_bind_eq, Oblivious.fst_run (ctx.oblivious_coerce _ _),
            Oblivious.fst_run (ctx.oblivious_coerce _ _), h₁, h₂]
          dsimp only
          cases Entries.find? v (Entries.add ctx.table l kt vt v fresh es).2.1 with
          | none => exact ⟨rfl, rfl⟩
          | some child =>
            dsimp only
            rw [run_bind_eq, run_bind_eq, Oblivious.fst_run (ctx.oblivious_fill _),
              Oblivious.fst_run (ctx.oblivious_fill _)]
            exact ⟨rfl, rfl⟩
    all_goals exact ⟨rfl, rfl⟩
  | text => cases c <;> exact ⟨rfl, rfl⟩

/-- Storing at steps alike leaves one value, and fails, when it fails, with faults of one
kind. -/
theorem StepAlike.store_eq {s₁ s₂ : Step} (h : ctx.StepAlike s₁ s₂) {c : Value}
    (hs : s₁.container = c.shape.unwrap) (v : Value) :
    (ctx.store s₁ c v).val.1 = (ctx.store s₂ c v).val.1 ∧
      (ctx.store s₁ c v).val.2.mapError Fault.ctorIdx =
        (ctx.store s₂ c v).val.2.mapError Fault.ctorIdx := by
  cases h with
  | refl => exact ⟨rfl, rfl⟩
  | @member kind container target raw₁ raw₂ w h₁ h₂ =>
    cases c
    case map l kt vt es =>
      -- the entry is stored under the key that both texts convert to again
      unfold store
      dsimp only
      unfold val
      rw [run_bind_eq, run_bind_eq, Oblivious.fst_run (ctx.oblivious_coerce _ _),
        Oblivious.fst_run (ctx.oblivious_coerce _ _), h₁, h₂]
      exact ⟨rfl, rfl⟩
    all_goals exact ⟨rfl, rfl⟩
  | text =>
    -- a text table is the one container that stores under a text, and a set is none
    cases c <;> first | exact ⟨rfl, rfl⟩ | simp [Value.shape, Shape.unwrap] at hs

/-- Steps alike read one element of a well-typed value. -/
theorem StepAlike.read_eq {s₁ s₂ : Step} (h : ctx.StepAlike s₁ s₂) {c : Value}
    (hc : c.WellTyped) (hs : s₁.container = c.shape.unwrap) : s₁.read c = s₂.read c := by
  cases h with
  | refl => rfl
  | @member kind container target raw₁ raw₂ w h₁ h₂ =>
    have hchild : ∀ p : Value, p.child? (.member raw₁ w) = p.child? (.member raw₂ w) :=
      fun p => by cases p <;> rfl
    simp only [Step.read, hchild]
  | @text l t target raw₁ raw₂ =>
    -- under its layers the container is a set, which holds nothing under a text
    unfold Step.read
    cases hp : c.present with
    | none => rfl
    | some p =>
      have hps : p.shape = .set l t := (hc.present hp).2.trans hs.symm
      cases p <;> first | rfl | cases hps

theorem StepAlike.kind_eq {s₁ s₂ : Step} (h : ctx.StepAlike s₁ s₂) : s₁.kind = s₂.kind := by
  cases h <;> rfl

theorem StepAlike.target_eq {s₁ s₂ : Step} (h : ctx.StepAlike s₁ s₂) :
    s₁.target = s₂.target := by
  cases h <;> rfl

end Steps

/-- Two accesses alike: they leave one value, and fail, when they fail, with faults of one
kind. -/
inductive EffectAlike : Value × Except Fault Unit → Value × Except Fault Unit → Prop
  | ok (c : Value) : EffectAlike (c, .ok ()) (c, .ok ())
  | error (c : Value) {f₁ f₂ : Fault} (h : f₁.ctorIdx = f₂.ctorIdx) :
      EffectAlike (c, .error f₁) (c, .error f₂)

omit [Catalogue] in
theorem EffectAlike.of_eq {a₁ a₂ : Value × Except Fault Unit}
    (h : a₁.1 = a₂.1 ∧ a₁.2.mapError Fault.ctorIdx = a₂.2.mapError Fault.ctorIdx) :
    EffectAlike a₁ a₂ := by
  obtain ⟨c, x₁⟩ := a₁
  obtain ⟨c', x₂⟩ := a₂
  obtain ⟨rfl, hf⟩ := h
  cases x₁ <;> cases x₂ <;> simp only [Except.mapError, Except.error.injEq, reduceCtorEq] at hf
  case error.error f₁ f₂ => exact .error c hf
  case ok.ok => exact .ok c

/-- Two writes alike: they leave one value and end in one state, and fail, when they fail,
with errors of one kind at one element. -/
inductive WriteAlike : Value × Outcome → Value × Outcome → Prop
  | ok (c : Value) (st : WalkState) : WriteAlike (c, st, .ok ()) (c, st, .ok ())
  | error (c : Value) (st : WalkState) {e₁ e₂ : AccessError} (h : e₁.kindAt = e₂.kindAt) :
      WriteAlike (c, st, .error e₁) (c, st, .error e₂)

namespace WriteAlike

omit [Catalogue]

variable {w₁ w₂ : Value × Outcome}

theorem value_eq (h : WriteAlike w₁ w₂) : w₁.1 = w₂.1 := by
  cases h <;> rfl

theorem kindAt_eq (h : WriteAlike w₁ w₂) :
    w₁.2.2.mapError AccessError.kindAt = w₂.2.2.mapError AccessError.kindAt := by
  cases h with
  | ok => rfl
  | error c st he => simp only [Except.mapError, he]

/-- What a write below leaves, put back in place alike. -/
theorem map (f : Value → Value) (h : WriteAlike w₁ w₂) :
    WriteAlike (f w₁.1, w₁.2) (f w₂.1, w₂.2) := by
  cases h with
  | ok c st => exact .ok (f c) st
  | error c st he => exact .error (f c) st he

end WriteAlike

/-! ## Walks along paths that name one element -/

/-- Where a write goes on from `c` at a step: into the member it builds for a set, or into the
element it enters in place, each under its set layers. -/
inductive Enters (step : Step) (c : Value) : Value → Prop
  | member {fresh d : Value} (hk : step.kind = .set)
      (hfresh : (ctx.createMissing step.target).run.val = .ok fresh)
      (hfill : (ctx.fill fresh).val = (d, .ok ())) : Enters step c d.inner
  | element {c₁ x : Value} (hk : step.kind ≠ .set)
      (hdesc : (ctx.descend step c).val = (c₁, .ok ())) (hx : c₁.child? step.key = some x) :
      Enters step c x.inner

/-- Two paths that name the same elements of every container that a read or a write along
them meets from `c` on: at each container, path elements that name one element of it, and
after them as many elements still to come. -/
inductive SameElements : Value → List Segment → List Segment → Prop
  | nil (c : Value) : SameElements c [] []
  | cons {c : Value} {e₁ e₂ : Segment} {rest₁ rest₂ : List Segment}
      (he : ctx.SameSegment c.shape e₁ e₂) (hlen : rest₁.length = rest₂.length)
      (hrest : ∀ step x, (ctx.resolve e₁ c.shape rest₁.isEmpty).run.val = .ok step →
        step.read c = some (.value x) ∨ ctx.Enters step c x → SameElements x rest₁ rest₂) :
      SameElements c (e₁ :: rest₁) (e₂ :: rest₂)

omit [Catalogue] in
theorem isEmpty_eq_of_length {α : Type} {l₁ l₂ : List α} (h : l₁.length = l₂.length) :
    l₁.isEmpty = l₂.isEmpty :=
  Bool.eq_iff_iff.mpr (by rw [List.isEmpty_iff_length_eq_zero, List.isEmpty_iff_length_eq_zero, h])

theorem SameElements.length_eq {c : Value} {segs₁ segs₂ : List Segment}
    (h : ctx.SameElements c segs₁ segs₂) : segs₁.length = segs₂.length := by
  cases h with
  | nil => rfl
  | cons _ hlen _ => simp [hlen]

/-- **A read along two paths that name one element of each container it meets** reads one
result, and fails, when it fails, with one fault at one element.  A refusal that the two texts
of a subscript tell apart is a failed conversion, which both reads take for absence. -/
theorem readFrom_alike (hsound : ctx.registry.Sound) {c : Value} {segs₁ segs₂ : List Segment}
    (h : ctx.SameElements c segs₁ segs₂) (hc : c.WellTyped) (path₁ path₂ : String) :
    ∀ (i : Nat) (state : WalkState),
      (ctx.readFrom path₂ i state (segs₂.map .element) c).val =
        (ctx.readFrom path₁ i state (segs₁.map .element) c).val.mapError
          ({ · with path := path₂ }) := by
  -- by the walk: the read resolves alike at each container and goes on into one element,
  -- which is well typed again
  induction h with
  | nil c => exact fun _ _ => rfl
  | @cons c e₁ e₂ rest₁ rest₂ he hlen hrest ih =>
    intro i state
    rw [List.map_cons, List.map_cons, val_readFrom_cons, val_readFrom_cons]
    simp only [legStep, List.isEmpty_map, ← isEmpty_eq_of_length hlen]
    have hra := ctx.resolve_alike hsound he rest₁.isEmpty
    generalize hx₁ : (ctx.resolve e₁ c.shape rest₁.isEmpty).run.val = x₁ at hra ⊢
    generalize (ctx.resolve e₂ c.shape rest₁.isEmpty).run.val = x₂ at hra ⊢
    cases hra with
    | @error f₁ f₂ hf =>
      dsimp only
      cases habs : f₁.readsAsAbsent
      · rw [← hf.eq_of_readsAsAbsent habs, habs]
        rfl
      · rw [← hf.readsAsAbsent_eq, habs]
        rfl
    | @ok s₁ s₂ hst =>
      dsimp only
      obtain ⟨hcont, hb⟩ := ctx.resolve_bound hx₁
      rw [← hst.read_eq hc hcont, ← hst.kind_eq]
      cases hread : s₁.read c with
      | none => rfl
      | some found =>
        cases found with
        | value x => exact ih s₁ x hx₁ (.inl hread) (hc.read hb hcont hread) (i + 1) _
        | count n => rfl

section Write

variable {path₁ path₂ : String} {r : Raw} {i : Nat} {state : WalkState} {c : Value}
  {e₁ e₂ : Segment} {rest₁ rest₂ : List Segment} {s₁ s₂ : Step}

/-- A write whose first elements resolve to faults of one kind fails alike. -/
theorem writeFrom_refused_alike {f₁ f₂ : Fault} (hf : f₁.ctorIdx = f₂.ctorIdx)
    (hlen : rest₁.length = rest₂.length)
    (hx₁ : (ctx.resolve e₁ c.shape rest₁.isEmpty).run.val = .error f₁)
    (hx₂ : (ctx.resolve e₂ c.shape rest₁.isEmpty).run.val = .error f₂) :
    WriteAlike (ctx.writeFrom path₁ r i state (.element e₁ :: rest₁.map .element) c).val
      (ctx.writeFrom path₂ r i state (.element e₂ :: rest₂.map .element) c).val := by
  rw [val_writeFrom_cons, val_writeFrom_cons]
  simp only [legStep, List.isEmpty_map, ← isEmpty_eq_of_length hlen, hx₁, hx₂]
  exact .error c .error (Prod.ext hf rfl)

/-- The last element, at steps alike: the converted text is stored alike. -/
theorem writeFrom_last_alike (hst : ctx.StepAlike s₁ s₂) (hlen : rest₁.length = rest₂.length)
    (hlast : rest₁.isEmpty = true)
    (hx₁ : (ctx.resolve e₁ c.shape rest₁.isEmpty).run.val = .ok s₁)
    (hx₂ : (ctx.resolve e₂ c.shape rest₁.isEmpty).run.val = .ok s₂) :
    WriteAlike (ctx.writeFrom path₁ r i state (.element e₁ :: rest₁.map .element) c).val
      (ctx.writeFrom path₂ r i state (.element e₂ :: rest₂.map .element) c).val := by
  have hcont := (ctx.resolve_bound hx₁).1
  rw [val_writeFrom_cons, val_writeFrom_cons]
  simp only [legStep, List.isEmpty_map, ← isEmpty_eq_of_length hlen, hx₁, hx₂]
  simp only [hlast, if_true, ← hst.target_eq]
  cases (ctx.coerce s₁.target r).run.val with
  | error f => exact .error c .error rfl
  | ok v =>
    dsimp only
    have hstore := EffectAlike.of_eq (hst.store_eq hcont v)
    generalize (ctx.store s₁ c v).val = a₁ at hstore ⊢
    generalize (ctx.store s₂ c v).val = a₂ at hstore ⊢
    cases hstore with
    | ok c' => exact .ok c' .atLeaf
    | error c' hf => exact .error c' .error (Prod.ext hf rfl)

/-- A set member, at steps alike with more to come: it is built on its own, written below
alike, and stored whole alike. -/
theorem writeFrom_member_alike (hst : ctx.StepAlike s₁ s₂) (hlen : rest₁.length = rest₂.length)
    (hmore : rest₁.isEmpty = false) (hset : (s₁.kind == .set) = true)
    (hx₁ : (ctx.resolve e₁ c.shape rest₁.isEmpty).run.val = .ok s₁)
    (hx₂ : (ctx.resolve e₂ c.shape rest₁.isEmpty).run.val = .ok s₂)
    (below : ∀ x, ctx.Enters s₁ c x → ∀ i state,
      WriteAlike (ctx.writeFrom path₁ r i state (rest₁.map .element) x).val
        (ctx.writeFrom path₂ r i state (rest₂.map .element) x).val) :
    WriteAlike (ctx.writeFrom path₁ r i state (.element e₁ :: rest₁.map .element) c).val
      (ctx.writeFrom path₂ r i state (.element e₂ :: rest₂.map .element) c).val := by
  have hcont := (ctx.resolve_bound hx₁).1
  rw [val_writeFrom_cons, val_writeFrom_cons]
  simp only [legStep, List.isEmpty_map, ← isEmpty_eq_of_length hlen, hx₁, hx₂]
  simp only [hmore, Bool.false_eq_true, if_false, ← hst.kind_eq, ← hst.target_eq, hset, if_true]
  cases hfresh : (ctx.createMissing s₁.target).run.val with
  | error f => exact .error c .error rfl
  | ok fresh =>
    dsimp only
    generalize hfill : (ctx.fill fresh).val = filled
    obtain ⟨d, res⟩ := filled
    cases res with
    | error f => exact .error c .error rfl
    | ok u =>
      dsimp only
      have hbelow := below d.inner (.member (by simpa using hset) hfresh hfill) (i + 1)
        (.applying s₁.kind)
      generalize (ctx.writeFrom path₁ r (i + 1) (.applying s₁.kind) (rest₁.map .element)
        d.inner).val = b₁ at hbelow ⊢
      generalize (ctx.writeFrom path₂ r (i + 1) (.applying s₁.kind) (rest₂.map .element)
        d.inner).val = b₂ at hbelow ⊢
      -- what the write below leaves is stored whole, unless it failed
      cases hbelow with
      | error w st he => exact .error c st he
      | ok w st =>
        dsimp only
        have hstore := EffectAlike.of_eq (hst.store_eq hcont (d.withInner w))
        generalize (ctx.store s₁ c (d.withInner w)).val = a₁ at hstore ⊢
        generalize (ctx.store s₂ c (d.withInner w)).val = a₂ at hstore ⊢
        cases hstore with
        | ok c' => exact .ok c' st
        | error c' hf => exact .error c' .error (Prod.ext hf rfl)

/-- Any other element, at steps alike with more to come: it is entered in place alike and
written below alike. -/
theorem writeFrom_enter_alike (hst : ctx.StepAlike s₁ s₂) (hlen : rest₁.length = rest₂.length)
    (hmore : rest₁.isEmpty = false) (hset : (s₁.kind == .set) = false)
    (hx₁ : (ctx.resolve e₁ c.shape rest₁.isEmpty).run.val = .ok s₁)
    (hx₂ : (ctx.resolve e₂ c.shape rest₁.isEmpty).run.val = .ok s₂)
    (below : ∀ x, ctx.Enters s₁ c x → ∀ i state,
      WriteAlike (ctx.writeFrom path₁ r i state (rest₁.map .element) x).val
        (ctx.writeFrom path₂ r i state (rest₂.map .element) x).val) :
    WriteAlike (ctx.writeFrom path₁ r i state (.element e₁ :: rest₁.map .element) c).val
      (ctx.writeFrom path₂ r i state (.element e₂ :: rest₂.map .element) c).val := by
  have hcont := (ctx.resolve_bound hx₁).1
  rw [val_writeFrom_cons, val_writeFrom_cons]
  simp only [legStep, List.isEmpty_map, ← isEmpty_eq_of_length hlen, hx₁, hx₂]
  simp only [hmore, Bool.false_eq_true, if_false, ← hst.kind_eq, hset]
  have hd := EffectAlike.of_eq (hst.descend_eq c)
  generalize hdesc : (ctx.descend s₁ c).val = d₁ at hd ⊢
  generalize (ctx.descend s₂ c).val = d₂ at hd ⊢
  cases hd with
  | error c' hf => exact .error c' .error (Prod.ext hf rfl)
  | ok c' =>
    -- entering keeps the shape, so the steps find one element of what was entered
    have hs' : s₁.container = c'.shape.unwrap := by rw [ctx.descend_shape hdesc, hcont]
    dsimp only
    rw [← hst.child?_eq hs']
    cases hx : c'.child? s₁.key with
    | none => exact .error c' .error rfl
    | some x =>
      dsimp only
      rw [← hst.setChild_eq]
      exact (below x.inner (.element (by simpa using hset) hdesc hx) (i + 1)
        (.applying s₁.kind)).map fun w => c'.setChild s₁.key (x.withInner w)

end Write

/-- **A write along two paths that name one element of each container it meets** leaves one
value and ends in one state, and fails, when it fails, with errors of one kind at one element.
The errors themselves may differ: a fault names a key by the text it was given. -/
theorem writeFrom_alike (hsound : ctx.registry.Sound) {c : Value} {segs₁ segs₂ : List Segment}
    (h : ctx.SameElements c segs₁ segs₂) (path₁ path₂ : String) (r : Raw) :
    ∀ (i : Nat) (state : WalkState),
      WriteAlike (ctx.writeFrom path₁ r i state (segs₁.map .element) c).val
        (ctx.writeFrom path₂ r i state (segs₂.map .element) c).val := by
  -- by the walk: at each container the elements resolve alike, and the write goes on into
  -- one value wherever it goes on
  induction h with
  | nil c => exact fun _ state => .ok c state
  | @cons c e₁ e₂ rest₁ rest₂ he hlen hrest ih =>
    intro i state
    have hra := ctx.resolve_alike hsound he rest₁.isEmpty
    generalize hx₁ : (ctx.resolve e₁ c.shape rest₁.isEmpty).run.val = x₁ at hra
    generalize hx₂ : (ctx.resolve e₂ c.shape rest₁.isEmpty).run.val = x₂ at hra
    cases hra with
    | error hf => exact ctx.writeFrom_refused_alike hf.ctorIdx_eq hlen hx₁ hx₂
    | @ok s₁ s₂ hst =>
      have below := fun x hx => ih s₁ x hx₁ (.inr hx)
      cases hlast : rest₁.isEmpty
      · cases hset : s₁.kind == .set
        · exact ctx.writeFrom_enter_alike hst hlen hlast hset hx₁ hx₂ below
        · exact ctx.writeFrom_member_alike hst hlen hlast hset hx₁ hx₂ below
      · exact ctx.writeFrom_last_alike hst hlen hlast hx₁ hx₂

/-! ## Reading and writing along paths -/

/-- **Subscripts name elements, not texts.**  Two paths whose subscripts name the same elements
of every container that a read or a write along them meets read one result from a well-typed
value, up to the path an error names; and write one value, failing, when they fail, with errors
of one kind at one element. -/
theorem subscripts_name_elements (hsound : ctx.registry.Sound) {root : Value}
    {path₁ path₂ : String} {p₁ p₂ : Path} (hp₁ : Path.parse path₁ = .ok p₁)
    (hp₂ : Path.parse path₂ = .ok p₂)
    (hsame : ctx.SameElements root (p₁.steps.map (·.segment)) (p₂.steps.map (·.segment)))
    (r : Raw) :
    (root.WellTyped →
      (ctx.get root path₂).val = (ctx.get root path₁).val.mapError ({ · with path := path₂ })) ∧
    (ctx.set root path₂ r).val.1 = (ctx.set root path₁ r).val.1 ∧
    (ctx.set root path₂ r).val.2.mapError AccessError.kindAt =
      (ctx.set root path₁ r).val.2.mapError AccessError.kindAt := by
  have hroute : ∀ {path : String} {p : Path}, Path.parse path = .ok p →
      p.route = ⟨path, (p.steps.map (·.segment)).map .element⟩ := fun hp => by
    simp [Path.route, Path.parse_source hp]
  refine ⟨fun hroot => ?_, ?_⟩
  · rw [val_get, val_get, hp₁, hp₂]
    dsimp only
    unfold readWalk
    rw [hroute hp₁, hroute hp₂]
    exact ctx.readFrom_alike hsound hsame hroot path₁ path₂ 0 .atRoot
  · rw [val_set, val_set, hp₁, hp₂]
    dsimp only
    rw [val_writeWalk, val_writeWalk, hroute hp₁, hroute hp₂]
    have hw := ctx.writeFrom_alike hsound hsame path₁ path₂ r 0 .atRoot
    have hempty : ((p₂.steps.map (·.segment)).map Leg.element).isEmpty =
        ((p₁.steps.map (·.segment)).map Leg.element).isEmpty :=
      isEmpty_eq_of_length (by simpa using hsame.length_eq.symm)
    dsimp only
    rw [hempty]
    split
    · exact ⟨rfl, rfl⟩
    · exact ⟨hw.value_eq.symm, hw.kindAt_eq.symm⟩

end Context

end

namespace Context

set_option maxRecDepth 10000 in
/-- In a map keyed by bytes, `[07]` names the entry that `[7]` names: both read it, and both
write it. -/
theorem subscripts_name_elements_padded_key :
    let ctx : Context := { registry := (Registry.empty.register (.scalar (.int .u8))).val }
    let root : Value := .map .tree (.scalar (.int .u8)) (.scalar .string)
      [(.int .u8 7, .string "seven")]
    ctx.SameElements root [.subscript "7"] [.subscript "07"] ∧
      (ctx.get root "[07]").val = (ctx.get root "[7]").val.mapError ({ · with path := "[07]" }) ∧
      (ctx.set root "[07]" (.one "sept")).val.1 = (ctx.set root "[7]" (.one "sept")).val.1 ∧
      (ctx.set root "[07]" (.one "sept")).val.2.mapError AccessError.kindAt =
        (ctx.set root "[7]" (.one "sept")).val.2.mapError AccessError.kindAt := by
  intro ctx root
  have hsound : ctx.registry.Sound := (Registry.Built.register _ .empty).typed.sound
  have hparse : ∀ key : String, ']' ∉ key.toList → Path.parse (Path.render [.subscript key]) =
      .ok ⟨Path.render [.subscript key], Path.place [.subscript key] 0⟩ := fun key hkey =>
    Path.parse_render (List.cons_ne_nil _ _) (by simpa [Segment.Readable] using hkey)
  have hsteps : ∀ key : String, (Path.steps ⟨Path.render [.subscript key],
      Path.place [.subscript key] 0⟩).map (·.segment) = [.subscript key] := fun key => by
    simp [Path.steps, Path.isRoot, Path.place]
  -- both texts convert to the byte 7, and nothing follows the subscript
  have hsame : ctx.SameElements root [.subscript "7"] [.subscript "07"] :=
    .cons (.inr ⟨"7", "07", rfl, rfl, .key (.inl ⟨_, _, rfl⟩) rfl⟩) rfl fun _ _ _ _ => .nil _
  have hroot : root.WellTyped :=
    .map (by simp [Value.shape]) (by simp [Value.WellTyped.int]) (by simp [Value.WellTyped.string])
  obtain ⟨hget, hset⟩ := subscripts_name_elements ctx hsound (hparse "7" (by decide))
    (hparse "07" (by decide)) (by rw [hsteps, hsteps]; exact hsame) (.one "sept")
  exact ⟨hsame, hget hroot, hset⟩

end Context

end ValuePaths
