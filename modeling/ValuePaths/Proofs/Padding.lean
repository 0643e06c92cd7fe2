import ValuePaths.Proofs.Puts
import ValuePaths.Sample.Records

/-!
# Padding a list

A step at an index of a list, typed or untyped, grows the list with defaults when it is too
short: the last step of a write pads up to the index and then stores the value, appending it
when the index is the end; a step on the way pads past the index and enters the element
there, to write below it.  The defaults are the registered default of the element shape, or
an empty text in an untyped list.

A step appends at most `maxListPadding` defaults.  When it would need more it refuses and
appends nothing; an entry also refuses at the largest `usize` index, whose successor is no
length.  What a step that gets past the padding leaves is stated through lookups, with
`Placed`: every other element is kept, the positions between the old end and the index hold
the default, and the index holds the stored value or the entered element.  Entering fills
the element's unset `Option` layers, so the element an entry leaves is the stored one, or a
fresh default past the end, with those layers set; a layer that cannot be created fails the
step after the padding.

## Main definitions

* `Value.listItems?`, `Value.withItems` — the elements of a list, typed or untyped.

## Main statements

* `Placed.length_eq` — a list with a value placed at `i` has `max n (i + 1)` elements.
* `Context.store_list`, `Context.descend_list` — what a store and an entry leave in a list.
* `Context.store_list_refuses`, `Context.descend_list_refuses` — when they refuse to grow it.
* `Context.list_step_pads` — all of it, for every step resolution binds to a list.
-/

namespace ValuePaths

section

variable [Catalogue]

open Logged

namespace Value

/-- The elements of a list, typed or untyped. -/
def listItems? : Value → Option (List Value)
  | list _ _ items | untypedList items => some items
  | _ => none

/-- A list with its elements replaced; other values are kept. -/
def withItems : Value → List Value → Value
  | list l t _, items => list l t items
  | untypedList _, items => untypedList items
  | v, _ => v

omit [Catalogue] in
theorem listItems?_eq_some {c : Value} {items : List Value} :
    c.listItems? = some items ↔ (∃ l t, c = .list l t items) ∨ c = .untypedList items := by
  cases c <;> simp [listItems?]

variable {c : Value} {items : List Value}

theorem child?_withItems (hc : c.listItems? = some items) (items' : List Value) (i : Nat) :
    (c.withItems items').child? (.index i) = items'[i]? := by
  rcases listItems?_eq_some.mp hc with ⟨l, t, rfl⟩ | rfl <;> rfl

theorem setChild_withItems (hc : c.listItems? = some items) (items' : List Value) (i : Nat)
    (w : Value) : (c.withItems items').setChild (.index i) w = c.withItems (items'.set i w) := by
  rcases listItems?_eq_some.mp hc with ⟨l, t, rfl⟩ | rfl <;> rfl

end Value

omit [Catalogue] in
/-- A list with a value placed at `i` has `max n (i + 1)` elements: it holds the index and
every old position, and nothing past both. -/
theorem Placed.length_eq {fill : Option Value} {i : Nat} {w : Value} {items items' : List Value}
    (h : ∀ j, items'[j]? = Placed fill i w items j) : items'.length = max items.length (i + 1) := by
  have hpast := h (max items.length (i + 1))
  rw [Placed, if_neg (by omega), if_neg (by omega), Option.or_none,
    List.getElem?_eq_none (l := items) (by omega)] at hpast
  have hi : i < items'.length := by
    have := h i
    rw [Placed, if_pos rfl] at this
    exact (List.getElem?_eq_some_iff.mp this).1
  -- every old position holds an element, the stored one or the value placed
  have hold (j : Nat) (hj : j < items.length) : j < items'.length := by
    have := h j
    unfold Placed at this
    by_cases hji : j = i
    · rw [if_pos hji] at this
      exact (List.getElem?_eq_some_iff.mp this).1
    · rw [if_neg hji, List.getElem?_eq_getElem hj, Option.some_or] at this
      exact (List.getElem?_eq_some_iff.mp this).1
  have hlen := List.getElem?_eq_none_iff.mp hpast
  rcases Nat.eq_zero_or_pos items.length with h0 | hpos
  · omega
  · have := hold (items.length - 1) (by omega)
    omega

namespace Context

variable (ctx : Context)

/-! ## Padding -/

/-- A pad refuses, leaving the list as it was, when the length asked for is past the largest
`usize` or more elements are missing than the limit allows. -/
theorem pad_refused {items : List Value} {n : Nat} {ty : Shape} {target : Target}
    (h : n > IntType.usize.max.toNat ∨ n - items.length > ctx.options.maxListPadding) :
    (ctx.pad items n ty target).val =
      (items, .error (.unsupported .list ty (.grow items.length ctx.options.maxListPadding))) := by
  unfold val pad
  dsimp only
  rw [if_pos (by simpa using h)]
  rfl

/-- A pad that succeeds asked for a length within a `usize` and for at most the limit of
missing elements. -/
theorem pad_within {items items' : List Value} {n : Nat} {ty : Shape} {target : Target}
    (h : (ctx.pad items n ty target).val = (items', .ok ())) :
    n ≤ IntType.usize.max.toNat ∧ n - items.length ≤ ctx.options.maxListPadding := by
  by_cases hgrow : n > IntType.usize.max.toNat ∨ n - items.length > ctx.options.maxListPadding
  · rw [ctx.pad_refused hgrow] at h
    cases h
  · omega

/-- The default a list is padded with: the registered default of the element shape, or an
empty text for an untyped list; there is none when creating missing values is off. -/
theorem missing_eq_some {target : Target} {d : Value} (h : ctx.missing target = some d) :
    ctx.options.createMissing = true ∧
      ((target = .untyped ∧ d = .string "") ∨
        ∃ t, target = .typed t ∧ ctx.registry.createDefault t = some d) := by
  unfold missing createMissing at h
  by_cases hon : ctx.options.createMissing = true
  · rw [if_neg (by simp [hon])] at h
    refine ⟨hon, ?_⟩
    cases target with
    | untyped => exact .inl ⟨rfl, by simpa [Except.toOption] using h.symm⟩
    | typed t =>
      refine .inr ⟨t, rfl, ?_⟩
      dsimp only at h
      unfold instantiate at h
      by_cases hc : ctx.registry.contains t = true
      · rw [if_neg (by simp [hc])] at h
        cases hd : ctx.registry.createDefault t with
        | none => rw [hd] at h; simp [Except.toOption] at h
        | some v => rw [hd] at h; simpa [Except.toOption] using h
      · rw [if_pos (by simpa using hc)] at h
        simp [Except.toOption] at h
  · rw [if_pos (by simpa using hon)] at h
    simp [Except.toOption] at h

/-! ## A store at an index -/

section Store

variable {ctx} {step : Step} {i : Nat} {x : Value}

/-- A store at an index of a typed list, of a value of the element shape: it fails in the
padding, leaving the list as it was, or places the value at the index. -/
theorem store_typedList {l : ListLayout} {t : Shape} {items : List Value}
    (hkey : step.key = .index i) (hx : x.shape = t) :
    ((ctx.store step (.list l t items) x).val.2 ≠ .ok () ∧
        (ctx.store step (.list l t items) x).val.1 = .list l t items) ∨
      ((ctx.store step (.list l t items) x).val.2 = .ok () ∧
        i ≤ IntType.usize.max.toNat ∧ i - items.length ≤ ctx.options.maxListPadding ∧
        ∃ items', (ctx.store step (.list l t items) x).val.1 = .list l t items' ∧
          ∀ j, items'[j]? = Placed (ctx.missing step.target) i x items j) := by
  generalize hout : (ctx.store step (.list l t items) x).val = out
  obtain ⟨c', res⟩ := out
  dsimp only
  cases res with
  | error f =>
    -- the value has the element shape: only the padding fails, and it hands the list back
    refine .inl ⟨by simp, ?_⟩
    cases ctx.store_unstored hout with
    | unpadded _ hp => rw [ctx.pad_failed hp]
    | listMisfit _ _ hv => exact absurd hx hv
    | length | unsupported => rfl
  | ok u =>
    cases ctx.store_ok hout with
    | push hkey' hp _ hi =>
      rw [hkey] at hkey'
      cases hkey'
      obtain ⟨hmax, hlimit⟩ := ctx.pad_within hp
      exact .inr ⟨rfl, hmax, hlimit, _, rfl, ctx.getElem?_push_pad hp hi x⟩
    | put hkey' hp _ hi =>
      rw [hkey] at hkey'
      cases hkey'
      obtain ⟨hmax, hlimit⟩ := ctx.pad_within hp
      exact .inr ⟨rfl, hmax, hlimit, _, rfl, ctx.getElem?_set_pad hp ⟨le_rfl, by omega⟩ hi x⟩

/-- A store at an index of an untyped list: it fails, leaving the list as it was, either in
the padding or because the element it replaces has another shape; or it places the value at
the index. -/
theorem store_untypedList {items : List Value} (hkey : step.key = .index i) :
    ((ctx.store step (.untypedList items) x).val.2 ≠ .ok () ∧
        (ctx.store step (.untypedList items) x).val.1 = .untypedList items) ∨
      ((ctx.store step (.untypedList items) x).val.2 = .ok () ∧
        i ≤ IntType.usize.max.toNat ∧ i - items.length ≤ ctx.options.maxListPadding ∧
        ∃ items', (ctx.store step (.untypedList items) x).val.1 = .untypedList items' ∧
          ∀ j, items'[j]? = Placed (ctx.missing step.target) i x items j) := by
  generalize hout : (ctx.store step (.untypedList items) x).val = out
  obtain ⟨c', res⟩ := out
  dsimp only
  cases res with
  | error f =>
    refine .inl ⟨by simp, ?_⟩
    cases ctx.store_unstored hout with
    | unpaddedUntyped _ hp => rw [ctx.pad_failed hp]
    | untypedMisfit hkey' hp hold _ =>
      -- an element is stored at the index, so nothing was padded
      rw [hkey] at hkey'
      cases hkey'
      have hin := (List.getElem?_eq_some_iff.mp hold).1
      rcases ctx.pad_ok hp with ⟨rfl, -⟩ | ⟨filler, -, rfl⟩
      · rfl
      · simp only [List.length_append, List.length_replicate] at hin
        rw [show i - items.length = 0 by omega, List.replicate_zero, List.append_nil]
    | length | unsupported => rfl
  | ok u =>
    cases ctx.store_ok hout with
    | pushUntyped hkey' hp hnone =>
      rw [hkey] at hkey'
      cases hkey'
      obtain ⟨hmax, hlimit⟩ := ctx.pad_within hp
      -- nothing at the index of a list padded up to it: the index is its length
      have hi : i = _ := Nat.le_antisymm (ctx.pad_length hp) (List.getElem?_eq_none_iff.mp hnone)
      exact .inr ⟨rfl, hmax, hlimit, _, rfl, ctx.getElem?_push_pad hp hi x⟩
    | putUntyped hkey' hp hold _ =>
      rw [hkey] at hkey'
      cases hkey'
      obtain ⟨hmax, hlimit⟩ := ctx.pad_within hp
      exact .inr ⟨rfl, hmax, hlimit, _, rfl,
        ctx.getElem?_set_pad hp ⟨le_rfl, by omega⟩ (List.getElem?_eq_some_iff.mp hold).1 x⟩

end Store

/-! ## An entry at an index -/

/-- An entry opens a list, typed or untyped, by padding it past the index. -/
theorem Opens.eq_withItems {step : Step} {c c₀ : Value} {items : List Value}
    (ho : ctx.Opens step c c₀) (hc : c.listItems? = some items) :
    ∃ i items', step.key = .index i ∧
      (ctx.pad items (i + 1) c.shape step.target).val = (items', .ok ()) ∧
      c₀ = c.withItems items' := by
  cases ho with
  | list hkey hp | untypedList hkey hp =>
    cases hc
    exact ⟨_, _, hkey, hp, rfl⟩
  | _ => cases hc

/-- **An entry at an index of a list**: it fails in the padding, leaving the list as it was,
or puts back at the index the element there, stored or created, with its unset layers filled;
the entry fails when a layer cannot be filled, and keeps what it padded and filled. -/
theorem descend_list {step : Step} {c : Value} {items : List Value} {i : Nat}
    (hkey : step.key = .index i) (hc : c.listItems? = some items) :
    ((ctx.descend step c).val.2 ≠ .ok () ∧ (ctx.descend step c).val.1 = c) ∨
      (i + 1 ≤ IntType.usize.max.toNat ∧ i + 1 - items.length ≤ ctx.options.maxListPadding ∧
        ∃ old items', items[i]?.or (ctx.missing step.target) = some old ∧
          (ctx.descend step c).val = (c.withItems items', (ctx.fill old).val.2) ∧
          ∀ j, items'[j]? = Placed (ctx.missing step.target) i (ctx.fill old).val.1 items j) := by
  generalize hout : (ctx.descend step c).val = out
  obtain ⟨c', res⟩ := out
  dsimp only
  rcases ctx.descend_opens hout with ⟨f, -, rfl, rfl⟩ | ⟨c₀, ho, hentered⟩
  · exact .inl ⟨by simp, rfl⟩
  -- a list, typed or not, is opened by padding it past the index, where an element stands
  obtain ⟨i', items', hkey', hp, rfl⟩ := Opens.eq_withItems ctx ho hc
  rw [hkey] at hkey'
  cases hkey'
  obtain ⟨hmax, hlimit⟩ := ctx.pad_within hp
  have hlen := ctx.pad_length hp
  have hold : items'[i]? = some items'[i] := List.getElem?_eq_getElem (by omega)
  rw [hkey, Value.child?_withItems hc, hold] at hentered
  rcases hentered with ⟨hnone, -, -⟩ | ⟨x, hx, rfl, rfl⟩
  · cases hnone
  cases hx
  refine .inr ⟨hmax, hlimit, _, _, ctx.padded_child hp hold, ?_,
    ctx.getElem?_set_pad hp ⟨by omega, le_rfl⟩ (by omega) _⟩
  rw [Value.setChild_withItems hc]

/-! ## Both steps -/

/-- **A store at an index of a list**, of a value of the element shape where the list
declares one: it fails leaving the list as it was, or places the value at the index. -/
theorem store_list {step : Step} {c x : Value} {items : List Value} {i : Nat}
    (hb : ctx.Bound step) (hs : step.container = c.shape) (hkey : step.key = .index i)
    (hc : c.listItems? = some items) (hx : ∀ t, step.target = .typed t → x.shape = t) :
    ((ctx.store step c x).val.2 ≠ .ok () ∧ (ctx.store step c x).val.1 = c) ∨
      ((ctx.store step c x).val.2 = .ok () ∧
        i ≤ IntType.usize.max.toNat ∧ i - items.length ≤ ctx.options.maxListPadding ∧
        ∃ items', (ctx.store step c x).val.1 = c.withItems items' ∧
          ∀ j, items'[j]? = Placed (ctx.missing step.target) i x items j) := by
  rcases Value.listItems?_eq_some.mp hc with ⟨l, t, rfl⟩ | rfl
  · exact store_typedList hkey (hx t (hb.target_list hs hkey))
  · exact store_untypedList hkey

/-- A store refuses to pad past the largest `usize` or beyond the limit, and leaves the list
as it was. -/
theorem store_list_refuses {step : Step} {c : Value} {items : List Value} {i : Nat} (x : Value)
    (hkey : step.key = .index i) (hc : c.listItems? = some items)
    (hgrow : i > IntType.usize.max.toNat ∨ i - items.length > ctx.options.maxListPadding) :
    (ctx.store step c x).val =
      (c, .error (.unsupported .list c.shape (.grow items.length ctx.options.maxListPadding))) := by
  rcases Value.listItems?_eq_some.mp hc with ⟨l, t, rfl⟩ | rfl
  all_goals
    unfold store val
    rw [hkey]
    dsimp only
    rw [run_bind_eq, Oblivious.fst_run (ctx.oblivious_pad _ _ _ _), ctx.pad_refused hgrow]
    rfl

/-- An entry refuses to pad past the largest `usize` index, or beyond the limit, and leaves
the list as it was. -/
theorem descend_list_refuses {step : Step} {c : Value} {items : List Value} {i : Nat}
    (hkey : step.key = .index i) (hc : c.listItems? = some items)
    (hgrow : i + 1 > IntType.usize.max.toNat ∨ i + 1 - items.length > ctx.options.maxListPadding) :
    (ctx.descend step c).val =
      (c, .error (.unsupported .list c.shape (.grow items.length ctx.options.maxListPadding))) := by
  rcases Value.listItems?_eq_some.mp hc with ⟨l, t, rfl⟩ | rfl
  all_goals
    unfold descend val
    rw [hkey]
    dsimp only
    rw [run_bind_eq, Oblivious.fst_run (ctx.oblivious_pad _ _ _ _), ctx.pad_refused hgrow]
    rfl

/-- **List steps pad exactly and within the limit.**  At an index `i` of a list of `n`
elements, typed or untyped, under a step that resolution binds there:

* the defaults a step appends are the registered default of the element shape, or an empty
  text in an untyped list;
* the last step of a write, of a value of the element shape, fails leaving the list as it
  was, or leaves `max n (i + 1)` elements: every other element kept, the default between the
  old end and the index, the value at the index, and at most `maxListPadding` defaults
  created; it refuses, leaving the list, when it would need more;
* a step on the way fails in the padding leaving the list as it was, or leaves
  `max n (i + 1)` elements, with `i + 1` within a `usize`, every other element kept, the
  default between the old end and the index, and at the index the element there (a default
  past the end) with its unset `Option` layers filled, the step failing when a layer cannot
  be; it refuses, leaving the list, when it would need more defaults than the limit or
  `i + 1` is no `usize`. -/
theorem list_step_pads {step : Step} {c : Value} {items : List Value} {i : Nat}
    (hb : ctx.Bound step) (hs : step.container = c.shape) (hkey : step.key = .index i)
    (hc : c.listItems? = some items) :
    (∀ d, ctx.missing step.target = some d →
      (step.target = .untyped ∧ d = .string "") ∨
        ∃ t, step.target = .typed t ∧ ctx.registry.createDefault t = some d) ∧
    (∀ x, (∀ t, step.target = .typed t → x.shape = t) →
      ((ctx.store step c x).val.2 ≠ .ok () ∧ (ctx.store step c x).val.1 = c) ∨
        ((ctx.store step c x).val.2 = .ok () ∧ i - items.length ≤ ctx.options.maxListPadding ∧
          ∃ items', (ctx.store step c x).val.1 = c.withItems items' ∧
            items'.length = max items.length (i + 1) ∧
            ∀ j, items'[j]? = Placed (ctx.missing step.target) i x items j)) ∧
    (i - items.length > ctx.options.maxListPadding → ∀ x,
      (ctx.store step c x).val =
        (c, .error (.unsupported .list c.shape (.grow items.length ctx.options.maxListPadding)))) ∧
    (((ctx.descend step c).val.2 ≠ .ok () ∧ (ctx.descend step c).val.1 = c) ∨
      (i + 1 ≤ IntType.usize.max.toNat ∧ i + 1 - items.length ≤ ctx.options.maxListPadding ∧
        ∃ old items', items[i]?.or (ctx.missing step.target) = some old ∧
          (ctx.descend step c).val = (c.withItems items', (ctx.fill old).val.2) ∧
          items'.length = max items.length (i + 1) ∧
          ∀ j, items'[j]? = Placed (ctx.missing step.target) i (ctx.fill old).val.1 items j)) ∧
    (i + 1 > IntType.usize.max.toNat ∨ i + 1 - items.length > ctx.options.maxListPadding →
      (ctx.descend step c).val =
        (c, .error (.unsupported .list c.shape
          (.grow items.length ctx.options.maxListPadding)))) := by
  refine ⟨fun d hd => (ctx.missing_eq_some hd).2, fun x hx => ?_,
    fun hgrow x => ctx.store_list_refuses x hkey hc (.inr hgrow), ?_,
    ctx.descend_list_refuses hkey hc⟩
  · rcases ctx.store_list hb hs hkey hc hx with hfail | ⟨hok, -, hlimit, items', hc', hplaced⟩
    · exact .inl hfail
    · exact .inr ⟨hok, hlimit, items', hc', Placed.length_eq hplaced, hplaced⟩
  · rcases ctx.descend_list hkey hc with hfail | ⟨hmax, hlimit, old, items', hold, hout, hplaced⟩
    · exact .inl hfail
    · exact .inr ⟨hmax, hlimit, old, items', hold, hout, Placed.length_eq hplaced, hplaced⟩

end Context

end

namespace Context

/-- A write at index 5 of an empty untyped list, with room for two defaults, is refused and
leaves the list empty. -/
theorem list_step_pads_refused :
    ({ registry := .empty, options := { maxListPadding := 2 } } : Context).Bound
        ⟨.list, .index 5, .untypedList, .untyped⟩ ∧
      (({ registry := .empty, options := { maxListPadding := 2 } } : Context).store
          ⟨.list, .index 5, .untypedList, .untyped⟩ (.untypedList []) (.string "x")).val =
        (.untypedList [], .error (.unsupported .list .untypedList (.grow 0 2))) :=
  ⟨.untypedList 5, (list_step_pads _ (.untypedList 5) rfl rfl
    (show (Value.untypedList []).listItems? = some [] from rfl)).2.2.1 (by decide) _⟩

/-- Entering index 1 of an empty list of optional bytes pads it with unset options, the
default of its elements, and sets the one it enters: the element left at the index is the
default with its layer filled, not the default. -/
theorem descend_list_fills_created_option :
    (({ registry := { entries := [⟨.option (.scalar (.int .u8)), none⟩,
          ⟨.scalar (.int .u8), some (.standard (.int .u8))⟩] } } : Context).createMissing
        (.typed (.option (.scalar (.int .u8))))).run.val =
        .ok (.option (.scalar (.int .u8)) none) ∧
      (({ registry := { entries := [⟨.option (.scalar (.int .u8)), none⟩,
            ⟨.scalar (.int .u8), some (.standard (.int .u8))⟩] } } : Context).descend
          ⟨.list, .index 1, .list .contiguous (.option (.scalar (.int .u8))),
            .typed (.option (.scalar (.int .u8)))⟩
          (.list .contiguous (.option (.scalar (.int .u8))) [])).val =
        (.list .contiguous (.option (.scalar (.int .u8)))
          [.option (.scalar (.int .u8)) none, .option (.scalar (.int .u8)) (some (.int .u8 0))],
          .ok ()) :=
  ⟨rfl, rfl⟩

end Context

end ValuePaths
