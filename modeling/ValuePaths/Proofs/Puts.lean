import Mathlib
import ValuePaths.Proofs.Sites

/-!
# What one step of a write leaves in its container

A step of a write changes its container at one site: it puts a value there, after creating
what was missing on the way.  `Context.Puts site w c c'` says what `c'` holds by what lookups
find in it: a record or an array with `w` in the slot, a list with `w` at the index and its
other elements kept, grown with defaults up to the index, a map that finds `w` under the key
and what it found before under every key that does not tie with it, a set that holds `w`
besides its members, a text table that finds the text under its key.

Stated so, the laws of two puts are laws of lookups: puts at apart sites commute, a second
put at a site wins, and alike values put at one site leave alike containers, all up to
`Value.Alike`.  Storing the converted text at the last element of a path, and entering an
element and putting back what the write below it left, are puts.

## Main definitions

* `Context.Puts` — a container with a value put at one site.

## Main statements

* `Context.Puts.swap` — puts at apart sites commute.
* `Context.Puts.overwrite` — a second put at one site wins.
* `Context.Puts.congr` — alike values put at one site leave alike containers.
* `Context.Puts.reach_eq` — a put leaves what a step at an apart site reaches.
* `Context.store_puts`, `Context.descend_puts` — storing and entering are puts.
-/

namespace ValuePaths

open Logged

/-- The elements of `items` with `w` at index `i`, the positions before `i` that `items` lacks
filled with `fill`. -/
def Placed (fill : Option Value) (i : Nat) (w : Value) (items : List Value) (j : Nat) :
    Option Value :=
  if j = i then some w else items[j]?.or (if j < i then fill else none)

namespace Placed

variable {fill : Option Value} {items items' : List Value}

/-- Away from the index, a placed list reaches what the list reaches, defaults included. -/
theorem or_fill {i j : Nat} (hj : j ≠ i) (w : Value) :
    (Placed fill i w items j).or fill = items[j]?.or fill := by
  unfold Placed
  rw [if_neg hj, Option.or_assoc]
  split <;> simp

/-- Placing twice at one index: the second value wins. -/
theorem overwrite {i : Nat} {w w' : Value} (h : ∀ j, items'[j]? = Placed fill i w items j)
    (j : Nat) : Placed fill i w' items' j = Placed fill i w' items j := by
  unfold Placed at h ⊢
  by_cases hi : j = i
  · simp only [hi, if_true]
  · rw [if_neg hi, if_neg hi, h j, if_neg hi, Option.or_assoc, Option.or_self]

/-- Placing at two indices in either order gives one list. -/
theorem swap {i₁ i₂ : Nat} (hi : i₁ ≠ i₂) {w₁ w₂ : Value} {items₁ items₂ : List Value}
    (h₁ : ∀ j, items₁[j]? = Placed fill i₁ w₁ items j)
    (h₂ : ∀ j, items₂[j]? = Placed fill i₂ w₂ items j) (j : Nat) :
    Placed fill i₂ w₂ items₁ j = Placed fill i₁ w₁ items₂ j := by
  unfold Placed at h₁ h₂ ⊢
  by_cases hj₁ : j = i₁
  · subst hj₁
    simp [h₁, hi]
  by_cases hj₂ : j = i₂
  · subst hj₂
    simp [h₂, hj₁]
  rw [if_neg hj₂, if_neg hj₁, h₁, h₂, if_neg hj₁, if_neg hj₂]
  -- away from both indices, the defaults before either index are one default
  split_ifs <;> simp [Option.or_assoc]

end Placed

namespace Entries

/-- Replacing the value under a key that is present: lookups under it find the new value. -/
theorem find?_update_of_isSome {key : Value} {es : List (Value × Value)}
    (h : (find? key es).isSome) (w k : Value) :
    find? k (update key w es) = if Value.same k key then some w else find? k es := by
  split
  · rename_i hk
    rw [find?_update_of_same hk, find?_congr hk]
    obtain ⟨v, hv⟩ := Option.isSome_iff_exists.mp h
    simp [hv]
  · rename_i hk
    exact find?_update_of_ne (Bool.not_eq_true _ ▸ hk) w es

end Entries

variable [Catalogue]

namespace Value

/-- Two names that a record finds at one position are one name. -/
theorem eq_of_fieldIndex {r : Record} {a b : String} {i : Nat} (ha : fieldIndex r a = some i)
    (hb : fieldIndex r b = some i) : a = b := by
  unfold fieldIndex at ha hb
  obtain ⟨_, ha', -⟩ := List.findIdx?_eq_some_iff_getElem.mp ha
  obtain ⟨_, hb', -⟩ := List.findIdx?_eq_some_iff_getElem.mp hb
  simp only [beq_iff_eq] at ha' hb'
  exact ha'.symm.trans hb'

@[simp] theorem setChild_field (r : Record) (fields : List Value) (name : String) (a : Access)
    {i : Nat} (hi : fieldIndex r name = some i) (w : Value) :
    (record r fields).setChild (.field name a) w = record r (fields.set i w) := by
  simp [setChild, hi]

end Value

namespace Context

variable (ctx : Context)

/-- `ctx.Puts site w c c'`: the container `c'` is `c` with `w` put at `site`, as lookups see
it.  A list keeps its elements and grows with defaults of its element target up to the
index; a map finds `w` under the key and what it found before under the keys that do not tie
with it, with a placement that keeps its entries as lookups need; a set holds `w` besides
its members; a text table finds the text under its key. -/
inductive Puts : Site → Value → Value → Value → Prop
  | field {r : Record} {fields : List Value} {name : String} {i : Nat} {w : Value}
      (hi : Value.fieldIndex r name = some i) :
      Puts (.field name) w (.record r fields) (.record r (fields.set i w))
  | list {l : ListLayout} {t : Shape} {items items' : List Value} {i : Nat} {w : Value}
      (h : ∀ j, items'[j]? = Placed (ctx.missing (.typed t)) i w items j) :
      Puts (.index i) w (.list l t items) (.list l t items')
  | untypedList {items items' : List Value} {i : Nat} {w : Value}
      (h : ∀ j, items'[j]? = Placed (ctx.missing .untyped) i w items j) :
      Puts (.index i) w (.untypedList items) (.untypedList items')
  | array {t : Shape} {items : List Value} {i : Nat} {w : Value} :
      Puts (.index i) w (.array t items) (.array t (items.set i w))
  | entry {p p' : Placement} {kt vt : Shape} {es es' : List (Value × Value)} {key w : Value}
      (hp : p'.layout = p.layout) (hkept : Entries.Kept p' es')
      (h : ∀ k, Entries.find? k es' = if Value.same k key then some w else Entries.find? k es) :
      Puts (.key key) w (.map p kt vt es) (.map p' kt vt es')
  | member {p p' : Placement} {t : Shape} {ms ms' : List Value} {site : Site} {w : Value}
      (hp : p'.layout = p.layout) (hkept : Members.Kept p' ms')
      (h : ∀ m, (Members.find? m ms').isSome ↔ Value.same m w ∨ (Members.find? m ms).isSome) :
      Puts site w (.set p t ms) (.set p' t ms')
  | text {es es' : List (String × String)} {raw s : String}
      (h : ∀ k, Table.find? k es' = if k = raw then some s else Table.find? k es) :
      Puts (.text raw) (.string s) (.properties es) (.properties es')

variable {ctx}

/-- What a put leaves keeps its entries as lookups need. -/
theorem Puts.kept {site : Site} {w c c' : Value} (h : ctx.Puts site w c c') : c'.Kept := by
  cases h with
  | entry _ hkept _ => exact hkept
  | member _ hkept _ => exact hkept
  | _ => trivial

/-- **Puts at apart sites commute**, up to alike maps, sets and text tables; puts into a set
commute wherever they go. -/
theorem Puts.swap {p₁ p₂ : Site} {w₁ w₂ c c₁ c₂ c₁₂ c₂₁ : Value}
    (h₁ : ctx.Puts p₁ w₁ c c₁) (h₂ : ctx.Puts p₂ w₂ c₁ c₁₂)
    (h₂' : ctx.Puts p₂ w₂ c c₂) (h₁' : ctx.Puts p₁ w₁ c₂ c₂₁)
    (hapart : p₁.Apart p₂ ∨ ∃ p t ms, c = .set p t ms) : c₁₂.Alike c₂₁ := by
  -- the sites are apart unless the container is a set
  have apart (hc : ∀ p t ms, c ≠ .set p t ms) : p₁.Apart p₂ :=
    hapart.resolve_right fun ⟨p, t, ms, hc'⟩ => hc p t ms hc'
  cases h₁ with
  | @field r fields name₁ i₁ _ hi₁ =>
    cases h₂' with
    | @field _ _ name₂ i₂ _ hi₂ =>
      have hne : i₁ ≠ i₂ := by
        rintro rfl
        exact (apart (by simp)).1 (by rw [Value.eq_of_fieldIndex hi₁ hi₂])
      cases h₂ with
      | field hi₂' =>
        cases h₁' with
        | field hi₁' =>
          rw [hi₂] at hi₂'
          rw [hi₁] at hi₁'
          cases hi₂'
          cases hi₁'
          rw [List.set_comm _ _ hne]
          exact .refl _
  | @list l t items items₁ i₁ _ e₁ =>
    cases h₂' with
    | @list _ _ _ items₂ i₂ _ e₂ =>
      have hne : i₁ ≠ i₂ := by
        rintro rfl
        exact (apart (by simp)).1 rfl
      cases h₂ with
      | @list _ _ _ items₁₂ _ _ h₁₂ =>
        cases h₁' with
        | @list _ _ _ items₂₁ _ _ h₂₁ =>
          have hitems : items₁₂ = items₂₁ :=
            List.ext_getElem? fun j => by rw [h₁₂, h₂₁, Placed.swap hne e₁ e₂]
          rw [hitems]
          exact .refl _
  | @untypedList items items₁ i₁ _ e₁ =>
    cases h₂' with
    | @untypedList _ items₂ i₂ _ e₂ =>
      have hne : i₁ ≠ i₂ := by
        rintro rfl
        exact (apart (by simp)).1 rfl
      cases h₂ with
      | @untypedList _ items₁₂ _ _ h₁₂ =>
        cases h₁' with
        | @untypedList _ items₂₁ _ _ h₂₁ =>
          have hitems : items₁₂ = items₂₁ :=
            List.ext_getElem? fun j => by rw [h₁₂, h₂₁, Placed.swap hne e₁ e₂]
          rw [hitems]
          exact .refl _
  | @array t items i₁ _ =>
    cases h₂' with
    | @array _ _ i₂ _ =>
      have hne : i₁ ≠ i₂ := by
        rintro rfl
        exact (apart (by simp)).1 rfl
      cases h₂ with
      | array =>
        cases h₁' with
        | array =>
          rw [List.set_comm _ _ hne]
          exact .refl _
  | @entry p p₁ kt vt es es₁ key₁ _ hp₁ _ e₁ =>
    cases h₂' with
    | @entry _ p₂ _ _ _ es₂ key₂ _ hp₂ _ e₂ =>
      have hsame : Value.same key₁ key₂ = false := (apart (by simp)).2 _ _ rfl rfl
      cases h₂ with
      | entry hp₁₂ _ h₁₂ =>
        cases h₁' with
        | entry hp₂₁ _ h₂₁ =>
          refine .entries (by rw [hp₁₂, hp₁, hp₂₁, hp₂]) fun k => ?_
          rw [h₁₂, h₂₁, e₁, e₂]
          -- no key ties with both
          by_cases hk₁ : Value.same k key₁ <;> by_cases hk₂ : Value.same k key₂ <;> simp [hk₁, hk₂]
          rw [Value.same_of_same_left hk₁ hk₂] at hsame
          cases hsame
  | member hp₁ _ e₁ =>
    cases h₂' with
    | member hp₂ _ e₂ =>
      cases h₂ with
      | member hp₁₂ _ h₁₂ =>
        cases h₁' with
        | member hp₂₁ _ h₂₁ =>
          refine .members (by rw [hp₁₂, hp₁, hp₂₁, hp₂]) fun m => ?_
          rw [Bool.eq_iff_iff, h₁₂, h₂₁, e₁, e₂]
          exact or_left_comm
  | @text es es₁ raw₁ _ e₁ =>
    cases h₂' with
    | @text _ es₂ raw₂ _ e₂ =>
      have hne : raw₁ ≠ raw₂ := by
        rintro rfl
        exact (apart (by simp)).1 rfl
      cases h₂ with
      | text h₁₂ =>
        cases h₁' with
        | text h₂₁ =>
          refine .texts fun k => ?_
          rw [h₁₂, h₂₁, e₁, e₂]
          -- the keys differ, so at most one of the two texts answers
          by_cases hk₁ : k = raw₁
          · subst hk₁
            simp [hne]
          · simp only [if_neg hk₁]

/-- **A second put at one site wins**, in every container but a set. -/
theorem Puts.overwrite {site : Site} {w w' c c₁ c₂ : Value} (h : ctx.Puts site w c c₁)
    (h' : ctx.Puts site w' c₁ c₂) (hc : ∀ p t ms, c ≠ .set p t ms) : ctx.Puts site w' c c₂ := by
  cases h with
  | field hi =>
    cases h' with
    | field hi' =>
      rw [hi] at hi'
      cases hi'
      rw [List.set_set]
      exact .field hi
  | list h =>
    cases h' with
    | list h' => exact .list fun j => by rw [h', Placed.overwrite h]
  | untypedList h =>
    cases h' with
    | untypedList h' => exact .untypedList fun j => by rw [h', Placed.overwrite h]
  | array =>
    cases h' with
    | array =>
      rw [List.set_set]
      exact .array
  | entry hp _ h =>
    cases h' with
    | entry hp' hkept' h' =>
      refine .entry (hp'.trans hp) hkept' fun k => ?_
      rw [h', h]
      split <;> rfl
  | member => exact absurd rfl (hc _ _ _)
  | text h =>
    cases h' with
    | text h' =>
      refine .text fun k => ?_
      rw [h', h]
      split <;> rfl

/-- **Alike values put at one site leave alike containers**, in every container but a set or
a text table. -/
theorem Puts.congr {site : Site} {w w' c c' c'' : Value} (h : ctx.Puts site w c c')
    (h' : ctx.Puts site w' c c'') (hw : w.Alike w') (hc : ∀ p t ms, c ≠ .set p t ms)
    (hprops : ∀ es, c ≠ .properties es) : c'.Alike c'' := by
  -- a list with the value put is the other list with the value set at the index
  have relist {fill : Option Value} {i : Nat} {items items' items'' : List Value}
      (h : ∀ j, items'[j]? = Placed fill i w items j)
      (h' : ∀ j, items''[j]? = Placed fill i w' items j) :
      items' = items''.set i w ∧ items'' = items''.set i w' := by
    have hi : items''[i]? = some w' := by simp [h', Placed]
    obtain ⟨hlt, hget⟩ := List.getElem?_eq_some_iff.mp hi
    constructor <;> refine List.ext_getElem? fun j => ?_ <;> rw [List.getElem?_set]
    · by_cases hj : i = j
      · subst hj
        simp [h, Placed, hlt]
      · simp [hj, h, h', Placed, Ne.symm hj]
    · by_cases hj : i = j
      · subst hj
        simp [hget, hlt]
      · simp [hj]
  cases h with
  | field hi =>
    cases h' with
    | field hi' =>
      rw [hi] at hi'
      cases hi'
      rw [← Value.setChild_field _ _ _ .readWrite hi, ← Value.setChild_field _ _ _ .readWrite hi]
      exact .within hw
  | @list l t items items' i _ h =>
    cases h' with
    | @list _ _ _ items'' _ _ h' =>
      obtain ⟨rfl, hself⟩ := relist h h'
      conv => rhs; rw [hself]
      exact .within (c := .list l t items'') (k := .index i) hw
  | @untypedList items items' i _ h =>
    cases h' with
    | @untypedList _ items'' _ _ h' =>
      obtain ⟨rfl, hself⟩ := relist h h'
      conv => rhs; rw [hself]
      exact .within (c := .untypedList items'') (k := .index i) hw
  | @array t items i _ =>
    cases h' with
    | array => exact .within (c := .array t items) (k := .index i) hw
  | @entry _ _ _ _ es _ key _ hp _ h =>
    cases h' with
    | @entry _ _ _ _ _ es' _ _ hp' _ h' =>
      -- the second map with `w` in place of `w'` looks up as the first
      have hsome : (Entries.find? key es').isSome := by simp [h', Value.same_self]
      have hfind (v k : Value) : Entries.find? k (Entries.update key v es') =
          if Value.same k key then some v else Entries.find? k es := by
        rw [Entries.find?_update_of_isSome hsome, h']
        split <;> rfl
      refine .trans (v := (Value.map _ _ _ es').setChild (.member "" key) w)
        (.entries (by rw [hp, hp']) fun k => by simp only [h, hfind])
        (.trans (.within hw) (.entries rfl fun k => by simp only [hfind, h']))
  | member => exact absurd rfl (hc _ _ _)
  | text => exact absurd rfl (hprops _)

/-- **A put leaves what a step at an apart site reaches**: the element stored there, or the
default where none is. -/
theorem Puts.reach_eq {site : Site} {w c c' : Value} {step : Step} (h : ctx.Puts site w c c')
    (hb : ctx.Bound step) (hs : step.container = c.shape) (hkind : step.kind ≠ .set)
    (hapart : site.Apart step.key.site) : ctx.reach step c' = ctx.reach step c := by
  unfold reach
  rw [if_neg hkind, if_neg hkind]
  cases h with
  | @field r fields name i _ hi =>
    cases hb with
    | @field r' f hf =>
      simp only [Value.shape, Shape.record.injEq] at hs
      subst hs
      obtain ⟨j, hj, -⟩ := Record.fieldIndex_of_field? hf
      have hne : i ≠ j := by
        rintro rfl
        exact hapart.1 (by rw [Value.eq_of_fieldIndex hi hj]; rfl)
      simp [Value.child?, hj, List.getElem?_set_ne hne]
    | length => simp
    | _ => simp [Value.shape] at hs
  | @list l t items items' i _ e =>
    cases hb with
    | list l' t' j =>
      simp only [Value.shape, Shape.list.injEq] at hs
      obtain ⟨rfl, rfl⟩ := hs
      have hne : j ≠ i := by
        rintro rfl
        exact hapart.1 rfl
      simp only [Value.child?, e, Placed.or_fill hne]
    | length => simp
    | _ => simp [Value.shape] at hs
  | @untypedList items items' i _ e =>
    cases hb with
    | untypedList j =>
      have hne : j ≠ i := by
        rintro rfl
        exact hapart.1 rfl
      simp only [Value.child?, e, Placed.or_fill hne]
    | length => simp
    | _ => simp [Value.shape] at hs
  | @array t items i _ =>
    cases hb with
    | array t' n j =>
      have hne : i ≠ j := by
        rintro rfl
        exact hapart.1 rfl
      simp [Value.child?, List.getElem?_set_ne hne]
    | length => simp
    | _ => simp [Value.shape] at hs
  | @entry p p' kt vt es es' key _ _ _ e =>
    cases hb with
    | map l k v raw key' _ =>
      have hsame : Value.same key' key = false := by
        rw [Value.same_comm]
        exact hapart.2 _ _ rfl rfl
      simp only [Value.child?, e, hsame, Bool.false_eq_true, if_false]
    | length => simp
    | _ => simp [Value.shape] at hs
  | member =>
    cases hb with
    | length => simp
    | member => exact absurd rfl hkind
    | text => exact absurd rfl hkind
    | _ => simp [Value.shape] at hs
  | @text es es' raw s e =>
    cases hb with
    | properties raw' =>
      have hne : raw' ≠ raw := by
        rintro rfl
        exact hapart.1 rfl
      simp only [Value.child?, e, if_neg hne]
    | length => simp
    | _ => simp [Value.shape] at hs

/-! ## Storing and entering are puts -/

variable (ctx)

/-- A list padded up to `n` looks up as the list, with defaults before `n`. -/
theorem getElem?_pad {items items' : List Value} {n : Nat} {ty : Shape} {target : Target}
    (h : (ctx.pad items n ty target).val = (items', .ok ())) (j : Nat) :
    items'[j]? = items[j]?.or (if j < n then ctx.missing target else none) := by
  rcases ctx.pad_ok h with ⟨rfl, hn⟩ | ⟨filler, hfiller, rfl⟩
  · split
    · rw [List.getElem?_eq_getElem (by omega), Option.some_or]
    · rw [Option.or_none]
  · simp only [missing, hfiller, Except.toOption, List.getElem?_append, List.getElem?_replicate]
    by_cases hj : j < items.length
    · rw [if_pos hj, List.getElem?_eq_getElem hj, Option.some_or]
    · -- past the old end the defaults answer, up to `n`
      rw [if_neg hj, List.getElem?_eq_none (by omega), Option.none_or]
      by_cases hn : j < n
      · rw [if_pos (by omega), if_pos hn]
      · rw [if_neg (by omega), if_neg hn]

/-- A list padded up to `i` or `i + 1` and set at `i` has the value placed at `i`. -/
theorem getElem?_set_pad {items items' : List Value} {i n : Nat} {ty : Shape} {target : Target}
    (h : (ctx.pad items n ty target).val = (items', .ok ())) (hn : i ≤ n ∧ n ≤ i + 1)
    (hi : i < items'.length) (w : Value) (j : Nat) :
    (items'.set i w)[j]? = Placed (ctx.missing target) i w items j := by
  rw [List.getElem?_set, ctx.getElem?_pad h]
  unfold Placed
  by_cases hj : j = i
  · simp [hj, hi]
  · simp only [Ne.symm hj, hj, if_false]
    congr 1
    -- before the index, padding to `i` and to `i + 1` create the same defaults
    split_ifs <;> first | rfl | omega

/-- A list padded up to `i` with `i` elements, the value appended, has it placed at `i`. -/
theorem getElem?_push_pad {items items' : List Value} {i : Nat} {ty : Shape} {target : Target}
    (h : (ctx.pad items i ty target).val = (items', .ok ())) (hi : i = items'.length)
    (w : Value) (j : Nat) :
    (items' ++ [w])[j]? = Placed (ctx.missing target) i w items j := by
  have hpad := ctx.getElem?_pad h
  unfold Placed
  rw [List.getElem?_append]
  by_cases hj : j < items'.length
  · rw [if_pos hj, hpad, if_neg (by omega : ¬ j = i)]
  · rw [if_neg hj, List.getElem?_singleton]
    by_cases hji : j = i
    · simp [hji, hi]
    · -- past the end of both lists
      have hnone : items[j]? = none := by
        have := hpad j
        rw [List.getElem?_eq_none (by omega), if_neg (by omega), Option.or_none] at this
        exact this.symm
      rw [if_neg (by omega), if_neg hji, if_neg (by omega), hnone, Option.or_none]

variable {ctx}

/-- A step bound to a list reaches elements of the list's element shape. -/
theorem Bound.target_list {step : Step} {l : ListLayout} {t : Shape} (hb : ctx.Bound step)
    (hs : step.container = .list l t) {i : Nat} (hk : step.key = .index i) :
    step.target = .typed t := by
  cases hb <;> simp_all

/-- A step bound to an untyped list reaches untyped elements. -/
theorem Bound.target_untypedList {step : Step} (hb : ctx.Bound step)
    (hs : step.container = .untypedList) {i : Nat} (hk : step.key = .index i) :
    step.target = .untyped := by
  cases hb <;> simp_all

/-- Under a step bound to a map, the key's text converted again for the shape of the key is
the key. -/
theorem Bound.owned_eq (hsound : ctx.registry.Sound) {step : Step} {p : Placement}
    {kt vt : Shape} {es : List (Value × Value)} {raw : String} {key owned : Value}
    (hb : ctx.Bound step) (hs : step.container = (Value.map p kt vt es).shape)
    (hkey : step.key = .member raw key)
    (howned : (ctx.coerce (.typed key.shape) (.one raw)).run.val = .ok owned) : owned = key := by
  cases hb with
  | map l k v raw' key' hkey' =>
    simp only [Key.member.injEq] at hkey
    obtain ⟨rfl, rfl⟩ := hkey
    rw [ctx.coerce_typed_shape hsound hkey', hkey'] at howned
    exact (Except.ok.inj howned).symm
  | _ => simp [Value.shape] at hs hkey

variable (ctx)

/-- **Storing is a put**: a store that succeeds puts the value at the step's site. -/
theorem store_puts (hsound : ctx.registry.Sound) {step : Step} {c c' v : Value}
    (hb : ctx.Bound step) (hs : step.container = c.shape) (hkept : c.Kept)
    (h : (ctx.store step c v).val = (c', .ok ())) : ctx.Puts step.key.site v c c' := by
  cases ctx.store_ok h with
  | @field name access r fields f hkey _ hf =>
    -- the record has the field, at some place
    obtain ⟨i, hi⟩ : ∃ i, Value.fieldIndex r name = some i := by
      unfold Record.field? at hf
      unfold Value.fieldIndex
      rw [List.find?_eq_bind_findIdx?_getElem?] at hf
      cases hidx : r.fields.findIdx? (·.name == name) with
      | none => rw [hidx] at hf; cases hf
      | some i => exact ⟨i, rfl⟩
    rw [hkey, Value.setChild_field _ _ _ _ hi]
    exact .field hi
  | push hkey hp _ hi =>
    rw [hb.target_list hs hkey] at hp
    rw [hkey]
    exact .list (ctx.getElem?_push_pad hp hi v)
  | put hkey hp _ hi =>
    rw [hb.target_list hs hkey] at hp
    rw [hkey]
    exact .list (ctx.getElem?_set_pad hp ⟨le_rfl, by omega⟩ hi v)
  | pushUntyped hkey hp hnone =>
    rw [hb.target_untypedList hs hkey] at hp
    rw [hkey]
    exact .untypedList (ctx.getElem?_push_pad hp
      (Nat.le_antisymm (ctx.pad_length hp) (List.getElem?_eq_none_iff.mp hnone)) v)
  | putUntyped hkey hp hold =>
    rw [hb.target_untypedList hs hkey] at hp
    rw [hkey]
    exact .untypedList (ctx.getElem?_set_pad hp ⟨le_rfl, by omega⟩
      (List.getElem?_eq_some_iff.mp hold).1 v)
  | array hkey =>
    rw [hkey]
    exact .array
  | entry hkey howned =>
    -- the key is the text converted for the key shape, and so is what is added
    obtain rfl := hb.owned_eq hsound hs hkey howned
    rw [hkey]
    exact .entry (by simp) (Entries.kept_add ctx.table hkept _ _ _ _)
      (Entries.find?_add ctx.table hkept _ _ · _ _)
  | member =>
    exact .member (by simp) (Members.kept_add ctx.table _ _)
      (Members.find?_add_isSome ctx.table hkept _ · _)
  | text hkey hv =>
    subst hv
    rw [hkey]
    exact .text (Table.find?_insert · _ _ _)

/-- **Entering is a put**: after an entry that succeeds, putting a value back at the element
puts it at the step's site of the container the entry was given. -/
theorem descend_puts (hsound : ctx.registry.Sound) {step : Step} {c d : Value}
    (hb : ctx.Bound step) (hs : step.container = c.shape) (hkept : c.Kept)
    (h : (ctx.descend step c).val = (d, .ok ())) (w : Value) :
    ctx.Puts step.key.site w c (d.setChild step.key w) := by
  rcases ctx.descend_opens h with ⟨f, -, -, hres⟩ | ⟨c₀, ho, ⟨-, -, hres⟩ | ⟨x, -, rfl, -⟩⟩
  · cases hres
  · cases hres
  rw [Value.setChild_setChild]
  cases ho with
  | @field name access r fields x' hkey _ hx =>
    -- the record has the field, at some place
    obtain ⟨i, hi⟩ : ∃ i, Value.fieldIndex r name = some i := by
      rw [hkey] at hx
      obtain ⟨i, hi, -⟩ := Option.bind_eq_some_iff.mp hx
      exact ⟨i, hi⟩
    rw [hkey, Value.setChild_field _ _ _ _ hi]
    exact .field hi
  | list hkey hp =>
    rw [hb.target_list hs hkey] at hp
    have hlen := ctx.pad_length hp
    rw [hkey]
    exact .list (ctx.getElem?_set_pad hp ⟨by omega, le_rfl⟩ (by omega) w)
  | untypedList hkey hp =>
    rw [hb.target_untypedList hs hkey] at hp
    have hlen := ctx.pad_length hp
    rw [hkey]
    exact .untypedList (ctx.getElem?_set_pad hp ⟨by omega, le_rfl⟩ (by omega) w)
  | array hkey =>
    rw [hkey]
    exact .array
  | entry hkey hfound =>
    rw [hkey]
    exact .entry rfl (Entries.kept_update hkept _ _)
      (Entries.find?_update_of_isSome (by simp [hfound]) w)
  | @added raw key fresh owned p kt vt es hkey hnone hfresh howned =>
    obtain rfl := hb.owned_eq hsound hs hkey howned
    rw [hkey]
    -- the entry added is found under the key, and the put replaces its default
    have hsome :
        (Entries.find? owned (Entries.add ctx.table p kt vt owned fresh es).2.1).isSome := by
      simp [Entries.find?_add ctx.table hkept, Value.same_self]
    refine .entry (by simp) (Entries.kept_update (Entries.kept_add ctx.table hkept _ _ _ _) _ _)
      fun k => ?_
    rw [Entries.find?_update_of_isSome hsome, Entries.find?_add ctx.table hkept]
    split <;> simp_all

end Context

end ValuePaths
