import ValuePaths.Proofs.Typing

/-!
# Storing at an element

What a write leaves behind at the last element of its path.  A store keeps the shape of the
container, and only containers take one (`store_shape`, `store_container`).  In a well-typed
container, at a key bound to it, the stored value is what a later lookup of the key finds
(`store_child`): a record has a value at every field's place, a list is padded up to the
index, and a map entry goes under the key converted again, which is the key that resolution
converted as long as the registry's converters return values of their own shapes.  A set
member is found by the member, not by the value stored, and is left out.
-/

namespace ValuePaths

variable [Catalogue]

open Logged

namespace Context

variable (ctx : Context)

/-! ## What a store does -/

/-- The stores that succeed, arm by arm, with what each checked: a field that can be written
takes a value of its shape; a list, padded up to the index, takes a value of its element
shape at the end or in place; an untyped list, padded the same way, takes anything at the
end and, in place, a value of the shape of the element there; an array slot in range, a
map entry under the key converted again, and a set member take a value of the element
shape; a text table takes text under a text key. -/
inductive Stored (step : Step) (v : Value) : Value → Value → Prop
  | field {name : String} {access : Access} {r : Record} {fields : List Value} {f : Field}
      (hkey : step.key = .field name access) (hw : access.writable = true)
      (hf : r.field? name = some f) (hv : v.shape = f.shape) :
      Stored step v (.record r fields) ((Value.record r fields).setChild step.key v)
  | push {i : Nat} {l : ListLayout} {t : Shape} {items items' : List Value}
      (hkey : step.key = .index i)
      (hp : (ctx.pad items i (Value.list l t items).shape step.target).val = (items', .ok ()))
      (hv : v.shape = t) (hi : i = items'.length) :
      Stored step v (.list l t items) (.list l t (items' ++ [v]))
  | put {i : Nat} {l : ListLayout} {t : Shape} {items items' : List Value}
      (hkey : step.key = .index i)
      (hp : (ctx.pad items i (Value.list l t items).shape step.target).val = (items', .ok ()))
      (hv : v.shape = t) (hi : i < items'.length) :
      Stored step v (.list l t items) (.list l t (items'.set i v))
  | pushUntyped {i : Nat} {items items' : List Value} (hkey : step.key = .index i)
      (hp : (ctx.pad items i (Value.untypedList items).shape step.target).val =
        (items', .ok ()))
      (hi : items'[i]? = none) :
      Stored step v (.untypedList items) (.untypedList (items' ++ [v]))
  | putUntyped {i : Nat} {items items' : List Value} {old : Value} (hkey : step.key = .index i)
      (hp : (ctx.pad items i (Value.untypedList items).shape step.target).val =
        (items', .ok ()))
      (hold : items'[i]? = some old) (hv : v.shape = old.shape) :
      Stored step v (.untypedList items) (.untypedList (items'.set i v))
  | array {i : Nat} {t : Shape} {items : List Value} (hkey : step.key = .index i)
      (hi : i < items.length) (hv : v.shape = t) :
      Stored step v (.array t items) (.array t (items.set i v))
  | entry {raw : String} {key owned : Value} {p : Placement} {kt vt : Shape}
      {es : List (Value × Value)} (hkey : step.key = .member raw key)
      (howned : (ctx.coerce (.typed key.shape) (.one raw)).run.val = .ok owned)
      (hv : v.shape = vt) :
      Stored step v (.map p kt vt es)
        (.map (Entries.add ctx.table p kt vt owned v es).1 kt vt
          (Entries.add ctx.table p kt vt owned v es).2.1)
  | member {p : Placement} {t : Shape} {ms : List Value}
      (hkey : (∃ raw key, step.key = .member raw key) ∨ ∃ raw, step.key = .text raw)
      (hv : v.shape = t) :
      Stored step v (.set p t ms)
        (.set (Members.add ctx.table p t v ms).1 t (Members.add ctx.table p t v ms).2.1)
  | text {k s : String} {es : List (String × String)} (hkey : step.key = .text k)
      (hv : v = .string s) : Stored step v (.properties es) (.properties (Table.insert k s es).1)

/-- A store that succeeds took one of the arms of `Stored`. -/
theorem store_ok {step : Step} {c c' v : Value} (h : (ctx.store step c v).val = (c', .ok ())) :
    ctx.Stored step v c c' := by
  unfold store at h
  dsimp only at h
  split at h
  · -- a field
    rename_i name access r fields hkey
    split at h
    · cases h
    · rename_i hw
      split at h
      · rename_i f hf
        split at h
        · rename_i hv
          cases h
          exact .field hkey (by simpa using hw) hf (eq_of_beq hv)
        · cases h
      · cases h
  · -- a list element, after padding up to it
    rename_i i l t items hkey
    unfold val at h
    rw [run_bind_eq, Oblivious.fst_run (ctx.oblivious_pad _ _ _ _)] at h
    generalize hp : (ctx.pad items i _ step.target).val = padded at h
    obtain ⟨items', r⟩ := padded
    cases r with
    | error f => cases h
    | ok u =>
      cases u
      have hlen := ctx.pad_length hp
      dsimp only at h
      split at h
      · rename_i hv
        cases h
        split
        · exact .push hkey hp (eq_of_beq hv) (eq_of_beq ‹_›)
        · rename_i hi
          exact .put hkey hp (eq_of_beq hv) (Nat.lt_of_le_of_ne hlen (by simpa using hi))
      · cases h
  · -- an element of an untyped list, after padding up to it
    rename_i i items hkey
    unfold val at h
    rw [run_bind_eq, Oblivious.fst_run (ctx.oblivious_pad _ _ _ _)] at h
    generalize hp : (ctx.pad items i _ step.target).val = padded at h
    obtain ⟨items', r⟩ := padded
    cases r with
    | error f => cases h
    | ok u =>
      cases u
      dsimp only at h
      split at h
      · rename_i hnone
        cases h
        exact .pushUntyped hkey hp hnone
      · rename_i old hold
        split at h
        · rename_i hv
          cases h
          exact .putUntyped hkey hp hold (eq_of_beq hv)
        · cases h
  · -- an array slot
    rename_i i t items hkey
    split at h
    · rename_i hi
      split at h
      · rename_i hv
        cases h
        exact .array hkey hi (eq_of_beq hv)
      · cases h
    · cases h
  · -- a map entry, under the key converted again
    rename_i raw key l kt vt es hkey
    unfold val at h
    rw [run_bind_eq, Oblivious.fst_run (ctx.oblivious_coerce _ _)] at h
    cases howned : (ctx.coerce (.typed key.shape) (.one raw)).run.val with
    | error f =>
      rw [howned] at h
      cases h
    | ok owned =>
      rw [howned] at h
      dsimp only at h
      split at h
      · rename_i hv
        cases h
        exact .entry hkey howned (eq_of_beq hv)
      · cases h
  · -- a set member, under a converted key
    rename_i raw key l t ms hkey
    split at h
    · rename_i hv
      cases h
      exact .member (.inl ⟨raw, key, hkey⟩) (eq_of_beq hv)
    · cases h
  · -- a set member, under a text
    rename_i raw l t ms hkey
    split at h
    · rename_i hv
      cases h
      exact .member (.inr ⟨raw, hkey⟩) (eq_of_beq hv)
    · cases h
  · -- a text entry
    rename_i k es hkey
    split at h
    · cases h
      exact .text hkey rfl
    · cases h
  · cases h
  · cases h

/-- Each arm of `Stored` is a store that succeeds. -/
theorem store_of_stored {step : Step} {c c' v : Value} (h : ctx.Stored step v c c') :
    (ctx.store step c v).val = (c', .ok ()) := by
  cases h with
  | field hkey hw hf hv =>
    unfold store
    simp only [hkey, hw, hf, hv, beq_self_eq_true, Bool.not_true, Bool.false_eq_true, if_false,
      if_true]
    rfl
  | push hkey hp hv hi =>
    unfold store val
    simp only [hkey]
    rw [run_bind_eq, Oblivious.fst_run (ctx.oblivious_pad _ _ _ _), hp]
    simp [hv, hi]
    rfl
  | put hkey hp hv hi =>
    unfold store val
    simp only [hkey]
    rw [run_bind_eq, Oblivious.fst_run (ctx.oblivious_pad _ _ _ _), hp]
    simp [hv, Nat.ne_of_lt hi]
    rfl
  | pushUntyped hkey hp hi =>
    unfold store val
    simp only [hkey]
    rw [run_bind_eq, Oblivious.fst_run (ctx.oblivious_pad _ _ _ _), hp]
    simp [hi]
    rfl
  | putUntyped hkey hp hold hv =>
    unfold store val
    simp only [hkey]
    rw [run_bind_eq, Oblivious.fst_run (ctx.oblivious_pad _ _ _ _), hp]
    simp [hold, hv]
    rfl
  | array hkey hi hv =>
    unfold store
    simp only [hkey]
    simp [hi, hv]
  | entry hkey howned hv =>
    unfold store val
    simp only [hkey]
    rw [run_bind_eq, Oblivious.fst_run (ctx.oblivious_coerce _ _), howned]
    simp [hv]
    rfl
  | member hkey hv =>
    rcases hkey with ⟨raw, key, hkey⟩ | ⟨raw, hkey⟩ <;>
    · unfold store
      simp only [hkey]
      simp [hv]
  | text hkey hv =>
    subst hv
    unfold store
    simp only [hkey]
    rfl

/-- The stores that fail, arm by arm, with the check that failed: a field that cannot be
written, is not declared, or is given a value of another shape; a list whose padding fails,
or that refuses, once padded, a value of another element shape; an untyped list the same
way, at an element already there of another shape; an array slot out of range or given a
value of another shape; a map key that does not convert, or an entry of another shape; a
set member of another shape; a text table given anything but text; the element count; and
any key the container has no place for.  Only a padded list is handed back changed. -/
inductive Unstored (step : Step) (v : Value) : Value → Value → Fault → Prop
  | readOnly {name : String} {access : Access} {r : Record} {fields : List Value}
      (hkey : step.key = .field name access) (hw : access.writable = false) :
      Unstored step v (.record r fields) (.record r fields)
        (.readOnly (Value.record r fields).shape name)
  | noField {name : String} {access : Access} {r : Record} {fields : List Value}
      (hkey : step.key = .field name access) (hw : access.writable = true)
      (hf : r.field? name = none) :
      Unstored step v (.record r fields) (.record r fields)
        (.noProperty (Value.record r fields).shape name)
  | fieldMisfit {name : String} {access : Access} {r : Record} {fields : List Value}
      {f : Field} (hkey : step.key = .field name access) (hw : access.writable = true)
      (hf : r.field? name = some f) (hv : v.shape ≠ f.shape) :
      Unstored step v (.record r fields) (.record r fields) (Fault.misfit step.target.shape v)
  | unpadded {i : Nat} {l : ListLayout} {t : Shape} {items items' : List Value} {f : Fault}
      (hkey : step.key = .index i)
      (hp : (ctx.pad items i (Value.list l t items).shape step.target).val = (items', .error f)) :
      Unstored step v (.list l t items) (.list l t items') f
  | listMisfit {i : Nat} {l : ListLayout} {t : Shape} {items items' : List Value}
      (hkey : step.key = .index i)
      (hp : (ctx.pad items i (Value.list l t items).shape step.target).val = (items', .ok ()))
      (hv : v.shape ≠ t) :
      Unstored step v (.list l t items) (.list l t items') (Fault.misfit step.target.shape v)
  | unpaddedUntyped {i : Nat} {items items' : List Value} {f : Fault}
      (hkey : step.key = .index i)
      (hp : (ctx.pad items i (Value.untypedList items).shape step.target).val =
        (items', .error f)) :
      Unstored step v (.untypedList items) (.untypedList items') f
  | untypedMisfit {i : Nat} {items items' : List Value} {old : Value}
      (hkey : step.key = .index i)
      (hp : (ctx.pad items i (Value.untypedList items).shape step.target).val =
        (items', .ok ()))
      (hold : items'[i]? = some old) (hv : v.shape ≠ old.shape) :
      Unstored step v (.untypedList items) (.untypedList items') (Fault.misfit step.target.shape v)
  | arrayMisfit {i : Nat} {t : Shape} {items : List Value} (hkey : step.key = .index i)
      (hi : i < items.length) (hv : v.shape ≠ t) :
      Unstored step v (.array t items) (.array t items) (Fault.misfit step.target.shape v)
  | outside {i : Nat} {t : Shape} {items : List Value} (hkey : step.key = .index i)
      (hi : ¬i < items.length) :
      Unstored step v (.array t items) (.array t items)
        (.unsupported .array (Value.array t items).shape (.index i items.length))
  | unconverted {raw : String} {key : Value} {p : Placement} {kt vt : Shape}
      {es : List (Value × Value)} {f : Fault} (hkey : step.key = .member raw key)
      (howned : (ctx.coerce (.typed key.shape) (.one raw)).run.val = .error f) :
      Unstored step v (.map p kt vt es) (.map p kt vt es) f
  | entryMisfit {raw : String} {key owned : Value} {p : Placement} {kt vt : Shape}
      {es : List (Value × Value)} (hkey : step.key = .member raw key)
      (howned : (ctx.coerce (.typed key.shape) (.one raw)).run.val = .ok owned)
      (hv : v.shape ≠ vt) :
      Unstored step v (.map p kt vt es) (.map p kt vt es) (Fault.misfit step.target.shape v)
  | memberMisfit {p : Placement} {t : Shape} {ms : List Value}
      (hkey : (∃ raw key, step.key = .member raw key) ∨ ∃ raw, step.key = .text raw)
      (hv : v.shape ≠ t) :
      Unstored step v (.set p t ms) (.set p t ms) (Fault.misfit step.target.shape v)
  | notText {k : String} {es : List (String × String)} (hkey : step.key = .text k)
      (hv : ∀ s, v ≠ .string s) :
      Unstored step v (.properties es) (.properties es) (Fault.misfit step.target.shape v)
  | length {c : Value} (hkey : step.key = .length) :
      Unstored step v c c (.unsupported .length c.shape .assignment)
  | unsupported {c : Value} :
      Unstored step v c c (.unsupported step.kind c.shape (.write step.key.describe))

/-- A store that fails took one of the arms of `Unstored`. -/
theorem store_unstored {step : Step} {c c' v : Value} {f : Fault}
    (h : (ctx.store step c v).val = (c', .error f)) : ctx.Unstored step v c c' f := by
  unfold store at h
  dsimp only at h
  split at h
  · -- a field
    rename_i name access r fields hkey
    split at h
    · rename_i hw
      cases h
      exact .readOnly hkey (by simpa using hw)
    · rename_i hw
      split at h
      · rename_i fd hf
        split at h
        · cases h
        · rename_i hv
          cases h
          exact .fieldMisfit hkey (by simpa using hw) hf (by simpa using hv)
      · rename_i hf
        cases h
        exact .noField hkey (by simpa using hw) hf
  · -- a list element, after padding up to it
    rename_i i l t items hkey
    unfold val at h
    rw [run_bind_eq, Oblivious.fst_run (ctx.oblivious_pad _ _ _ _)] at h
    generalize hp : (ctx.pad items i _ step.target).val = padded at h
    obtain ⟨items', r⟩ := padded
    cases r with
    | error f' =>
      cases h
      exact .unpadded hkey hp
    | ok u =>
      cases u
      dsimp only at h
      split at h
      · cases h
      · rename_i hv
        cases h
        exact .listMisfit hkey hp (by simpa using hv)
  · -- an element of an untyped list, after padding up to it
    rename_i i items hkey
    unfold val at h
    rw [run_bind_eq, Oblivious.fst_run (ctx.oblivious_pad _ _ _ _)] at h
    generalize hp : (ctx.pad items i _ step.target).val = padded at h
    obtain ⟨items', r⟩ := padded
    cases r with
    | error f' =>
      cases h
      exact .unpaddedUntyped hkey hp
    | ok u =>
      cases u
      dsimp only at h
      split at h
      · cases h
      · rename_i old hold
        split at h
        · cases h
        · rename_i hv
          cases h
          exact .untypedMisfit hkey hp hold (by simpa using hv)
  · -- an array slot
    rename_i i t items hkey
    split at h
    · rename_i hi
      split at h
      · cases h
      · rename_i hv
        cases h
        exact .arrayMisfit hkey hi (by simpa using hv)
    · rename_i hi
      cases h
      exact .outside hkey hi
  · -- a map entry, under the key converted again
    rename_i raw key l kt vt es hkey
    unfold val at h
    rw [run_bind_eq, Oblivious.fst_run (ctx.oblivious_coerce _ _)] at h
    cases howned : (ctx.coerce (.typed key.shape) (.one raw)).run.val with
    | error f' =>
      rw [howned] at h
      cases h
      exact .unconverted hkey howned
    | ok owned =>
      rw [howned] at h
      dsimp only at h
      split at h
      · cases h
      · rename_i hv
        cases h
        exact .entryMisfit hkey howned (by simpa using hv)
  · -- a set member, under a converted key
    rename_i raw key l t ms hkey
    split at h
    · cases h
    · rename_i hv
      cases h
      exact .memberMisfit (.inl ⟨raw, key, hkey⟩) (by simpa using hv)
  · -- a set member, under a text
    rename_i raw l t ms hkey
    split at h
    · cases h
    · rename_i hv
      cases h
      exact .memberMisfit (.inr ⟨raw, hkey⟩) (by simpa using hv)
  · -- a text entry
    rename_i k es hkey
    split at h
    · cases h
    · rename_i hv
      cases h
      exact .notText hkey hv
  · rename_i hkey
    cases h
    exact .length hkey
  · cases h
    exact .unsupported

/-- A store that fails hands the container back as it was, or, when it refused the value
after padding a list, the list padded up to the index. -/
theorem store_error {step : Step} {c c' v : Value} {f : Fault}
    (h : (ctx.store step c v).val = (c', .error f)) :
    c' = c ∨ ∃ i items items', step.key = .index i ∧
      (ctx.pad items i c.shape step.target).val = (items', .ok ()) ∧
      ((∃ l t, c = .list l t items ∧ c' = .list l t items') ∨
        (c = .untypedList items ∧ c' = .untypedList items')) := by
  cases ctx.store_unstored h with
  | unpadded _ hp | unpaddedUntyped _ hp =>
    -- the padding failed and handed the list back
    rw [ctx.pad_failed hp]
    exact .inl rfl
  | listMisfit hkey hp _ => exact .inr ⟨_, _, _, hkey, hp, .inl ⟨_, _, rfl, rfl⟩⟩
  | untypedMisfit hkey hp _ _ => exact .inr ⟨_, _, _, hkey, hp, .inr ⟨rfl, rfl⟩⟩
  | readOnly | noField | fieldMisfit | arrayMisfit | outside | unconverted | entryMisfit
  | memberMisfit | notText | length | unsupported => exact .inl rfl

/-- A store that failed fails again the same way on what it left: a list it padded is long
enough now, and refuses the value as before. -/
theorem store_error_again {step : Step} {c c' v : Value} {f : Fault}
    (h : (ctx.store step c v).val = (c', .error f)) :
    (ctx.store step c' v).val = (c', .error f) := by
  rcases ctx.store_error h with rfl | ⟨i, items, items', hkey, hp, ⟨l, t, rfl, rfl⟩ | ⟨rfl, rfl⟩⟩
  · exact h
  · have hagain : (ctx.pad items' i (Value.list l t items').shape step.target).val =
        (items', .ok ()) := ctx.pad_again hp (ctx.pad_length hp)
    unfold store val at h ⊢
    simp only [hkey] at h ⊢
    rw [run_bind_eq, Oblivious.fst_run (ctx.oblivious_pad _ _ _ _), hp] at h
    rw [run_bind_eq, Oblivious.fst_run (ctx.oblivious_pad _ _ _ _), hagain]
    dsimp only at h ⊢
    split at h
    · exact absurd (congrArg Prod.snd h) (fun h' => by cases h')
    · rw [if_neg ‹_›]
      exact h
  · have hagain : (ctx.pad items' i (Value.untypedList items').shape step.target).val =
        (items', .ok ()) := ctx.pad_again hp (ctx.pad_length hp)
    unfold store val at h ⊢
    simp only [hkey] at h ⊢
    rw [run_bind_eq, Oblivious.fst_run (ctx.oblivious_pad _ _ _ _), hp] at h
    rw [run_bind_eq, Oblivious.fst_run (ctx.oblivious_pad _ _ _ _), hagain]
    dsimp only at h ⊢
    split at h
    · exact absurd (congrArg Prod.snd h) (fun h' => by cases h')
    · split at h
      · exact absurd (congrArg Prod.snd h) (fun h' => by cases h')
      · rw [if_neg ‹_›]
        exact h

/-- A successful store keeps the shape of the container. -/
theorem store_shape {step : Step} {c c' v : Value} (h : (ctx.store step c v).val = (c', .ok ())) :
    c'.shape = c.shape := by
  cases ctx.store_ok h with
  | field => exact Value.shape_setChild _ _ _
  | _ => simp [Value.shape]

/-- Only containers take a store. -/
theorem store_container {step : Step} {c c' v : Value}
    (h : (ctx.store step c v).val = (c', .ok ())) : c.shape.unwrap = c.shape := by
  cases c
  case option t o =>
    -- no arm of a store takes an `Option`
    obtain ⟨kind, key, container, target⟩ := step
    cases key <;> cases h
  all_goals rfl

/-- A store into a well-typed container, at a key bound to it, puts the value where a later
lookup of the key finds it; set members are not looked up by what is stored. -/
theorem store_child (hsound : ctx.registry.Sound) {step : Step} {c c' v : Value}
    (hc : c.WellTyped) (hb : ctx.Bound step) (hs : c.shape.unwrap = step.container)
    (hkind : step.kind ≠ .set) (h : (ctx.store step c v).val = (c', .ok ())) :
    c'.child? step.key = some v := by
  rw [ctx.store_container h] at hs
  cases hb with
  | @field r f hf =>
    cases c <;> cases hs
    rename_i fields
    -- the record, being well typed, has a value at the field's place
    obtain ⟨i, hi, hfi⟩ := Record.fieldIndex_of_field? hf
    have hlen : fields.length = r.fields.length := by
      cases hc with
      | record shapes _ => simpa using congrArg List.length shapes
    obtain ⟨x, hx⟩ : ∃ x, fields[i]? = some x :=
      ⟨_, List.getElem?_eq_getElem (hlen ▸ (List.getElem?_eq_some_iff.mp hfi).1)⟩
    have hold : (Value.record r fields).child? (.field f.name f.access) = some x := by
      simp [Value.child?, hi, hx]
    cases ctx.store_ok h with
    | field => exact Value.child?_setChild v hold (by simp) (by simp)
  | length hc =>
    cases c <;> cases h
  | list l t i =>
    cases c <;> cases hs
    -- the value goes at the end when the index is the length, in place otherwise
    cases ctx.store_ok h with
    | push hkey _ _ hi =>
      cases hkey
      simp [hi, Value.child?]
    | put hkey _ _ hi =>
      cases hkey
      simp [hi, Value.child?]
  | untypedList i =>
    cases c <;> cases hs
    cases ctx.store_ok h with
    | pushUntyped hkey hp hnone =>
      cases hkey
      have hlen := ctx.pad_length hp
      have hi : i = _ := Nat.le_antisymm hlen (List.getElem?_eq_none_iff.mp hnone)
      simp [hi, Value.child?]
    | putUntyped hkey _ hold _ =>
      cases hkey
      simp [(List.getElem?_eq_some_iff.mp hold).1, Value.child?]
  | array t n i =>
    cases c <;> cases hs
    cases ctx.store_ok h with
    | array hkey hlt _ =>
      cases hkey
      simp [hlt, Value.child?]
  | map l k w raw key hkey =>
    cases c <;> cases hs
    cases ctx.store_ok h with
    | entry hkey' howned _ =>
      cases hkey'
      -- the key converted again is the key that resolution converted
      rw [ctx.coerce_typed_shape hsound hkey, hkey] at howned
      cases howned
      simp [Value.child?, Entries.find?_add_self]
  | member l t raw key hkey => exact absurd rfl hkind
  | text l t raw => exact absurd rfl hkind
  | properties raw =>
    cases c <;> cases hs
    cases ctx.store_ok h with
    | text hkey hv =>
      cases hkey
      subst hv
      simp [Value.child?, Table.find?_insert_self]

end Context

end ValuePaths
