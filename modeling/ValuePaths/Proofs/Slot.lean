import ValuePaths.Proofs.Resolve
import ValuePaths.Proofs.Collection
import ValuePaths.Proofs.Coerce

/-!
# Entering an element

What a write finds when it enters an element to go on below it.  Entering creates what is
missing (list elements up to the index, a map entry under the converted key), fills the
element's unset `Option` layers and puts it back; `descend_child` says that the element a
successful entry leaves behind is the stored one or a created one, filled.
-/

namespace ValuePaths

variable [Catalogue]

open Logged

namespace Value

/-- Replacing an element that is stored is what a later lookup finds; sets and text
tables replace nothing. -/
theorem child?_setChild {c x : Value} {k : Key} (y : Value) (h : c.child? k = some x)
    (hset : ∀ p t ms, c ≠ .set p t ms) (hprops : ∀ es, c ≠ .properties es) :
    (c.setChild k y).child? k = some y := by
  have hlt {items : List Value} {i : Nat} (hi : items[i]? = some x) : i < items.length :=
    (List.getElem?_eq_some_iff.mp hi).1
  -- a key that finds nothing in its container is refuted at once
  cases c <;> cases k <;> try cases h
  case record.field r fields name _ =>
    cases hi : fieldIndex r name with
    | none => simp [child?, hi] at h
    | some i =>
      simp only [child?, hi, Option.bind_some] at h
      simp [child?, setChild, hi, hlt h]
  case list.index | untypedList.index | array.index => simp [child?, setChild, hlt h]
  case map.member =>
    simp only [child?] at h
    simp [child?, setChild, Entries.find?_update, h]
  case set.member => exact absurd rfl (hset _ _ _)
  case properties.text => exact absurd rfl (hprops _)

/-- Replacing an element keeps the shape of the container. -/
@[simp] theorem shape_setChild (c : Value) (k : Key) (y : Value) :
    (c.setChild k y).shape = c.shape := by
  cases c <;> cases k <;> try rfl
  case record.field =>
    simp only [setChild]
    split <;> rfl
  case array.index => simp [setChild, shape]

/-- Only containers store elements, and a container is no option. -/
theorem shape_unwrap_of_child? {c x : Value} {k : Key} (h : c.child? k = .some x) :
    c.shape.unwrap = c.shape := by
  cases c
  case option t o => simp [child?] at h
  all_goals rfl

omit [Catalogue] in
/-- A value whose shape has no `Option` layer is present as itself. -/
theorem present_of_unwrap {v : Value} (h : v.shape.unwrap = v.shape) : v.present = some v := by
  cases v
  case option t o =>
    have hkind := congrArg Shape.kind h
    exact absurd hkind (Shape.kind_unwrap_ne_optional t)
  all_goals rfl

omit [Catalogue] in
/-- Replacing what lies under the set layers of a value is what a read strips down to. -/
@[simp] theorem present_withInner (v w : Value) : (v.withInner w).present = w.present := by
  fun_induction withInner v w with
  | case1 t v w ih => simpa [present] using ih
  | case2 v w _ => rfl

/-- No container stores anything under the element count. -/
@[simp] theorem child?_length (c : Value) : c.child? .length = none := by
  cases c <;> rfl

end Value

/-- A read of an element that is stored strips its layers. -/
theorem Step.read_of_child? {step : Step} {c x : Value}
    (hread : ∀ name access, step.key = .field name access → access.readable)
    (h : c.child? step.key = some x) : step.read c = x.present.map .value := by
  have hc : c.present = some c := Value.present_of_unwrap (Value.shape_unwrap_of_child? h)
  unfold Step.read
  simp only [hc, Option.bind_eq_bind, Option.bind_some]
  cases hk : step.key with
  | length => rw [hk] at h; simp at h
  | field name access =>
    rw [hk] at h
    simp [hread name access hk, h]
  | _ => rw [hk] at h; simp [h]


namespace Context

variable (ctx : Context)

/-- An unset layer takes the registered default and is filled below. -/
theorem val_fillAt_option_none (t t' : Shape) :
    (ctx.fillAt (.option t) (.option t' none)).val =
      match (ctx.createMissing (.typed t')).run.val with
      | .error f => (.option t' none, .error f)
      | .ok inner =>
        (.option t' (some (ctx.fillAt t inner).val.1), (ctx.fillAt t inner).val.2) := by
  conv => lhs; unfold val fillAt
  simp only [run_bind_eq]
  rw [Oblivious.fst_run (ctx.oblivious_createMissing _)]
  cases (ctx.createMissing (.typed t')).run.val with
  | error f => rfl
  | ok inner =>
    simp only [run_bind_eq]
    rw [Oblivious.fst_run (ctx.oblivious_fillAt _ _)]
    rfl

/-- A set layer is kept and filled below. -/
theorem val_fillAt_option_some (t t' : Shape) (v : Value) :
    (ctx.fillAt (.option t) (.option t' (some v))).val =
      (.option t' (some (ctx.fillAt t v).val.1), (ctx.fillAt t v).val.2) := by
  conv => lhs; unfold val fillAt
  simp only [run_bind_eq]
  rw [Oblivious.fst_run (ctx.oblivious_fillAt _ _)]
  rfl

/-- A list padded without failure is the list, long enough already, or the list followed by
created elements up to the length asked for. -/
theorem pad_ok {items items' : List Value} {n : Nat} {ty : Shape} {target : Target}
    (h : (ctx.pad items n ty target).val = (items', .ok ())) :
    (items' = items ∧ n ≤ items.length) ∨
      ∃ filler, (ctx.createMissing target).run.val = .ok filler ∧
        items' = items ++ List.replicate (n - items.length) filler := by
  unfold pad at h
  dsimp only at h
  split at h
  · cases h
  · split at h
    · cases h
      exact .inl ⟨rfl, by omega⟩
    · unfold val at h
      rw [run_bind_eq, Oblivious.fst_run (ctx.oblivious_createMissing _)] at h
      cases hm : (ctx.createMissing target).run.val with
      | error f => rw [hm] at h; cases h
      | ok filler =>
        rw [hm] at h
        cases h
        exact .inr ⟨filler, rfl, rfl⟩

/-- A list padded without failure reaches the length asked for. -/
theorem pad_length {items items' : List Value} {n : Nat} {ty : Shape} {target : Target}
    (h : (ctx.pad items n ty target).val = (items', .ok ())) : n ≤ items'.length := by
  rcases ctx.pad_ok h with ⟨rfl, hn⟩ | ⟨filler, -, rfl⟩
  · exact hn
  · simp only [List.length_append, List.length_replicate]
    omega

/-- A list padded without failure is padded again to the same length without change, as is
any list as long. -/
theorem pad_again {items items' items'' : List Value} {n : Nat} {ty : Shape} {target : Target}
    (h : (ctx.pad items n ty target).val = (items', .ok ())) (hlen : n ≤ items''.length) :
    (ctx.pad items'' n ty target).val = (items'', .ok ()) := by
  unfold pad at h ⊢
  dsimp only at h ⊢
  split at h
  · cases h
  · rename_i hcheck
    have hmax : ¬ n > IntType.usize.max.toNat := fun h' => hcheck (by simp [h'])
    rw [if_neg (by simp [hmax]; omega), if_pos (by omega)]
    rfl

/-- A list that padding failed on is left as it was. -/
theorem pad_failed {items items' : List Value} {n : Nat} {ty : Shape} {target : Target} {f : Fault}
    (h : (ctx.pad items n ty target).val = (items', .error f)) : items' = items := by
  unfold pad at h
  dsimp only at h
  split at h
  · cases h
    rfl
  · split at h
    · cases h
    · unfold val at h
      rw [run_bind_eq, Oblivious.fst_run (ctx.oblivious_createMissing _)] at h
      cases hm : (ctx.createMissing target).run.val with
      | error f' =>
        rw [hm] at h
        cases h
        rfl
      | ok filler =>
        rw [hm] at h
        cases h

/-- Entering a container goes to the element stored under the key, fills its layers and puts
it back; where none is stored, the entry is refused and the container handed back. -/
theorem enter_cases {key : Key} {ty : Shape} {c₀ c' : Value} {res : Except Fault Unit}
    {s : Array Note}
    (h : ((match c₀.child? key with
      | none => pure (c₀, .error (.noProperty ty key.describe))
      | some child => do
        let (child, r) ← ctx.fill child
        pure (c₀.setChild key child, r) : Logged (Value × Except Fault Unit)).run s).1 =
          (c', res)) :
    (c₀.child? key = none ∧ c' = c₀ ∧ res = .error (.noProperty ty key.describe)) ∨
      ∃ x, c₀.child? key = some x ∧ c' = c₀.setChild key (ctx.fill x).val.1 ∧
        res = (ctx.fill x).val.2 := by
  split at h
  · cases h
    exact .inl ⟨‹_›, rfl, rfl⟩
  · rename_i x hx
    rw [run_bind_eq, Oblivious.fst_run (ctx.oblivious_fill _)] at h
    cases h
    exact .inr ⟨x, hx, rfl, rfl⟩

omit [Catalogue] in
/-- An element of a padded list is an element of the list or the filler. -/
theorem getElem?_padded {items : List Value} {m i : Nat} {filler old : Value}
    (h : (items ++ List.replicate m filler)[i]? = some old) :
    items[i]? = some old ∨ old = filler := by
  rw [List.getElem?_append] at h
  split at h
  · exact .inl h
  · rw [List.getElem?_replicate] at h
    split at h
    · exact .inr (Option.some.inj h).symm
    · cases h

/-- The element at an index of a list padded up to it is the stored one, or a created one
where none is stored. -/
theorem padded_child {items items' : List Value} {i : Nat} {ty : Shape} {target : Target}
    {old : Value} (hp : (ctx.pad items (i + 1) ty target).val = (items', .ok ()))
    (hold : items'[i]? = some old) :
    items[i]?.or (ctx.createMissing target).run.val.toOption = some old := by
  rcases ctx.pad_ok hp with ⟨rfl, -⟩ | ⟨filler, hfiller, rfl⟩
  · rw [hold, Option.some_or]
  · cases hi : items[i]? with
    | some y =>
      rw [List.getElem?_append_left (List.getElem?_eq_some_iff.mp hi).1, hi] at hold
      rw [hold, Option.some_or]
    | none =>
      rcases getElem?_padded hold with hold | rfl
      · rw [hi] at hold
        cases hold
      · simp [hfiller, Except.toOption]

/-- The containers an entry opens, arm by arm, with what each checked: a record whose field
can be read, and written or is present already; a list padded past the index; an array
with the slot in range; a map with an entry under the key, or with a registered default
added under the key converted again. -/
inductive Opens (step : Step) : Value → Value → Prop
  | field {name : String} {access : Access} {r : Record} {fields : List Value} {x : Value}
      (hkey : step.key = .field name access) (hread : access.readable = true)
      (hx : (Value.record r fields).child? step.key = some x)
      (hguard : access.writable = true ∨ x.present.isSome = true) :
      Opens step (.record r fields) (.record r fields)
  | list {i : Nat} {l : ListLayout} {t : Shape} {items items' : List Value}
      (hkey : step.key = .index i)
      (hp : (ctx.pad items (i + 1) (Value.list l t items).shape step.target).val =
        (items', .ok ())) :
      Opens step (.list l t items) (.list l t items')
  | untypedList {i : Nat} {items items' : List Value} (hkey : step.key = .index i)
      (hp : (ctx.pad items (i + 1) (Value.untypedList items).shape step.target).val =
        (items', .ok ())) :
      Opens step (.untypedList items) (.untypedList items')
  | array {i : Nat} {t : Shape} {items : List Value} (hkey : step.key = .index i)
      (hi : i < items.length) : Opens step (.array t items) (.array t items)
  | entry {raw : String} {key x : Value} {p : Placement} {kt vt : Shape}
      {es : List (Value × Value)} (hkey : step.key = .member raw key)
      (hx : Entries.find? key es = some x) : Opens step (.map p kt vt es) (.map p kt vt es)
  | added {raw : String} {key fresh owned : Value} {p : Placement} {kt vt : Shape}
      {es : List (Value × Value)} (hkey : step.key = .member raw key)
      (hnone : Entries.find? key es = none)
      (hfresh : (ctx.createMissing step.target).run.val = .ok fresh)
      (howned : (ctx.coerce (.typed key.shape) (.one raw)).run.val = .ok owned) :
      Opens step (.map p kt vt es)
        (.map (Entries.add ctx.table p kt vt owned fresh es).1 kt vt
          (Entries.add ctx.table p kt vt owned fresh es).2.1)

/-- The entries refused before anything is entered, arm by arm, with the check that failed:
a field that cannot be read, that is not there, or that cannot be written and is absent; a
list whose padding past the index fails; an array slot out of range; a map entry missing
under the key, for which no default can be made or the key does not convert; and any key
the container has no place for. -/
inductive Unopened (step : Step) : Value → Fault → Prop
  | writeOnly {name : String} {access : Access} {r : Record} {fields : List Value}
      (hkey : step.key = .field name access) (hread : access.readable = false) :
      Unopened step (.record r fields) (.writeOnly (Value.record r fields).shape name)
  | readOnly {name : String} {access : Access} {r : Record} {fields : List Value} {x : Value}
      (hkey : step.key = .field name access) (hread : access.readable = true)
      (hx : (Value.record r fields).child? step.key = some x) (hw : access.writable = false)
      (habsent : x.present = none) :
      Unopened step (.record r fields) (.readOnly (Value.record r fields).shape name)
  | noField {name : String} {access : Access} {r : Record} {fields : List Value}
      (hkey : step.key = .field name access) (hread : access.readable = true)
      (hx : (Value.record r fields).child? step.key = none) :
      Unopened step (.record r fields) (.noProperty (Value.record r fields).shape name)
  | unpadded {i : Nat} {l : ListLayout} {t : Shape} {items items' : List Value} {f : Fault}
      (hkey : step.key = .index i)
      (hp : (ctx.pad items (i + 1) (Value.list l t items).shape step.target).val =
        (items', .error f)) :
      Unopened step (.list l t items) f
  | unpaddedUntyped {i : Nat} {items items' : List Value} {f : Fault}
      (hkey : step.key = .index i)
      (hp : (ctx.pad items (i + 1) (Value.untypedList items).shape step.target).val =
        (items', .error f)) :
      Unopened step (.untypedList items) f
  | outside {i : Nat} {t : Shape} {items : List Value} (hkey : step.key = .index i)
      (hi : ¬i < items.length) :
      Unopened step (.array t items)
        (.unsupported .array (Value.array t items).shape (.index i items.length))
  | uncreated {raw : String} {key : Value} {p : Placement} {kt vt : Shape}
      {es : List (Value × Value)} {f : Fault} (hkey : step.key = .member raw key)
      (hnone : Entries.find? key es = none)
      (hfresh : (ctx.createMissing step.target).run.val = .error f) :
      Unopened step (.map p kt vt es) f
  | unconverted {raw : String} {key fresh : Value} {p : Placement} {kt vt : Shape}
      {es : List (Value × Value)} {f : Fault} (hkey : step.key = .member raw key)
      (hnone : Entries.find? key es = none)
      (hfresh : (ctx.createMissing step.target).run.val = .ok fresh)
      (howned : (ctx.coerce (.typed key.shape) (.one raw)).run.val = .error f) :
      Unopened step (.map p kt vt es) f
  | unsupported {c : Value} :
      Unopened step c (.unsupported step.kind c.shape (.navigateInto step.key.describe))

/-- **What an entry does**: it refuses as one arm of `Unopened` and hands the container back
as it was, or it opens the container as one arm of `Opens` and enters the element stored
there, filling its layers; only a map entry added under a key that is not the one looked up
is not found. -/
theorem descend_opens {step : Step} {c c' : Value} {res : Except Fault Unit}
    (h : (ctx.descend step c).val = (c', res)) :
    (∃ f, ctx.Unopened step c f ∧ c' = c ∧ res = .error f) ∨ ∃ c₀, ctx.Opens step c c₀ ∧
      ((c₀.child? step.key = none ∧ c' = c₀ ∧
          res = .error (.noProperty c.shape step.key.describe)) ∨
        ∃ x, c₀.child? step.key = some x ∧ c' = c₀.setChild step.key (ctx.fill x).val.1 ∧
          res = (ctx.fill x).val.2) := by
  unfold descend at h
  dsimp only at h
  split at h
  · -- a field, opened when it can be read, and written or present
    rename_i name access r fields hkey
    split at h
    · rename_i hread
      cases h
      exact .inl ⟨_, .writeOnly hkey (by simpa using hread), rfl, rfl⟩
    · rename_i hread
      have hread : access.readable = true := by simpa using hread
      split at h
      · rename_i x hx
        split at h
        · rename_i hguard
          obtain ⟨hw, habsent⟩ : access.writable = false ∧ x.present = none := by
            simpa using hguard
          cases h
          exact .inl ⟨_, .readOnly hkey hread hx hw habsent, rfl, rfl⟩
        · rename_i hguard
          have hwritten : access.writable = true ∨ x.present.isSome = true := by
            cases hw : access.writable
            · right
              cases hp : x.present <;> simp_all
            · exact .inl rfl
          exact .inr ⟨_, .field hkey hread hx hwritten, ctx.enter_cases h⟩
      · rename_i hx
        cases h
        exact .inl ⟨_, .noField hkey hread hx, rfl, rfl⟩
  · -- a list element, after padding past it
    rename_i i l t items hkey
    unfold val at h
    rw [run_bind_eq, Oblivious.fst_run (ctx.oblivious_pad _ _ _ _)] at h
    generalize hp : (ctx.pad items (i + 1) _ step.target).val = padded at h
    obtain ⟨items', r⟩ := padded
    cases r with
    | error f =>
      cases h
      have hunpadded := Unopened.unpadded hkey hp
      rw [ctx.pad_failed hp]
      exact .inl ⟨_, hunpadded, rfl, rfl⟩
    | ok u => exact .inr ⟨_, .list hkey hp, ctx.enter_cases h⟩
  · -- an element of an untyped list, the same way
    rename_i i items hkey
    unfold val at h
    rw [run_bind_eq, Oblivious.fst_run (ctx.oblivious_pad _ _ _ _)] at h
    generalize hp : (ctx.pad items (i + 1) _ step.target).val = padded at h
    obtain ⟨items', r⟩ := padded
    cases r with
    | error f =>
      cases h
      have hunpadded := Unopened.unpaddedUntyped hkey hp
      rw [ctx.pad_failed hp]
      exact .inl ⟨_, hunpadded, rfl, rfl⟩
    | ok u => exact .inr ⟨_, .untypedList hkey hp, ctx.enter_cases h⟩
  · -- an array slot in range
    rename_i i t items hkey
    split at h
    · exact .inr ⟨_, .array hkey ‹_›, ctx.enter_cases h⟩
    · rename_i hi
      cases h
      exact .inl ⟨_, .outside hkey hi, rfl, rfl⟩
  · -- a map entry, found under the key, or added with a registered default
    rename_i raw key l kt vt es hkey
    split at h
    · exact .inr ⟨_, .entry hkey ‹_›, ctx.enter_cases h⟩
    · rename_i hnone
      unfold val at h
      rw [run_bind_eq, Oblivious.fst_run (ctx.oblivious_createMissing _)] at h
      cases hfresh : (ctx.createMissing step.target).run.val with
      | error f =>
        rw [hfresh] at h
        cases h
        exact .inl ⟨_, .uncreated hkey hnone hfresh, rfl, rfl⟩
      | ok fresh =>
        rw [hfresh] at h
        rw [run_bind_eq, Oblivious.fst_run (ctx.oblivious_coerce _ _)] at h
        cases howned : (ctx.coerce (.typed key.shape) (.one raw)).run.val with
        | error f =>
          rw [howned] at h
          cases h
          exact .inl ⟨_, .unconverted hkey hnone hfresh howned, rfl, rfl⟩
        | ok owned =>
          rw [howned] at h
          exact .inr ⟨_, .added hkey hnone hfresh howned, ctx.enter_cases h⟩
  · cases h
    exact .inl ⟨_, .unsupported, rfl, rfl⟩

/-- An entry into a container it opens goes to the element stored there. -/
theorem descend_of_opens {step : Step} {c c₀ x : Value} (ho : ctx.Opens step c c₀)
    (hx : c₀.child? step.key = some x) :
    (ctx.descend step c).val = (c₀.setChild step.key (ctx.fill x).val.1, (ctx.fill x).val.2) := by
  cases ho with
  | @field name access r fields x' hkey hread hx' hguard =>
    rw [hx] at hx'
    cases hx'
    have hentered : (!access.writable && x.present.isNone) = false := by
      rcases hguard with hw | hp
      · simp [hw]
      · cases hpx : x.present <;> simp_all
    unfold descend val
    simp only [hkey] at hx ⊢
    simp only [hread, hx, hentered, Bool.not_true, Bool.false_eq_true, if_false]
    rw [run_bind_eq, Oblivious.fst_run (ctx.oblivious_fill _)]
    rfl
  | list hkey hp =>
    unfold descend val
    simp only [hkey] at hx ⊢
    rw [run_bind_eq, Oblivious.fst_run (ctx.oblivious_pad _ _ _ _), hp]
    simp only [hx]
    rw [run_bind_eq, Oblivious.fst_run (ctx.oblivious_fill _)]
    rfl
  | untypedList hkey hp =>
    unfold descend val
    simp only [hkey] at hx ⊢
    rw [run_bind_eq, Oblivious.fst_run (ctx.oblivious_pad _ _ _ _), hp]
    simp only [hx]
    rw [run_bind_eq, Oblivious.fst_run (ctx.oblivious_fill _)]
    rfl
  | array hkey hi =>
    unfold descend val
    simp only [hkey] at hx ⊢
    simp only [hi, if_true, hx]
    rw [run_bind_eq, Oblivious.fst_run (ctx.oblivious_fill _)]
    rfl
  | entry hkey hfound =>
    unfold descend val
    simp only [hkey] at hx ⊢
    simp only [hfound, hx]
    rw [run_bind_eq, Oblivious.fst_run (ctx.oblivious_fill _)]
    rfl
  | added hkey hnone hfresh howned =>
    unfold descend val
    simp only [hkey] at hx ⊢
    simp only [hnone]
    rw [run_bind_eq, Oblivious.fst_run (ctx.oblivious_createMissing _), hfresh]
    dsimp only
    rw [run_bind_eq, Oblivious.fst_run (ctx.oblivious_coerce _ _), howned]
    simp only [hx]
    rw [run_bind_eq, Oblivious.fst_run (ctx.oblivious_fill _)]
    rfl

section Opened

variable {ctx}

/-- An opened container holds the element under the key, unless it is a map with an entry
added under another key than the one looked up. -/
theorem Opens.eq_added {step : Step} {c c₀ : Value} (ho : ctx.Opens step c c₀)
    (hnone : c₀.child? step.key = none) :
    ∃ raw key fresh owned p kt vt es, step.key = .member raw key ∧ Entries.find? key es = none ∧
      (ctx.createMissing step.target).run.val = .ok fresh ∧
      (ctx.coerce (.typed key.shape) (.one raw)).run.val = .ok owned ∧
      c = .map p kt vt es ∧
      c₀ = .map (Entries.add ctx.table p kt vt owned fresh es).1 kt vt
        (Entries.add ctx.table p kt vt owned fresh es).2.1 := by
  cases ho with
  | field _ _ hx => rw [hx] at hnone; cases hnone
  | list hkey hp | untypedList hkey hp =>
    have hlen := ctx.pad_length hp
    rw [hkey] at hnone
    simp only [Value.child?, List.getElem?_eq_none_iff] at hnone
    omega
  | array hkey hi =>
    rw [hkey] at hnone
    simp only [Value.child?, List.getElem?_eq_none_iff] at hnone
    omega
  | entry hkey hfound =>
    rw [hkey] at hnone
    simp only [Value.child?, hfound, reduceCtorEq] at hnone
  | added hkey hnone' hfresh howned =>
    exact ⟨_, _, _, _, _, _, _, _, hkey, hnone', hfresh, howned, rfl, rfl⟩

/-- Opening a container keeps its shape. -/
theorem Opens.shape_eq {step : Step} {c c₀ : Value} (ho : ctx.Opens step c c₀) :
    c₀.shape = c.shape := by
  cases ho <;> simp [Value.shape]

/-- The element stored in an opened container is the one stored before, or a created one
where none was. -/
theorem Opens.source {step : Step} {c c₀ x : Value} (ho : ctx.Opens step c c₀)
    (hx : c₀.child? step.key = some x) :
    (c.child? step.key).or (ctx.createMissing step.target).run.val.toOption = some x := by
  cases ho with
  | list hkey hp | untypedList hkey hp =>
    rw [hkey] at hx ⊢
    exact ctx.padded_child hp hx
  | @added raw key fresh owned p kt vt es hkey hnone hfresh howned =>
    rw [hkey, hfresh] at *
    show (Entries.find? key es).or (some fresh) = some x
    rw [hnone, Option.none_or]
    -- the entry found under the key is the one just added: no other had the key
    obtain ⟨e, he, hsame, rfl⟩ := Entries.find?_mem hx
    rcases Entries.mem_add he with he | he
    · have := List.find?_eq_none.mp (Option.map_eq_none_iff.mp hnone) e he
      simp_all
    · rw [he]
  | _ => rw [hx, Option.some_or]

/-- An opened container is no set and no text table: what is put in place of its element is
found there. -/
theorem Opens.child?_setChild {step : Step} {c c₀ x : Value} (ho : ctx.Opens step c c₀)
    (hx : c₀.child? step.key = some x) (y : Value) :
    (c₀.setChild step.key y).child? step.key = some y :=
  Value.child?_setChild y hx (by cases ho <;> simp) (by cases ho <;> simp)

/-- Only a field that can be read is opened. -/
theorem Opens.readable {step : Step} {c c₀ : Value} (ho : ctx.Opens step c c₀) {name : String}
    {access : Access} (hk : step.key = .field name access) : access.readable = true := by
  cases ho with
  | field hkey hread =>
    rw [hkey] at hk
    cases hk
    exact hread
  | list hkey | untypedList hkey | array hkey | entry hkey | added hkey =>
    rw [hkey] at hk
    cases hk

end Opened

/-- An entry into a container it opens, where no element is stored under the key, is
refused: only a map entry added under another key than the one looked up is not found. -/
theorem descend_of_opens_none {step : Step} {c c₀ : Value} (ho : ctx.Opens step c c₀)
    (hnone : c₀.child? step.key = none) :
    (ctx.descend step c).val = (c₀, .error (.noProperty c.shape step.key.describe)) := by
  obtain ⟨raw, key, fresh, owned, p, kt, vt, es, hkey, hnone', hfresh, howned, rfl, rfl⟩ :=
    ho.eq_added hnone
  unfold descend val
  simp only [hkey] at hnone ⊢
  simp only [hnone']
  rw [run_bind_eq, Oblivious.fst_run (ctx.oblivious_createMissing _), hfresh]
  dsimp only
  rw [run_bind_eq, Oblivious.fst_run (ctx.oblivious_coerce _ _), howned]
  simp only [hnone]
  rfl

/-- A successful entry: the container, with what was missing created, holds the element,
the stored one, or a created one where none is stored; the element is filled and put back.
Only records, lists, arrays and maps are entered, and a field only when it can be read. -/
theorem descend_ok {step : Step} {c c' : Value} (h : (ctx.descend step c).val = (c', .ok ())) :
    ∃ c₀ old filled : Value, c₀.child? step.key = some old ∧
      (c.child? step.key).or (ctx.createMissing step.target).run.val.toOption = some old ∧
      (ctx.fill old).val = (filled, .ok ()) ∧ c' = c₀.setChild step.key filled ∧
      c₀.shape = c.shape ∧ (∀ l t, c.shape ≠ .set l t) ∧ c.shape ≠ .properties ∧
      ∀ name access, step.key = .field name access → access.readable := by
  rcases ctx.descend_opens h with ⟨f, -, -, hres⟩ | ⟨c₀, ho, ⟨-, -, hres⟩ | ⟨x, hx, rfl, hres⟩⟩
  · cases hres
  · cases hres
  · refine ⟨c₀, x, _, hx, ho.source hx, Prod.ext rfl hres.symm, rfl, ho.shape_eq, ?_, ?_, ?_⟩
    · cases ho <;> simp [Value.shape]
    · cases ho <;> simp [Value.shape]
    · exact fun _ _ hk => ho.readable hk

/-- The element a successful entry leaves behind is the stored one or a created one, filled. -/
theorem descend_child {step : Step} {c c' child : Value}
    (h : (ctx.descend step c).val = (c', .ok ())) (hchild : c'.child? step.key = some child) :
    ∃ old, (c.child? step.key = some old ∨ (ctx.createMissing step.target).run.val = .ok old) ∧
      (ctx.fill old).val = (child, .ok ()) := by
  obtain ⟨c₀, old, filled, hold, hsource, hfill, rfl, hshape, hset, hprops, -⟩ :=
    ctx.descend_ok h
  rw [Value.child?_setChild _ hold (fun p t ms hc => hset p.layout t (by rw [← hshape, hc]; rfl))
    (fun es hc => hprops (by rw [← hshape, hc]; rfl))] at hchild
  cases hchild
  refine ⟨old, ?_, hfill⟩
  rcases Option.or_eq_some_iff.mp hsource with hstored | ⟨-, hcreated⟩
  · exact .inl hstored
  · right
    revert hcreated
    cases (ctx.createMissing step.target).run.val <;> simp [Except.toOption]

/-- Entering keeps the shape of the container. -/
theorem descend_shape {step : Step} {c c' : Value} (h : (ctx.descend step c).val = (c', .ok ())) :
    c'.shape = c.shape := by
  obtain ⟨c₀, -, filled, -, -, -, rfl, hshape, -⟩ := ctx.descend_ok h
  rw [Value.shape_setChild, hshape]

/-- The element a write entered can be replaced by what the write below it left. -/
theorem descend_setChild {step : Step} {c c' x : Value} (y : Value)
    (h : (ctx.descend step c).val = (c', .ok ())) (hx : c'.child? step.key = some x) :
    (c'.setChild step.key y).child? step.key = some y := by
  obtain ⟨c₀, -, filled, -, -, -, rfl, hshape, hset, hprops, -⟩ := ctx.descend_ok h
  refine Value.child?_setChild y hx (fun p t ms hc => hset p.layout t ?_) (fun es hc => hprops ?_)
  · rw [← hshape, ← Value.shape_setChild c₀ step.key filled, hc]
    rfl
  · rw [← hshape, ← Value.shape_setChild c₀ step.key filled, hc]
    rfl

end Context

end ValuePaths
