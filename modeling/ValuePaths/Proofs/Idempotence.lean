import Mathlib
import ValuePaths.Proofs.Frame
import ValuePaths.Sample.Records

/-!
# Writing twice

A write repeated on the value it left gives the same outcome, and leaves the value as the
first write left it, except for the layout of fixed-seed hash tables.  Such a table makes
room for one more entry before it looks the entry up, so a table that was full grows and
places its entries again, in another order, even when the entry is present already.
`Value.Relaid` says what may differ: the placement and the order of the members or entries
of one fixed-seed table, anywhere along the path.

Everything else a write does is done once for all.  Padding a list stops at the length the
first write reached; an entry the first write added to a map is found by the second; the
`Option` layers the first write set stay set; a failed first write fails again at the same
element with the same fault, where it finds what it created the first time (its creation
failed, or what it met refused it, both times).  A map entry is added under the key
converted once more; where that is not the key the path looks up, the first write fails
after adding it and the second adds it again, which changes at most the layout.

## Main definitions

* `Value.Relaid` — the same value, with fixed-seed tables laid out again.

## Main statements

* `Context.store_again`, `Context.descend_enters` — a store repeated on what the first left,
  and what an entry leaves for a second one.
* `Context.writeFrom_again` — a write along a path repeated on what the first left.
* `Context.set_again` — the same for `set`.
-/

namespace ValuePaths

section

variable [Catalogue]

open Logged

namespace Value

omit [Catalogue]

/-- Two values that are the same but for the layout of fixed-seed hash tables in them: a
table holds the same members or entries in another order, in buckets of another table,
and an element along the way holds such a table. -/
inductive Relaid : Value → Value → Prop
  | refl (v : Value) : Relaid v v
  | members {b b' : Nat} {slots slots' : List Nat} {t : Shape} {ms ms' : List Value}
      (h : ms.Perm ms') : Relaid (.set (.table b slots) t ms) (.set (.table b' slots') t ms')
  | entries {b b' : Nat} {slots slots' : List Nat} {kt vt : Shape}
      {es es' : List (Value × Value)} (h : es.Perm es') :
      Relaid (.map (.table b slots) kt vt es) (.map (.table b' slots') kt vt es')
  | within {c x y y' : Value} {k : Key} (h : Relaid y y') :
      Relaid (c.setChild k (x.withInner y)) (c.setChild k (x.withInner y'))

/-! ## Option layers -/

theorem shape_eq_option {v : Value} {t : Shape} :
    v.shape = .option t ↔ ∃ o, v = .option t o := by
  cases v <;> simp [shape]

/-- The value under the set layers has no set layer on top. -/
theorem inner_ne_some (v : Value) : ∀ t x, v.inner ≠ .option t (some x) := by
  fun_induction inner v with
  | case1 t v ih => exact ih
  | case2 v hv => exact hv

theorem inner_of_ne_some {w : Value} (hw : ∀ t x, w ≠ .option t (some x)) : w.inner = w := by
  unfold inner
  split
  · rename_i t x
    exact absurd rfl (hw t x)
  · rfl

theorem withInner_of_ne_some {v : Value} (hv : ∀ t x, v ≠ .option t (some x)) (w : Value) :
    v.withInner w = w := by
  unfold withInner
  split
  · exact absurd rfl (hv _ _)
  · rfl

/-- Putting a value with no set layer on top under the layers of `v` and taking it out again
gives it back. -/
theorem inner_withInner (v : Value) {w : Value} (hw : ∀ t x, w ≠ .option t (some x)) :
    (v.withInner w).inner = w := by
  fun_induction withInner v w with
  | case1 t v w ih => exact ih hw
  | case2 v w _ => exact inner_of_ne_some hw

/-- Replacing the value under the layers twice: the second replacement wins, when the first
put no set layer there. -/
theorem withInner_withInner (v : Value) {w : Value} (hw : ∀ t x, w ≠ .option t (some x))
    (w' : Value) : (v.withInner w).withInner w' = v.withInner w' := by
  fun_induction withInner v w with
  | case1 t v w ih => simp [withInner, ih hw]
  | case2 v w hv =>
    rw [withInner_of_ne_some hv, withInner_of_ne_some hw]

theorem shape_withInner (v : Value) {w : Value} (h : w.shape = v.inner.shape) :
    (v.withInner w).shape = v.shape := by
  fun_induction withInner v w with
  | case1 t v w _ => rfl
  | case2 v w hv =>
    rw [inner_of_ne_some hv] at h
    exact h

/-- What the layers of a value hold reads as the value does. -/
theorem present_inner (v : Value) : v.inner.present = v.present := by
  fun_induction inner v with
  | case1 t v ih => simpa [present] using ih
  | case2 v hv => rfl

/-- A value with no set layer on top is present exactly when it is no option. -/
theorem present_isSome_iff {w : Value} (hw : ∀ t x, w ≠ .option t (some x)) :
    w.present.isSome ↔ ∀ t, w.shape ≠ .option t := by
  cases w with
  | option t o =>
    cases o with
    | none => simp [present, shape]
    | some x => exact absurd rfl (hw t x)
  | _ => simp [present, shape]

end Value

namespace Value

/-- Setting a child of a record leaves a record of the same type. -/
theorem setChild_record (r : Record) (fields : List Value) (k : Key) (w : Value) :
    ∃ fields', (Value.record r fields).setChild k w = .record r fields' := by
  cases k with
  | field name access =>
    simp only [setChild]
    split <;> exact ⟨_, rfl⟩
  | _ => exact ⟨fields, rfl⟩

end Value

namespace Members

variable (tbl : FixedTable)

/-- Adding a member a second time changes at most the layout of a fixed-seed table. -/
theorem add_again (p : Placement) (t : Shape) (v : Value) (ms : List Value) :
    Value.Relaid (.set (add tbl p t v ms).1 t (add tbl p t v ms).2.1)
      (.set (add tbl (add tbl p t v ms).1 t v (add tbl p t v ms).2.1).1 t
        (add tbl (add tbl p t v ms).1 t v (add tbl p t v ms).2.1).2.1) := by
  cases p with
  | table b slots =>
    rw [add_table_eq, add_table_eq]
    -- the member added, or the equal one found, is among the members the second time
    have hmem : ∃ y ∈ (tbl.insertMember t b (slots.zip ms)
        v).2.1.map (·.2), Value.same v y := by
      cases hfound : (tbl.insertMember t b (slots.zip ms)
          v).2.2 with
      | some y =>
        obtain ⟨hperm, hy, hsame⟩ := (tbl.members t).found hfound
        exact ⟨y, hperm.mem_iff.mpr hy, hsame⟩
      | none =>
        obtain ⟨hperm, -⟩ := (tbl.members t).fresh hfound
        exact ⟨v, hperm.mem_iff.mpr List.mem_cons_self, Value.same_self v⟩
    generalize tbl.insertMember t b (slots.zip ms) v = I
      at hmem ⊢
    obtain ⟨b', placed, found⟩ := I
    obtain ⟨y, hy, hsame⟩ := hmem
    dsimp only at hy ⊢
    have hzip : (placed.map (·.1)).zip (placed.map (·.2)) = placed := by
      rw [← List.unzip_fst, ← List.unzip_snd, List.zip_unzip]
    rw [hzip]
    exact .members ((tbl.members t).present hy hsame).symm
  | tree => simp only [add, insert_insert]; exact .refl _
  | hash => simp only [add, insert_insert]; exact .refl _

end Members

namespace Entries

variable (tbl : FixedTable)

omit [Catalogue] in
/-- Adding an entry to a fixed-seed table leaves a table with one slot for each entry, holding
the key with the new value and no other value under it; when the key was present, the entries
are the old ones, with the new value under the key, in another order. -/
theorem add_table (b : Nat) (slots : List Nat) (kt vt : Shape) (k v : Value)
    (es : List (Value × Value)) :
    ∃ b' slots', (add tbl (.table b slots) kt vt k v es).1 = .table b' slots' ∧
      slots'.length = (add tbl (.table b slots) kt vt k v es).2.1.length ∧
      (∃ e ∈ (add tbl (.table b slots) kt vt k v es).2.1, Value.same k e.1) ∧
      (∀ e ∈ (add tbl (.table b slots) kt vt k v es).2.1, Value.same k e.1 → e.2 = v) ∧
      ((∃ e ∈ (slots.zip es).map (·.2), Value.same k e.1) →
        (add tbl (.table b slots) kt vt k v es).2.1.Perm
          (update k v ((slots.zip es).map (·.2)))) := by
  unfold add
  dsimp only
  cases hfound : (tbl.insertEntry kt vt b (slots.zip es) (k, v)).2.2 with
  | some y =>
    obtain ⟨hperm, hy, hsame⟩ := (tbl.entries kt vt).found hfound
    refine ⟨_, _, rfl, by simp [update], ⟨(y.1, v), ?_, hsame⟩, fun e he hs => ?_,
      fun _ => by unfold update; exact hperm.map _⟩
    · exact List.mem_map.mpr ⟨y, hperm.mem_iff.mpr hy, by simp [hsame]⟩
    · obtain ⟨e', -, rfl⟩ := List.mem_map.mp he
      by_cases hk : Value.same k e'.1
      · simp [hk]
      · simp [hk] at hs
  | none =>
    obtain ⟨hperm, hfresh⟩ := (tbl.entries kt vt).fresh hfound
    refine ⟨_, _, rfl, by simp, ⟨(k, v), hperm.mem_iff.mpr List.mem_cons_self,
      Value.same_self k⟩, fun e he hs => ?_, fun hex => ?_⟩
    · rcases List.mem_cons.mp (hperm.mem_iff.mp he) with rfl | he
      · rfl
      · rw [hfresh e he] at hs
        cases hs
    · obtain ⟨e, he, hs⟩ := hex
      rw [hfresh e he] at hs
      cases hs

omit [Catalogue] in
/-- Adding an entry a second time keeps the entries, in some order. -/
theorem add_again_perm (p : Placement) (kt vt : Shape) (k v : Value) (es : List (Value × Value)) :
    (add tbl (add tbl p kt vt k v es).1 kt vt k v (add tbl p kt vt k v es).2.1).2.1.Perm
      (add tbl p kt vt k v es).2.1 := by
  cases p with
  | table b slots =>
    obtain ⟨b', slots', hp, hlen, hmem, hvalue, -⟩ := add_table tbl b slots kt vt k v es
    rw [hp]
    obtain ⟨-, -, -, -, -, -, hperm⟩ :=
      add_table tbl b' slots' kt vt k v (add tbl (.table b slots) kt vt k v es).2.1
    -- the second table holds the key with the new value already: it keeps its entries
    rw [List.map_snd_zip (Nat.le_of_eq hlen.symm), update_eq_self hvalue] at hperm
    exact hperm hmem
  | tree => simp only [add, insert_insert]; exact List.Perm.refl _
  | hash => simp only [add, insert_insert]; exact List.Perm.refl _

/-- Adding an entry a second time changes at most the layout of a fixed-seed table. -/
theorem add_again (p : Placement) (kt vt : Shape) (k v : Value) (es : List (Value × Value)) :
    Value.Relaid (.map (add tbl p kt vt k v es).1 kt vt (add tbl p kt vt k v es).2.1)
      (.map (add tbl (add tbl p kt vt k v es).1 kt vt k v (add tbl p kt vt k v es).2.1).1 kt vt
        (add tbl (add tbl p kt vt k v es).1 kt vt k v (add tbl p kt vt k v es).2.1).2.1) := by
  cases p with
  | table b slots =>
    have hperm := add_again_perm tbl (.table b slots) kt vt k v es
    obtain ⟨b', slots', hp, -⟩ := add_table tbl b slots kt vt k v es
    rw [hp] at hperm ⊢
    obtain ⟨b'', slots'', hp', -⟩ :=
      add_table tbl b' slots' kt vt k v (add tbl (.table b slots) kt vt k v es).2.1
    rw [hp']
    exact .entries hperm.symm
  | tree => simp only [add, insert_insert]; exact .refl _
  | hash => simp only [add, insert_insert]; exact .refl _

omit [Catalogue] in
/-- A key that no entry has is not found after the entries are reordered. -/
theorem find?_eq_none_of_perm {k : Value} {es es' : List (Value × Value)} (h : es.Perm es')
    (hnone : find? k es = none) : find? k es' = none := by
  unfold find? at hnone ⊢
  rw [Option.map_eq_none_iff, List.find?_eq_none] at hnone ⊢
  exact fun e he => hnone e (h.mem_iff.mpr he)

end Entries

namespace Context

variable (ctx : Context)

/-! ## Filling and padding again -/

/-- A value no option is not filled, whatever the shape says. -/
theorem val_fillAt_of_shape {v : Value} (hv : ∀ t, v.shape ≠ .option t) (s : Shape) :
    (ctx.fillAt s v).val = (v, .ok ()) := by
  unfold fillAt
  split
  · exact absurd rfl (hv _)
  · exact absurd rfl (hv _)
  · rfl

/-- Nothing is filled where the shape declares no option. -/
theorem val_fillAt_of_not_option {s : Shape} (hs : ∀ t, s ≠ .option t) (v : Value) :
    (ctx.fillAt s v).val = (v, .ok ()) := by
  unfold fillAt
  split
  · exact absurd rfl (hs _)
  · exact absurd rfl (hs _)
  · rfl

/-- A value whose layers are all set is filled already. -/
theorem val_fillAt_of_present (s : Shape) : ∀ {v : Value}, v.present.isSome →
    (ctx.fillAt s v).val = (v, .ok ()) := by
  induction s with
  | option t ih =>
    intro v hv
    cases v
    case option t' o =>
      cases o with
      | none => simp [Value.present] at hv
      | some x =>
        rw [val_fillAt_option_some, ih (by simpa [Value.present] using hv)]
    all_goals rfl
  | _ => exact fun _ => ctx.val_fillAt_of_not_option (fun _ h => by cases h) _

/-- A filled value with something of the same shape put under its layers is filled
already. -/
theorem val_fillAt_again (s : Shape) : ∀ {v v' : Value}, (ctx.fillAt s v).val = (v', .ok ()) →
    ∀ w : Value, w.shape = v'.inner.shape →
      (ctx.fillAt s (v'.withInner w)).val = (v'.withInner w, .ok ()) := by
  induction s with
  | option t ih =>
    intro v v' h w hw
    cases v
    case option t' o =>
      cases o with
      | none =>
        rw [val_fillAt_option_none] at h
        cases hm : (ctx.createMissing (.typed t')).run.val with
        | error f =>
          rw [hm] at h
          cases h
        | ok m =>
          rw [hm] at h
          dsimp only at h
          generalize hf : (ctx.fillAt t m).val = filled at h
          obtain ⟨m', r⟩ := filled
          cases h
          rw [Value.withInner, val_fillAt_option_some, ih hf w hw]
      | some x =>
        rw [val_fillAt_option_some] at h
        generalize hf : (ctx.fillAt t x).val = filled at h
        obtain ⟨x', r⟩ := filled
        cases h
        rw [Value.withInner, val_fillAt_option_some, ih hf w hw]
    all_goals
      -- a value of another shape under an option shape is left alone, and so is its
      -- replacement, of the same shape
      rw [ctx.val_fillAt_of_shape (fun _ h => by cases h)] at h
      cases h
      exact ctx.val_fillAt_of_shape (fun t' h' => by cases hw.symm.trans h') _
  | _ =>
    intro v v' h w _
    rw [ctx.val_fillAt_of_not_option (fun _ h => by cases h)] at h
    cases h
    exact ctx.val_fillAt_of_not_option (fun _ h => by cases h) _

/-- Filling again what a filling left when it failed fails the same way and sets nothing
more. -/
theorem val_fillAt_failed (s : Shape) : ∀ {v v' : Value} {f : Fault},
    (ctx.fillAt s v).val = (v', .error f) → (ctx.fillAt s v').val = (v', .error f) := by
  induction s with
  | option t ih =>
    intro v v' f h
    cases v
    case option t' o =>
      cases o with
      | none =>
        rw [val_fillAt_option_none] at h
        cases hm : (ctx.createMissing (.typed t')).run.val with
        | error f' =>
          rw [hm] at h
          cases h
          rw [val_fillAt_option_none, hm]
        | ok m =>
          rw [hm] at h
          dsimp only at h
          generalize hf : (ctx.fillAt t m).val = filled at h
          obtain ⟨m', r⟩ := filled
          cases h
          rw [val_fillAt_option_some, ih hf]
      | some x =>
        rw [val_fillAt_option_some] at h
        generalize hf : (ctx.fillAt t x).val = filled at h
        obtain ⟨x', r⟩ := filled
        cases h
        rw [val_fillAt_option_some, ih hf]
    all_goals
      rw [ctx.val_fillAt_of_shape (fun _ h => by cases h)] at h
      cases h
  | _ =>
    intro v v' f h
    rw [ctx.val_fillAt_of_not_option (fun _ h => by cases h)] at h
    cases h

theorem Fills.shape_eq {x x' : Value} (h : ctx.Fills x x') : x'.shape = x.shape := by
  cases h <;> rfl

theorem val_fill_again {v v' w : Value} (h : (ctx.fill v).val = (v', .ok ()))
    (hw : w.shape = v'.inner.shape) :
    (ctx.fill (v'.withInner w)).val = (v'.withInner w, .ok ()) := by
  have hshape := (ctx.fills_fill h).shape_eq
  unfold fill at h ⊢
  rw [Value.shape_withInner v' hw, hshape]
  exact ctx.val_fillAt_again _ h w hw

theorem val_fill_failed {v v' : Value} {f : Fault} (h : (ctx.fill v).val = (v', .error f)) :
    (ctx.fill v').val = (v', .error f) := by
  have hshape := (ctx.fills_fill h).shape_eq
  unfold fill at h ⊢
  rw [hshape]
  exact ctx.val_fillAt_failed _ h

variable {ctx} in
/-- A container an entry opened, with an element in place that is present where the first
was, is opened again as it is: the list is long enough, and the map entry is there. -/
theorem Opens.again {step : Step} {c c₀ x : Value} (ho : ctx.Opens step c c₀)
    (hx : c₀.child? step.key = some x) {y : Value} (hy : x.present.isSome → y.present.isSome) :
    ctx.Opens step (c₀.setChild step.key y) (c₀.setChild step.key y) := by
  have hy' := ho.child?_setChild hx y
  cases ho with
  | @field name access r fields x' hkey hread hx' hguard =>
    rw [hx] at hx'
    cases hx'
    obtain ⟨fields', hfields'⟩ := Value.setChild_record r fields step.key y
    rw [hfields'] at hy' ⊢
    exact .field hkey hread hy' (hguard.imp_right hy)
  | @list i l t items items' hkey hp =>
    have hset : (Value.list l t items').setChild step.key y = .list l t (items'.set i y) := by
      rw [hkey]
      rfl
    rw [hset]
    exact .list hkey (ctx.pad_again hp (by simpa using ctx.pad_length hp))
  | @untypedList i items items' hkey hp =>
    have hset : (Value.untypedList items').setChild step.key y =
        .untypedList (items'.set i y) := by
      rw [hkey]
      rfl
    rw [hset]
    exact .untypedList hkey (ctx.pad_again hp (by simpa using ctx.pad_length hp))
  | @array i t items hkey hi =>
    have hset : (Value.array t items).setChild step.key y = .array t (items.set i y) := by
      rw [hkey]
      rfl
    rw [hset]
    exact .array hkey (by simpa using hi)
  | entry hkey =>
    rw [hkey] at hy' ⊢
    exact .entry hkey hy'
  | added hkey =>
    rw [hkey] at hy' ⊢
    exact .entry hkey hy'

/-- What an entry does: it fails without entering the element, and fails so again on what it
left; or it creates what is missing and enters the element, filling its layers.  Entering
the container it left, with any element in place that is present where the first was, goes
straight to that element. -/
theorem descend_enters {step : Step} {c c' : Value} {res : Except Fault Unit}
    (h : (ctx.descend step c).val = (c', res)) :
    (res ≠ .ok () ∧ ∃ c'', (ctx.descend step c').val = (c'', res) ∧ c'.Relaid c'') ∨
      ∃ c₀ old : Value, c₀.child? step.key = some old ∧
        (c', res) = (c₀.setChild step.key (ctx.fill old).val.1, (ctx.fill old).val.2) ∧
        (∀ z, (c₀.setChild step.key z).child? step.key = some z) ∧
        ∀ y, (old.present.isSome → y.present.isSome) →
          (ctx.descend step (c₀.setChild step.key y)).val =
            (c₀.setChild step.key (ctx.fill y).val.1, (ctx.fill y).val.2) := by
  rcases ctx.descend_opens h with ⟨f, -, rfl, rfl⟩ | ⟨c₀, ho, ⟨hnone, rfl, rfl⟩ | ⟨x, hx, rfl, rfl⟩⟩
  · -- a refusal leaves the container as it was, and is the same entry again
    exact .inl ⟨(fun h => by cases h), _, h, .refl _⟩
  · -- a map entry added under a key that is not the one looked up: the second entry adds it
    -- once more, which reorders the entries at most
    have hshape := ho.shape_eq
    obtain ⟨raw, key, fresh, owned, p, kt, vt, es, hkey, -, hfresh, howned, rfl, rfl⟩ :=
      ho.eq_added hnone
    rw [hkey] at hnone
    have hnone' :=
      Entries.find?_eq_none_of_perm
        (Entries.add_again_perm ctx.table p kt vt owned fresh es).symm hnone
    have hagain := ctx.descend_of_opens_none (.added hkey hnone hfresh howned)
      (by rw [hkey]; exact hnone')
    rw [hshape] at hagain
    exact .inl ⟨(fun h => by cases h), _, hagain,
      Entries.add_again ctx.table p kt vt owned fresh es⟩
  · -- the element was entered: the second entry finds it, present where it was
    refine .inr ⟨c₀, x, hx, rfl, ho.child?_setChild hx, fun y hy => ?_⟩
    rw [ctx.descend_of_opens (ho.again hx hy) (ho.child?_setChild hx y), Value.setChild_setChild]

/-! ## Storing again -/

/-- A store repeated on the container the first left gives the same outcome and the same
container, but for the layout of a fixed-seed table: a list is long enough and holds the
value where it goes, a map holds the entry under the key, and a set the member, already. -/
theorem store_again {step : Step} {c c' v : Value} {res : Except Fault Unit}
    (h : (ctx.store step c v).val = (c', res)) :
    ∃ c'', (ctx.store step c' v).val = (c'', res) ∧ c'.Relaid c'' := by
  cases res with
  | error f => exact ⟨c', ctx.store_error_again h, .refl _⟩
  | ok u =>
    cases u
    -- each arm stores again into what it left, where the value is already
    cases ctx.store_ok h with
    | @field name access r fields f hkey hw hf hv =>
      obtain ⟨fields', hfields'⟩ := Value.setChild_record r fields step.key v
      have hagain : (ctx.store step (.record r fields') v).val =
          ((Value.record r fields').setChild step.key v, .ok ()) :=
        ctx.store_of_stored (.field hkey hw hf hv)
      rw [← hfields', Value.setChild_setChild] at hagain
      exact ⟨_, hagain, .refl _⟩
    | @push i l t items items' hkey hp hv hi =>
      have hpad : (ctx.pad (items' ++ [v]) i (Value.list l t (items' ++ [v])).shape
          step.target).val = (items' ++ [v], .ok ()) := ctx.pad_again hp (by simp [hi])
      have hagain := ctx.store_of_stored (Stored.put hkey hpad hv (by simp [hi]))
      rw [show (items' ++ [v]).set i v = items' ++ [v] by simp [hi]] at hagain
      exact ⟨_, hagain, .refl _⟩
    | @put i l t items items' hkey hp hv hi =>
      have hpad : (ctx.pad (items'.set i v) i (Value.list l t (items'.set i v)).shape
          step.target).val = (items'.set i v, .ok ()) := ctx.pad_again hp (by simp; omega)
      have hagain := ctx.store_of_stored (Stored.put hkey hpad hv (by simpa using hi))
      rw [List.set_set] at hagain
      exact ⟨_, hagain, .refl _⟩
    | @pushUntyped i items items' hkey hp hnone =>
      have hi := Nat.le_antisymm (ctx.pad_length hp) (List.getElem?_eq_none_iff.mp hnone)
      have hpad : (ctx.pad (items' ++ [v]) i (Value.untypedList (items' ++ [v])).shape
          step.target).val = (items' ++ [v], .ok ()) := ctx.pad_again hp (by simp [hi])
      have hagain := ctx.store_of_stored
        (Stored.putUntyped hkey hpad (show (items' ++ [v])[i]? = some v by simp [hi]) rfl)
      rw [show (items' ++ [v]).set i v = items' ++ [v] by simp [hi]] at hagain
      exact ⟨_, hagain, .refl _⟩
    | @putUntyped i items items' old hkey hp hold hv =>
      have hi := (List.getElem?_eq_some_iff.mp hold).1
      have hpad : (ctx.pad (items'.set i v) i (Value.untypedList (items'.set i v)).shape
          step.target).val = (items'.set i v, .ok ()) := ctx.pad_again hp (by simp; omega)
      have hagain := ctx.store_of_stored
        (Stored.putUntyped hkey hpad (show (items'.set i v)[i]? = some v by simp [hi]) rfl)
      rw [List.set_set] at hagain
      exact ⟨_, hagain, .refl _⟩
    | @array i t items hkey hi hv =>
      have hagain : (ctx.store step (.array t (items.set i v)) v).val =
          (.array t ((items.set i v).set i v), .ok ()) :=
        ctx.store_of_stored (.array hkey (by simpa using hi) hv)
      rw [List.set_set] at hagain
      exact ⟨_, hagain, .refl _⟩
    | @entry raw key owned p kt vt es hkey howned hv =>
      exact ⟨_, ctx.store_of_stored (Stored.entry hkey howned hv),
        Entries.add_again ctx.table p kt vt owned v es⟩
    | @member p t ms hkey hv =>
      exact ⟨_, ctx.store_of_stored (Stored.member hkey hv), Members.add_again ctx.table p t v ms⟩
    | @text k s es hkey hv =>
      have hagain : (ctx.store step (.properties (Table.insert k s es).1) v).val =
          (.properties (Table.insert k s (Table.insert k s es).1).1, .ok ()) :=
        ctx.store_of_stored (.text hkey hv)
      rw [Table.insert_insert] at hagain
      exact ⟨_, hagain, .refl _⟩

/-! ## Writing again along a path -/

theorem Creates.shape_eq {step : Step} {c c₀ : Value} (h : ctx.Creates step c c₀) :
    c₀.shape = c.shape := by
  cases h <;> simp [Value.shape]

theorem Stores.shape_eq {step : Step} {v c₀ c' : Value} (h : ctx.Stores step v c₀ c') :
    c'.shape = c₀.shape := by
  cases h with
  | put => exact Value.shape_setChild _ _ _
  | _ => simp [Value.shape]

/-- A write keeps the shape of the value it is given. -/
theorem Changes.shape_eq {r : Raw} {segs : List Segment} {ok : Bool} {c c' : Value}
    (h : ctx.Changes r segs ok c c') : c'.shape = c.shape := by
  cases h with
  | done | stop => rfl
  | created _ hcreate => exact hcreate.shape_eq
  | store _ hcreate _ hstore => rw [hstore.shape_eq, hcreate.shape_eq]
  | member _ _ _ _ _ _ hcreate hstore => rw [hstore.shape_eq, hcreate.shape_eq]
  | enter _ _ _ hcreate => rw [Value.shape_setChild, hcreate.shape_eq]

/-- No write changes an `Option` value: its steps bind to what is under it, and only a
container stores or creates. -/
theorem Changes.option_eq {r : Raw} {segs : List Segment} {ok : Bool} {t : Shape}
    {o : Option Value} {c' : Value} (h : ctx.Changes r segs ok (.option t o) c') :
    c' = .option t o := by
  -- what a step puts back into an option leaves it as it was
  have hput (k : Key) (w : Value) : (Value.option t o).setChild k w = .option t o := by
    cases k <;> rfl
  cases h with
  | done | stop => rfl
  | created _ hcreate => cases hcreate; rfl
  | store _ hcreate _ hstore =>
    cases hcreate
    cases hstore
    exact hput _ _
  | member _ _ _ _ _ _ hcreate hstore =>
    cases hcreate
    cases hstore
    exact hput _ _
  | enter _ _ _ hcreate =>
    cases hcreate
    exact hput _ _

/-- A write into a value with no set layer on top leaves none there. -/
theorem Changes.ne_some {r : Raw} {segs : List Segment} {ok : Bool} {c c' : Value}
    (h : ctx.Changes r segs ok c c') (hc : ∀ t x, c ≠ .option t (some x)) :
    ∀ t x, c' ≠ .option t (some x) := by
  intro t x hc'
  have hshape := h.shape_eq
  rw [hc'] at hshape
  obtain ⟨o, rfl⟩ := Value.shape_eq_option.mp hshape.symm
  rw [h.option_eq] at hc'
  cases hc'
  exact hc t x rfl

/-- **A write repeated on the value it left** gives the same outcome, and the same value but
for the layout of fixed-seed tables.  By induction on the path: the second write resolves
each element as the first did, against a container of the same shape, and finds what the
first created, so it enters the same elements and stores the same value. -/
theorem writeFrom_again {path : String} {r : Raw} :
    ∀ (segs : List Segment) {i : Nat} {state : WalkState} {c c₁ : Value} {o : Outcome},
      (ctx.writeFrom path r i state (segs.map .element) c).val = (c₁, o) →
      ∃ c₂, (ctx.writeFrom path r i state (segs.map .element) c₁).val = (c₂, o) ∧
        c₁.Relaid c₂
  | [], i, state, c, c₁, o, h => by
    rw [List.map_nil, val_writeFrom_nil] at h
    cases h
    exact ⟨_, rfl, .refl _⟩
  | e :: rest, i, state, c, c₁, ⟨st, res⟩, h => by
    -- the second write resolves the element as the first did, against the same shape
    have hshape : c₁.shape = c.shape := (ctx.writeFrom_changes h).shape_eq
    have again {step : Step}
        (hstep : (ctx.legStep (.element e) c.shape (rest.map Leg.element).isEmpty).run.val =
          .ok step)
        {c₂ : Value} {o' : Outcome} (hleg : (hstep' :
          (ctx.legStep (.element e) c₁.shape (rest.map Leg.element).isEmpty).run.val = .ok step) →
            ctx.WritesLeg path r i (.element e) (rest.map Leg.element) c₁ c₂ o') :
        (ctx.writeFrom path r i state ((e :: rest).map Leg.element) c₁).val = (c₂, o') :=
      ctx.writeFrom_of_writesLeg (hleg (by rw [hshape]; exact hstep)) state
    rw [List.map_cons] at h
    cases ctx.writesLeg h with
    | unresolved | unconverted | uncreated | unfilled | memberRefused =>
      -- the first write stopped before it changed anything: the second is the same write
      exact ⟨_, h, .refl _⟩
    | stored hstep hlast hv hs =>
      obtain ⟨c₂, hs', hrelaid⟩ := ctx.store_again hs
      exact ⟨c₂, again hstep (.stored · hlast hv hs'), hrelaid⟩
    | unstored hstep hlast hv hs =>
      obtain ⟨c₂, hs', hrelaid⟩ := ctx.store_again hs
      exact ⟨c₂, again hstep (.unstored · hlast hv hs'), hrelaid⟩
    | member hstep hrest hkind hd hfill hbelow hs =>
      -- the member is built on its own the same way both times, and stored again
      obtain ⟨c₂, hs', hrelaid⟩ := ctx.store_again hs
      exact ⟨c₂, again hstep (.member · hrest hkind hd hfill hbelow hs'), hrelaid⟩
    | memberUnstored hstep hrest hkind hd hfill hbelow hs =>
      obtain ⟨c₂, hs', hrelaid⟩ := ctx.store_again hs
      exact ⟨c₂, again hstep (.memberUnstored · hrest hkind hd hfill hbelow hs'), hrelaid⟩
    | unentered hstep hrest hkind hd =>
      rcases ctx.descend_enters hd with
        ⟨-, c₂, hagain, hrelaid⟩ | ⟨c₀, old, -, hentered, -, hreenter⟩
      · -- it failed without entering the element, and fails so again
        exact ⟨c₂, again hstep (.unentered · hrest hkind hagain), hrelaid⟩
      · -- a layer of the element could not be set: the second entry stops there too
        obtain ⟨rfl, hfill⟩ := Prod.mk.inj hentered
        have hguard : old.present.isSome → (ctx.fill old).val.1.present.isSome := by
          intro hs
          have hpresent : (ctx.fill old).val = (old, .ok ()) := ctx.val_fillAt_of_present _ hs
          rw [hpresent] at hfill
          cases hfill
        have hfailed := ctx.val_fill_failed (Prod.ext rfl hfill.symm)
        have hagain := hreenter _ hguard
        rw [hfailed] at hagain
        exact ⟨_, again hstep (.unentered · hrest hkind hagain), .refl _⟩
    | notFound hstep hrest hkind hd hch =>
      rcases ctx.descend_enters hd with ⟨hne, -⟩ | ⟨c₀, old, -, hentered, hchild, -⟩
      · exact absurd rfl hne
      · rw [(Prod.mk.inj hentered).1, hchild] at hch
        cases hch
    | @entered step c₁' x inner o' hstep hrest hkind hd hch hbelow =>
      rcases ctx.descend_enters hd with ⟨hne, -⟩ | ⟨c₀, old, hold, hentered, hchild, hreenter⟩
      · exact absurd rfl hne
      obtain ⟨rfl, hfill⟩ := Prod.mk.inj hentered
      rw [hchild] at hch
      cases hch
      have hfill' : (ctx.fill old).val = ((ctx.fill old).val.1, .ok ()) := Prod.ext rfl hfill.symm
      generalize (ctx.fill old).val.1 = x at hfill' hbelow again ⊢
      have hchanges := ctx.writeFrom_changes hbelow
      have hne : ∀ t y, inner ≠ .option t (some y) :=
        Changes.ne_some ctx hchanges (Value.inner_ne_some x)
      have hishape : inner.shape = x.inner.shape := hchanges.shape_eq
      -- the element, written below, is present where it was and filled already
      have hguard : old.present.isSome → (x.withInner inner).present.isSome := by
        intro hs
        have hpresent : (ctx.fill old).val = (old, .ok ()) := ctx.val_fillAt_of_present _ hs
        rw [hpresent] at hfill'
        cases hfill'
        rw [Value.present_withInner, Value.present_isSome_iff hne, hishape,
          ← Value.present_isSome_iff (Value.inner_ne_some old), Value.present_inner]
        exact hs
      have hagain := hreenter _ hguard
      rw [ctx.val_fill_again hfill' hishape] at hagain
      obtain ⟨inner₂, hbelow₂, hrelaid⟩ := writeFrom_again rest hbelow
      rw [← Value.inner_withInner x hne] at hbelow₂
      have hwrite := again hstep
        (.entered · hrest hkind (by rw [Value.setChild_setChild]; exact hagain) (hchild _) hbelow₂)
      simp only [Value.setChild_setChild, Value.withInner_withInner x hne] at hwrite ⊢
      exact ⟨_, hwrite, .within hrelaid⟩

/-- **Setting a path twice.**  Setting the same text at the same path a second time, on the
value the first time left, has the same outcome, success or the same failure at the same
element, and leaves the value as the first time left it, but for the layout of fixed-seed
hash tables (`Value.Relaid`). -/
theorem set_again (root : Value) (path : String) (r : Raw) :
    (ctx.set (ctx.set root path r).val.1 path r).val.2 = (ctx.set root path r).val.2 ∧
      (ctx.set root path r).val.1.Relaid (ctx.set (ctx.set root path r).val.1 path r).val.1 := by
  cases hp : Path.parse path with
  | error e =>
    simp only [val_set, hp]
    exact ⟨trivial, .refl _⟩
  | ok p =>
    simp only [val_set, hp, val_writeWalk]
    split
    · exact ⟨rfl, .refl _⟩
    · have hlegs : p.route.legs = (p.steps.map (·.segment)).map .element := by
        simp [Path.route]
      rw [hlegs]
      generalize hw : (ctx.writeFrom p.route.path r 0 .atRoot
        ((p.steps.map (·.segment)).map .element) root).val = w
      obtain ⟨root₁, o⟩ := w
      obtain ⟨root₂, hw₂, hrelaid⟩ := ctx.writeFrom_again _ hw
      rw [hw₂]
      exact ⟨rfl, hrelaid⟩

end Context

end

namespace Context

/-- A second write does not always leave the very value the first left.  A fixed-seed table
of text keys is full at three entries; setting `g` again makes it grow before it finds `g`,
and it lays the same entries out in eight buckets, in another order. -/
theorem set_again_relays_full_table :
    (({ registry := { entries := [⟨.scalar .string, some (.standard .string)⟩,
          ⟨.scalar (.int .u8), some (.standard (.int .u8))⟩] } } : Context).set
        (.map (.table 4 [1, 2]) (.scalar .string) (.scalar (.int .u8))
          [(.string "a", .int .u8 1), (.string "d", .int .u8 1)]) "[g]" (.one "1")).val =
        (.map (.table 4 [1, 2, 3]) (.scalar .string) (.scalar (.int .u8))
          [(.string "a", .int .u8 1), (.string "d", .int .u8 1), (.string "g", .int .u8 1)],
          .ok ()) ∧
      (({ registry := { entries := [⟨.scalar .string, some (.standard .string)⟩,
          ⟨.scalar (.int .u8), some (.standard (.int .u8))⟩] } } : Context).set
        (.map (.table 4 [1, 2, 3]) (.scalar .string) (.scalar (.int .u8))
          [(.string "a", .int .u8 1), (.string "d", .int .u8 1), (.string "g", .int .u8 1)])
        "[g]" (.one "1")).val =
        (.map (.table 8 [1, 2, 5]) (.scalar .string) (.scalar (.int .u8))
          [(.string "a", .int .u8 1), (.string "g", .int .u8 1), (.string "d", .int .u8 1)],
          .ok ()) ∧
      (Value.map (.table 8 [1, 2, 5]) (.scalar .string) (.scalar (.int .u8))
          [(.string "a", .int .u8 1), (.string "g", .int .u8 1), (.string "d", .int .u8 1)]) ≠
        .map (.table 4 [1, 2, 3]) (.scalar .string) (.scalar (.int .u8))
          [(.string "a", .int .u8 1), (.string "d", .int .u8 1), (.string "g", .int .u8 1)] := by
  have hparse : Path.parse "[g]" = .ok ⟨"[g]", [⟨.subscript "g", 0⟩]⟩ := by
    have hsegments : Path.segments ['[', 'g', ']'] 0 = .ok [⟨.subscript "g", 0⟩] := by
      rw [Path.segments]
      split
      · rename_i h
        cases h
      · rename_i head after h
        cases h
        rw [Path.segments]
        rfl
    simp [Path.parse, Path.isDelimiter, hsegments]
  refine ⟨?_, ?_, by simp⟩
  · rw [val_set, hparse]
    cbv
  · rw [val_set, hparse]
    cbv

end Context

end ValuePaths
