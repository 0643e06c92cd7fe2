import Mathlib
import ValuePaths.Proofs.Order
import ValuePaths.Proofs.Idempotence

/-!
# Lookups after a change

What a lookup finds in a map, a set or a text table once an entry or a member has been
added, or the value under a key replaced: under a key that ties with the changed one, the
new value; under any other key, what it found before.  Keys tie when `Value.cmp` calls them
equal, and ties are an equivalence (`Value.same_comm`, `Value.same_trans`), so a lookup
reaches an entry through every key that ties with the entry's.

A sorted map needs nothing for this, not even to be sorted: an insertion stops at the first
key that is not smaller, so no entry before it ties with the inserted key.  A fixed-seed
table places its entries again when it grows, so which entry a lookup meets first may change
when two entries tie, and an insertion places only the entries it has slots for.
`Entries.Kept` and `Members.Kept` say what such a table needs: a slot for each entry, and,
for a map, each key once.

## Main definitions

* `Entries.Once` — no two entries of a map under keys that tie.
* `Entries.Kept`, `Members.Kept` — a table with a slot for each entry, each key once.

## Main statements

* `Entries.find?_insert`, `Entries.find?_update_of_ne`, `Entries.find?_add` — lookups in a map.
* `Members.add_union`, `Members.find?_add_isSome` — membership in a set.
* `Table.find?_insert` — lookups in a text table.
-/

namespace ValuePaths

namespace Value

theorem same_congr {a b : Value} (h : same a b = true) (x : Value) : same a x = same b x := by
  simp only [same, cmp_congr_of_same h]

theorem same_congr_right {a b : Value} (h : same a b = true) (x : Value) :
    same x a = same x b := by
  rw [same_comm x a, same_comm x b, same_congr h]

/-- Two values that tie with a third tie with each other. -/
theorem same_of_same_left {k a b : Value} (ha : same k a = true) (hb : same k b = true) :
    same a b = true :=
  same_trans (by rw [same_comm]; exact ha) hb

end Value

namespace Entries

variable (tbl : FixedTable)

/-- Each key at most once: the entries under keys that tie with one key are one entry. -/
def Once (es : List (Value × Value)) : Prop :=
  ∀ a ∈ es, ∀ b ∈ es, ∀ key, Value.same key a.1 → Value.same key b.1 → a = b

/-- How a placement keeps the entries of a map: a fixed-seed table has a slot for each
entry and each key once; a sorted placement asks nothing. -/
def Kept : Placement → List (Value × Value) → Prop
  | .table _ slots, es => slots.length = es.length ∧ Once es
  | _, _ => True

theorem find?_congr {k k' : Value} (h : Value.same k k' = true) (es : List (Value × Value)) :
    find? k es = find? k' es := by
  simp only [find?, Value.same_congr h]

@[simp] theorem find?_cons (k : Value) (e : Value × Value) (es : List (Value × Value)) :
    find? k (e :: es) = if Value.same k e.1 then some e.2 else find? k es := by
  unfold find?
  rw [List.find?_cons]
  split <;> simp_all

/-- A lookup after an insertion finds the inserted value under every key that ties with the
inserted one, and what it found before under every other key. -/
theorem find?_insert (k k' v : Value) (es : List (Value × Value)) :
    find? k (insert k' v es).1 = if Value.same k k' then some v else find? k es := by
  induction es with
  | nil => simp [insert, find?]
  | cons e es ih =>
    obtain ⟨k₀, v₀⟩ := e
    cases hc : Value.cmp k' k₀ with
    | lt => simp [insert, hc]
    | eq =>
      -- the entry under `k₀` takes the value, and `k₀` ties with `k'`
      have hs : Value.same k k₀ = Value.same k k' :=
        (Value.same_congr_right (Value.same_iff.mpr hc) k).symm
      by_cases h : Value.same k k' <;> simp [insert, hc, hs, h]
    | gt =>
      -- no key ties with both `k₀` and `k'`, which do not tie
      have hne : Value.same k' k₀ = false := by simp [Value.same, hc]
      by_cases h₀ : Value.same k k₀
      · have h' : Value.same k k' = false := by
          by_contra h'
          rw [Value.same_of_same_left (Bool.not_eq_false _ ▸ h') h₀] at hne
          cases hne
        simp [insert, hc, h₀, h']
      · simp [insert, hc, h₀, ih]

/-- Replacing the value under a key leaves what a lookup under a key that does not tie with
it finds. -/
theorem find?_update_of_ne {k k' : Value} (h : Value.same k k' = false) (v : Value) :
    ∀ es : List (Value × Value), find? k (update k' v es) = find? k es
  | [] => rfl
  | e :: es => by
    have ih := find?_update_of_ne h v es
    simp only [update, List.map_cons] at ih ⊢
    by_cases he : Value.same k' e.1
    · -- the entry takes the new value, and `k` does not reach it
      have hk : Value.same k e.1 = false := by
        by_contra hk
        rw [Value.same_trans (Bool.not_eq_false _ ▸ hk) (by rw [Value.same_comm]; exact he)] at h
        cases h
      simp [he, hk, ih]
    · simp [he, ih]

theorem find?_update_of_same {k k' : Value} (h : Value.same k k' = true) (v : Value)
    (es : List (Value × Value)) : find? k (update k' v es) = (find? k es).map fun _ => v := by
  rw [find?_congr h, find?_congr h, find?_update]

/-- Under keys that occur once, the lookup finds the entry under any key that ties with it. -/
theorem find?_of_once {es : List (Value × Value)} (h : Once es) {k : Value} {e : Value × Value}
    (he : e ∈ es) (hs : Value.same k e.1 = true) : find? k es = some e.2 := by
  cases hf : es.find? (fun e => Value.same k e.1) with
  | none => exact absurd hs (by simpa using List.find?_eq_none.mp hf e he)
  | some x =>
    have hx : Value.same k x.1 = true := by simpa using List.find?_some hf
    simp [find?, hf, h x (List.mem_of_find?_eq_some hf) e he k hx hs]

theorem Once.perm {es es' : List (Value × Value)} (h : Once es) (hp : es.Perm es') : Once es' :=
  fun a ha b hb => h a (hp.mem_iff.mpr ha) b (hp.mem_iff.mpr hb)

/-- Reordering entries whose keys occur once changes no lookup. -/
theorem find?_perm {es es' : List (Value × Value)} (h : Once es) (hp : es.Perm es') (k : Value) :
    find? k es' = find? k es := by
  cases hf : find? k es with
  | none => exact find?_eq_none_of_perm hp hf
  | some v =>
    obtain ⟨e, he, hs, rfl⟩ := find?_mem hf
    exact find?_of_once (h.perm hp) (hp.mem_iff.mp he) hs

theorem once_cons {e : Value × Value} {es : List (Value × Value)} (h : Once es)
    (hfresh : ∀ x ∈ es, Value.same e.1 x.1 = false) : Once (e :: es) := by
  -- a key that ties with the new entry's key and with an old one would tie the two
  have hnot (x : Value × Value) (hx : x ∈ es) (key : Value) (ha : Value.same key e.1 = true)
      (hb : Value.same key x.1 = true) : False := by
    have hx' := hfresh x hx
    rw [Value.same_of_same_left ha hb] at hx'
    cases hx'
  intro a ha b hb key hsa hsb
  rcases List.mem_cons.mp ha with rfl | ha' <;> rcases List.mem_cons.mp hb with rfl | hb'
  · rfl
  · exact (hnot b hb' key hsa hsb).elim
  · exact (hnot a ha' key hsb hsa).elim
  · exact h a ha' b hb' key hsa hsb

theorem once_update {es : List (Value × Value)} (h : Once es) (k v : Value) :
    Once (update k v es) := by
  intro a ha b hb key hsa hsb
  obtain ⟨a₀, ha₀, rfl⟩ := List.mem_map.mp ha
  obtain ⟨b₀, hb₀, rfl⟩ := List.mem_map.mp hb
  -- replacing a value keeps the key, so the entries were one before
  have hfst (e : Value × Value) : (if Value.same k e.1 then (e.1, v) else e).1 = e.1 := by
    split <;> rfl
  rw [hfst] at hsa hsb
  rw [h a₀ ha₀ b₀ hb₀ key hsa hsb]

/-- Adding an entry to a map finds the new value under its key and leaves every other key. -/
theorem find?_add {p : Placement} {es : List (Value × Value)} (hkept : Kept p es)
    (kt vt : Shape) (k k' v : Value) :
    find? k (add tbl p kt vt k' v es).2.1 = if Value.same k k' then some v else find? k es := by
  cases p with
  | table b slots =>
    obtain ⟨hlen, honce⟩ := hkept
    have hzip : (slots.zip es).map (·.2) = es := List.map_snd_zip (Nat.le_of_eq hlen.symm)
    unfold add
    dsimp only
    cases hfound : (tbl.insertEntry kt vt b (slots.zip es) (k', v)).2.2 with
    | some y =>
      -- the key was present: its entry, among the old ones, takes the value
      obtain ⟨hperm, hy, hsame⟩ := (tbl.entries kt vt).found hfound
      rw [hzip] at hperm hy
      dsimp only
      by_cases h : Value.same k k'
      · have hky : Value.same k y.1 = true := Value.same_trans h hsame
        rw [if_pos h, find?_update_of_same h, find?_perm honce hperm.symm,
          find?_of_once honce hy hky]
        rfl
      · rw [if_neg h, find?_update_of_ne (Bool.not_eq_true _ ▸ h), find?_perm honce hperm.symm]
    | none =>
      -- the key was missing: the entry joins the old ones
      obtain ⟨hperm, hfresh⟩ := (tbl.entries kt vt).fresh hfound
      rw [hzip] at hperm hfresh
      dsimp only
      rw [find?_perm (once_cons honce hfresh) hperm.symm, find?_cons]
  | tree => exact find?_insert k k' v es
  | hash => exact find?_insert k k' v es

/-- Adding an entry keeps a fixed-seed table with a slot for each entry, each key once. -/
theorem kept_add {p : Placement} {es : List (Value × Value)} (hkept : Kept p es)
    (kt vt : Shape) (k v : Value) :
    Kept (add tbl p kt vt k v es).1 (add tbl p kt vt k v es).2.1 := by
  cases p with
  | table b slots =>
    obtain ⟨hlen, honce⟩ := hkept
    obtain ⟨b', slots', hp, hlen', -⟩ := add_table tbl b slots kt vt k v es
    have hzip : (slots.zip es).map (·.2) = es := List.map_snd_zip (Nat.le_of_eq hlen.symm)
    rw [hp]
    refine ⟨hlen', ?_⟩
    unfold add
    dsimp only
    cases hfound : (tbl.insertEntry kt vt b (slots.zip es) (k, v)).2.2 with
    | some y =>
      obtain ⟨hperm, -⟩ := (tbl.entries kt vt).found hfound
      rw [hzip] at hperm
      exact once_update (honce.perm hperm.symm) k v
    | none =>
      obtain ⟨hperm, hfresh⟩ := (tbl.entries kt vt).fresh hfound
      rw [hzip] at hperm hfresh
      exact (once_cons honce hfresh).perm hperm.symm
  | tree => trivial
  | hash => trivial

theorem kept_update {p : Placement} {es : List (Value × Value)} (hkept : Kept p es)
    (k v : Value) : Kept p (update k v es) := by
  cases p with
  | table b slots => exact ⟨by simp [update, hkept.1], once_update hkept.2 k v⟩
  | tree => trivial
  | hash => trivial

end Entries

namespace Members

variable (tbl : FixedTable)

/-- How a placement keeps the members of a set: a fixed-seed table has a slot for each. -/
def Kept : Placement → List Value → Prop
  | .table _ slots, ms => slots.length = ms.length
  | _, _ => True

theorem find?_isSome_iff {m : Value} {ms : List Value} :
    (find? m ms).isSome ↔ ∃ x ∈ ms, Value.same m x = true := by
  simp [find?, List.find?_isSome]

theorem mem_insert_of_mem {v x : Value} : ∀ {ms : List Value}, x ∈ ms → x ∈ (insert v ms).1
  | y :: ys, hx => by
    unfold insert
    split
    · exact List.mem_cons_of_mem _ hx
    · exact hx
    · rcases List.mem_cons.mp hx with rfl | hx
      · exact List.mem_cons_self
      · exact List.mem_cons_of_mem _ (mem_insert_of_mem hx)

/-- After an insertion the set holds the inserted member, or one that ties with it. -/
theorem exists_same_insert (v : Value) (ms : List Value) :
    ∃ x ∈ (insert v ms).1, Value.same v x = true := by
  induction ms with
  | nil => exact ⟨v, by simp [insert], Value.same_self v⟩
  | cons y ys ih =>
    unfold insert
    split
    · exact ⟨v, List.mem_cons_self, Value.same_self v⟩
    · rename_i heq
      exact ⟨y, List.mem_cons_self, Value.same_iff.mpr heq⟩
    · obtain ⟨x, hx, hs⟩ := ih
      exact ⟨x, List.mem_cons_of_mem _ hx, hs⟩

/-- Adding a member to a set that keeps its members is a union: every member stays, none is
added but the new one, and the new one, or a member that ties with it, is in the set after. -/
theorem add_union {p : Placement} {ms : List Value} (hkept : Kept p ms) (t : Shape) (v : Value) :
    (∀ x ∈ (add tbl p t v ms).2.1, x = v ∨ x ∈ ms) ∧ (∀ x ∈ ms, x ∈ (add tbl p t v ms).2.1) ∧
      ∃ x ∈ (add tbl p t v ms).2.1, Value.same v x = true := by
  cases p with
  | table b slots =>
    have hzip : (slots.zip ms).map (·.2) = ms := List.map_snd_zip (Nat.le_of_eq hkept.symm)
    unfold add
    dsimp only
    cases hfound : (tbl.insertMember t b (slots.zip ms)
        v).2.2 with
    | some y =>
      -- a member tied with it already: the table keeps its members, perhaps placed anew
      obtain ⟨hperm, hy, hs⟩ := (tbl.members t).found hfound
      rw [hzip] at hperm hy
      exact ⟨fun x hx => .inr (hperm.mem_iff.mp hx), fun x hx => hperm.mem_iff.mpr hx,
        y, hperm.mem_iff.mpr hy, hs⟩
    | none =>
      obtain ⟨hperm, -⟩ := (tbl.members t).fresh hfound
      rw [hzip] at hperm
      exact ⟨fun x hx => List.mem_cons.mp (hperm.mem_iff.mp hx),
        fun x hx => hperm.mem_iff.mpr (List.mem_cons_of_mem _ hx),
        v, hperm.mem_iff.mpr List.mem_cons_self, Value.same_self v⟩
  | tree => exact ⟨fun _ => mem_insert, fun _ => mem_insert_of_mem, exists_same_insert v ms⟩
  | hash => exact ⟨fun _ => mem_insert, fun _ => mem_insert_of_mem, exists_same_insert v ms⟩

/-- A set holds a member that ties with `m` after `v` is added exactly when `m` ties with
`v` or with a member it held before. -/
theorem find?_add_isSome {p : Placement} {ms : List Value} (hkept : Kept p ms) (t : Shape)
    (m v : Value) :
    (find? m (add tbl p t v ms).2.1).isSome ↔
      Value.same m v = true ∨ (find? m ms).isSome := by
  rw [find?_isSome_iff, find?_isSome_iff]
  obtain ⟨hold, hkeep, x, hx, hvx⟩ := add_union tbl hkept t v
  constructor
  · rintro ⟨y, hy, hs⟩
    rcases hold y hy with rfl | hy
    · exact .inl hs
    · exact .inr ⟨y, hy, hs⟩
  · rintro (hs | ⟨y, hy, hs⟩)
    · exact ⟨x, hx, Value.same_trans hs hvx⟩
    · exact ⟨y, hkeep y hy, hs⟩

theorem kept_add {p : Placement} {ms : List Value} (t : Shape) (v : Value) :
    Kept (add tbl p t v ms).1 (add tbl p t v ms).2.1 := by
  cases p with
  | table b slots => simp [add, Kept]
  | tree => trivial
  | hash => trivial

end Members

namespace Table

@[simp] theorem find?_cons (k : String) (e : String × String) (es : List (String × String)) :
    find? k (e :: es) = if k = e.1 then some e.2 else find? k es := by
  obtain ⟨k₀, v₀⟩ := e
  simp only [find?, List.lookup_cons]
  split <;> simp_all

/-- A lookup in a text table after an insertion finds the inserted text under its key and
what it found before under every other key. -/
theorem find?_insert (k k' v : String) :
    ∀ es : List (String × String),
      find? k (insert k' v es).1 = if k = k' then some v else find? k es
  | [] => by simp [insert, find?]
  | (k₀, v₀) :: es => by
    have ih := find?_insert k k' v es
    unfold insert
    by_cases hlt : k' < k₀
    · simp [hlt]
    · by_cases heq : k' = k₀
      · subst heq
        by_cases h : k = k' <;> simp [h]
      · -- the entry under `k₀` stays, and `k` reaches it only when it is not `k'`
        by_cases h₀ : k = k₀
        · subst h₀
          have h : k ≠ k' := fun h => heq h.symm
          simp [hlt, heq, h]
        · simp [hlt, heq, h₀, ih]

end Table

end ValuePaths
