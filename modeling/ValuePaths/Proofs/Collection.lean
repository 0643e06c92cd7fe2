import ValuePaths.Value.Collection

/-!
# What inserting keeps

Inserting into a set or a map keeps every member or entry that was there and adds at most
the new one; an entry under a present key takes the new value, and a lookup of the key
then finds it.  For a fixed-seed hash table this is a statement about permutations:
growing the table places the same entries again, in another order, and placing one more
puts it somewhere among them.  Lookups compare keys by `Value.cmp`, which orders every
value the same as itself (`Value.cmp_self`).
-/

namespace ValuePaths

namespace Value

theorem cmpLex_self {α : Type} {c : α → α → Ordering} (h : ∀ x, c x x = .eq) :
    ∀ xs : List α, cmpLex c xs xs = .eq
  | [] => rfl
  | x :: xs => by simp [cmpLex, h x, cmpLex_self h xs]

mutual

theorem cmp_self : ∀ v : Value, v.cmp v = .eq
  | bool a => by simp [cmp]
  | char a => by simp [cmp]
  | int _ a => by simp [cmp]
  | f32 a => by simp [cmp]
  | f64 a => by simp [cmp]
  | string a => by simp [cmp]
  | record _ xs => by simp [cmp, cmpList_self xs]
  | list _ _ xs => by simp [cmp, cmpList_self xs]
  | untypedList xs => by simp [cmp, cmpList_self xs]
  | array _ xs => by simp [cmp, cmpList_self xs]
  | option _ none => by simp [cmp]
  | option _ (some a) => by simp [cmp, cmp_self a]
  | map _ _ _ es => by simp [cmp, cmpEntries_self es]
  | set _ _ xs => by simp [cmp, cmpList_self xs]
  | properties es => by simpa [cmp] using cmpLex_self (fun p => by simp) es

theorem cmpList_self : ∀ xs : List Value, cmpList xs xs = .eq
  | [] => rfl
  | x :: xs => by simp [cmpList, cmp_self x, cmpList_self xs]

theorem cmpEntries_self : ∀ es : List (Value × Value), cmpEntries es es = .eq
  | [] => rfl
  | (k, v) :: es => by simp [cmpEntries, cmp_self k, cmp_self v, cmpEntries_self es]

end

theorem same_self (v : Value) : Value.same v v = true := by
  simp [Value.same, Value.cmp_self]

end Value

namespace Layout

@[simp] theorem start_layout (l : Layout) : l.start.layout = l := by
  cases l <;> rfl

end Layout


/-- Inserting an entry that ties with a present one keeps the entries, whether or not the
table grew first. -/
theorem Inserts.present {α : Type} {same : α → α → Bool}
    {insert : Nat → List (Nat × α) → α → Nat × List (Nat × α) × Option α}
    (h : Inserts same insert) {b : Nat} {slots : List (Nat × α)} {x y : α}
    (hy : y ∈ slots.map (·.2)) (hsame : same x y = true) :
    ((insert b slots x).2.1.map (·.2)).Perm (slots.map (·.2)) := by
  cases hfound : (insert b slots x).2.2 with
  | some z => exact (h.found hfound).1
  | none =>
    rw [(h.fresh hfound).2 y hy] at hsame
    cases hsame

theorem mem_of_mem_map_snd_zip {α β : Type} {xs : List α} {ys : List β} {y : β}
    (h : y ∈ (xs.zip ys).map (·.2)) : y ∈ ys := by
  obtain ⟨⟨a, b⟩, hab, rfl⟩ := List.mem_map.mp h
  exact (List.of_mem_zip hab).2

namespace Members

variable {tbl : FixedTable}

theorem mem_insert {v m : Value} : ∀ {ms : List Value}, m ∈ (insert v ms).1 → m = v ∨ m ∈ ms
  | [], h => by simpa [insert] using h
  | x :: xs, h => by
    unfold insert at h
    split at h
    · simpa using h
    · exact .inr h
    · simp only [List.mem_cons] at h
      rcases h with rfl | h
      · exact .inr List.mem_cons_self
      · exact (mem_insert h).imp_right (List.mem_cons_of_mem _)

/-- Inserting a member a second time changes nothing. -/
theorem insert_insert (v : Value) :
    ∀ ms : List Value, (insert v (insert v ms).1).1 = (insert v ms).1
  | [] => by simp [insert, Value.cmp_self]
  | x :: xs => by
    cases h : Value.cmp v x with
    | lt => simp [insert, h, Value.cmp_self]
    | eq => simp [insert, h]
    | gt => simp [insert, h, insert_insert v xs]

/-- Adding a member keeps the members there were and adds at most the new one. -/
theorem mem_add {p : Placement} {t : Shape} {v m : Value} {ms : List Value}
    (h : m ∈ (add tbl p t v ms).2.1) : m = v ∨ m ∈ ms := by
  unfold add at h
  split at h
  · rename_i b slots
    cases hfound :
        (tbl.insertMember t b (slots.zip ms) v).2.2 with
    | some y =>
      have hm := ((tbl.members t).found hfound).1.mem_iff.mp h
      exact .inr (mem_of_mem_map_snd_zip hm)
    | none =>
      have hm := ((tbl.members t).fresh hfound).1.mem_iff.mp h
      rcases List.mem_cons.mp hm with rfl | hm
      · exact .inl rfl
      · exact .inr (mem_of_mem_map_snd_zip hm)
  · exact mem_insert h

/-- A fixed-seed table adds through its table's insertion, on its slots paired with the
members. -/
theorem add_table_eq (b : Nat) (slots : List Nat) (t : Shape) (v : Value) (ms : List Value) :
    add tbl (.table b slots) t v ms =
      (.table (tbl.insertMember t b (slots.zip ms) v).1
          ((tbl.insertMember t b (slots.zip ms) v).2.1.map (·.1)),
        (tbl.insertMember t b (slots.zip ms) v).2.1.map (·.2),
        (tbl.insertMember t b (slots.zip ms) v).2.2.isNone) := rfl

/-- Adding a member keeps the layout of the set. -/
@[simp] theorem add_layout (tbl : FixedTable) (p : Placement) (t : Shape) (v : Value)
    (ms : List Value) : (add tbl p t v ms).1.layout = p.layout := by
  unfold add
  split <;> rfl

end Members

namespace Entries

variable {tbl : FixedTable}

theorem mem_insert {k v : Value} {e : Value × Value} :
    ∀ {es : List (Value × Value)}, e ∈ (insert k v es).1 → e ∈ es ∨ e.2 = v
  | [], h => by simp_all [insert]
  | (k', v') :: es, h => by
    unfold insert at h
    split at h
    · simp only [List.mem_cons] at h
      rcases h with rfl | h
      · exact .inr rfl
      · exact .inl (List.mem_cons.mpr h)
    · simp only [List.mem_cons] at h
      rcases h with rfl | h
      · exact .inr rfl
      · exact .inl (List.mem_cons_of_mem _ h)
    · simp only [List.mem_cons] at h
      rcases h with rfl | h
      · exact .inl List.mem_cons_self
      · exact (mem_insert h).imp_left (List.mem_cons_of_mem _)

/-- Inserting an entry a second time changes nothing. -/
theorem insert_insert (k v : Value) :
    ∀ es : List (Value × Value), (insert k v (insert k v es).1).1 = (insert k v es).1
  | [] => by simp [insert, Value.cmp_self]
  | (k', v') :: es => by
    cases h : Value.cmp k k' with
    | lt => simp [insert, h, Value.cmp_self]
    | eq => simp [insert, h]
    | gt => simp [insert, h, insert_insert k v es]

/-- Replacing the value under a key changes nothing when every entry under it has the value
already. -/
theorem update_eq_self {k v : Value} {es : List (Value × Value)}
    (h : ∀ e ∈ es, Value.same k e.1 = true → e.2 = v) : update k v es = es := by
  unfold update
  conv => rhs; rw [← List.map_id es]
  refine List.map_congr_left fun e he => ?_
  split
  · rename_i hsame
    rw [← h e he hsame]
    rfl
  · rfl

/-- Replacing the value under a key is what a later lookup of that key finds. -/
theorem find?_update (k v : Value) (es : List (Value × Value)) :
    find? k (update k v es) = (find? k es).map fun _ => v := by
  induction es with
  | nil => rfl
  | cons e es ih =>
    by_cases h : Value.same k e.1
    · simp [update, find?, h]
    · simpa [update, find?, h] using ih

theorem find?_mem {k v : Value} {es : List (Value × Value)} (h : find? k es = some v) :
    ∃ e ∈ es, Value.same k e.1 ∧ e.2 = v := by
  obtain ⟨e, he, rfl⟩ := Option.map_eq_some_iff.mp h
  exact ⟨e, List.mem_of_find?_eq_some he, by simpa using List.find?_some he, rfl⟩

theorem mem_update {k v : Value} {e : Value × Value} {es : List (Value × Value)}
    (h : e ∈ update k v es) : e ∈ es ∨ e.2 = v := by
  obtain ⟨e', he', rfl⟩ := List.mem_map.mp h
  split
  · exact .inr rfl
  · exact .inl he'

/-- Adding an entry keeps the entries there were, some of them with the new value, and
adds at most the new one. -/
theorem mem_add {p : Placement} {kt vt : Shape} {k v : Value} {e : Value × Value}
    {es : List (Value × Value)} (h : e ∈ (add tbl p kt vt k v es).2.1) : e ∈ es ∨ e.2 = v := by
  unfold add at h
  split at h
  · rename_i b slots
    cases hfound : (tbl.insertEntry kt vt b (slots.zip es) (k, v)).2.2 with
    | some y =>
      simp only [hfound] at h
      rcases mem_update h with h | h
      · exact .inl (mem_of_mem_map_snd_zip (((tbl.entries kt vt).found hfound).1.mem_iff.mp h))
      · exact .inr h
    | none =>
      simp only [hfound] at h
      rcases List.mem_cons.mp (((tbl.entries kt vt).fresh hfound).1.mem_iff.mp h) with rfl | h
      · exact .inr rfl
      · exact .inl (mem_of_mem_map_snd_zip h)
  · exact mem_insert h

/-- The value under a key is the first entry whose key is the same. -/
theorem find?_of_unique {k v : Value} {es : List (Value × Value)} (hmem : (k, v) ∈ es)
    (hunique : ∀ e ∈ es, Value.same k e.1 = true → e = (k, v)) : find? k es = some v := by
  cases hfind : es.find? (fun e => Value.same k e.1) with
  | none =>
    have := List.find?_eq_none.mp hfind (k, v) hmem
    simp [Value.same_self] at this
  | some e =>
    have he := hunique e (List.mem_of_find?_eq_some hfind) (by simpa using List.find?_some hfind)
    simp [find?, hfind, he]

theorem find?_insert_self (k v : Value) :
    ∀ es : List (Value × Value), find? k (insert k v es).1 = some v
  | [] => by simp [insert, find?, Value.same_self]
  | (k', v') :: es => by
    unfold insert
    split
    · simp [find?, Value.same_self]
    · rename_i heq
      simp [find?, Value.same, heq]
    · rename_i hgt
      have hne : Value.same k k' = false := by simp [Value.same, hgt]
      have ih := find?_insert_self k v es
      simp only [find?] at ih ⊢
      simpa [hne] using ih

/-- An entry added under a key is what a later lookup of the key finds. -/
theorem find?_add_self (tbl : FixedTable) (p : Placement) (kt vt : Shape) (k v : Value)
    (es : List (Value × Value)) : find? k (add tbl p kt vt k v es).2.1 = some v := by
  unfold add
  split
  · rename_i b slots
    cases hfound : (tbl.insertEntry kt vt b (slots.zip es) (k, v)).2.2 with
    | some y =>
      simp only [hfound]
      obtain ⟨hperm, hy, hsame⟩ := (tbl.entries kt vt).found hfound
      rw [find?_update]
      cases hfind : find? k ((tbl.insertEntry kt vt b (slots.zip es) (k, v)).2.1.map (·.2)) with
      | none =>
        have := List.find?_eq_none.mp (Option.map_eq_none_iff.mp hfind) y
          (hperm.mem_iff.mpr hy)
        simp_all
      | some _ => rfl
    | none =>
      simp only [hfound]
      obtain ⟨hperm, hfresh⟩ := (tbl.entries kt vt).fresh hfound
      refine find?_of_unique (hperm.mem_iff.mpr List.mem_cons_self) fun e he hsame => ?_
      rcases List.mem_cons.mp (hperm.mem_iff.mp he) with rfl | he
      · rfl
      · have hne : Value.same k e.1 = false := hfresh e he
        rw [hne] at hsame
        cases hsame
  · exact find?_insert_self k v es

/-- Adding an entry keeps the layout of the map. -/
@[simp] theorem add_layout (tbl : FixedTable) (p : Placement) (kt vt : Shape) (k v : Value)
    (es : List (Value × Value)) : (add tbl p kt vt k v es).1.layout = p.layout := by
  unfold add
  split
  · dsimp only
    split <;> rfl
  · rfl

end Entries

namespace Table

/-- A value inserted under a key is what a later lookup of the key finds. -/
theorem find?_insert_self (k v : String) :
    ∀ es : List (String × String), find? k (insert k v es).1 = some v
  | [] => by simp [insert, find?]
  | (k', v') :: es => by
    unfold insert
    split
    · simp [find?]
    · split
      · rename_i heq
        subst heq
        simp [find?]
      · rename_i hne
        have ih := find?_insert_self k v es
        have hbeq : (k == k') = false := by simp [hne]
        simp only [find?] at ih ⊢
        simp [List.lookup_cons, ih, hbeq]

/-- Inserting an entry a second time changes nothing. -/
theorem insert_insert (k v : String) :
    ∀ es : List (String × String), (insert k v (insert k v es).1).1 = (insert k v es).1
  | [] => by simp [insert]
  | (k', v') :: es => by
    by_cases hlt : k < k'
    · simp [insert, hlt]
    · by_cases heq : k = k'
      · subst heq
        simp [insert]
      · simp [insert, hlt, heq, insert_insert k v es]

end Table

end ValuePaths
