/-!
# Buckets of a fixed-seed hash table

A hash table keeps its entries in an array of buckets, at most one entry to a bucket, and
lists them in bucket order.  The number of buckets is zero before the first insertion and
a power of two after it.  Here a table is the list of its occupied buckets with their
entries, in increasing bucket order; nothing is ever removed, so every other bucket is
free.

An entry whose hash is `h` belongs to bucket `h mod b`.  Small tables of four or eight
buckets take the first free bucket from there on, wrapping around.  Larger tables look at
windows of sixteen buckets: the window starting at the home bucket, then windows further
on by 16, 32, 48, … more buckets (a triangular probe, which meets every window of the
table).  In each window the first free bucket is taken.

A table of `b` buckets holds `capacity b` entries: all but one bucket up to eight buckets,
seven eighths beyond.  Inserting into a full table first grows it: the new table is sized
for one entry more than the old capacity, and the entries are placed again in the new
table in their old bucket order.  A table grows before it looks for the entry, so
inserting an entry that is present into a full table still grows it.  The smallest table
has four, eight or sixteen buckets, as the entries are wider or narrower: tables of
one-byte entries start at sixteen buckets and those of two- or three-byte entries at eight.

## Main definitions

* `Buckets.capacity`, `Buckets.sizeFor` — how many entries fit and how large to grow.
* `Buckets.slotFor` — the bucket a new entry goes to.
* `Buckets.reserve`, `Buckets.insert` — growing a table and inserting into it.
* `Inserts` — what an insertion does with the entries, which `Buckets.inserts` shows of
  `Buckets.insert`.
-/

namespace ValuePaths

namespace Buckets

/-- The number of entries a table of `b` buckets holds before it grows. -/
def capacity (b : Nat) : Nat := if b ≤ 8 then b - 1 else b / 8 * 7

/-- The least power of two that is at least `n`, searched from `p` upwards. -/
def powerFrom (n : Nat) : (fuel p : Nat) → Nat
  | 0, p => p
  | fuel + 1, p => if n ≤ p then p else powerFrom n fuel (2 * p)

/-- The least power of two that is at least `n`. -/
def powerAbove (n : Nat) : Nat := powerFrom n n 1

/-- The number of buckets of a table made for `cap` entries.  A table for fewer than 15
entries holds at least `least` of them and has four, eight or sixteen buckets; a larger
one keeps an eighth of its buckets free. -/
def sizeFor (least cap : Nat) : Nat :=
  if cap < 15 then
    let c := max least cap
    if c < 4 then 4 else if c < 8 then 8 else 16
  else powerAbove (cap * 8 / 7)

/-- The least capacity of a table whose entries take `width` bytes: 14 for one byte, 7
for two or three, 3 for more. -/
def leastFor (width : Nat) : Nat := if width ≤ 1 then 14 else if width ≤ 3 then 7 else 3

/-- The first free bucket among `n` buckets starting at `pos`, counted modulo `b`. -/
def firstFree (b : Nat) (used : List Nat) (pos n : Nat) : Option Nat :=
  (List.range n).findSome? fun i =>
    let k := (pos + i) % b
    if used.contains k then none else some k

/-- The triangular probe of a table of at least sixteen buckets, from the window at `pos`
whose predecessor lay `stride` buckets back. -/
def probe (b : Nat) (used : List Nat) : (fuel pos stride : Nat) → Nat
  | 0, _, _ => 0
  | fuel + 1, pos, stride =>
    match firstFree b used pos 16 with
    | some k => k
    | none => probe b used fuel ((pos + stride + 16) % b) (stride + 16)

/-- The bucket an entry with hash `h` goes to, in a table of `b` buckets whose occupied
buckets are `used`. -/
def slotFor (b : Nat) (used : List Nat) (h : Nat) : Nat :=
  if b < 16 then (firstFree b used (h % b) b).getD 0
  else probe b used b (h % b) 0

/-- Puts an entry into bucket `k`, keeping the buckets in increasing order. -/
def put {α : Type} (k : Nat) (x : α) : List (Nat × α) → List (Nat × α)
  | [] => [(k, x)]
  | (j, y) :: rest => if k < j then (k, x) :: (j, y) :: rest else (j, y) :: put k x rest

/-- Places an entry with hash `h` into a table of `b` buckets. -/
def place {α : Type} (b h : Nat) (x : α) (t : List (Nat × α)) : List (Nat × α) :=
  put (slotFor b (t.map (·.1)) h) x t

/-- The entries of a table placed again, in bucket order, into an empty table of `b`
buckets. -/
def rehash {α : Type} (hash : α → Nat) (b : Nat) (t : List (Nat × α)) : List (Nat × α) :=
  t.foldl (fun acc e => place b (hash e.2) e.2 acc) []

/-- Makes room for one more entry in a table of `b` buckets: a full table grows to the
size made for one entry more than its capacity. -/
def reserve {α : Type} (least : Nat) (hash : α → Nat) (b : Nat) (t : List (Nat × α)) :
    Nat × List (Nat × α) :=
  if t.length < capacity b then (b, t)
  else
    let b' := sizeFor least (capacity b + 1)
    (b', rehash hash b' t)

/-- Inserts an entry unless an equal one is present.  The table first makes room; then a
present entry is handed back with the table unchanged, and a new one is placed. -/
def insert {α : Type} (least : Nat) (hash : α → Nat) (same : α → α → Bool) (b : Nat)
    (t : List (Nat × α)) (x : α) : Nat × List (Nat × α) × Option α :=
  let (b, t) := reserve least hash b t
  match t.find? (fun e => same x e.2) with
  | some e => (b, t, some e.2)
  | none => (b, place b (hash x) x t, none)

end Buckets

/-! ## What an insertion keeps -/

/-- What inserting into a table of buckets does with its entries, whatever it does with the
buckets: into the entries `slots` of a table of `b` buckets, it hands back the present entry
that ties with the new one, keeping the entries as they were, or places the new one among
them. -/
structure Inserts {α : Type} (same : α → α → Bool)
    (insert : Nat → List (Nat × α) → α → Nat × List (Nat × α) × Option α) : Prop where
  found : ∀ {b : Nat} {slots : List (Nat × α)} {x y : α}, (insert b slots x).2.2 = some y →
    ((insert b slots x).2.1.map (·.2)).Perm (slots.map (·.2)) ∧ y ∈ slots.map (·.2) ∧
      same x y = true
  fresh : ∀ {b : Nat} {slots : List (Nat × α)} {x : α}, (insert b slots x).2.2 = none →
    ((insert b slots x).2.1.map (·.2)).Perm (x :: slots.map (·.2)) ∧
      ∀ y ∈ slots.map (·.2), same x y = false

namespace Buckets

variable {α : Type}

theorem put_perm (k : Nat) (x : α) (t : List (Nat × α)) : (put k x t).Perm ((k, x) :: t) := by
  fun_induction put k x t with
  | case1 => rfl
  | case2 => rfl
  | case3 j y rest _ ih => exact (ih.cons (j, y)).trans (List.Perm.swap (k, x) (j, y) rest)

theorem place_perm (b h : Nat) (x : α) (t : List (Nat × α)) :
    (place b h x t).Perm ((slotFor b (t.map (·.1)) h, x) :: t) :=
  put_perm _ _ _

/-- Placing entries one after another into a table keeps each of them. -/
theorem foldl_place_perm (hash : α → Nat) (b : Nat) :
    ∀ t acc : List (Nat × α),
      ((t.foldl (fun acc e => place b (hash e.2) e.2 acc) acc).map (·.2)).Perm
        (acc.map (·.2) ++ t.map (·.2))
  | [], acc => by simp
  | e :: t, acc => by
    rw [List.foldl_cons, List.map_cons]
    refine (foldl_place_perm hash b t _).trans ?_
    have h := (place_perm b (hash e.2) e.2 acc).map (·.2)
    exact (h.append_right _).trans List.perm_middle.symm

theorem rehash_perm (hash : α → Nat) (b : Nat) (t : List (Nat × α)) :
    ((rehash hash b t).map (·.2)).Perm (t.map (·.2)) := by
  unfold rehash
  simpa using foldl_place_perm hash b t []

theorem reserve_perm (least : Nat) (hash : α → Nat) (b : Nat) (t : List (Nat × α)) :
    ((reserve least hash b t).2.map (·.2)).Perm (t.map (·.2)) := by
  unfold reserve
  split
  · rfl
  · exact rehash_perm _ _ _

variable {least : Nat} {hash : α → Nat} {same : α → α → Bool} {b : Nat} {t : List (Nat × α)}
  {x : α}

/-- Inserting an entry equal to a present one keeps the entries, as they were, and hands
back the present one. -/
theorem insert_found {y : α} (h : (insert least hash same b t x).2.2 = some y) :
    ((insert least hash same b t x).2.1.map (·.2)).Perm (t.map (·.2)) ∧
      y ∈ t.map (·.2) ∧ same x y := by
  have hperm := reserve_perm least hash b t
  unfold insert at h ⊢
  generalize reserve least hash b t = r at h hperm ⊢
  obtain ⟨b', t'⟩ := r
  dsimp only at h hperm ⊢
  split at h
  · rename_i e he
    cases h
    exact ⟨hperm, hperm.mem_iff.mp (List.mem_map_of_mem (List.mem_of_find?_eq_some he)),
      by simpa using List.find?_some he⟩
  · cases h

/-- Inserting an entry equal to none present places it among the entries. -/
theorem insert_fresh (h : (insert least hash same b t x).2.2 = none) :
    ((insert least hash same b t x).2.1.map (·.2)).Perm (x :: t.map (·.2)) ∧
      ∀ y ∈ t.map (·.2), same x y = false := by
  have hperm := reserve_perm least hash b t
  unfold insert at h ⊢
  generalize reserve least hash b t = r at h hperm ⊢
  obtain ⟨b', t'⟩ := r
  dsimp only at h hperm ⊢
  split at h
  · cases h
  · rename_i hnone
    have hplace := (place_perm b' (hash x) x t').map (·.2)
    refine ⟨hplace.trans (by simpa using hperm.cons x), ?_⟩
    intro y hy
    obtain ⟨e, he, rfl⟩ := List.mem_map.mp (hperm.mem_iff.mpr hy)
    simpa using List.find?_eq_none.mp hnone e he

/-- A table of buckets inserts as `Inserts` asks. -/
theorem inserts (least : Nat) (hash : α → Nat) (same : α → α → Bool) :
    Inserts same (insert least hash same) :=
  ⟨insert_found, insert_fresh⟩

end Buckets

end ValuePaths
