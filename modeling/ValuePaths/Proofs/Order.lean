import Mathlib
import ValuePaths.Proofs.Collection

/-!
# The order of values

Sorted sets and maps keep their members in the order of `Value.cmp`, and every set and map,
sorted or hashed, finds a member or a key by `Value.same`, the ties of that order.  Values
of different kinds are ordered by kind, values of one kind by their contents, and lists of
values or entries lexicographically.  This module shows that the order is a total preorder
(`Std.OrientedCmp`, `Std.TransCmp`), so that `Value.same` is an equivalence and insertion
into a sorted list behaves as insertion into an ordered collection.

Transitivity is proved for three values at once, by induction on their total size: a
lexicographic comparison is transitive once the comparisons of the heads chain in every
order (`Value.Chains`, `Value.isLE_then_trans`), and the heads are smaller than the lists
that hold them.

## Main statements

* `Value.cmp_swap` — comparing the other way round swaps the result.
* `Value.cmp_isLE_trans` — the order is transitive.
* `Value.same_comm`, `Value.same_trans` — the ties of the order are an equivalence.
-/

namespace ValuePaths

namespace Value

section Lex

variable {α : Type} {c : α → α → Ordering}

/-- Comparing lexicographically the other way round swaps the result, when comparing items
does. -/
theorem cmpLex_swap (h : ∀ x y, c x y = (c y x).swap) :
    ∀ xs ys : List α, cmpLex c xs ys = (cmpLex c ys xs).swap
  | [], [] => rfl
  | [], _ :: _ => rfl
  | _ :: _, [] => rfl
  | x :: xs, y :: ys => by
    rw [cmpLex, cmpLex, Ordering.swap_then, ← h x y, ← cmpLex_swap h xs ys]

/-- The comparisons among three items chain transitively, whichever order they are taken in. -/
structure Chains (c : α → α → Ordering) (x y z : α) : Prop where
  xyz : (c x y).isLE → (c y z).isLE → (c x z).isLE
  xzy : (c x z).isLE → (c z y).isLE → (c x y).isLE
  yxz : (c y x).isLE → (c x z).isLE → (c y z).isLE
  yzx : (c y z).isLE → (c z x).isLE → (c y x).isLE
  zxy : (c z x).isLE → (c x y).isLE → (c z y).isLE
  zyx : (c z y).isLE → (c y x).isLE → (c z x).isLE

theorem Chains.cycle {x y z : α} (h : Chains c x y z) : Chains c y z x :=
  ⟨h.yzx, h.yxz, h.zyx, h.zxy, h.xyz, h.xzy⟩

theorem Chains.flip {x y z : α} (h : Chains c x y z) : Chains c y x z :=
  ⟨h.yxz, h.yzx, h.xyz, h.xzy, h.zyx, h.zxy⟩

theorem isLE_of_then {o t : Ordering} (h : (o.then t).isLE) : o.isLE := by
  cases o <;> simp_all [Ordering.then]

theorem eq_of_isLE_swap {o : Ordering} (h₁ : o.isLE) (h₂ : o.swap.isLE) : o = .eq := by
  cases o <;> simp_all [Ordering.swap]

/-- One position of a lexicographic comparison is transitive: the heads decide unless they tie,
and a tie at the ends is a tie at every step, so that the rests decide. -/
theorem isLE_then_trans (hswap : ∀ u v, c u v = (c v u).swap) {x y z : α}
    {t₁ t₂ t₃ : Ordering} (h : Chains c x y z) (ht : t₁.isLE → t₂.isLE → t₃.isLE)
    (h₁ : ((c x y).then t₁).isLE) (h₂ : ((c y z).then t₂).isLE) : ((c x z).then t₃).isLE := by
  have hle := h.xyz (isLE_of_then h₁) (isLE_of_then h₂)
  cases hxz : c x z with
  | gt => rw [hxz] at hle; cases hle
  | lt => rfl
  | eq =>
    -- a tie at the ends is a tie at every step, and then the rests decide
    have hzx : (c z x).isLE := by rw [hswap, hxz]; rfl
    have hxy : c x y = .eq :=
      eq_of_isLE_swap (isLE_of_then h₁) (by rw [← hswap]; exact h.yzx (isLE_of_then h₂) hzx)
    have hyz : c y z = .eq :=
      eq_of_isLE_swap (isLE_of_then h₂) (by rw [← hswap]; exact h.zxy hzx (isLE_of_then h₁))
    rw [hxy] at h₁
    rw [hyz] at h₂
    exact ht h₁ h₂

/-- Pairs compared first by one component and then by the other chain as their components do. -/
theorem Chains.then {c₁ c₂ : α → α → Ordering} (hswap₁ : ∀ u v, c₁ u v = (c₁ v u).swap)
    {x y z x' y' z' : α} (h₁ : Chains c₁ x y z) (h₂ : Chains c₂ x' y' z') :
    Chains (fun (p q : α × α) => (c₁ p.1 q.1).then (c₂ p.2 q.2)) (x, x') (y, y') (z, z') :=
  ⟨isLE_then_trans hswap₁ h₁ h₂.xyz,
   isLE_then_trans hswap₁ h₁.cycle.cycle.flip h₂.xzy,
   isLE_then_trans hswap₁ h₁.flip h₂.yxz,
   isLE_then_trans hswap₁ h₁.cycle h₂.yzx,
   isLE_then_trans hswap₁ h₁.cycle.cycle h₂.zxy,
   isLE_then_trans hswap₁ h₁.cycle.flip h₂.zyx⟩

theorem chains_of_trans [Std.TransCmp c] (x y z : α) : Chains c x y z :=
  ⟨Std.TransCmp.isLE_trans, Std.TransCmp.isLE_trans, Std.TransCmp.isLE_trans,
    Std.TransCmp.isLE_trans, Std.TransCmp.isLE_trans, Std.TransCmp.isLE_trans⟩

/-- Lexicographic comparison is transitive on lists whose items chain. -/
theorem cmpLex_isLE_trans (hswap : ∀ u v, c u v = (c v u).swap) :
    ∀ {xs ys zs : List α}, (∀ x ∈ xs, ∀ y ∈ ys, ∀ z ∈ zs, Chains c x y z) →
      (cmpLex c xs ys).isLE → (cmpLex c ys zs).isLE → (cmpLex c xs zs).isLE
  | [], _, [], _, _, _ => rfl
  | [], _, _ :: _, _, _, _ => rfl
  | _ :: _, [], _, _, h₁, _ => by simp [cmpLex] at h₁
  | _ :: _, _ :: _, [], _, _, h₂ => by simp [cmpLex] at h₂
  | x :: xs, y :: ys, z :: zs, h, h₁, h₂ =>
    isLE_then_trans hswap (h x (by simp) y (by simp) z (by simp))
      (cmpLex_isLE_trans hswap fun x' hx y' hy z' hz =>
        h x' (by simp [hx]) y' (by simp [hy]) z' (by simp [hz])) h₁ h₂

end Lex

/-- Values of different kinds are ordered by kind. -/
theorem cmp_of_rank_ne {a b : Value} (h : a.rank ≠ b.rank) : a.cmp b = compare a.rank b.rank := by
  cases a <;> cases b <;> first | exact absurd rfl h | rfl | (cases ‹Option Value› <;> rfl)

theorem cmpList_eq_cmpLex : ∀ xs ys : List Value, cmpList xs ys = cmpLex cmp xs ys
  | [], [] | [], _ :: _ | _ :: _, [] => rfl
  | x :: xs, y :: ys => by rw [cmpList, cmpLex, cmpList_eq_cmpLex xs ys]

theorem cmpEntries_eq_cmpLex : ∀ es fs : List (Value × Value),
    cmpEntries es fs = cmpLex (fun e f => (cmp e.1 f.1).then (cmp e.2 f.2)) es fs
  | [], [] | [], _ :: _ | _ :: _, [] => rfl
  | (k, v) :: es, (k', v') :: fs => by
    rw [cmpEntries, cmpLex, cmpEntries_eq_cmpLex es fs]

mutual

/-- **Comparing two values the other way round swaps the result.** -/
theorem cmp_swap : ∀ a b : Value, a.cmp b = (b.cmp a).swap
  | bool x, b | char x, b | int _ x, b | f32 x, b | f64 x, b | string x, b => by
    cases b <;> first | rfl | (cases ‹Option Value› <;> rfl) | skip
    all_goals
      simp only [cmp]
      exact Std.OrientedCmp.eq_swap
  | record _ xs, b | list _ _ xs, b | untypedList xs, b | array _ xs, b | set _ _ xs, b => by
    cases b <;> first | rfl | (cases ‹Option Value› <;> rfl) | skip
    all_goals
      simp only [cmp]
      exact cmpList_swap xs _
  | option _ none, b => by
    cases b <;> first | rfl | (cases ‹Option Value› <;> rfl)
  | option _ (some x), b => by
    cases b <;> first | rfl | skip
    rename_i o
    cases o with
    | none => rfl
    | some y =>
      simp only [cmp]
      exact cmp_swap x y
  | map _ _ _ es, b => by
    cases b <;> first | rfl | (cases ‹Option Value› <;> rfl) | skip
    simp only [cmp]
    exact cmpEntries_swap es _
  | properties es, b => by
    cases b <;> first | rfl | (cases ‹Option Value› <;> rfl) | skip
    simp only [cmp]
    exact cmpLex_swap (fun p q => by
      rw [Ordering.swap_then, ← Std.OrientedCmp.eq_swap, ← Std.OrientedCmp.eq_swap]) _ _

theorem cmpList_swap : ∀ xs ys : List Value, cmpList xs ys = (cmpList ys xs).swap
  | [], [] | [], _ :: _ | _ :: _, [] => rfl
  | x :: xs, y :: ys => by
    rw [cmpList, cmpList, Ordering.swap_then, ← cmp_swap x y, ← cmpList_swap xs ys]

theorem cmpEntries_swap : ∀ es fs : List (Value × Value), cmpEntries es fs = (cmpEntries fs es).swap
  | [], [] | [], _ :: _ | _ :: _, [] => rfl
  | (k, v) :: es, (k', v') :: fs => by
    rw [cmpEntries, cmpEntries, Ordering.swap_then, Ordering.swap_then, ← cmp_swap k k',
      ← cmp_swap v v', ← cmpEntries_swap es fs]

end


theorem rank_le_of_isLE {a b : Value} (h : (a.cmp b).isLE) : a.rank ≤ b.rank := by
  by_cases hr : a.rank = b.rank
  · exact hr.le
  · rw [cmp_of_rank_ne hr] at h
    exact Nat.isLE_compare.mp h

/-- **The order of values is transitive.**  By induction on the three values together, so
that the heads of three lists chain in every order. -/
theorem cmp_isLE_trans (a b c : Value) (hab : (a.cmp b).isLE) (hbc : (b.cmp c).isLE) :
    (a.cmp c).isLE := by
  have chains : ∀ x y z : Value, sizeOf x + sizeOf y + sizeOf z < sizeOf a + sizeOf b + sizeOf c →
      Chains cmp x y z := fun x y z _ =>
    ⟨cmp_isLE_trans x y z, cmp_isLE_trans x z y, cmp_isLE_trans y x z, cmp_isLE_trans y z x,
      cmp_isLE_trans z x y, cmp_isLE_trans z y x⟩
  have hab' := rank_le_of_isLE hab
  have hbc' := rank_le_of_isLE hbc
  by_cases hac : a.rank = c.rank
  · -- one kind throughout: the contents decide
    have h₁ : a.rank = b.rank := by omega
    have h₂ : b.rank = c.rank := by omega
    clear hab' hbc' hac
    cases a <;> cases b <;> simp [rank] at h₁ <;> cases c <;> simp [rank] at h₂
    case option.option.option =>
      rename_i o₁ _ o₂ _ o₃
      cases o₁ <;> cases o₂ <;> cases o₃ <;>
        simp only [cmp, Ordering.isLE, Bool.false_eq_true] at hab hbc ⊢
      exact (chains _ _ _ (by simp; omega)).xyz hab hbc
    case map.map.map =>
      rename_i es _ _ _ fs _ _ _ gs
      simp only [cmp, cmpEntries_eq_cmpLex] at hab hbc ⊢
      refine cmpLex_isLE_trans (fun p q => by
        rw [Ordering.swap_then, ← cmp_swap, ← cmp_swap]) ?_ hab hbc
      intro ⟨k, v⟩ he ⟨k', v'⟩ hf ⟨k'', v''⟩ hg
      have := List.sizeOf_lt_of_mem he
      have := List.sizeOf_lt_of_mem hf
      have := List.sizeOf_lt_of_mem hg
      simp only [Prod.mk.sizeOf_spec] at *
      exact Chains.then cmp_swap (chains k k' k'' (by simp; omega))
        (chains v v' v'' (by simp; omega))
    case properties.properties.properties =>
      simp only [cmp] at hab hbc ⊢
      refine cmpLex_isLE_trans (fun p q => by
        rw [Ordering.swap_then, ← Std.OrientedCmp.eq_swap, ← Std.OrientedCmp.eq_swap]) ?_ hab hbc
      intro p _ q _ r _
      exact Chains.then (fun _ _ => Std.OrientedCmp.eq_swap) (chains_of_trans _ _ _)
        (chains_of_trans _ _ _)
    case bool.bool.bool | char.char.char | int.int.int | f32.f32.f32 | f64.f64.f64
      | string.string.string =>
      simp only [cmp] at hab hbc ⊢
      exact Std.TransCmp.isLE_trans hab hbc
    case record.record.record | list.list.list | untypedList.untypedList.untypedList
      | array.array.array | set.set.set =>
      simp only [cmp, cmpList_eq_cmpLex] at hab hbc ⊢
      refine cmpLex_isLE_trans cmp_swap (fun x hx y hy z hz => chains x y z ?_) hab hbc
      have := List.sizeOf_lt_of_mem hx
      have := List.sizeOf_lt_of_mem hy
      have := List.sizeOf_lt_of_mem hz
      simp
      omega
  · rw [cmp_of_rank_ne hac]
    exact Nat.isLE_compare.mpr (by omega)
termination_by sizeOf a + sizeOf b + sizeOf c
decreasing_by all_goals omega

instance : Std.OrientedCmp Value.cmp := ⟨fun {a b} => cmp_swap a b⟩

instance : Std.TransCmp Value.cmp where
  isLE_trans {a b c} := cmp_isLE_trans a b c

theorem same_iff {a b : Value} : same a b = true ↔ a.cmp b = .eq := by
  simp [same]

/-- Ties of the order are symmetric. -/
theorem same_comm (a b : Value) : same a b = same b a := by
  rw [Bool.eq_iff_iff, same_iff, same_iff, Std.OrientedCmp.eq_comm]

/-- Ties of the order are transitive. -/
theorem same_trans {a b c : Value} (hab : same a b = true) (hbc : same b c = true) :
    same a c = true :=
  same_iff.mpr (Std.TransCmp.eq_trans (same_iff.mp hab) (same_iff.mp hbc))

/-- Values that tie compare alike with every value. -/
theorem cmp_congr_of_same {a b : Value} (h : same a b = true) (c : Value) :
    a.cmp c = b.cmp c :=
  Std.TransCmp.congr_left (same_iff.mp h)

end Value

end ValuePaths
