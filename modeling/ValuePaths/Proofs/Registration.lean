import ValuePaths.Proofs.ShapePath
import ValuePaths.Proofs.Conversion
import ValuePaths.Sample.Records

/-!
# What a registry answers

A registry is looked up by full path, by short name, and for whether a short name is
shared, and it counts its shapes.  The lookups read three indices that registration keeps
beside the entries, one step at a time: storing a shape puts it under its full path, and
under its short name unless the name is taken; a name met a second time leaves the name
index for good and joins the shared names.

That incremental bookkeeping answers as the set of registered shapes says (`Indexes`): the
path index gives the registered shape of a path, since no two shapes share a path; the name
index gives the registered shape of a short name when no other registered shape has it; the
shared names are those of two registered shapes.  This needs every shape to be stored
once, which registration keeps: a shape already present is passed over, and installing a
converter only changes the converters.

So two registries that a program builds from the same shapes, in whatever order and by
whatever mix of registrations, installs and registrations of the catalogue, answer every
lookup alike.

## Main definitions

* `Registry.shapes` — the registered shapes, in the order of registration.
* `Registry.Indexes` — the indices agree with the entries, each shape stored once.
* `Registry.Indexed` — the lookups answer as the set of registered shapes says.

## Main statements

* `Registry.indexes_insertMeta` — storing a new shape keeps the indices in agreement.
* `Registry.Built.indexes` — so every registry a program builds keeps them.
* `Registry.Indexes.indexed` — and its lookups are those of its shapes.
* `Registry.lookups_of_built` — two built registries with the same shapes answer alike.
-/

namespace ValuePaths

open Logged

namespace Registry

/-- The registered shapes, in the order of registration. -/
def shapes (reg : Registry) : List Shape := reg.entries.map (·.shape)

theorem contains_iff {reg : Registry} {s : Shape} : reg.contains s = true ↔ s ∈ reg.shapes := by
  simp [contains, shapes]

/-- No shape is registered twice. -/
def Distinct (reg : Registry) : Prop := reg.shapes.Nodup

@[simp] theorem shapes_insertMeta (reg : Registry) (e : Entry) :
    (reg.insertMeta e).shapes = reg.shapes ++ [e.shape] := by
  simp [shapes]

/-! ## Names among shapes -/

/-- Two different shapes of a list have the short name `n`. -/
def Shared (l : List Shape) (n : String) : Prop :=
  ∃ s ∈ l, ∃ s' ∈ l, s ≠ s' ∧ s.name = n ∧ s'.name = n

/-- `s` is the one shape of a list with the short name `n`. -/
def Owns (l : List Shape) (s : Shape) (n : String) : Prop :=
  s ∈ l ∧ s.name = n ∧ ∀ s' ∈ l, s'.name = n → s' = s

theorem Owns.not_shared {l : List Shape} {s : Shape} {n : String} (h : Owns l s n) :
    ¬ Shared l n := by
  rintro ⟨a, ha, b, hb, hab, hna, hnb⟩
  exact hab ((h.2.2 a ha hna).trans (h.2.2 b hb hnb).symm)

/-- A name that no two shapes share is owned by each shape that has it. -/
theorem owns_of_not_shared {l : List Shape} {n : String} (h : ¬ Shared l n) {s : Shape}
    (hs : s ∈ l) (hn : s.name = n) : Owns l s n :=
  ⟨hs, hn, fun s' hs' hn' => by
    by_contra hne
    exact h ⟨s', hs', s, hs, hne, hn', hn⟩⟩

section Append

variable {l : List Shape} {s t : Shape} {n : String}

/-- A shape added under another name leaves who owns and who shares `n`. -/
theorem owns_append_of_ne (hn : s.name ≠ n) : Owns (l ++ [s]) t n ↔ Owns l t n := by
  simp only [Owns, List.mem_append, List.mem_singleton]
  constructor
  · rintro ⟨ht | rfl, htn, hall⟩
    · exact ⟨ht, htn, fun s' hs' => hall s' (.inl hs')⟩
    · exact absurd htn hn
  · rintro ⟨ht, htn, hall⟩
    refine ⟨.inl ht, htn, fun s' hs' hn' => ?_⟩
    rcases hs' with hs' | rfl
    · exact hall s' hs' hn'
    · exact absurd hn' hn

theorem shared_append_of_ne (hn : s.name ≠ n) : Shared (l ++ [s]) n ↔ Shared l n := by
  simp only [Shared, List.mem_append, List.mem_singleton]
  constructor
  · rintro ⟨a, ha | rfl, b, hb | rfl, hab, han, hbn⟩
    · exact ⟨a, ha, b, hb, hab, han, hbn⟩
    all_goals contradiction
  · rintro ⟨a, ha, b, hb, hab, han, hbn⟩
    exact ⟨a, .inl ha, b, .inl hb, hab, han, hbn⟩

/-- A name shared already stays shared and owned by none. -/
theorem Shared.append (h : Shared l n) (s : Shape) : Shared (l ++ [s]) n := by
  obtain ⟨a, ha, b, hb, hab, han, hbn⟩ := h
  exact ⟨a, List.mem_append_left _ ha, b, List.mem_append_left _ hb, hab, han, hbn⟩

/-- A new shape with the name of a shape that owned it makes the name shared. -/
theorem Owns.shared_append (h : Owns l t n) (hnew : s ∉ l) (hn : s.name = n) :
    Shared (l ++ [s]) n :=
  ⟨t, List.mem_append_left _ h.1, s, List.mem_append_right _ (List.mem_singleton_self _),
    fun hts => hnew (hts ▸ h.1), h.2.1, hn⟩

/-- A new shape with a name no shape had owns it. -/
theorem owns_append_of_free (hfree : ∀ t ∈ l, t.name ≠ n) (hn : s.name = n) :
    Owns (l ++ [s]) t n ↔ t = s := by
  constructor
  · rintro ⟨ht, htn, -⟩
    rcases List.mem_append.mp ht with ht | ht
    · exact absurd htn (hfree t ht)
    · exact List.mem_singleton.mp ht
  · rintro rfl
    refine ⟨List.mem_append_right _ (List.mem_singleton_self _), hn, fun s' hs' hn' => ?_⟩
    rcases List.mem_append.mp hs' with hs' | hs'
    · exact absurd hn' (hfree s' hs')
    · exact List.mem_singleton.mp hs'

theorem not_shared_append_of_free (hfree : ∀ t ∈ l, t.name ≠ n) : ¬ Shared (l ++ [s]) n := by
  rintro ⟨a, ha, b, hb, hab, han, hbn⟩
  rcases List.mem_append.mp ha with ha | ha
  · exact hfree a ha han
  rcases List.mem_append.mp hb with hb | hb
  · exact hfree b hb hbn
  exact hab ((List.mem_singleton.mp ha).trans (List.mem_singleton.mp hb).symm)

end Append

/-! ## The indices agree with the entries -/

/-- The indices of a registry agree with its entries, each shape stored once: the path index
gives each registered shape under its full path, the name index gives the shape that owns a
short name, and the shared names are those of two registered shapes. -/
structure Indexes (reg : Registry) : Prop where
  distinct : reg.Distinct
  paths : ∀ p s, reg.paths.find? p = some s ↔ s ∈ reg.shapes ∧ s.path = p
  names : ∀ n s, reg.names.find? n = some s ↔ Owns reg.shapes s n
  ambiguous : ∀ n, n ∈ reg.ambiguous ↔ Shared reg.shapes n

theorem indexes_empty : empty.Indexes where
  distinct := List.nodup_nil
  paths _ _ := by simp [empty, shapes]
  names _ _ := by simp [empty, shapes, Owns]
  ambiguous _ := by simp [empty, shapes, Shared]

section Step

variable {reg : Registry} (h : reg.Indexes) {s : Shape}
include h

/-- A registered shape is not stored again, so the path index of a new shape points to it
alone. -/
theorem paths_insertMeta (hnew : s ∉ reg.shapes) (p : String) (t : Shape) :
    (reg.paths.insert s.path s).find? p = some t ↔ t ∈ reg.shapes ++ [s] ∧ t.path = p := by
  rw [TextIndex.find?_insert]
  by_cases hp : p = s.path
  · -- the new shape is the only one with its path
    subst hp
    simp only [if_true, Option.some.injEq, List.mem_append, List.mem_singleton]
    constructor
    · rintro rfl
      exact ⟨.inr rfl, rfl⟩
    · rintro ⟨-, ht⟩
      exact (Shape.path_injective ht).symm
  · rw [if_neg hp, h.paths, List.mem_append, List.mem_singleton]
    constructor
    · rintro ⟨ht, htp⟩
      exact ⟨.inl ht, htp⟩
    · rintro ⟨ht | rfl, htp⟩
      · exact ⟨ht, htp⟩
      · exact absurd htp.symm hp

/-- A name already shared: the name index and the shared names stay as they are. -/
theorem names_insertMeta_of_shared (hs : reg.ambiguous.contains s.name = true) :
    (∀ n t, reg.names.find? n = some t ↔ Owns (reg.shapes ++ [s]) t n) ∧
      ∀ n, n ∈ reg.ambiguous ↔ Shared (reg.shapes ++ [s]) n := by
  have hshared : Shared reg.shapes s.name := (h.ambiguous _).mp (List.contains_iff_mem.mp hs)
  refine ⟨fun n t => ?_, fun n => ?_⟩
  · by_cases hn : s.name = n
    · -- nobody owns a shared name, before or after
      subst hn
      refine iff_of_false (fun ht => ((h.names _ t).mp ht).not_shared hshared) fun ht => ?_
      exact ht.not_shared (hshared.append s)
    · rw [h.names, owns_append_of_ne hn]
  · by_cases hn : s.name = n
    · subst hn
      exact iff_of_true (List.contains_iff_mem.mp hs) (hshared.append s)
    · rw [h.ambiguous, shared_append_of_ne hn]

/-- A name owned by a registered shape: it leaves the name index and is shared from now on. -/
theorem names_insertMeta_of_taken (hnew : s ∉ reg.shapes)
    (ht : reg.names.contains s.name = true) :
    (∀ n t, (reg.names.erase s.name).find? n = some t ↔ Owns (reg.shapes ++ [s]) t n) ∧
      ∀ n, n ∈ s.name :: reg.ambiguous ↔ Shared (reg.shapes ++ [s]) n := by
  obtain ⟨t₀, ht₀⟩ := (TextIndex.contains_iff _ _).mp ht
  have hshared : Shared (reg.shapes ++ [s]) s.name := ((h.names _ _).mp ht₀).shared_append hnew rfl
  refine ⟨fun n t => ?_, fun n => ?_⟩
  · rw [TextIndex.find?_erase]
    by_cases hn : s.name = n
    · subst hn
      simp only [if_true]
      exact iff_of_false (by simp) fun ht => ht.not_shared hshared
    · rw [if_neg (Ne.symm hn), h.names, owns_append_of_ne hn]
  · by_cases hn : s.name = n
    · subst hn
      exact iff_of_true List.mem_cons_self hshared
    · rw [List.mem_cons, h.ambiguous, shared_append_of_ne hn]
      exact ⟨fun h' => h'.resolve_left (Ne.symm hn), .inr⟩

/-- A name no registered shape has: the new shape owns it. -/
theorem names_insertMeta_of_free (hs : reg.ambiguous.contains s.name = false)
    (ht : reg.names.contains s.name = false) :
    (∀ n t, (reg.names.insert s.name s).find? n = some t ↔ Owns (reg.shapes ++ [s]) t n) ∧
      ∀ n, n ∈ reg.ambiguous ↔ Shared (reg.shapes ++ [s]) n := by
  -- a registered shape with the name would own it or share it
  have hfree : ∀ t ∈ reg.shapes, t.name ≠ s.name := by
    intro t hmem htn
    by_cases hsh : Shared reg.shapes s.name
    · rw [← h.ambiguous, ← List.contains_iff_mem] at hsh
      rw [hs] at hsh
      cases hsh
    · have howns := (h.names _ _).mpr (owns_of_not_shared hsh hmem htn)
      rw [TextIndex.contains, howns] at ht
      cases ht
  refine ⟨fun n t => ?_, fun n => ?_⟩
  · rw [TextIndex.find?_insert]
    by_cases hn : s.name = n
    · subst hn
      rw [if_pos rfl, owns_append_of_free hfree rfl, Option.some.injEq, eq_comm]
    · rw [if_neg (Ne.symm hn), h.names, owns_append_of_ne hn]
  · by_cases hn : s.name = n
    · subst hn
      refine iff_of_false (fun hmem => ?_) (not_shared_append_of_free hfree)
      rw [← List.contains_iff_mem, hs] at hmem
      cases hmem
    · rw [h.ambiguous, shared_append_of_ne hn]

/-- **Storing a new shape keeps the indices in agreement with the entries.** -/
theorem indexes_insertMeta (hnew : s ∉ reg.shapes) (c : Option Converter) :
    (reg.insertMeta ⟨s, c⟩).Indexes := by
  have hdistinct : (reg.shapes ++ [s]).Nodup :=
    List.nodup_append.mpr ⟨h.distinct, List.nodup_singleton s,
      fun a ha b hb hab => hnew (by rw [List.mem_singleton.mp hb] at hab; exact hab ▸ ha)⟩
  unfold insertMeta
  -- the three ways a short name can be met
  by_cases hs : reg.ambiguous.contains s.name
  · obtain ⟨hnames, hamb⟩ := names_insertMeta_of_shared h hs
    simp only [hs, if_true]
    exact ⟨by simpa [Distinct, shapes] using hdistinct,
      by simpa [shapes] using paths_insertMeta h hnew, by simpa [shapes] using hnames,
      by simpa [shapes] using hamb⟩
  · simp only [Bool.not_eq_true] at hs
    by_cases ht : reg.names.contains s.name
    · obtain ⟨hnames, hamb⟩ := names_insertMeta_of_taken h hnew ht
      simp only [hs, ht, if_true, Bool.false_eq_true, if_false]
      exact ⟨by simpa [Distinct, shapes] using hdistinct,
        by simpa [shapes] using paths_insertMeta h hnew, by simpa [shapes] using hnames,
        by simpa [shapes] using hamb⟩
    · simp only [Bool.not_eq_true] at ht
      obtain ⟨hnames, hamb⟩ := names_insertMeta_of_free h hs ht
      simp only [hs, ht, Bool.false_eq_true, if_false]
      exact ⟨by simpa [Distinct, shapes] using hdistinct,
        by simpa [shapes] using paths_insertMeta h hnew, by simpa [shapes] using hnames,
        by simpa [shapes] using hamb⟩

end Step

/-! ## Every registry a program builds keeps them -/

section Built

variable [Catalogue]

/-- Registration stores only shapes that are not registered yet. -/
theorem indexes_enrol (fuel : Nat) :
    ∀ (s : Shape) (reg : Registry) (st : Array Note), reg.Indexes →
      ((enrol fuel s reg).run st).1.Indexes := by
  induction fuel with
  | zero => exact fun _ _ _ h => h
  | succ fuel ih =>
    intro s reg st h
    unfold enrol
    split
    · exact h
    · rename_i hnew
      rw [run_bind_eq]
      exact foldlM_invariant Indexes (fun r d st hr => ih d r st hr) _ _ _
        (indexes_insertMeta h (fun hs => hnew (contains_iff.mpr hs)) _)

theorem indexes_register {reg : Registry} (h : reg.Indexes) (s : Shape) (st : Array Note) :
    ((reg.register s).run st).1.Indexes :=
  indexes_enrol _ s reg st h

/-- Installing a converter keeps the shapes as registration left them. -/
theorem shapes_install (reg : Registry) (s : Shape) (c : Converter) :
    (reg.install s c).val.shapes = (reg.register s).val.shapes := by
  unfold install shapes
  rw [val, run_bind_eq]
  show List.map Entry.shape (List.map _ _) = _
  rw [List.map_map]
  refine List.map_congr_left fun e _ => ?_
  simp only [Function.comp_apply]
  split <;> rfl

/-- Installing a converter keeps the indices as registration left them. -/
theorem indexes_install {reg : Registry} (h : reg.Indexes) (s : Shape) (c : Converter) :
    (reg.install s c).val.Indexes := by
  obtain ⟨hdistinct, hpaths, hnames, hambiguous⟩ := indexes_register h s #[]
  have hshapes := shapes_install reg s c
  refine ⟨?_, fun p t => ?_, fun n t => ?_, fun n => ?_⟩
  · rw [Distinct, hshapes]
    exact hdistinct
  · rw [hshapes]
    exact hpaths p t
  · rw [hshapes]
    exact hnames n t
  · rw [hshapes]
    exact hambiguous n

theorem indexes_registerCatalogue {reg : Registry} (h : reg.Indexes) :
    reg.registerCatalogue.val.Indexes := by
  unfold registerCatalogue
  have key := foldlM_invariant Indexes (fun _ rec st hr => indexes_register hr (.record rec) st)
    Record.catalogue reg #[] h
  simp only [val, run_bind_eq, StateT.run_pure]
  -- the note after the registrations leaves the registry as they left it
  generalize (List.foldlM (fun (r : Registry) (rec : Record) => r.register (Shape.record rec))
    reg Record.catalogue).run #[] = res at key ⊢
  exact key

theorem indexes_standard : standard.val.Indexes :=
  foldlM_invariant Indexes (fun _ _ st hr => indexes_register hr _ st) _ _ _ indexes_empty

/-- **Every registry a program builds keeps its indices in agreement with its entries.** -/
theorem Built.indexes {reg : Registry} (h : reg.Built) : reg.Indexes := by
  induction h with
  | empty => exact indexes_empty
  | standard => exact indexes_standard
  | register s _ ih => exact indexes_register ih s #[]
  | install _ _ ih => exact indexes_install ih _ _
  | catalogue _ ih => exact indexes_registerCatalogue ih

end Built

/-! ## Lookups -/

/-- The lookups of a registry, as the set of its shapes determines them: the shape of a
path, the shape of a name no other shape has, whether a name is shared, and the count. -/
structure Indexed (reg : Registry) : Prop where
  byPath_eq_some : ∀ p s, reg.byPath p = some s ↔ reg.contains s ∧ s.path = p
  byName_eq_some : ∀ n s, reg.byName n = some s ↔
    reg.contains s ∧ s.name = n ∧ ∀ s', reg.contains s' → s'.name = n → s' = s
  isAmbiguous_iff : ∀ n, reg.isAmbiguous n = true ↔
    ∃ s s', reg.contains s ∧ reg.contains s' ∧ s ≠ s' ∧ s.name = n ∧ s'.name = n
  size_eq : reg.size = reg.shapes.toFinset.card

/-- The entry found for a registered shape is the entry of that shape. -/
theorem find?_map_shape {reg : Registry} {s : Shape} (hs : s ∈ reg.shapes) :
    (reg.find? s).map (·.shape) = some s := by
  obtain ⟨e, he, rfl⟩ := List.mem_map.mp hs
  have hsome : (reg.entries.find? (·.shape == e.shape)).isSome :=
    List.find?_isSome.mpr ⟨e, he, beq_self_eq_true _⟩
  obtain ⟨e', he'⟩ := Option.isSome_iff_exists.mp hsome
  rw [find?, he']
  simpa using List.find?_some he'

/-- With agreeing indices, a lookup by path gives the shape the path index holds. -/
theorem Indexes.byPath_eq {reg : Registry} (h : reg.Indexes) (p : String) :
    reg.byPath p = reg.paths.find? p := by
  cases hp : reg.paths.find? p with
  | none => simp [byPath, hp]
  | some s => simp [byPath, hp, find?_map_shape ((h.paths p s).mp hp).1]

/-- With agreeing indices, a lookup by name gives the shape the name index holds. -/
theorem Indexes.byName_eq {reg : Registry} (h : reg.Indexes) (n : String) :
    reg.byName n = reg.names.find? n := by
  cases hn : reg.names.find? n with
  | none => simp [byName, hn]
  | some s => simp [byName, hn, find?_map_shape ((h.names n s).mp hn).1]

/-- **A registry whose indices agree with its entries answers by its shapes.** -/
theorem Indexes.indexed {reg : Registry} (h : reg.Indexes) : reg.Indexed where
  byPath_eq_some p s := by rw [h.byPath_eq, h.paths, contains_iff]
  byName_eq_some n s := by
    rw [h.byName_eq, h.names, Owns]
    simp only [contains_iff]
  isAmbiguous_iff n := by
    rw [isAmbiguous, List.contains_iff_mem, h.ambiguous]
    simp only [Shared, contains_iff]
    constructor
    · rintro ⟨s, hs, s', hs', hne, hn, hn'⟩
      exact ⟨s, s', hs, hs', hne, hn, hn'⟩
    · rintro ⟨s, s', hs, hs', hne, hn, hn'⟩
      exact ⟨s, hs, s', hs', hne, hn, hn'⟩
  size_eq := by
    rw [List.toFinset_card_of_nodup h.distinct, size, shapes, List.length_map]

/-- Indexed registries with the same shapes answer every lookup alike. -/
theorem Indexed.lookups_eq {reg reg' : Registry} (h : reg.Indexed) (h' : reg'.Indexed)
    (hs : ∀ s, reg'.contains s = reg.contains s) :
    reg'.byPath = reg.byPath ∧ reg'.byName = reg.byName ∧ reg'.isAmbiguous = reg.isAmbiguous ∧
      reg'.size = reg.size := by
  refine ⟨funext fun p => Option.ext fun s => ?_, funext fun n => Option.ext fun s => ?_,
    funext fun n => Bool.eq_iff_iff.mpr ?_, ?_⟩
  · rw [h'.byPath_eq_some, h.byPath_eq_some, hs]
  · simp only [h'.byName_eq_some, h.byName_eq_some, hs]
  · simp only [h'.isAmbiguous_iff, h.isAmbiguous_iff, hs]
  · have hshapes : reg'.shapes.toFinset = reg.shapes.toFinset := by
      ext s
      simp only [List.mem_toFinset, ← contains_iff, hs]
    rw [h'.size_eq, h.size_eq, hshapes]

section Built

variable [Catalogue]

/-- **The lookups of a registry a program builds are those of its shapes.**  Whatever
sequence of registrations, converter installs and registrations of the catalogue built it,
from the empty or the standard registry: the shape found for a path is the registered shape
with that path, and no two shapes share a path; the shape found for a short name is the
registered shape with that name when it is the only one; a name is ambiguous when two
registered shapes have it; the size is the number of registered shapes.  Two such
registries with the same shapes answer every lookup alike. -/
theorem lookups_of_built {reg : Registry} (h : reg.Built) :
    Function.Injective Shape.path ∧ reg.Indexed ∧
      ∀ reg' : Registry, reg'.Built → (∀ s, reg'.contains s = reg.contains s) →
        reg'.byPath = reg.byPath ∧ reg'.byName = reg.byName ∧
          reg'.isAmbiguous = reg.isAmbiguous ∧ reg'.size = reg.size :=
  ⟨Shape.path_injective, h.indexes.indexed,
    fun _ h' hs => h.indexes.indexed.lookups_eq h'.indexes.indexed hs⟩

end Built

/-- The standard registry of the sample program answers lookups by its shapes. -/
theorem lookups_of_built_standard :
    standard.val.Built ∧ Function.Injective Shape.path ∧ standard.val.Indexed ∧
      ∀ reg' : Registry, reg'.Built → (∀ s, reg'.contains s = standard.val.contains s) →
        reg'.byPath = standard.val.byPath ∧ reg'.byName = standard.val.byName ∧
          reg'.isAmbiguous = standard.val.isAmbiguous ∧ reg'.size = standard.val.size :=
  ⟨.standard, lookups_of_built .standard⟩

end Registry

end ValuePaths
