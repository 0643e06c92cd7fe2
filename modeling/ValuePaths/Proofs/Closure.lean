import ValuePaths.Proofs.Registration
import ValuePaths.Sample.Records

/-!
# Registration closes a registry under dependencies

Registering a shape registers it and then, one after the other, its dependencies: the fields
of a record, the element of a list, set, array or option, the key and the value of a map.  A
shape already registered is passed over together with everything below it.  Records may refer
to themselves (`Config` holds a list of `Config`), so the dependencies form a graph with
cycles.  The walk ends all the same, because it registers a shape before it visits the
shape's dependencies: along each chain of nested calls every shape is new, and each is one
of the shapes that registration of the first can meet.  The fuel of `Registry.enrol` counts
those shapes, so it never runs out, and more fuel gives the same run.

In a closed registry, where the dependencies of every registered shape are registered,
registration adds after the entries already there exactly the missing shapes that the
registered one reaches, and the result is closed again; every registry a program builds is
closed.  An entry once made keeps its converter until a converter is installed for its shape,
which changes that converter and nothing else.

## Main definitions

* `Shape.Reaches` — a shape and everything its dependencies lead to.
* `Registry.Closed` — every dependency of a registered shape is registered.
* `Registry.Grows` — a registry keeps another's entries and registers the dependencies of
  every shape it adds.
* `Registry.Spares` — the registries that later operations make without installing a
  converter for a given shape.

## Main statements

* `Registry.enrol_grows` — with fuel for the missing shapes, registration grows the registry.
* `Registry.enrol_fuel` — with fuel for the missing shapes, more fuel changes nothing.
* `Registry.Built.closed` — every registry a program builds is closed.
* `Registry.register_closes` — registration in the registries a program builds.
-/

namespace ValuePaths

section

variable [Catalogue]

open Logged

namespace Shape

/-- `s.Reaches t`: `t` is `s`, or is reached from a dependency of `s`. -/
def Reaches (s t : Shape) : Prop := Relation.ReflTransGen (fun a b => b ∈ a.dependencies) s t

omit [Catalogue] in
theorem mem_parts_self (s : Shape) : s ∈ s.parts := by
  cases s <;> simp [parts]

/-- A dependency of a part of a shape is a part of it too, unless it belongs to a record. -/
theorem parts_closed {s t d : Shape} (ht : t ∈ s.parts) (hd : d ∈ t.dependencies) :
    d ∈ s.parts ∨ ∃ r, t = .record r := by
  induction s with
  | record r =>
    simp only [parts, List.mem_singleton] at ht
    exact .inr ⟨r, ht⟩
  | list l u ih | array u n ih | option u ih | set l u ih =>
    simp only [parts, List.mem_cons] at ht ⊢
    rcases ht with rfl | ht
    · simp only [dependencies, List.mem_singleton] at hd
      subst hd
      exact .inl (.inr (mem_parts_self d))
    · exact (ih ht).imp_left .inr
  | map l k v ihk ihv =>
    simp only [parts, List.mem_cons, List.mem_append] at ht ⊢
    rcases ht with rfl | ht | ht
    · simp only [dependencies, List.mem_cons, List.not_mem_nil, or_false] at hd
      rcases hd with rfl | rfl
      · exact .inl (.inr (.inl (mem_parts_self d)))
      · exact .inl (.inr (.inr (mem_parts_self d)))
    · exact (ihk ht).imp_left fun h => .inr (.inl h)
    · exact (ihv ht).imp_left fun h => .inr (.inr h)
  | scalar | untypedList | properties =>
    simp only [parts, List.mem_singleton] at ht
    subst ht
    simp [dependencies] at hd

end Shape

/-- A record with a field is a record type of the program. -/
theorem Record.mem_catalogue_of_field {r : Record} {f : Field} (hf : f ∈ r.fields) :
    r ∈ Record.catalogue := by
  by_contra hr
  -- a record outside the program has no fields
  rw [Record.fields, Catalogue.fields_eq_nil r hr] at hf
  exact List.not_mem_nil hf

namespace Registry

/-- Every dependency of a registered shape is registered. -/
def Closed (reg : Registry) : Prop := ∀ s ∈ reg.shapes, ∀ d ∈ s.dependencies, d ∈ reg.shapes

/-- A closed registry holds everything its shapes reach. -/
theorem Closed.mem_of_reaches {reg : Registry} (h : reg.Closed) {s t : Shape}
    (hs : s ∈ reg.shapes) (hst : s.Reaches t) : t ∈ reg.shapes := by
  induction hst with
  | refl => exact hs
  | tail _ hd ih => exact h _ ih _ hd

/-! ## The shapes a registration can meet -/

/-- The shapes that registering `s` can meet: its parts, every record, and the parts of the
fields of every record.  `reachBound s` is one more than their count. -/
def scope (s : Shape) : List Shape :=
  s.parts ++ Record.catalogue.flatMap fun r => .record r :: r.fields.flatMap (·.shape.parts)

theorem reachBound_eq (s : Shape) : reachBound s = (scope s).length + 1 := by
  simp [reachBound, scope]

theorem mem_scope_self (s : Shape) : s ∈ scope s :=
  List.mem_append_left _ (Shape.mem_parts_self s)

theorem mem_scope_of_field (s : Shape) {r : Record} {f : Field} (hf : f ∈ r.fields) {t : Shape}
    (ht : t ∈ f.shape.parts) : t ∈ scope s := by
  refine List.mem_append_right _ (List.mem_flatMap.mpr ⟨r, Record.mem_catalogue_of_field hf, ?_⟩)
  exact List.mem_cons_of_mem _ (List.mem_flatMap.mpr ⟨f, hf, ht⟩)

/-- The dependencies of a record, its field shapes, are in every scope. -/
theorem mem_scope_of_record (s : Shape) {r : Record} {d : Shape}
    (hd : d ∈ (Shape.record r).dependencies) : d ∈ scope s := by
  obtain ⟨f, hf, rfl⟩ := List.mem_map.mp hd
  exact mem_scope_of_field s hf (Shape.mem_parts_self _)

/-- The scope of a shape holds the dependencies of its members. -/
theorem scope_closed (s : Shape) : ∀ t ∈ scope s, ∀ d ∈ t.dependencies, d ∈ scope s := by
  intro t ht d hd
  -- below a part the dependencies are parts of the same shape, or the fields of a record
  have hparts {x : Shape} (hx : ∀ y ∈ x.parts, y ∈ scope s) (htx : t ∈ x.parts) :
      d ∈ scope s := by
    rcases Shape.parts_closed htx hd with h | ⟨r, rfl⟩
    · exact hx d h
    · exact mem_scope_of_record s hd
  rcases List.mem_append.mp ht with ht | ht
  · exact hparts (fun y hy => List.mem_append_left _ hy) ht
  · obtain ⟨r, -, ht⟩ := List.mem_flatMap.mp ht
    rcases List.mem_cons.mp ht with rfl | ht
    · exact mem_scope_of_record s hd
    · obtain ⟨f, hf, ht⟩ := List.mem_flatMap.mp ht
      exact hparts (fun y hy => mem_scope_of_field s hf hy) ht

/-- The shapes of a list that a registry lacks. -/
def missing (U : List Shape) (reg : Registry) : Finset Shape :=
  U.toFinset.filter (· ∉ reg.shapes)

omit [Catalogue] in
/-- Registering a missing shape of the list, and keeping what was there, leaves fewer
missing. -/
theorem card_missing_lt {U : List Shape} {reg r : Registry} {s : Shape} (hs : s ∈ U)
    (hnew : s ∉ reg.shapes) (hsub : reg.shapes ⊆ r.shapes) (hmem : s ∈ r.shapes) :
    (missing U r).card < (missing U reg).card := by
  have hle : missing U r ⊆ missing U reg := by
    intro t ht
    simp only [missing, Finset.mem_filter, List.mem_toFinset] at ht ⊢
    exact ⟨ht.1, fun h => ht.2 (hsub h)⟩
  refine Finset.card_lt_card ((Finset.ssubset_iff_of_subset hle).mpr ⟨s, ?_, ?_⟩)
  · simp [missing, hs, hnew]
  · simp [missing, hmem]

/-- The fuel of a registration exceeds what its scope can miss. -/
theorem card_missing_scope (s : Shape) (reg : Registry) :
    (missing (scope s) reg).card < reachBound s := by
  rw [reachBound_eq]
  calc (missing (scope s) reg).card ≤ (scope s).toFinset.card := Finset.card_filter_le _ _
    _ ≤ (scope s).length := List.toFinset_card_le _
    _ < (scope s).length + 1 := Nat.lt_succ_self _

/-! ## What one registration does -/

/-- `reg.Grows reg'`: `reg'` keeps the entries of `reg` in front, unchanged, and every shape it
adds has its dependencies registered. -/
structure Grows (reg reg' : Registry) : Prop where
  keeps : reg.entries <+: reg'.entries
  closes : ∀ t ∈ reg'.shapes, t ∉ reg.shapes → ∀ d ∈ t.dependencies, d ∈ reg'.shapes

theorem Grows.refl (reg : Registry) : reg.Grows reg :=
  ⟨⟨[], List.append_nil _⟩, fun _ ht hnew => absurd ht hnew⟩

omit [Catalogue] in
theorem shapes_subset_of_keeps {reg reg' : Registry} (h : reg.entries <+: reg'.entries) :
    reg.shapes ⊆ reg'.shapes :=
  (h.map Entry.shape).subset

theorem Grows.shapes_subset {reg reg' : Registry} (h : reg.Grows reg') :
    reg.shapes ⊆ reg'.shapes :=
  shapes_subset_of_keeps h.keeps

theorem Grows.trans {a b c : Registry} (hab : a.Grows b) (hbc : b.Grows c) : a.Grows c where
  keeps := hab.keeps.trans hbc.keeps
  closes t ht hta d hd := by
    by_cases htb : t ∈ b.shapes
    · exact hbc.shapes_subset (hab.closes t htb hta d hd)
    · exact hbc.closes t ht htb d hd

theorem Grows.closed {reg reg' : Registry} (h : reg.Grows reg') (hc : reg.Closed) :
    reg'.Closed := by
  intro t ht d hd
  by_cases htr : t ∈ reg.shapes
  · exact h.shapes_subset (hc t htr d hd)
  · exact h.closes t ht htr d hd

omit [Catalogue] in
/-- A property kept by every step of a fold, on the items folded over, holds of its result. -/
theorem foldlM_invariant_mem {α β : Type} {f : β → α → Logged β} (P : β → Prop) (xs : List α)
    (hf : ∀ b, ∀ a ∈ xs, ∀ s, P b → P ((f b a).run s).1) :
    ∀ (b : β) (s : Array Note), P b → P ((xs.foldlM f b).run s).1 := by
  induction xs with
  | nil => exact fun _ _ hb => hb
  | cons x xs ih =>
    intro b s hb
    rw [List.foldlM_cons, run_bind_eq]
    exact ih (fun b a ha s hb => hf b a (List.mem_cons_of_mem _ ha) s hb) _ _
      (hf b x List.mem_cons_self s hb)

/-- Registration keeps the entries it starts from, whatever its fuel. -/
theorem keeps_enrol (fuel : Nat) : ∀ (s : Shape) (reg : Registry) (st : Array Note),
    reg.entries <+: ((enrol fuel s reg).run st).1.entries := by
  induction fuel with
  | zero => exact fun _ _ _ => ⟨[], List.append_nil _⟩
  | succ fuel ih =>
    intro s reg st
    unfold enrol
    split
    · exact ⟨[], List.append_nil _⟩
    · rw [run_bind_eq]
      refine foldlM_invariant (fun r => reg.entries <+: r.entries)
        (fun r d st hr => hr.trans (ih d r st)) _ _ _ ⟨_, (entries_insertMeta _ _).symm⟩

/-- Every shape that registration adds is reached from the shape registered, whatever the
fuel. -/
theorem reaches_enrol (fuel : Nat) : ∀ (s : Shape) (reg : Registry) (st : Array Note),
    ∀ t ∈ ((enrol fuel s reg).run st).1.shapes, t ∉ reg.shapes → s.Reaches t := by
  induction fuel with
  | zero => exact fun _ _ _ t ht hnew => absurd ht hnew
  | succ fuel ih =>
    intro s reg st
    unfold enrol
    split
    · exact fun t ht hnew => absurd ht hnew
    · rw [run_bind_eq]
      refine foldlM_invariant_mem
        (fun (r : Registry) => ∀ t ∈ r.shapes, t ∉ reg.shapes → s.Reaches t)
        s.dependencies ?_ _ _ ?_
      · -- a dependency registers only what it reaches
        intro r d hd st' hr t ht hnew
        by_cases htr : t ∈ r.shapes
        · exact hr t htr hnew
        · exact Relation.ReflTransGen.head hd (ih d r st' t ht htr)
      · intro t ht hnew
        simp only [shapes_insertMeta, List.mem_append, List.mem_singleton] at ht
        rcases ht with ht | rfl
        · exact absurd ht hnew
        · exact Relation.ReflTransGen.refl

section Fuel

variable {U : List Shape} (hU : ∀ t ∈ U, ∀ d ∈ t.dependencies, d ∈ U)
include hU

/-- Registering a new shape `s`, and then each of its dependencies with fuel for what is still
missing, grows the registry and registers `s`. -/
theorem grows_new {fuel : Nat}
    (ih : ∀ (s : Shape) (reg : Registry) (st : Array Note), s ∈ U → (missing U reg).card < fuel →
      reg.Grows ((enrol fuel s reg).run st).1 ∧ s ∈ ((enrol fuel s reg).run st).1.shapes)
    {s : Shape} {reg : Registry} (hs : s ∈ U) (hnew : s ∉ reg.shapes)
    (hfuel : (missing U reg).card < fuel + 1) (conv : Option Converter) (st : Array Note) :
    reg.Grows ((s.dependencies.foldlM (fun r d => enrol fuel d r)
        (reg.insertMeta ⟨s, conv⟩)).run st).1 ∧
      s ∈ ((s.dependencies.foldlM (fun r d => enrol fuel d r)
        (reg.insertMeta ⟨s, conv⟩)).run st).1.shapes := by
  set reg₁ : Registry := reg.insertMeta ⟨s, conv⟩ with hreg₁
  have hshapes₁ : reg₁.shapes = reg.shapes ++ [s] := by simp [hreg₁, shapes]
  have hs₁ : s ∈ reg₁.shapes := by simp [hshapes₁]
  have hsub₁ : reg.shapes ⊆ reg₁.shapes := by simp [hshapes₁]
  -- every registry the fold passes holds `s`, so each dependency finds fuel enough
  have hbound (r : Registry) (hr : reg₁.Grows r) : (missing U r).card < fuel :=
    Nat.lt_of_lt_of_le (card_missing_lt hs hnew (fun _ h => hr.shapes_subset (hsub₁ h))
      (hr.shapes_subset hs₁)) (Nat.lt_succ_iff.mp hfuel)
  have hfold (ds : List Shape) (hds : ∀ d ∈ ds, d ∈ U) : ∀ (r : Registry) (st : Array Note),
      reg₁.Grows r → r.Grows ((ds.foldlM (fun r d => enrol fuel d r) r).run st).1 ∧
        ∀ d ∈ ds, d ∈ ((ds.foldlM (fun r d => enrol fuel d r) r).run st).1.shapes := by
    induction ds with
    | nil => exact fun r _ _ => ⟨.refl r, fun _ h => absurd h List.not_mem_nil⟩
    | cons d ds ihds =>
      intro r st hr
      rw [List.foldlM_cons, run_bind_eq]
      obtain ⟨hgrow, hd⟩ := ih d r st (hds d List.mem_cons_self) (hbound r hr)
      obtain ⟨hrest, hmem⟩ := ihds (fun d' h => hds d' (List.mem_cons_of_mem _ h)) _ _
        (hr.trans hgrow)
      refine ⟨hgrow.trans hrest, fun d' hd' => ?_⟩
      rcases List.mem_cons.mp hd' with rfl | hd'
      · exact hrest.shapes_subset hd
      · exact hmem d' hd'
  obtain ⟨hgrow, hdeps⟩ := hfold s.dependencies (hU s hs) reg₁ st (.refl reg₁)
  have hkeeps₁ : reg.entries <+: reg₁.entries := ⟨[⟨s, conv⟩], rfl⟩
  refine ⟨⟨hkeeps₁.trans hgrow.keeps, fun t ht hnew' d hd => ?_⟩, hgrow.shapes_subset hs₁⟩
  -- the new shape itself has its dependencies registered by the fold, the others by `Grows`
  by_cases ht₁ : t ∈ reg₁.shapes
  · rw [hshapes₁, List.mem_append, List.mem_singleton] at ht₁
    rcases ht₁ with ht₁ | rfl
    · exact absurd ht₁ hnew'
    · exact hdeps d hd
  · exact hgrow.closes t ht ht₁ d hd

/-- **With fuel for what it may miss, registration grows the registry and registers its
shape.** -/
theorem enrol_grows (fuel : Nat) : ∀ (s : Shape) (reg : Registry) (st : Array Note), s ∈ U →
    (missing U reg).card < fuel →
      reg.Grows ((enrol fuel s reg).run st).1 ∧ s ∈ ((enrol fuel s reg).run st).1.shapes := by
  induction fuel with
  | zero => exact fun _ _ _ _ h => absurd h (Nat.not_lt_zero _)
  | succ fuel ih =>
    intro s reg st hs hfuel
    unfold enrol
    split
    · exact ⟨.refl reg, contains_iff.mp ‹_›⟩
    · rename_i hnew
      rw [run_bind_eq]
      exact grows_new hU ih hs (fun h => hnew (contains_iff.mpr h)) hfuel _ _

/-- The dependencies of a new shape `s`, registered with two fuels each enough for what is
missing, give the same run. -/
theorem fuel_new {fuel fuel' : Nat}
    (ih : ∀ (s : Shape) (reg : Registry), s ∈ U → (missing U reg).card < fuel →
      (missing U reg).card < fuel' → enrol fuel' s reg = enrol fuel s reg)
    {s : Shape} {reg : Registry} (hs : s ∈ U) (hnew : s ∉ reg.shapes)
    (hfuel : (missing U reg).card < fuel + 1) (hfuel' : (missing U reg).card < fuel' + 1)
    (conv : Option Converter) :
    s.dependencies.foldlM (fun r d => enrol fuel' d r) (reg.insertMeta ⟨s, conv⟩) =
      s.dependencies.foldlM (fun r d => enrol fuel d r) (reg.insertMeta ⟨s, conv⟩) := by
  set reg₁ : Registry := reg.insertMeta ⟨s, conv⟩ with hreg₁
  have hshapes₁ : reg₁.shapes = reg.shapes ++ [s] := by simp [hreg₁, shapes]
  -- every registry the fold passes holds `s`, so what is missing is less than either fuel
  have hless (r : Registry) (hr : reg₁.entries <+: r.entries) :
      (missing U r).card < (missing U reg).card :=
    card_missing_lt hs hnew (fun _ h => shapes_subset_of_keeps hr (by simp [hshapes₁, h]))
      (shapes_subset_of_keeps hr (by simp [hshapes₁]))
  have hfold (ds : List Shape) (hds : ∀ d ∈ ds, d ∈ U) : ∀ r : Registry,
      reg₁.entries <+: r.entries →
        ds.foldlM (fun r d => enrol fuel' d r) r = ds.foldlM (fun r d => enrol fuel d r) r := by
    induction ds with
    | nil => exact fun _ _ => rfl
    | cons d ds ihds =>
      intro r hr
      rw [List.foldlM_cons, List.foldlM_cons, ih d r (hds d List.mem_cons_self)
        (by have := hless r hr; omega) (by have := hless r hr; omega)]
      refine StateT.ext fun st => ?_
      rw [run_bind_eq, run_bind_eq, ihds (fun d' h => hds d' (List.mem_cons_of_mem _ h)) _
        (hr.trans (keeps_enrol fuel d r st))]
  exact hfold s.dependencies (hU s hs) reg₁ ⟨[], List.append_nil _⟩

/-- **With fuel for what it may miss, registration does not depend on its fuel.** -/
theorem enrol_fuel (fuel : Nat) : ∀ (fuel' : Nat) (s : Shape) (reg : Registry), s ∈ U →
    (missing U reg).card < fuel → (missing U reg).card < fuel' →
      enrol fuel' s reg = enrol fuel s reg := by
  induction fuel with
  | zero => exact fun _ _ _ _ h => absurd h (Nat.not_lt_zero _)
  | succ fuel ih =>
    intro fuel' s reg hs hfuel hfuel'
    cases fuel' with
    | zero => exact absurd hfuel' (Nat.not_lt_zero _)
    | succ fuel' =>
      unfold enrol
      by_cases hc : reg.contains s
      · simp only [hc, if_true]
      · simp only [hc, Bool.false_eq_true, if_false]
        refine congrArg (_ >>= ·) (funext fun _ => ?_)
        exact fuel_new hU (fun s reg hs h h' => ih fuel' s reg hs h h') hs
          (fun h => hc (contains_iff.mpr h)) hfuel hfuel' _

end Fuel

/-! ## Registration in the registries a program builds -/

/-- **Registration never runs out of fuel**: any fuel of at least `reachBound s` gives the same
run as its own. -/
theorem enrol_eq_register {s : Shape} {fuel : Nat} (h : reachBound s ≤ fuel) (reg : Registry) :
    enrol fuel s reg = reg.register s :=
  enrol_fuel (scope_closed s) (reachBound s) fuel s reg (mem_scope_self s)
    (card_missing_scope s reg) (Nat.lt_of_lt_of_le (card_missing_scope s reg) h)

theorem register_grows (reg : Registry) (s : Shape) (st : Array Note) :
    reg.Grows ((reg.register s).run st).1 ∧ s ∈ ((reg.register s).run st).1.shapes :=
  enrol_grows (scope_closed s) _ s reg st (mem_scope_self s) (card_missing_scope s reg)

/-- Registering `s` in a closed registry registers, besides what was there, exactly what `s`
reaches. -/
theorem mem_register_iff {reg : Registry} (h : reg.Closed) (s t : Shape) (st : Array Note) :
    t ∈ ((reg.register s).run st).1.shapes ↔ t ∈ reg.shapes ∨ s.Reaches t := by
  obtain ⟨hgrow, hs⟩ := register_grows reg s st
  constructor
  · intro ht
    by_cases htr : t ∈ reg.shapes
    · exact .inl htr
    · exact .inr (reaches_enrol _ s reg st t ht htr)
  · rintro (ht | hst)
    · exact hgrow.shapes_subset ht
    · exact (hgrow.closed h).mem_of_reaches hs hst

theorem closed_register {reg : Registry} (h : reg.Closed) (s : Shape) (st : Array Note) :
    ((reg.register s).run st).1.Closed :=
  (register_grows reg s st).1.closed h

/-- A property of registries that every registration keeps holds after the catalogue is
registered. -/
theorem registerCatalogue_invariant (P : Registry → Prop)
    (hP : ∀ reg s st, P reg → P ((reg.register s).run st).1) {reg : Registry} (h : P reg) :
    P reg.registerCatalogue.val := by
  unfold registerCatalogue
  have key := foldlM_invariant P (fun r rec st hr => hP r (.record rec) st hr)
    Record.catalogue reg #[] h
  simp only [val, run_bind_eq, StateT.run_pure]
  generalize (List.foldlM (fun (r : Registry) (rec : Record) => r.register (Shape.record rec))
    reg Record.catalogue).run #[] = res at key ⊢
  exact key

theorem closed_empty : empty.Closed := fun _ h => absurd h List.not_mem_nil

theorem closed_install {reg : Registry} (h : reg.Closed) (s : Shape) (c : Converter) :
    (reg.install s c).val.Closed := by
  unfold Closed
  rw [shapes_install]
  exact closed_register h s #[]

/-- **Every registry a program builds is closed under dependencies.** -/
theorem Built.closed {reg : Registry} (h : reg.Built) : reg.Closed := by
  induction h with
  | empty => exact closed_empty
  | standard =>
    exact foldlM_invariant Closed (fun _ _ st hr => closed_register hr _ st) _ _ _ closed_empty
  | register s _ ih => exact closed_register ih s #[]
  | install _ _ ih => exact closed_install ih _ _
  | catalogue _ ih =>
    exact registerCatalogue_invariant Closed (fun _ s st hr => closed_register hr s st) ih

/-! ## Converters -/

omit [Catalogue] in
/-- A registry that keeps another's entries finds a shape where the other found it. -/
theorem find?_of_keeps {reg reg' : Registry} (h : reg.entries <+: reg'.entries) {s : Shape}
    {e : Entry} (he : reg.find? s = some e) : reg'.find? s = some e := by
  obtain ⟨rest, hrest⟩ := h
  simp only [find?] at he ⊢
  rw [← hrest, List.find?_append, he, Option.some_or]

omit [Catalogue] in
theorem find?_shape {reg : Registry} {s : Shape} {e : Entry} (h : reg.find? s = some e) :
    e.shape = s := by
  simpa using List.find?_some h

omit [Catalogue] in
theorem find?_of_mem {reg : Registry} {s : Shape} (h : s ∈ reg.shapes) :
    ∃ e, reg.find? s = some e := by
  obtain ⟨e, he, rfl⟩ := List.mem_map.mp h
  exact Option.isSome_iff_exists.mp (List.find?_isSome.mpr ⟨e, he, beq_self_eq_true _⟩)

/-- Registration passes over a registered shape. -/
theorem register_of_contains {reg : Registry} {s : Shape} (h : reg.contains s = true)
    (st : Array Note) : (reg.register s).run st = (reg, st) := by
  rw [register, reachBound_eq]
  simp only [enrol, h, if_true]
  rfl

/-- The entry of a shape after a converter is installed: the one registration left, with the
converter set when it is the entry of the installed shape. -/
theorem find?_install (reg : Registry) (s t : Shape) (c : Converter) :
    (reg.install t c).val.find? s = ((reg.register t).val.find? s).map
      fun e => if e.shape == t then { e with converter := some c } else e := by
  simp only [install, find?, val, run_bind_eq, StateT.run_pure]
  change List.find? _ (List.map _ ((reg.register t).run #[]).1.entries) = _
  rw [List.find?_map]
  congr 2
  funext e
  simp only [Function.comp_apply]
  split <;> rfl

/-- Installing a converter puts it into the entry of its shape. -/
theorem find?_install_self (reg : Registry) (s : Shape) (c : Converter) :
    (reg.install s c).val.find? s = some ⟨s, some c⟩ := by
  obtain ⟨e, he⟩ := find?_of_mem (register_grows reg s #[]).2
  have hs := find?_shape he
  rw [find?_install, show (reg.register s).val = ((reg.register s).run #[]).1 from rfl, he]
  cases e
  simp_all

/-- Installing a converter for another shape leaves the entry of a shape as it was. -/
theorem find?_install_of_ne {reg : Registry} {s t : Shape} {e : Entry} (c : Converter)
    (hts : t ≠ s) (he : reg.find? s = some e) : (reg.install t c).val.find? s = some e := by
  rw [find?_install, val, find?_of_keeps (register_grows reg t #[]).1.keeps he]
  have hne : e.shape ≠ t := by rw [find?_shape he]; exact Ne.symm hts
  simp [hne]

/-- Installing a converter for a registered shape changes the converter of its entry and
nothing else. -/
theorem install_of_contains {reg : Registry} {s : Shape} (h : reg.contains s = true)
    (c : Converter) : (reg.install s c).val =
      { reg with
        entries := reg.entries.map fun e =>
          if e.shape == s then { e with converter := some c } else e } := by
  simp only [install, val, run_bind_eq, register_of_contains h]
  rfl

/-- The registries that operations after `reg` make without installing a converter for `s`:
registrations, registrations of the catalogue, and installations for other shapes. -/
inductive Spares (s : Shape) (reg : Registry) : Registry → Prop
  | refl : Spares s reg reg
  | register {reg' : Registry} (t : Shape) : Spares s reg reg' → Spares s reg (reg'.register t).val
  | catalogue {reg' : Registry} : Spares s reg reg' → Spares s reg reg'.registerCatalogue.val
  | install {reg' : Registry} {t : Shape} (c : Converter) (hts : t ≠ s) :
      Spares s reg reg' → Spares s reg (reg'.install t c).val

/-- Operations that install no converter for `s` keep the entry of `s`. -/
theorem Spares.find? {s : Shape} {reg reg' : Registry} (h : Spares s reg reg') {e : Entry}
    (he : reg.find? s = some e) : reg'.find? s = some e := by
  induction h with
  | refl => exact he
  | register t _ ih => exact find?_of_keeps (register_grows _ t #[]).1.keeps ih
  | catalogue _ ih =>
    exact registerCatalogue_invariant (fun r => r.find? s = some e)
      (fun r t st hr => find?_of_keeps (register_grows r t st).1.keeps hr) ih
  | install c hts _ ih => exact find?_install_of_ne c hts ih

/-- **Registration is a terminating dependency closure that never overwrites.**  In every
registry a program builds, every dependency of a registered shape is registered.  Registering a
shape `s` there never runs out of fuel: any fuel of at least `reachBound s` gives the same run,
also when records refer back to themselves.  It keeps the entries already there, in front and
unchanged, and adds exactly the shapes that `s` reaches and the registry lacked.  A converter
installed for `s` is in the entry of `s` and stays there through every later registration,
registration of the catalogue and installation for another shape; installing one for a
registered shape changes the converter of its entry and no other entry. -/
theorem register_closes {reg : Registry} (hbuilt : reg.Built) (s : Shape) :
    reg.Closed ∧
      (∀ fuel, reachBound s ≤ fuel → enrol fuel s reg = reg.register s) ∧
      reg.entries <+: (reg.register s).val.entries ∧
      (∀ t, t ∈ (reg.register s).val.shapes ↔ t ∈ reg.shapes ∨ s.Reaches t) ∧
      (∀ c, (reg.install s c).val.find? s = some ⟨s, some c⟩ ∧
        ∀ reg', Spares s (reg.install s c).val reg' → reg'.find? s = some ⟨s, some c⟩) ∧
      (reg.contains s = true → ∀ c, (reg.install s c).val =
        { reg with
          entries := reg.entries.map fun e =>
            if e.shape == s then { e with converter := some c } else e }) := by
  have hclosed := hbuilt.closed
  refine ⟨hclosed, fun fuel h => enrol_eq_register h reg, (register_grows reg s #[]).1.keeps,
    fun t => mem_register_iff hclosed s t #[], fun c => ⟨find?_install_self reg s c, ?_⟩,
    fun h c => install_of_contains h c⟩
  exact fun reg' h => h.find? (find?_install_self reg s c)

end Registry

end

namespace Registry

/-- Registering `Config`, which holds a list of itself, in the empty registry. -/
theorem register_closes_config :
    empty.Built ∧ empty.Closed ∧
      (∀ fuel, reachBound (.record Sample.config) ≤ fuel →
        enrol fuel (.record Sample.config) empty = empty.register (.record Sample.config)) ∧
      empty.entries <+: (empty.register (.record Sample.config)).val.entries ∧
      (∀ t, t ∈ (empty.register (.record Sample.config)).val.shapes ↔
        t ∈ empty.shapes ∨ (Shape.record Sample.config).Reaches t) ∧
      (∀ c, (empty.install (.record Sample.config) c).val.find? (.record Sample.config) =
          some ⟨.record Sample.config, some c⟩ ∧
        ∀ reg', Spares (.record Sample.config) (empty.install (.record Sample.config) c).val reg' →
          reg'.find? (.record Sample.config) = some ⟨.record Sample.config, some c⟩) ∧
      (empty.contains (.record Sample.config) = true →
        ∀ c, (empty.install (.record Sample.config) c).val =
          { empty with
            entries := empty.entries.map fun e =>
              if e.shape == .record Sample.config then { e with converter := some c } else e }) :=
  ⟨.empty, register_closes .empty (.record Sample.config)⟩

end Registry

end ValuePaths
