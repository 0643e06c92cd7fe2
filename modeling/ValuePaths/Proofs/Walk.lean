import ValuePaths.Proofs.Oblivious

/-!
# What the walks return

The result of each walk, one step at a time: what a read, a write, a compilation and the
entry points built on them return, in terms of the results of the functions they call.
Each equation follows its definition branch by branch, with the notes left out; proofs
about walks use these and never unfold the walks again.
-/

namespace ValuePaths

variable [Catalogue]

open Logged

namespace Context

variable (ctx : Context)

/-! ## Reading -/

@[simp] theorem val_readFrom_nil (path : String) (i : Nat) (state : WalkState) (cursor : Value) :
    (ctx.readFrom path i state [] cursor).val = .ok (some (.value cursor)) := rfl

/-- One step of a read: resolve the element, read it, and go on from what it found. -/
theorem val_readFrom_cons (path : String) (i : Nat) (state : WalkState) (leg : Leg)
    (rest : List Leg) (cursor : Value) :
    (ctx.readFrom path i state (leg :: rest) cursor).val =
      match (ctx.legStep leg cursor.shape rest.isEmpty).run.val with
      | .error f => if Fault.readsAsAbsent f then .ok none else .error ⟨f, path, some i⟩
      | .ok step =>
        match step.read cursor with
        | some (.value v) => (ctx.readFrom path (i + 1) (WalkState.applying step.kind) rest v).val
        | some found => .ok (some found)
        | none => .ok none := by
  conv => lhs; unfold val readFrom
  simp only [run_bind_eq]
  rw [Oblivious.fst_run (ctx.oblivious_legStep _ _ _)]
  cases ctx.legStep leg cursor.shape rest.isEmpty |>.run.val with
  | error f => by_cases h : f.readsAsAbsent <;> simp [h] <;> rfl
  | ok step =>
    simp only [run_bind_eq]
    cases step.read cursor with
    | none => rfl
    | some found =>
      cases found with
      | value v => exact (ctx.oblivious_readFrom _ _ _ _ _) _
      | count n => rfl

/-- A read along a leg fails exactly where its step is refused with a fault that does not
read as absent, or below the value the step finds. -/
theorem readFrom_cons_error {path : String} {i : Nat} {state : WalkState} {leg : Leg}
    {rest : List Leg} {c : Value} {e : AccessError} :
    (ctx.readFrom path i state (leg :: rest) c).val = .error e ↔
      (∃ f, (ctx.legStep leg c.shape rest.isEmpty).run.val = .error f ∧
          f.readsAsAbsent = false ∧ e = ⟨f, path, some i⟩) ∨
        ∃ step w, (ctx.legStep leg c.shape rest.isEmpty).run.val = .ok step ∧
          step.read c = some (.value w) ∧
          (ctx.readFrom path (i + 1) (.applying step.kind) rest w).val = .error e := by
  rw [val_readFrom_cons]
  cases hstep : (ctx.legStep leg c.shape rest.isEmpty).run.val with
  | error f =>
    -- refused here: absent, or an error at this element
    dsimp only
    cases habsent : f.readsAsAbsent
    · simp only [habsent, if_false, Bool.false_eq_true, Except.error.injEq, reduceCtorEq,
        false_and, exists_false, or_false, exists_eq_left', true_and]
      exact eq_comm
    · simp [habsent]
  | ok step =>
    -- resolved here: the read fails only below a value it finds
    dsimp only
    cases hread : step.read c with
    | none => simp [hread]
    | some found =>
      cases found with
      | value w => simp [hread]
      | count n => simp [hread]

/-! ## Writing -/

@[simp] theorem val_writeFrom_nil (path : String) (r : Raw) (i : Nat) (state : WalkState)
    (c : Value) : (ctx.writeFrom path r i state [] c).val = (c, state, .ok ()) := rfl

/-- One step of a write: store at the last element, build a set member on its own, or
enter the element and write below it. -/
theorem val_writeFrom_cons (path : String) (r : Raw) (i : Nat) (state : WalkState) (leg : Leg)
    (rest : List Leg) (c : Value) :
    (ctx.writeFrom path r i state (leg :: rest) c).val =
      match (ctx.legStep leg c.shape rest.isEmpty).run.val with
      | .error f => (c, .error, .error ⟨f, path, some i⟩)
      | .ok step =>
        if rest.isEmpty then
          match (ctx.coerce step.target r).run.val with
          | .error f => (c, .error, .error ⟨f, path, some i⟩)
          | .ok v =>
            let stored := (ctx.store step c v).val
            match stored.2 with
            | .error f => (stored.1, .error, .error ⟨f, path, some i⟩)
            | .ok () => (stored.1, .atLeaf, .ok ())
        else if step.kind == .set then
          match (ctx.createMissing step.target).run.val with
          | .error f => (c, .error, .error ⟨f, path, some i⟩)
          | .ok member =>
            let filled := (ctx.fill member).val
            match filled.2 with
            | .error f => (c, .error, .error ⟨f, path, some i⟩)
            | .ok () =>
              let below :=
                (ctx.writeFrom path r (i + 1) (.applying step.kind) rest filled.1.inner).val
              match below.2.2 with
              | .error e => (c, below.2.1, .error e)
              | .ok () =>
                let stored := (ctx.store step c (filled.1.withInner below.1)).val
                match stored.2 with
                | .error f => (stored.1, .error, .error ⟨f, path, some i⟩)
                | .ok () => (stored.1, below.2.1, .ok ())
        else
          let entered := (ctx.descend step c).val
          match entered.2, entered.1.child? step.key with
          | .error f, _ => (entered.1, .error, .error ⟨f, path, some i⟩)
          | .ok (), none =>
            (entered.1, .error, .error ⟨.noProperty c.shape step.key.describe, path, some i⟩)
          | .ok (), some child =>
            let below := (ctx.writeFrom path r (i + 1) (.applying step.kind) rest child.inner).val
            (entered.1.setChild step.key (child.withInner below.1), below.2) := by
  conv => lhs; unfold val writeFrom
  simp only [run_bind_eq]
  rw [Oblivious.fst_run (ctx.oblivious_legStep _ _ _)]
  cases ctx.legStep leg c.shape rest.isEmpty |>.run.val with
  | error f => rfl
  | ok step =>
    simp only [run_bind_eq]
    by_cases hlast : rest.isEmpty
    · simp only [hlast, if_true, run_bind_eq]
      rw [Oblivious.fst_run (ctx.oblivious_coerce _ _)]
      cases ctx.coerce step.target r |>.run.val with
      | error f => rfl
      | ok v =>
        simp only [run_bind_eq]
        rw [Oblivious.fst_run (ctx.oblivious_store _ _ _)]
        generalize (ctx.store step c v).val = stored
        obtain ⟨c', res⟩ := stored
        cases res <;> rfl
    · simp only [hlast, if_false, Bool.false_eq_true]
      by_cases hset : step.kind == .set
      · simp only [hset, if_true, run_bind_eq]
        rw [Oblivious.fst_run (ctx.oblivious_createMissing _)]
        cases ctx.createMissing step.target |>.run.val with
        | error f => rfl
        | ok member =>
          simp only [run_bind_eq]
          rw [Oblivious.fst_run (ctx.oblivious_fill _)]
          generalize (ctx.fill member).val = filled
          obtain ⟨member', res⟩ := filled
          cases res with
          | error f => rfl
          | ok u =>
            simp only [run_bind_eq]
            rw [Oblivious.fst_run (ctx.oblivious_writeFrom _ _ _ _ _ _)]
            generalize (ctx.writeFrom path r (i + 1) _ rest member'.inner).val = below
            obtain ⟨inner, state', res⟩ := below
            cases res with
            | error e => rfl
            | ok u =>
              simp only [run_bind_eq]
              rw [Oblivious.fst_run (ctx.oblivious_store _ _ _)]
              generalize (ctx.store step c _).val = stored
              obtain ⟨c', res⟩ := stored
              cases res <;> rfl
      · simp only [hset, if_false, Bool.false_eq_true, run_bind_eq]
        rw [Oblivious.fst_run (ctx.oblivious_descend _ _)]
        generalize (ctx.descend step c).val = entered
        obtain ⟨c', res⟩ := entered
        cases res with
        | error f => rfl
        | ok u =>
          cases c'.child? step.key with
          | none => rfl
          | some child =>
            simp only [run_bind_eq]
            rw [Oblivious.fst_run (ctx.oblivious_writeFrom _ _ _ _ _ _)]
            rfl

/-- What one leg of a write does, by how it ends.  The leg does not resolve; at the last
element the text does not convert, or it is stored, with success or not; above it, for a
set, the member cannot be built, the write below it fails, or it is stored, with success or
not; for any other container, the entry fails, finds no element, or enters the element and
the write goes on below it. -/
inductive WritesLeg (path : String) (r : Raw) (i : Nat) (leg : Leg) (rest : List Leg) (c : Value) :
    Value → Outcome → Prop
  | unresolved {f : Fault} (hstep : (ctx.legStep leg c.shape rest.isEmpty).run.val = .error f) :
      WritesLeg path r i leg rest c c (.error, .error ⟨f, path, some i⟩)
  | unconverted {step : Step} {f : Fault}
      (hstep : (ctx.legStep leg c.shape rest.isEmpty).run.val = .ok step) (hlast : rest = [])
      (hv : (ctx.coerce step.target r).run.val = .error f) :
      WritesLeg path r i leg rest c c (.error, .error ⟨f, path, some i⟩)
  | stored {step : Step} {v c' : Value}
      (hstep : (ctx.legStep leg c.shape rest.isEmpty).run.val = .ok step) (hlast : rest = [])
      (hv : (ctx.coerce step.target r).run.val = .ok v)
      (hs : (ctx.store step c v).val = (c', .ok ())) :
      WritesLeg path r i leg rest c c' (.atLeaf, .ok ())
  | unstored {step : Step} {v c' : Value} {f : Fault}
      (hstep : (ctx.legStep leg c.shape rest.isEmpty).run.val = .ok step) (hlast : rest = [])
      (hv : (ctx.coerce step.target r).run.val = .ok v)
      (hs : (ctx.store step c v).val = (c', .error f)) :
      WritesLeg path r i leg rest c c' (.error, .error ⟨f, path, some i⟩)
  | uncreated {step : Step} {f : Fault}
      (hstep : (ctx.legStep leg c.shape rest.isEmpty).run.val = .ok step) (hrest : rest ≠ [])
      (hkind : step.kind = .set) (hd : (ctx.createMissing step.target).run.val = .error f) :
      WritesLeg path r i leg rest c c (.error, .error ⟨f, path, some i⟩)
  | unfilled {step : Step} {d d' : Value} {f : Fault}
      (hstep : (ctx.legStep leg c.shape rest.isEmpty).run.val = .ok step) (hrest : rest ≠ [])
      (hkind : step.kind = .set) (hd : (ctx.createMissing step.target).run.val = .ok d)
      (hfill : (ctx.fill d).val = (d', .error f)) :
      WritesLeg path r i leg rest c c (.error, .error ⟨f, path, some i⟩)
  | memberRefused {step : Step} {d d' inner : Value} {st : WalkState} {e : AccessError}
      (hstep : (ctx.legStep leg c.shape rest.isEmpty).run.val = .ok step) (hrest : rest ≠ [])
      (hkind : step.kind = .set) (hd : (ctx.createMissing step.target).run.val = .ok d)
      (hfill : (ctx.fill d).val = (d', .ok ()))
      (hbelow : (ctx.writeFrom path r (i + 1) (.applying step.kind) rest d'.inner).val =
        (inner, st, .error e)) :
      WritesLeg path r i leg rest c c (st, .error e)
  | member {step : Step} {d d' inner c' : Value} {st : WalkState}
      (hstep : (ctx.legStep leg c.shape rest.isEmpty).run.val = .ok step) (hrest : rest ≠ [])
      (hkind : step.kind = .set) (hd : (ctx.createMissing step.target).run.val = .ok d)
      (hfill : (ctx.fill d).val = (d', .ok ()))
      (hbelow : (ctx.writeFrom path r (i + 1) (.applying step.kind) rest d'.inner).val =
        (inner, st, .ok ()))
      (hs : (ctx.store step c (d'.withInner inner)).val = (c', .ok ())) :
      WritesLeg path r i leg rest c c' (st, .ok ())
  | memberUnstored {step : Step} {d d' inner c' : Value} {st : WalkState} {f : Fault}
      (hstep : (ctx.legStep leg c.shape rest.isEmpty).run.val = .ok step) (hrest : rest ≠ [])
      (hkind : step.kind = .set) (hd : (ctx.createMissing step.target).run.val = .ok d)
      (hfill : (ctx.fill d).val = (d', .ok ()))
      (hbelow : (ctx.writeFrom path r (i + 1) (.applying step.kind) rest d'.inner).val =
        (inner, st, .ok ()))
      (hs : (ctx.store step c (d'.withInner inner)).val = (c', .error f)) :
      WritesLeg path r i leg rest c c' (.error, .error ⟨f, path, some i⟩)
  | unentered {step : Step} {c₁ : Value} {f : Fault}
      (hstep : (ctx.legStep leg c.shape rest.isEmpty).run.val = .ok step) (hrest : rest ≠ [])
      (hkind : step.kind ≠ .set) (hd : (ctx.descend step c).val = (c₁, .error f)) :
      WritesLeg path r i leg rest c c₁ (.error, .error ⟨f, path, some i⟩)
  | notFound {step : Step} {c₁ : Value}
      (hstep : (ctx.legStep leg c.shape rest.isEmpty).run.val = .ok step) (hrest : rest ≠ [])
      (hkind : step.kind ≠ .set) (hd : (ctx.descend step c).val = (c₁, .ok ()))
      (hch : c₁.child? step.key = none) :
      WritesLeg path r i leg rest c c₁
        (.error, .error ⟨.noProperty c.shape step.key.describe, path, some i⟩)
  | entered {step : Step} {c₁ x inner : Value} {o : Outcome}
      (hstep : (ctx.legStep leg c.shape rest.isEmpty).run.val = .ok step) (hrest : rest ≠ [])
      (hkind : step.kind ≠ .set) (hd : (ctx.descend step c).val = (c₁, .ok ()))
      (hch : c₁.child? step.key = some x)
      (hbelow : (ctx.writeFrom path r (i + 1) (.applying step.kind) rest x.inner).val =
        (inner, o)) :
      WritesLeg path r i leg rest c (c₁.setChild step.key (x.withInner inner)) o

/-- **What one leg of a write does**: each write along a leg ends as one of the cases of
`WritesLeg`. -/
theorem writesLeg {path : String} {r : Raw} {i : Nat} {state : WalkState} {leg : Leg}
    {rest : List Leg} {c c' : Value} {o : Outcome}
    (h : (ctx.writeFrom path r i state (leg :: rest) c).val = (c', o)) :
    ctx.WritesLeg path r i leg rest c c' o := by
  rw [val_writeFrom_cons] at h
  cases hstep : (ctx.legStep leg c.shape rest.isEmpty).run.val with
  | error f =>
    rw [hstep] at h
    cases h
    exact .unresolved hstep
  | ok step =>
    rw [hstep] at h
    dsimp only at h
    split at h
    · -- the last element: convert and store
      rename_i hlast
      have hnil := List.isEmpty_iff.mp hlast
      cases hv : (ctx.coerce step.target r).run.val with
      | error f =>
        rw [hv] at h
        cases h
        exact .unconverted hstep hnil hv
      | ok v =>
        rw [hv] at h
        dsimp only at h
        generalize hs : (ctx.store step c v).val = stored at h
        obtain ⟨c₂, res⟩ := stored
        cases res with
        | error f =>
          cases h
          exact .unstored hstep hnil hv hs
        | ok u =>
          cases h
          exact .stored hstep hnil hv hs
    · rename_i hlast
      have hne : rest ≠ [] := fun h' => hlast (by simp [h'])
      split at h
      · -- a set member is built on its own
        rename_i hset
        have hkind : step.kind = .set := by simpa using hset
        cases hd : (ctx.createMissing step.target).run.val with
        | error f =>
          rw [hd] at h
          cases h
          exact .uncreated hstep hne hkind hd
        | ok d =>
          rw [hd] at h
          dsimp only at h
          generalize hf : (ctx.fill d).val = filled at h
          obtain ⟨d', res⟩ := filled
          cases res with
          | error f =>
            cases h
            exact .unfilled hstep hne hkind hd hf
          | ok u =>
            dsimp only at h
            generalize hb : (ctx.writeFrom path r (i + 1) _ rest d'.inner).val = below at h
            obtain ⟨inner, st', res⟩ := below
            cases res with
            | error e =>
              cases h
              exact .memberRefused hstep hne hkind hd hf hb
            | ok u =>
              dsimp only at h
              generalize hs : (ctx.store step c (d'.withInner inner)).val = stored at h
              obtain ⟨c₂, res⟩ := stored
              cases res with
              | error f =>
                cases h
                exact .memberUnstored hstep hne hkind hd hf hb hs
              | ok u =>
                cases h
                exact .member hstep hne hkind hd hf hb hs
      · -- the element is entered and written below
        rename_i hset
        have hkind : step.kind ≠ .set := by simpa using hset
        generalize hd : (ctx.descend step c).val = entered at h
        obtain ⟨c₁, res⟩ := entered
        cases res with
        | error f =>
          cases h
          exact .unentered hstep hne hkind hd
        | ok u =>
          dsimp only at h
          cases hch : c₁.child? step.key with
          | none =>
            rw [hch] at h
            cases h
            exact .notFound hstep hne hkind hd hch
          | some x =>
            rw [hch] at h
            dsimp only at h
            generalize hb : (ctx.writeFrom path r (i + 1) _ rest x.inner).val = below at h
            cases h
            exact .entered hstep hne hkind hd hch hb

/-- Each case of `WritesLeg` is what the write along the leg does, from any state. -/
theorem writeFrom_of_writesLeg {path : String} {r : Raw} {i : Nat} {leg : Leg} {rest : List Leg}
    {c c' : Value} {o : Outcome} (h : ctx.WritesLeg path r i leg rest c c' o) (state : WalkState) :
    (ctx.writeFrom path r i state (leg :: rest) c).val = (c', o) := by
  rw [val_writeFrom_cons]
  cases h with
  | unresolved hstep => rw [hstep]
  | unconverted hstep hlast hv =>
    rw [hstep]
    simp only [hlast, List.isEmpty_nil, if_true, hv]
  | stored hstep hlast hv hs | unstored hstep hlast hv hs =>
    rw [hstep]
    simp only [hlast, List.isEmpty_nil, if_true, hv, hs]
  | uncreated hstep hrest hkind hd =>
    rw [hstep]
    simp only [List.isEmpty_eq_false_iff.mpr hrest, Bool.false_eq_true, if_false, hd]
    rw [if_pos (by simp [hkind])]
  | unfilled hstep hrest hkind hd hfill =>
    rw [hstep]
    simp only [List.isEmpty_eq_false_iff.mpr hrest, Bool.false_eq_true, if_false, hd, hfill]
    rw [if_pos (by simp [hkind])]
  | memberRefused hstep hrest hkind hd hfill hbelow =>
    rw [hstep]
    simp only [List.isEmpty_eq_false_iff.mpr hrest, Bool.false_eq_true, if_false, hd, hfill,
      hbelow]
    rw [if_pos (by simp [hkind])]
  | member hstep hrest hkind hd hfill hbelow hs
  | memberUnstored hstep hrest hkind hd hfill hbelow hs =>
    rw [hstep]
    simp only [List.isEmpty_eq_false_iff.mpr hrest, Bool.false_eq_true, if_false, hd, hfill,
      hbelow, hs]
    rw [if_pos (by simp [hkind])]
  | unentered hstep hrest hkind hd =>
    rw [hstep]
    simp only [List.isEmpty_eq_false_iff.mpr hrest, hd, beq_iff_eq, hkind, Bool.false_eq_true,
      if_false]
  | notFound hstep hrest hkind hd hch =>
    rw [hstep]
    simp only [List.isEmpty_eq_false_iff.mpr hrest, hd, hch, beq_iff_eq, hkind,
      Bool.false_eq_true, if_false]
  | entered hstep hrest hkind hd hch hbelow =>
    rw [hstep]
    simp only [List.isEmpty_eq_false_iff.mpr hrest, hd, hch, hbelow, beq_iff_eq, hkind,
      Bool.false_eq_true, if_false]

/-- A leg with more legs after it steps as one that is not the last. -/
theorem legStep_above {leg : Leg} {rest : List Leg} {s : Shape} {step : Step}
    (hrest : rest ≠ []) (hstep : (ctx.legStep leg s false).run.val = .ok step) :
    (ctx.legStep leg s rest.isEmpty).run.val = .ok step := by
  rw [List.isEmpty_eq_false_iff.mpr hrest]
  exact hstep

/-- A leg of a path element resolves the element. -/
theorem resolve_of_legStep {e : Segment} {rest : List Segment} {s : Shape} {step : Step}
    (hstep : (ctx.legStep (.element e) s (rest.map Leg.element).isEmpty).run.val = .ok step) :
    (ctx.resolve e s rest.isEmpty).run.val = .ok step := by
  simpa only [legStep, List.isEmpty_map] using hstep

/-- A leg of a path element with elements below it resolves the element as one that is not
the last. -/
theorem resolve_of_legStep_above {e : Segment} {rest : List Segment} {s : Shape} {step : Step}
    (hstep : (ctx.legStep (.element e) s (rest.map Leg.element).isEmpty).run.val = .ok step)
    (hrest : rest.map Leg.element ≠ []) :
    rest ≠ [] ∧ (ctx.resolve e s false).run.val = .ok step := by
  have hrest' : rest ≠ [] := fun h => hrest (by rw [h, List.map_nil])
  refine ⟨hrest', ?_⟩
  rw [← List.isEmpty_eq_false_iff.mpr hrest']
  exact ctx.resolve_of_legStep hstep

/-- A successful step of a write: the element resolved; at the last element the text
converted and was stored; below it, a set member was built on its own, written and
stored, or the element was entered and written below. -/
theorem writeFrom_cons_ok {path : String} {r : Raw} {i : Nat} {state : WalkState} {leg : Leg}
    {rest : List Leg} {c c' : Value} {st : WalkState}
    (h : (ctx.writeFrom path r i state (leg :: rest) c).val = (c', st, .ok ())) :
    ∃ step, (ctx.legStep leg c.shape rest.isEmpty).run.val = .ok step ∧
      ((rest = [] ∧ ∃ v, (ctx.coerce step.target r).run.val = .ok v ∧
          (ctx.store step c v).val = (c', .ok ())) ∨
        (rest ≠ [] ∧ step.kind = .set ∧ ∃ member filled inner,
          (ctx.createMissing step.target).run.val = .ok member ∧
          (ctx.fill member).val = (filled, .ok ()) ∧
          (ctx.writeFrom path r (i + 1) (.applying step.kind) rest filled.inner).val =
            (inner, st, .ok ()) ∧
          (ctx.store step c (filled.withInner inner)).val = (c', .ok ())) ∨
        (rest ≠ [] ∧ step.kind ≠ .set ∧ ∃ c₁ child inner,
          (ctx.descend step c).val = (c₁, .ok ()) ∧ c₁.child? step.key = some child ∧
          (ctx.writeFrom path r (i + 1) (.applying step.kind) rest child.inner).val =
            (inner, st, .ok ()) ∧
          c' = c₁.setChild step.key (child.withInner inner))) := by
  cases ctx.writesLeg h with
  | stored hstep hlast hv hs => exact ⟨_, hstep, .inl ⟨hlast, _, hv, hs⟩⟩
  | member hstep hrest hkind hd hfill hbelow hs =>
    exact ⟨_, hstep, .inr (.inl ⟨hrest, hkind, _, _, _, hd, hfill, hbelow, hs⟩)⟩
  | entered hstep hrest hkind hd hch hbelow =>
    exact ⟨_, hstep, .inr (.inr ⟨hrest, hkind, _, _, _, hd, hch, hbelow, rfl⟩)⟩

/-! ## Entry points -/

theorem val_writeWalk (route : Route) (root : Value) (r : Raw) :
    (ctx.writeWalk route root r).val =
      if route.legs.isEmpty then (root, .ok ())
      else
        let w := (ctx.writeFrom route.path r 0 .atRoot route.legs root).val
        (w.1, w.2.2) := by
  conv => lhs; unfold val writeWalk
  split
  · rfl
  · simp only [run_bind_eq]
    rw [Oblivious.fst_run (ctx.oblivious_writeFrom _ _ _ _ _ _)]
    rfl

theorem val_get (root : Value) (path : String) :
    (ctx.get root path).val = match Path.parse path with
      | .error e => .error (AccessError.ofPath e)
      | .ok p => (ctx.readWalk p.route root).val := by
  unfold get
  cases Path.parse path <;> rfl

theorem val_set (root : Value) (path : String) (r : Raw) :
    (ctx.set root path r).val = match Path.parse path with
      | .error e => (root, .error (AccessError.ofPath e))
      | .ok p => (ctx.writeWalk p.route root r).val := by
  unfold set
  cases Path.parse path <;> rfl

/-! ## Compiling -/

@[simp] theorem val_compileFrom_nil (path : String) (i : Nat) (cursor : Shape) :
    (ctx.compileFrom path i cursor []).val = .ok [] := rfl

/-- One step of a compilation: resolve the element against the shape reached so far, and
go on from the shape of its target; an untyped target has to end the path. -/
theorem val_compileFrom_cons (path : String) (i : Nat) (cursor : Shape) (e : Segment)
    (rest : List Segment) :
    (ctx.compileFrom path i cursor (e :: rest)).val =
      match (ctx.resolve e cursor rest.isEmpty).run.val with
      | .error f => .error ⟨f, path, some i⟩
      | .ok step =>
        match step.target with
        | .typed t => (step :: ·) <$> (ctx.compileFrom path (i + 1) t rest).val
        | .untyped =>
          if rest.isEmpty then .ok [step]
          else .error ⟨.unsupported step.kind step.container .throughUntyped, path, some i⟩ := by
  conv => lhs; unfold val compileFrom
  simp only [run_bind_eq]
  rw [Oblivious.fst_run (ctx.oblivious_resolve _ _ _)]
  cases ctx.resolve e cursor rest.isEmpty |>.run.val with
  | error f => rfl
  | ok step =>
    rcases htarget : step.target with t | _
    · simp only [htarget]
      rw [Oblivious.fst_run ((ctx.oblivious_compileFrom _ _ _ _).map _)]
      rfl
    · simp only [htarget]
      split <;> rfl

theorem val_compile (root : Shape) (path : String) :
    (ctx.compile root path).val = match Path.parse path with
      | .error e => .error (AccessError.ofPath e)
      | .ok p =>
        match (ctx.compileFrom path 0 root (p.steps.map (·.segment))).val with
        | .error e => .error e
        | .ok steps => .ok ⟨root, path, steps⟩ := by
  conv => lhs; unfold val compile
  cases Path.parse path with
  | error e => rfl
  | ok p =>
    simp only [run_bind_eq]
    rw [Oblivious.fst_run (ctx.oblivious_compileFrom _ _ _ _)]
    cases (ctx.compileFrom path 0 root (p.steps.map (·.segment))).val <;> rfl

theorem val_readCompiled (d : Descriptor) (v : Value) :
    (ctx.readCompiled d v).val = match d.checkRoot v with
      | .error e => .error e
      | .ok () => (ctx.readWalk d.route v).val := by
  unfold readCompiled
  cases d.checkRoot v <;> rfl

theorem val_writeCompiled (d : Descriptor) (v : Value) (r : Raw) :
    (ctx.writeCompiled d v r).val = match d.checkRoot v with
      | .error e => (v, .error e)
      | .ok () => (ctx.writeWalk d.route v r).val := by
  unfold writeCompiled
  cases d.checkRoot v <;> rfl

end Context

end ValuePaths
