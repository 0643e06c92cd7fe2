import ValuePaths.Proofs.Focus

/-!
# Where a walk along a route stands

A walk goes along the legs of its route one after the other.  `Context.Focus` and
`Context.ReadFocus` follow it along the elements of a parsed path.  A descriptor's route
holds steps resolved ahead of time instead, and a write may also go through a set member,
which it builds on its own and adds to the set only when everything below it succeeds.
This module follows a walk along legs of either kind, and carries what happens where it
stands out to the entry points:

* a write that fails below the elements it went through leaves each element it entered
  holding what the failure left, and each set it went through with the members it had;
* a read that found a value at each leg reads on from the last value found;
* a compilation that resolved each element against the shape before it goes on from the
  last shape reached.

## Main definitions

* `Context.Reach` — a write along legs, with more to come, reaches an element.
* `Context.ReadReach` — a read along legs, with more to come, finds a value at each.
* `Context.CompileReach` — a compilation along elements, with more to come, reaches a shape.

## Main statements

* `Context.set_reach_error`, `Context.writeCompiled_reach_error` — a write that fails
  where it stands.
* `Context.get_reach`, `Context.readCompiled_reach` — a read from where it stands.
* `Context.compile_reach_error` — a compilation that fails where it stands.
-/

namespace ValuePaths

variable [Catalogue]

open Logged

namespace Context

variable (ctx : Context)

/-- A write along `legs`, with more of the route still to come, reaches `d`: each leg
enters its element in place, creating what is missing, or builds a set member on its own to
write below.  When the rest of the write fails at `d`, leaving `d'` there, `plug d'` stands
in place of `c`: the elements entered hold what the failure left, and a set gone through
keeps its members. -/
inductive Reach : List Leg → Value → Value → (Value → Value) → Prop
  | here (c : Value) : Reach [] c c id
  | enter {leg : Leg} {rest : List Leg} {c c₁ x d : Value} {step : Step}
      {plug : Value → Value} (hstep : (ctx.legStep leg c.shape false).run.val = .ok step)
      (hkind : step.kind ≠ .set) (hdesc : (ctx.descend step c).val = (c₁, .ok ()))
      (hx : c₁.child? step.key = some x) (hrest : Reach rest x.inner d plug) :
      Reach (leg :: rest) c d fun d' => c₁.setChild step.key (x.withInner (plug d'))
  | member {leg : Leg} {rest : List Leg} {c m filled d : Value} {step : Step}
      {plug : Value → Value} (hstep : (ctx.legStep leg c.shape false).run.val = .ok step)
      (hkind : step.kind = .set) (hm : (ctx.createMissing step.target).run.val = .ok m)
      (hfill : (ctx.fill m).val = (filled, .ok ())) (hrest : Reach rest filled.inner d plug) :
      Reach (leg :: rest) c d fun _ => c

/-- A read along `legs`, with more of the route still to come, finds a value at each leg
and reaches `d`. -/
inductive ReadReach : List Leg → Value → Value → Prop
  | here (c : Value) : ReadReach [] c c
  | found {leg : Leg} {rest : List Leg} {c x d : Value} {step : Step}
      (hstep : (ctx.legStep leg c.shape false).run.val = .ok step)
      (hread : step.read c = some (.value x)) (hrest : ReadReach rest x d) :
      ReadReach (leg :: rest) c d

/-- A compilation along `segs`, with more of the path still to come, resolves each element
against the shape the element before it targets, and reaches `u`. -/
inductive CompileReach : List Segment → Shape → Shape → Prop
  | here (s : Shape) : CompileReach [] s s
  | typed {e : Segment} {rest : List Segment} {s t u : Shape} {step : Step}
      (hres : (ctx.resolve e s false).run.val = .ok step) (ht : step.target = .typed t)
      (hrest : CompileReach rest t u) : CompileReach (e :: rest) s u

variable {ctx}

/-- A write that enters the elements of a path enters them along its legs. -/
theorem Focus.reach {q : List Segment} {c d : Value} {plug : Value → Value}
    (hq : ctx.Focus q c d plug) : ctx.Reach (q.map .element) c d plug := by
  induction hq with
  | here c => exact .here c
  | enter hres hkind hdesc hx _ ih => exact .enter hres hkind hdesc hx ih

/-- A write that reaches `d` along `pre`, and from there `e` along `post`, reaches `e` along
both. -/
theorem Reach.append {pre post : List Leg} {c d e : Value} {plug plug' : Value → Value}
    (h : ctx.Reach pre c d plug) (h' : ctx.Reach post d e plug') :
    ctx.Reach (pre ++ post) c e (plug ∘ plug') := by
  induction h with
  | here c => exact h'
  | enter hstep hkind hdesc hx _ ih => exact .enter hstep hkind hdesc hx (ih h')
  | member hstep hkind hm hfill _ ih => exact .member hstep hkind hm hfill (ih h')

/-- A read that goes through the elements of a path goes through them along its legs. -/
theorem ReadFocus.reach {q : List Segment} {c d : Value} (hq : ctx.ReadFocus q c d) :
    ctx.ReadReach (q.map .element) c d := by
  induction hq with
  | here c => exact .here c
  | found hres hread _ ih => exact .found hres hread ih

/-- A read along the elements of a path from a well-typed value finds well-typed values. -/
theorem ReadReach.wellTyped {q : List Segment} {c d : Value}
    (hq : ctx.ReadReach (q.map .element) c d) (hc : c.WellTyped) : d.WellTyped := by
  induction q generalizing c with
  | nil =>
    cases hq
    exact hc
  | cons e q ih =>
    cases hq with
    | found hstep hread hrest =>
      obtain ⟨hcont, hb⟩ := ctx.resolve_bound hstep
      exact ih hrest (hc.read hb hcont hread)

variable (ctx)

/-! ## What happens at the leg where a walk stands -/

section Leg

variable {path : String} {r : Raw} {i : Nat} {state : WalkState} {leg : Leg} {rest : List Leg}
  {c c' : Value} {step : Step} {f : Fault}

/-- A write fails at a leg that does not resolve, and leaves the value as it is. -/
theorem writeFrom_legStep_error (h : (ctx.legStep leg c.shape rest.isEmpty).run.val = .error f) :
    (ctx.writeFrom path r i state (leg :: rest) c).val = (c, .error, .error ⟨f, path, some i⟩) := by
  refine ctx.writeFrom_of_writesLeg ?_ state
  exact .unresolved h

/-- A write fails at an element on the way that it cannot enter, and leaves what entering
left. -/
theorem writeFrom_descend_error (hstep : (ctx.legStep leg c.shape false).run.val = .ok step)
    (hrest : rest ≠ []) (hkind : step.kind ≠ .set) (h : (ctx.descend step c).val = (c', .error f)) :
    (ctx.writeFrom path r i state (leg :: rest) c).val =
      (c', .error, .error ⟨f, path, some i⟩) := by
  refine ctx.writeFrom_of_writesLeg ?_ state
  exact .unentered (ctx.legStep_above hrest hstep) hrest hkind h

/-- A write fails at its last leg when the text does not convert for its target, and leaves
the value as it is. -/
theorem writeFrom_coerce_error (hstep : (ctx.legStep leg c.shape true).run.val = .ok step)
    (h : (ctx.coerce step.target r).run.val = .error f) :
    (ctx.writeFrom path r i state [leg] c).val = (c, .error, .error ⟨f, path, some i⟩) := by
  refine ctx.writeFrom_of_writesLeg ?_ state
  exact .unconverted hstep rfl h

/-- A write fails at its last leg when the container refuses the converted value, and leaves
what the store left. -/
theorem writeFrom_store_error (hstep : (ctx.legStep leg c.shape true).run.val = .ok step)
    {v : Value} (hv : (ctx.coerce step.target r).run.val = .ok v)
    (h : (ctx.store step c v).val = (c', .error f)) :
    (ctx.writeFrom path r i state [leg] c).val = (c', .error, .error ⟨f, path, some i⟩) := by
  refine ctx.writeFrom_of_writesLeg ?_ state
  exact .unstored hstep rfl hv h

/-- A read of a leg that does not resolve is absent, or fails there when the fault is not
one a read tolerates. -/
theorem readFrom_legStep_error (h : (ctx.legStep leg c.shape rest.isEmpty).run.val = .error f) :
    (ctx.readFrom path i state (leg :: rest) c).val =
      if f.readsAsAbsent then .ok none else .error ⟨f, path, some i⟩ := by
  rw [val_readFrom_cons, h]

/-- A read is absent at a leg that finds nothing. -/
theorem readFrom_read_none (hstep : (ctx.legStep leg c.shape rest.isEmpty).run.val = .ok step)
    (h : step.read c = none) : (ctx.readFrom path i state (leg :: rest) c).val = .ok none := by
  rw [val_readFrom_cons, hstep]
  simp only [h]

/-- A read whose last leg resolves reads what its step reads there. -/
theorem readFrom_last (hstep : (ctx.legStep leg c.shape true).run.val = .ok step) :
    (ctx.readFrom path i state [leg] c).val = .ok (step.read c) := by
  rw [val_readFrom_cons, List.isEmpty_nil, hstep]
  dsimp only
  cases step.read c with
  | none => rfl
  | some found => cases found <;> rfl

/-- A compilation fails at an element that does not resolve. -/
theorem compileFrom_resolve_error {e : Segment} {segs : List Segment} {s : Shape}
    (h : (ctx.resolve e s segs.isEmpty).run.val = .error f) :
    (ctx.compileFrom path i s (e :: segs)).val = .error ⟨f, path, some i⟩ := by
  rw [val_compileFrom_cons, h]

end Leg

/-! ## Carrying it out along the legs before -/

variable {ctx}

/-- **A write that fails where it stands.**  When the rest of a write fails at the element
reached, leaving `d'` there, the whole write fails with the same error, and leaves `plug d'`.
By induction on the legs gone through: an element entered holds what the write below it
left, and a set member built on its own is dropped with the failure. -/
theorem writeFrom_reach_error {pre : List Leg} {c d : Value} {plug : Value → Value}
    (hq : ctx.Reach pre c d plug) {path : String} {r : Raw} {rest : List Leg} (hrest : rest ≠ [])
    {d' : Value} {st : WalkState} {e : AccessError} :
    ∀ {i : Nat}, (∀ state, (ctx.writeFrom path r (i + pre.length) state rest d).val =
        (d', st, .error e)) →
      ∀ state, (ctx.writeFrom path r i state (pre ++ rest) c).val = (plug d', st, .error e) := by
  induction hq with
  | here c => simp
  | @enter leg pre c c₁ x d step plug hstep hkind hdesc hx _ ih =>
    intro i hfail state
    have hbelow := ih (i := i + 1) (fun state => by
      rw [← hfail state, List.length_cons, Nat.add_assoc, Nat.add_comm 1]) (.applying step.kind)
    have hmore : pre ++ rest ≠ [] := by simp [hrest]
    rw [List.cons_append]
    refine ctx.writeFrom_of_writesLeg ?_ state
    exact .entered (ctx.legStep_above hmore hstep) hmore hkind hdesc hx hbelow
  | @member leg pre c m filled d step plug hstep hkind hm hfill _ ih =>
    intro i hfail state
    have hbelow := ih (i := i + 1) (fun state => by
      rw [← hfail state, List.length_cons, Nat.add_assoc, Nat.add_comm 1]) (.applying step.kind)
    have hmore : pre ++ rest ≠ [] := by simp [hrest]
    rw [List.cons_append]
    refine ctx.writeFrom_of_writesLeg ?_ state
    exact .memberRefused (ctx.legStep_above hmore hstep) hmore hkind hm hfill hbelow

/-- **A read from where it stands.**  A read that found a value at each leg before reads
what reading on from the last value found reads. -/
theorem readFrom_reach {pre : List Leg} {c d : Value} (hq : ctx.ReadReach pre c d)
    {path : String} {rest : List Leg} (hrest : rest ≠ [])
    {res : Except AccessError (Option Found)} :
    ∀ {i : Nat}, (∀ state, (ctx.readFrom path (i + pre.length) state rest d).val = res) →
      ∀ state, (ctx.readFrom path i state (pre ++ rest) c).val = res := by
  induction hq with
  | here c => simp
  | @found leg pre c x d step hstep hread _ ih =>
    intro i hres state
    have hbelow := ih (i := i + 1) (fun state => by
      rw [← hres state, List.length_cons, Nat.add_assoc, Nat.add_comm 1]) (.applying step.kind)
    have hmore : (pre ++ rest).isEmpty = false := by simp [hrest]
    rw [List.cons_append, val_readFrom_cons, hmore, hstep]
    simp only [hread, hbelow]

/-- **A compilation that fails where it stands** fails with the same error. -/
theorem compileFrom_reach_error {pre : List Segment} {s t : Shape} (hq : ctx.CompileReach pre s t)
    {path : String} {rest : List Segment} (hrest : rest ≠ []) {e : AccessError} :
    ∀ {i : Nat}, (ctx.compileFrom path (i + pre.length) t rest).val = .error e →
      (ctx.compileFrom path i s (pre ++ rest)).val = .error e := by
  induction hq with
  | here s => simp
  | @typed seg pre s t u step hres ht _ ih =>
    intro i hfail
    have hbelow := ih (i := i + 1) (by
      rw [← hfail, List.length_cons, Nat.add_assoc, Nat.add_comm 1])
    have hmore : (pre ++ rest).isEmpty = false := by simp [hrest]
    rw [List.cons_append, val_compileFrom_cons, hmore, hres]
    simp only [ht, hbelow]
    rfl

/-! ## At the entry points -/

section Entry

variable {root d d' : Value} {plug : Value → Value} {path : String} {p : Path}
  {q rest : List Segment} {r : Raw} {st : WalkState} {e : AccessError}

/-- `set` fails with the error its write meets where it stands, and leaves what that left
there, put back along the way. -/
theorem set_reach_error (hp : Path.parse path = .ok p) (hsegs : p.steps.map (·.segment) = q ++ rest)
    (hrest : rest ≠ []) (hq : ctx.Reach (q.map .element) root d plug)
    (hfail : ∀ state, (ctx.writeFrom path r q.length state (rest.map .element) d).val =
      (d', st, .error e)) :
    (ctx.set root path r).val = (plug d', .error e) := by
  have hlegs : p.route.legs = q.map .element ++ rest.map .element := by
    rw [← List.map_append, ← hsegs, List.map_map]
    rfl
  have hw := writeFrom_reach_error hq (show rest.map Leg.element ≠ [] by simpa using hrest) (i := 0)
    (by simpa using hfail) .atRoot
  rw [val_set, hp]
  dsimp only
  rw [val_writeWalk, if_neg (by simp [hlegs, hrest]), hlegs,
    show p.route.path = path from Path.parse_source hp, hw]

/-- `get` reads what its walk reads on from where it stands. -/
theorem get_reach (hp : Path.parse path = .ok p) (hsegs : p.steps.map (·.segment) = q ++ rest)
    (hrest : rest ≠ []) (hq : ctx.ReadReach (q.map .element) root d)
    {res : Except AccessError (Option Found)}
    (hres : ∀ state, (ctx.readFrom path q.length state (rest.map .element) d).val = res) :
    (ctx.get root path).val = res := by
  have hlegs : p.route.legs = q.map .element ++ rest.map .element := by
    rw [← List.map_append, ← hsegs, List.map_map]
    rfl
  rw [val_get, hp]
  dsimp only
  unfold readWalk
  rw [hlegs, show p.route.path = path from Path.parse_source hp]
  exact readFrom_reach hq (show rest.map Leg.element ≠ [] by simpa using hrest) (i := 0)
    (by simpa using hres) .atRoot

/-- `compile` fails with the error its compilation meets where it stands. -/
theorem compile_reach_error {s t : Shape} (hp : Path.parse path = .ok p)
    (hsegs : p.steps.map (·.segment) = q ++ rest) (hrest : rest ≠ []) (hq : ctx.CompileReach q s t)
    (hfail : (ctx.compileFrom path q.length t rest).val = .error e) :
    (ctx.compile s path).val = .error e := by
  have hc := compileFrom_reach_error hq hrest (i := 0) (by simpa using hfail)
  rw [val_compile, hp]
  dsimp only
  rw [hsegs, hc]

variable {desc : Descriptor} {pre post : List Step}

/-- A descriptor write fails with the error its walk meets where it stands, and leaves what
that left there, put back along the way. -/
theorem writeCompiled_reach_error (hroot : root.shape = desc.root)
    (hsteps : desc.steps = pre ++ post)
    (hpost : post ≠ []) (hq : ctx.Reach (pre.map .resolved) root d plug)
    (hfail : ∀ state, (ctx.writeFrom desc.path r pre.length state (post.map .resolved) d).val =
      (d', st, .error e)) :
    (ctx.writeCompiled desc root r).val = (plug d', .error e) := by
  have hcheck : desc.checkRoot root = .ok () := by simp [Descriptor.checkRoot, hroot]
  have hw := writeFrom_reach_error hq (show post.map Leg.resolved ≠ [] by simpa using hpost)
    (i := 0) (by simpa using hfail) .atRoot
  rw [val_writeCompiled, hcheck]
  dsimp only
  rw [val_writeWalk, if_neg (by simp [Descriptor.route, hsteps, hpost])]
  simp only [Descriptor.route, hsteps, List.map_append, hw]

/-- A descriptor read reads what its walk reads on from where it stands. -/
theorem readCompiled_reach (hroot : root.shape = desc.root) (hsteps : desc.steps = pre ++ post)
    (hpost : post ≠ []) (hq : ctx.ReadReach (pre.map .resolved) root d)
    {res : Except AccessError (Option Found)}
    (hres : ∀ state, (ctx.readFrom desc.path pre.length state (post.map .resolved) d).val = res) :
    (ctx.readCompiled desc root).val = res := by
  have hcheck : desc.checkRoot root = .ok () := by simp [Descriptor.checkRoot, hroot]
  rw [val_readCompiled, hcheck]
  dsimp only
  unfold readWalk
  simp only [Descriptor.route, hsteps, List.map_append]
  exact readFrom_reach hq (show post.map Leg.resolved ≠ [] by simpa using hpost) (i := 0)
    (by simpa using hres) .atRoot

end Entry

end Context

end ValuePaths
