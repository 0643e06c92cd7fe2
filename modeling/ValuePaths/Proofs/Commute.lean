import ValuePaths.Proofs.Puts
import ValuePaths.Proofs.Idempotence
import ValuePaths.Proofs.RoundTrip
import ValuePaths.Sample.Records

/-!
# Independent writes commute

Two writes whose addresses are independent, neither a prefix of the other, leave the same
value in either order, up to `Value.Alike`: maps and sets compared by what they hold, not by
the order their tables keep.

A write acts at the first site of its path by a put (`Context.Puts`): the text converted at
the last element, or the element it reaches, filled, with what the write below left under
its layers.  `Context.Writes` names that value.  By induction on the first path: at apart
sites the two puts commute, and the second write meets at its site what it met before the
first; at one site neither path ends, both enter the one element the site holds, the second
finds there what the first put and goes on from under the same layers, and the induction
goes on below, where the puts of either order at the site differ only by alike values.  A
set is the exception: its members are built on their own, so two writes through one member
site add two members, in either order.

## Main definitions

* `Context.Writes` — what the first step of a write puts at its site.

## Main statements

* `Context.writeFrom_cons_puts` — a write that succeeds is a put at its first site.
* `Context.writeFrom_comm` — writes along independent walks commute.
* `Context.set_independent_comm` — so do writes by independent paths.
-/

namespace ValuePaths

section

open Logged

theorem Value.shape_eq_set {v : Value} {l : Layout} {t : Shape} (h : v.shape = .set l t) :
    ∃ p ms, v = .set p t ms := by
  cases v <;> simp only [Value.shape, reduceCtorEq, Shape.set.injEq] at h
  obtain ⟨-, rfl⟩ := h
  exact ⟨_, _, rfl⟩

/-- Apartness does not depend on the order of the sites. -/
theorem Site.Apart.symm {p q : Site} (h : p.Apart q) : q.Apart p :=
  ⟨h.1.symm, fun a b ha hb => by rw [Value.same_comm]; exact h.2 b a hb ha⟩

variable [Catalogue]

namespace Context

variable (ctx : Context)

/-! ## What a step reaches -/

/-- A set member is built on its own, whatever the set holds. -/
theorem reach_of_set {step : Step} (hkind : step.kind = .set) (c c' : Value) :
    ctx.reach step c' = ctx.reach step c := by
  simp only [reach, if_pos hkind]

/-- Steps of one kind at one site, with one target, reach one element. -/
theorem reach_congr {s₁ s₂ : Step} (hkind : s₁.kind = s₂.kind) (htarget : s₁.target = s₂.target)
    (hsite : s₁.key.site = s₂.key.site) (c : Value) : ctx.reach s₁ c = ctx.reach s₂ c := by
  unfold reach
  rw [hkind, htarget, Value.child?_congr_site hsite]

/-- A step that builds no set member reaches the element stored at its site. -/
theorem reach_of_child {step : Step} {c y : Value} {k : Key} (hkind : step.kind ≠ .set)
    (hsite : k.site = step.key.site) (h : c.child? k = some y) : ctx.reach step c = some y := by
  rw [reach, if_neg hkind, ← Value.child?_congr_site hsite, h]
  rfl

/-- An entry reaches the element it fills and enters. -/
theorem reach_of_descend {step : Step} {c c' child : Value} (hkind : step.kind ≠ .set)
    (h : (ctx.descend step c).val = (c', .ok ())) (hchild : c'.child? step.key = some child) :
    ∃ x, ctx.reach step c = some x ∧ (ctx.fill x).val = (child, .ok ()) := by
  obtain ⟨c₀, old, filled, hold, hsource, hfill, rfl, hshape, hset, hprops, -⟩ :=
    ctx.descend_ok h
  rw [Value.child?_setChild _ hold (fun p t ms hc => hset p.layout t (by rw [← hshape, hc]; rfl))
    (fun es hc => hprops (by rw [← hshape, hc]; rfl))] at hchild
  cases hchild
  exact ⟨old, by rw [reach, if_neg hkind]; exact hsource, hfill⟩

/-- What a step reaches in a tidy value is tidy under its layers once filled. -/
theorem tidy_reach {step : Step} {c x : Value} (hc : c.Tidy) (hx : ctx.reach step c = some x) :
    (ctx.fill x).val.1.inner.Tidy := by
  -- a default made for the target, or an element of the value
  have hmissing (h : ctx.missing step.target = some x) : x.inner.Tidy := by
    unfold missing at h
    cases hm : (ctx.createMissing step.target).run.val with
    | error f => rw [hm] at h; cases h
    | ok m =>
      rw [hm] at h
      cases h
      exact ctx.tidy_createMissing hm
  have hx' : x.inner.Tidy := by
    unfold reach at hx
    split at hx
    · exact hmissing hx
    · rcases Option.or_eq_some_iff.mp hx with hstored | ⟨-, hcreated⟩
      · exact hc.child hstored
      · exact hmissing hcreated
  exact ctx.tidy_fillAt x.shape hx'

/-! ## What the first step of a write puts -/

/-- `ctx.Writes path r i step c rest y`: the write of `path` whose element `i` resolves to
`step` in `c`, with the elements `rest` below it, puts `y` at the step's site: at the last
element, the text converted for the step's target; above it, the element the step reaches,
filled, with what the write below left under its layers. -/
inductive Writes (path : String) (r : Raw) (i : Nat) (step : Step) (c : Value) :
    List Segment → Value → Prop
  | last {v : Value} (hv : (ctx.coerce step.target r).run.val = .ok v) : Writes path r i step c [] v
  | below {rest : List Segment} {x filled inner : Value} {st : WalkState} (hrest : rest ≠ [])
      (hreach : ctx.reach step c = some x) (hfill : (ctx.fill x).val = (filled, .ok ()))
      (hbelow : (ctx.writeFrom path r (i + 1) (.applying step.kind) (rest.map .element)
        filled.inner).val = (inner, st, .ok ())) :
      Writes path r i step c rest (filled.withInner inner)

variable {ctx}

/-- A put at apart sites leaves what a step reaches. -/
theorem Puts.reach_of_apart {site : Site} {w c c' : Value} {step : Step}
    (h : ctx.Puts site w c c') (hb : ctx.Bound step) (hs : step.container = c.shape)
    (hapart : site.Apart step.key.site) : ctx.reach step c' = ctx.reach step c := by
  by_cases hkind : step.kind = .set
  · exact ctx.reach_of_set hkind c c'
  · exact h.reach_eq hb hs hkind hapart

/-- A step of a set's kind is bound to a set. -/
theorem Bound.container_set {step : Step} (hb : ctx.Bound step) (hkind : step.kind = .set) :
    ∃ l t, step.container = .set l t := by
  cases hb <;> first | exact ⟨_, _, rfl⟩ | cases hkind

section Writes

variable {path : String} {r : Raw} {i : Nat} {step : Step} {rest : List Segment}

/-- A write puts one value at its first site wherever its step reaches one element. -/
theorem Writes.eq_of_reach {c c' y y' : Value} (h : ctx.Writes path r i step c rest y)
    (h' : ctx.Writes path r i step c' rest y') (hreach : ctx.reach step c' = ctx.reach step c) :
    y' = y := by
  cases h with
  | last hv =>
    cases h' with
    | last hv' =>
      rw [hv] at hv'
      cases hv'
      rfl
    | below hrest => exact absurd rfl hrest
  | below hrest hreach₁ hfill hbelow =>
    cases h' with
    | last => exact absurd rfl hrest
    | below _ hreach₂ hfill' hbelow' =>
      rw [hreach, hreach₁] at hreach₂
      cases hreach₂
      rw [hfill] at hfill'
      cases hfill'
      rw [hbelow] at hbelow'
      cases hbelow'
      rfl

/-- Above the last element, a write fills what its step reaches and writes below it. -/
theorem Writes.exists_below {c y : Value} (h : ctx.Writes path r i step c rest y)
    (hrest : rest ≠ []) :
    ∃ x filled inner st, ctx.reach step c = some x ∧ (ctx.fill x).val = (filled, .ok ()) ∧
      (ctx.writeFrom path r (i + 1) (.applying step.kind) (rest.map .element)
        filled.inner).val = (inner, st, .ok ()) ∧ y = filled.withInner inner := by
  cases h with
  | last => exact absurd rfl hrest
  | below _ hreach hfill hbelow => exact ⟨_, _, _, _, hreach, hfill, hbelow, rfl⟩

/-- A write that reaches, at its first site, what another write put there enters it again:
the layers are filled already, and it goes on from under them, from what the other write
left below. -/
theorem Writes.again {path' : String} {r' : Raw} {i' : Nat} {state' st' : WalkState}
    {rest' : List Segment} {c x filled inner y : Value}
    (hfill : (ctx.fill x).val = (filled, .ok ()))
    (hprev : (ctx.writeFrom path' r' i' state' (rest'.map .element) filled.inner).val =
      (inner, st', .ok ()))
    (hreach : ctx.reach step c = some (filled.withInner inner))
    (h : ctx.Writes path r i step c rest y) (hrest : rest ≠ []) :
    ∃ inner' st, (ctx.writeFrom path r (i + 1) (.applying step.kind) (rest.map .element)
      inner).val = (inner', st, .ok ()) ∧ y = filled.withInner inner' := by
  -- what the other write left has the shape of the element and no set layer on top
  have hchanges := ctx.writeFrom_changes hprev
  have hne := Changes.ne_some ctx hchanges (Value.inner_ne_some filled)
  cases h with
  | last => exact absurd rfl hrest
  | below _ hreach' hfill' hbelow =>
    rw [hreach] at hreach'
    cases hreach'
    rw [ctx.val_fill_again hfill hchanges.shape_eq] at hfill'
    cases hfill'
    rw [Value.inner_withInner _ hne] at hbelow
    exact ⟨_, _, hbelow, Value.withInner_withInner _ hne _⟩

end Writes

variable (ctx)

/-- **A write that succeeds is a put at its first site.**  Its first element resolves to a
step bound to the value, and the value left is the value with what the write puts there
put at the step's site; where the write enters an element, the element is found there
afterwards, and the value is no set and no text table. -/
theorem writeFrom_cons_puts (hsound : ctx.registry.Sound) {path : String} {r : Raw} {i : Nat}
    {state st : WalkState} {seg : Segment} {rest : List Segment} {c c' : Value} (hkept : c.Kept)
    (h : (ctx.writeFrom path r i state ((seg :: rest).map .element) c).val = (c', st, .ok ())) :
    ∃ step y, (ctx.resolve seg c.shape rest.isEmpty).run.val = .ok step ∧
      step.container = c.shape ∧ ctx.Bound step ∧ ctx.Writes path r i step c rest y ∧
      ctx.Puts step.key.site y c c' ∧
      (rest ≠ [] → step.kind ≠ .set → c'.child? step.key = some y ∧
        (∀ p t ms, c ≠ .set p t ms) ∧ ∀ es, c ≠ .properties es) := by
  have hunwrap := (ctx.writeFrom_container h).2
  obtain ⟨step, hres, hcases⟩ := ctx.writeFrom_cons_ok h
  simp only [legStep, List.isEmpty_map] at hres
  obtain ⟨hcont, hb⟩ := ctx.resolve_bound hres
  rw [hunwrap] at hcont
  rcases hcases with ⟨hnil, v, hv, hstore⟩ |
    ⟨hrest, hset, member, filled, inner, hmember, hfill, hbelow, hstore⟩ |
    ⟨hrest, hkind, c₁, child, inner, hdesc, hch, hbelow, rfl⟩
  · -- the last element: the converted text is stored
    rw [List.map_eq_nil_iff] at hnil
    subst hnil
    exact ⟨step, v, hres, hcont, hb, .last hv, ctx.store_puts hsound hb hcont hkept hstore,
      fun hne => absurd rfl hne⟩
  · -- a set member built on its own and stored
    have hreach : ctx.reach step c = some member := by
      simp [reach, hset, missing, hmember, Except.toOption]
    refine ⟨step, _, hres, hcont, hb, .below (by simpa using hrest) hreach hfill hbelow,
      ctx.store_puts hsound hb hcont hkept hstore, fun _ hk => absurd hset hk⟩
  · -- an element entered, written below, and put back
    obtain ⟨x, hreach, hfill⟩ := ctx.reach_of_descend hkind hdesc hch
    obtain ⟨_, _, _, _, _, _, _, _, hnotset, hnotprops, _⟩ := ctx.descend_ok hdesc
    refine ⟨step, _, hres, hcont, hb, .below (by simpa using hrest) hreach hfill hbelow,
      ctx.descend_puts hsound hb hcont hkept hdesc _, fun _ _ => ⟨ctx.descend_setChild _ hdesc hch,
        fun p t ms hc => hnotset p.layout t (by rw [hc]; rfl),
        fun es hc => hnotprops (by rw [hc]; rfl)⟩⟩

/-! ## Sites below a step -/

/-- A path of one element addresses its one site. -/
theorem sites_single {seg : Segment} {c : Value} {step : Step}
    (h : (ctx.resolve seg c.shape ([] : List Segment).isEmpty).run.val = .ok step) :
    ctx.sites c [seg] = [step.key.site] := by
  rw [ctx.sites_cons h]
  cases ctx.reach step c <;> rfl

/-- A path that ends at the first site of another addresses a prefix of its sites. -/
theorem sites_single_prefix {seg seg' : Segment} {rest' : List Segment} {c : Value}
    {step step' : Step}
    (h : (ctx.resolve seg c.shape ([] : List Segment).isEmpty).run.val = .ok step)
    (h' : (ctx.resolve seg' c.shape rest'.isEmpty).run.val = .ok step')
    (hsite : step.key.site = step'.key.site) :
    ctx.sites c [seg] <+: ctx.sites c (seg' :: rest') := by
  rw [ctx.sites_single h, ctx.sites_cons h', hsite]
  exact List.cons_prefix_cons.mpr ⟨rfl, List.nil_prefix⟩

/-- Below a step, the sites go on from the element it reaches, filled. -/
theorem sites_cons_of_fill {seg : Segment} {rest : List Segment} {c x filled : Value}
    {step : Step} (h : (ctx.resolve seg c.shape rest.isEmpty).run.val = .ok step)
    (hreach : ctx.reach step c = some x) (hfill : (ctx.fill x).val = (filled, .ok ())) :
    ctx.sites c (seg :: rest) = step.key.site :: ctx.sites filled.inner rest := by
  rw [ctx.sites_cons_of_reach h hreach, hfill]

/-! ## Commuting writes -/

/-- **Writes along independent walks commute.**  From a tidy value, two walks whose sites are
independent, neither a prefix of the other, that succeed in both orders leave alike values.
By induction on the first walk, generalised over the second and the value: at apart first
sites the two puts commute, each write putting what it puts alone; at one site both enter
the one element there, and the induction goes below. -/
theorem writeFrom_comm (hsound : ctx.registry.Sound) (hfaith : ctx.registry.Faithful)
    {path₁ path₂ : String} {r₁ r₂ : Raw} :
    ∀ (segs₁ segs₂ : List Segment) {i₁ i₂ : Nat} {state₁ state₂ o₁ o₂ o₁₂ o₂₁ : WalkState}
      {c c₁ c₂ c₁₂ c₂₁ : Value}, c.Tidy →
      ¬ ctx.sites c segs₁ <+: ctx.sites c segs₂ → ¬ ctx.sites c segs₂ <+: ctx.sites c segs₁ →
      (ctx.writeFrom path₁ r₁ i₁ state₁ (segs₁.map .element) c).val = (c₁, o₁, .ok ()) →
      (ctx.writeFrom path₂ r₂ i₂ state₂ (segs₂.map .element) c₁).val = (c₁₂, o₁₂, .ok ()) →
      (ctx.writeFrom path₂ r₂ i₂ state₂ (segs₂.map .element) c).val = (c₂, o₂, .ok ()) →
      (ctx.writeFrom path₁ r₁ i₁ state₁ (segs₁.map .element) c₂).val = (c₂₁, o₂₁, .ok ()) →
      c₁₂.Alike c₂₁
  | [], _, _, _, _, _, _, _, _, _, _, _, _, _, _, _, hpre, _, _, _, _, _ =>
    absurd (List.nil_prefix) hpre
  | _, [], _, _, _, _, _, _, _, _, _, _, _, _, _, _, _, hpre, _, _, _, _ =>
    absurd (List.nil_prefix) hpre
  | seg₁ :: rest₁, seg₂ :: rest₂, i₁, i₂, state₁, state₂, o₁, o₂, o₁₂, o₂₁, c, c₁, c₂, c₁₂, c₂₁,
      hc, hpre₁, hpre₂, h₁, h₁₂, h₂, h₂₁ => by
    obtain ⟨step₁, y₁, hres₁, hcont₁, hb₁, hw₁, hput₁, henter₁⟩ :=
      ctx.writeFrom_cons_puts hsound hc.kept h₁
    obtain ⟨step₂, y₂, hres₂, hcont₂, hb₂, hw₂, hput₂, henter₂⟩ :=
      ctx.writeFrom_cons_puts hsound hc.kept h₂
    -- the second write of each order resolves its first element as it does alone
    obtain ⟨step₂', y₂', hres₂', -, -, hw₂', hput₁₂, -⟩ :=
      ctx.writeFrom_cons_puts hsound hput₁.kept h₁₂
    rw [(ctx.writeFrom_container h₁).1, hres₂] at hres₂'
    cases hres₂'
    obtain ⟨step₁', y₁', hres₁', -, -, hw₁', hput₂₁, -⟩ :=
      ctx.writeFrom_cons_puts hsound hput₂.kept h₂₁
    rw [(ctx.writeFrom_container h₂).1, hres₁] at hres₁'
    cases hres₁'
    by_cases hsite : step₁.key.site = step₂.key.site
    case neg =>
      -- apart sites: each write puts what it puts alone, and the puts commute
      have hapart := hb₁.apart hfaith hb₂ (hcont₁.trans hcont₂.symm) hsite
      obtain rfl := hw₂.eq_of_reach hw₂' (hput₁.reach_of_apart hb₂ hcont₂ hapart)
      obtain rfl := hw₁.eq_of_reach hw₁' (hput₂.reach_of_apart hb₁ hcont₁ hapart.symm)
      exact hput₁.swap hput₁₂ hput₂ hput₂₁ (.inl hapart)
    case pos =>
      obtain ⟨hkind, htarget⟩ := hb₁.target_eq hb₂ (hcont₁.trans hcont₂.symm) hsite
      -- neither path ends at the shared site, or its sites would begin the other's
      have hrest₁ : rest₁ ≠ [] := by
        rintro rfl
        exact hpre₁ (ctx.sites_single_prefix hres₁ hres₂ hsite)
      have hrest₂ : rest₂ ≠ [] := by
        rintro rfl
        exact hpre₂ (ctx.sites_single_prefix hres₂ hres₁ hsite.symm)
      by_cases hset : step₁.kind = .set
      case pos =>
        -- set members are built on their own: both orders add both members
        obtain rfl := hw₂.eq_of_reach hw₂' (ctx.reach_of_set (hkind ▸ hset) c c₁)
        obtain rfl := hw₁.eq_of_reach hw₁' (ctx.reach_of_set hset c c₂)
        obtain ⟨l, t, hcset⟩ := hb₁.container_set hset
        rw [hcont₁] at hcset
        obtain ⟨p, ms, rfl⟩ := Value.shape_eq_set hcset
        exact hput₁.swap hput₁₂ hput₂ hput₂₁ (.inr ⟨p, t, ms, rfl⟩)
      case neg =>
        -- one element entered by both: the second write of each order enters what the first put
        obtain ⟨hch₁, hnotset, hnotprops⟩ := henter₁ hrest₁ hset
        obtain ⟨hch₂, -, -⟩ := henter₂ hrest₂ (hkind ▸ hset)
        obtain ⟨x, filled, inner₁, _, hreach₁, hfill, hbelow₁, rfl⟩ := hw₁.exists_below hrest₁
        obtain ⟨x₂, filled₂, inner₂, _, hreach₂, hfill₂, hbelow₂, rfl⟩ := hw₂.exists_below hrest₂
        rw [← ctx.reach_congr hkind htarget hsite, hreach₁] at hreach₂
        cases hreach₂
        rw [hfill] at hfill₂
        cases hfill₂
        obtain ⟨inner₁₂, _, hbelow₁₂, rfl⟩ := hw₂'.again hfill hbelow₁
          (ctx.reach_of_child (hkind ▸ hset) hsite hch₁) hrest₂
        obtain ⟨inner₂₁, _, hbelow₂₁, rfl⟩ := hw₁'.again hfill hbelow₂
          (ctx.reach_of_child hset hsite.symm hch₂) hrest₁
        -- below the site, the two walks are independent from the filled element
        have htidy : filled.inner.Tidy := by
          simpa [hfill] using ctx.tidy_reach hc hreach₁
        have hsites₁ := ctx.sites_cons_of_fill hres₁ hreach₁ hfill
        have hsites₂ := ctx.sites_cons_of_fill hres₂
          (by rw [← ctx.reach_congr hkind htarget hsite, hreach₁]) hfill
        rw [hsites₁, hsites₂, hsite, List.cons_prefix_cons] at hpre₁ hpre₂
        have hbelow := writeFrom_comm hsound hfaith rest₁ rest₂ htidy (fun h => hpre₁ ⟨rfl, h⟩)
          (fun h => hpre₂ ⟨rfl, h⟩) hbelow₁ hbelow₁₂ hbelow₂ hbelow₂₁
        -- the second put at the site wins, and the two orders put alike values there
        rw [← hsite] at hput₁₂ hput₂
        have hlast₁₂ := hput₁.overwrite hput₁₂ hnotset
        have hlast₂₁ := hput₂.overwrite hput₂₁ hnotset
        exact hlast₁₂.congr hlast₂₁ (.withInner filled hbelow) hnotset hnotprops

/-! ## Commuting writes by path -/

/-- A path addresses sites only when it parses into at least one element, and then it
addresses the sites of its elements. -/
theorem exists_parse_of_address {root : Value} {path : String} (h : ctx.address root path ≠ []) :
    ∃ p, Path.parse path = .ok p ∧ p.steps ≠ [] ∧
      ctx.address root path = ctx.sites root (p.steps.map (·.segment)) := by
  unfold address at h ⊢
  cases hp : Path.parse path with
  | error e =>
    rw [hp] at h
    exact absurd rfl h
  | ok p =>
    rw [hp] at h
    refine ⟨p, rfl, fun hs => h ?_, rfl⟩
    dsimp only
    rw [hs]
    rfl

/-- A write by a path of at least one element that succeeds is a walk of its elements from
the root. -/
theorem writeFrom_of_set {root root' : Value} {path : String} {r : Raw} {p : Path}
    (hp : Path.parse path = .ok p) (hne : p.steps ≠ [])
    (h : (ctx.set root path r).val = (root', .ok ())) :
    ∃ st, (ctx.writeFrom p.source r 0 .atRoot ((p.steps.map (·.segment)).map .element)
      root).val = (root', st, .ok ()) := by
  have hlegs : p.route.legs = (p.steps.map (·.segment)).map .element := by simp [Path.route]
  rw [val_set, hp] at h
  dsimp only at h
  rw [val_writeWalk, if_neg (by simpa [Path.route] using hne)] at h
  generalize hw : (ctx.writeFrom p.route.path r 0 .atRoot p.route.legs root).val = w at h
  obtain ⟨c', st, res⟩ := w
  cases h
  rw [hlegs] at hw
  exact ⟨st, hw⟩

/-- **Independent writes commute.**  Two writes into a tidy value by paths whose addresses
are independent, neither a prefix of the other, that succeed in either order leave alike
values: the same value, but for the order in which maps and sets keep what they hold.  An
address compares each subscript as the walk converts it, so two texts of one key are one
site; the registry's conversions give the shape asked for, and keys that tie only when they
are equal. -/
theorem set_independent_comm (hsound : ctx.registry.Sound) (hfaith : ctx.registry.Faithful)
    {root root₁ root₂ root₁₂ root₂₁ : Value} {path₁ path₂ : String} {r₁ r₂ : Raw}
    (hroot : root.Tidy)
    (hindep₁ : ¬ ctx.address root path₁ <+: ctx.address root path₂)
    (hindep₂ : ¬ ctx.address root path₂ <+: ctx.address root path₁)
    (h₁ : (ctx.set root path₁ r₁).val = (root₁, .ok ()))
    (h₁₂ : (ctx.set root₁ path₂ r₂).val = (root₁₂, .ok ()))
    (h₂ : (ctx.set root path₂ r₂).val = (root₂, .ok ()))
    (h₂₁ : (ctx.set root₂ path₁ r₁).val = (root₂₁, .ok ())) :
    root₁₂.Alike root₂₁ := by
  -- an address that is empty begins every other, so both paths parse into elements
  obtain ⟨p₁, hp₁, hne₁, ha₁⟩ := ctx.exists_parse_of_address fun h => hindep₁ (by
    rw [h]
    exact List.nil_prefix)
  obtain ⟨p₂, hp₂, hne₂, ha₂⟩ := ctx.exists_parse_of_address fun h => hindep₂ (by
    rw [h]
    exact List.nil_prefix)
  rw [ha₁, ha₂] at hindep₁ hindep₂
  obtain ⟨_, w₁⟩ := ctx.writeFrom_of_set hp₁ hne₁ h₁
  obtain ⟨_, w₁₂⟩ := ctx.writeFrom_of_set hp₂ hne₂ h₁₂
  obtain ⟨_, w₂⟩ := ctx.writeFrom_of_set hp₂ hne₂ h₂
  obtain ⟨_, w₂₁⟩ := ctx.writeFrom_of_set hp₁ hne₁ h₂₁
  exact ctx.writeFrom_comm hsound hfaith _ _ hroot hindep₁ hindep₂ w₁ w₁₂ w₂ w₂₁

end Context

end

namespace Context

set_option maxRecDepth 10000 in
/-- Two writes into the ports of a node that has none, at indices one past the other: the
first pads the list, the other fills a default, and either order leaves one value. -/
theorem set_independent_comm_ports :
    let ctx : Context := { registry := (Registry.empty.register (.record Sample.port)).val }
    let node := Sample.node.zero
    ctx.address node "ports[1].number" = [.field "ports", .index 1, .field "number"] ∧
      ctx.address node "ports[0].number" = [.field "ports", .index 0, .field "number"] ∧
      (ctx.set node "ports[1].number" (.one "5")).val.2 = .ok () ∧
      (ctx.set (ctx.set node "ports[1].number" (.one "5")).val.1 "ports[0].number"
        (.one "7")).val.2 = .ok () ∧
      (ctx.set node "ports[0].number" (.one "7")).val.2 = .ok () ∧
      (ctx.set (ctx.set node "ports[0].number" (.one "7")).val.1 "ports[1].number"
        (.one "5")).val.2 = .ok () ∧
      (ctx.set (ctx.set node "ports[1].number" (.one "5")).val.1 "ports[0].number"
        (.one "7")).val.1.Alike
        (ctx.set (ctx.set node "ports[0].number" (.one "7")).val.1 "ports[1].number"
          (.one "5")).val.1 := by
  intro ctx node
  -- both paths are a field, a subscript and a field
  have hparse₁ : Path.parse "ports[1].number" = .ok ⟨"ports[1].number",
      [⟨.property "ports", 0⟩, ⟨.subscript "1", 5⟩, ⟨.property "number", 8⟩]⟩ := by
    have hsegments : Path.segments ['[', '1', ']', '.', 'n', 'u', 'm', 'b', 'e', 'r'] 5 =
        .ok [⟨.subscript "1", 5⟩, ⟨.property "number", 8⟩] := by
      rw [show ['[', '1', ']', '.', 'n', 'u', 'm', 'b', 'e', 'r'] =
        '[' :: (['1'] ++ ']' :: ['.', 'n', 'u', 'm', 'b', 'e', 'r']) from rfl,
        Path.segments_subscript (by decide)]
      simp [Path.segments, Path.isDelimiter, Char.utf8Size, Path.byteLength]
    simp [Path.parse, Path.isDelimiter, Char.utf8Size, hsegments]
  have hparse₀ : Path.parse "ports[0].number" = .ok ⟨"ports[0].number",
      [⟨.property "ports", 0⟩, ⟨.subscript "0", 5⟩, ⟨.property "number", 8⟩]⟩ := by
    have hsegments : Path.segments ['[', '0', ']', '.', 'n', 'u', 'm', 'b', 'e', 'r'] 5 =
        .ok [⟨.subscript "0", 5⟩, ⟨.property "number", 8⟩] := by
      rw [show ['[', '0', ']', '.', 'n', 'u', 'm', 'b', 'e', 'r'] =
        '[' :: (['0'] ++ ']' :: ['.', 'n', 'u', 'm', 'b', 'e', 'r']) from rfl,
        Path.segments_subscript (by decide)]
      simp [Path.segments, Path.isDelimiter, Char.utf8Size, Path.byteLength]
    simp [Path.parse, Path.isDelimiter, Char.utf8Size, hsegments]
  have haddr₁ :
      ctx.address node "ports[1].number" = [.field "ports", .index 1, .field "number"] := by
    rw [address, hparse₁]
    rfl
  have haddr₀ :
      ctx.address node "ports[0].number" = [.field "ports", .index 0, .field "number"] := by
    rw [address, hparse₀]
    rfl
  have hrun₁ : (ctx.set node "ports[1].number" (.one "5")).val.2 = .ok () := by
    rw [val_set, hparse₁]
    rfl
  have hrun₁₀ : (ctx.set (ctx.set node "ports[1].number" (.one "5")).val.1 "ports[0].number"
      (.one "7")).val.2 = .ok () := by
    rw [val_set, hparse₀, val_set, hparse₁]
    rfl
  have hrun₀ : (ctx.set node "ports[0].number" (.one "7")).val.2 = .ok () := by
    rw [val_set, hparse₀]
    rfl
  have hrun₀₁ : (ctx.set (ctx.set node "ports[0].number" (.one "7")).val.1 "ports[1].number"
      (.one "5")).val.2 = .ok () := by
    rw [val_set, hparse₁, val_set, hparse₀]
    rfl
  have htyped : ctx.registry.Typed := (Registry.Built.register _ .empty).typed
  have hnode : node.Tidy := Record.tidy_zero Sample.node
  refine ⟨haddr₁, haddr₀, hrun₁, hrun₁₀, hrun₀, hrun₀₁,
    set_independent_comm ctx htyped.sound htyped.faithful hnode ?_ ?_
    (Prod.ext rfl hrun₁) (Prod.ext rfl hrun₁₀) (Prod.ext rfl hrun₀) (Prod.ext rfl hrun₀₁)⟩
  · rw [haddr₁, haddr₀]
    simp
  · rw [haddr₁, haddr₀]
    simp

end Context

end ValuePaths
