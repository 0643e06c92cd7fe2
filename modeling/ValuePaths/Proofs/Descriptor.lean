import ValuePaths.Proofs.Typing
import ValuePaths.Proofs.PathGrammar
import ValuePaths.Sample.Records

/-!
# Compiled paths agree with the walk

A path compiled against a root shape, applied to a well-typed value of that shape, reads
and writes exactly what the walk of the same path does: the same value or absence, the
same error at the same element, the same value left behind.

The walk resolves each element against the value it meets, the compiled path against the
shape declared for it.  They bind the same step because what a step meets in a well-typed
value has the declared shape up to option layers (`Value.Fits`), and resolution looks
through option layers.  Both walks then run the same accesses on the same values, so the
proof is an induction over the path that carries `Value.Fits` from each element to the
next (`readFrom_compiled`, `writeFrom_compiled`).
-/

namespace ValuePaths

section

variable [Catalogue]

open Logged

/-- A read that finds a value finds it under the layers of an element stored in the container
under its layers. -/
theorem Step.read_eq_value {step : Step} {v w : Value} (h : step.read v = some (.value w)) :
    ∃ c x, v.present = some c ∧ c.child? step.key = some x ∧ x.present = some w := by
  unfold Step.read at h
  obtain ⟨c, hc, h⟩ := Option.bind_eq_some_iff.mp h
  refine ⟨c, ?_⟩
  split at h
  · simp at h
  · split at h
    · simpa [hc, Option.bind_eq_some_iff] using h
    · cases h
  · simpa [hc, Option.bind_eq_some_iff] using h

namespace Value

/-- A value that a compiled path may meet where it expects shape `s`: well typed, and of
shape `s` up to option layers. -/
structure Fits (v : Value) (s : Shape) : Prop where
  typed : v.WellTyped
  shape : v.shape.unwrap = s.unwrap

/-- The value under the set layers of a well-typed value fits its shape. -/
theorem WellTyped.fits_inner {v : Value} {s : Shape} (hv : v.WellTyped) (hs : v.shape = s) :
    v.inner.Fits s :=
  ⟨hv.inner.1, hs ▸ hv.inner.2⟩

/-- What a bound step reads in a value that fits its container fits the step's target. -/
theorem Fits.read {ctx : Context} {s t : Shape} {v w : Value} {step : Step} (hv : v.Fits s)
    (hb : ctx.Bound step) (hs : step.container = s.unwrap) (ht : step.target = .typed t)
    (h : step.read v = some (.value w)) : w.Fits t := by
  obtain ⟨c, x, hc, hx, hw⟩ := Step.read_eq_value h
  have hc' := hv.typed.present hc
  have hcs : c.shape.unwrap = step.container := by
    rw [hc'.2, Shape.unwrap_unwrap, hv.shape, hs]
  have hxt := hc'.1.child hb hcs hx
  have hw' := hxt.1.present hw
  exact ⟨hw'.1, by rw [hw'.2, hxt.2 t ht, Shape.unwrap_unwrap]⟩

/-- What a bound step reads in a well-typed value is well typed. -/
theorem WellTyped.read {ctx : Context} {v w : Value} {step : Step} (hv : v.WellTyped)
    (hb : ctx.Bound step) (hs : step.container = v.shape.unwrap)
    (h : step.read v = .some (.value w)) : w.WellTyped := by
  obtain ⟨c, x, hc, hx, hw⟩ := Step.read_eq_value h
  have hc' := hv.present hc
  have hcs : c.shape.unwrap = step.container := by rw [hc'.2, Shape.unwrap_unwrap, hs]
  exact ((hc'.1.child hb hcs hx).1.present hw).1

end Value

namespace Path

omit [Catalogue] in
/-- A parsed path keeps its text. -/
theorem parse_source {source : String} {p : Path} (h : parse source = .ok p) :
    p.source = source := by
  unfold parse at h
  dsimp only at h
  split at h
  · cases h
    rfl
  · cases h

end Path

namespace Context

variable (ctx : Context)

/-- Resolution depends on the container shape only up to option layers. -/
theorem resolve_congr {e : Segment} {s s' : Shape} (isLast : Bool) (h : s.unwrap = s'.unwrap) :
    ctx.resolve e s isLast = ctx.resolve e s' isLast := by
  rw [← resolve_unwrap, h, resolve_unwrap]

/-- A compiled element: its step, bound to the shape reached, and the rest compiled from
the shape it targets; an untyped target ends the path. -/
theorem compileFrom_cons_ok {path : String} {i : Nat} {s : Shape} {e : Segment}
    {rest : List Segment} {steps : List Step}
    (h : (ctx.compileFrom path i s (e :: rest)).val = .ok steps) :
    ∃ step steps', steps = step :: steps' ∧ (ctx.resolve e s rest.isEmpty).run.val = .ok step ∧
      ((∃ t, step.target = .typed t ∧ (ctx.compileFrom path (i + 1) t rest).val = .ok steps') ∨
        (step.target = .untyped ∧ rest = [] ∧ steps' = [])) := by
  rw [val_compileFrom_cons] at h
  cases hres : (ctx.resolve e s rest.isEmpty).run.val with
  | error f => rw [hres] at h; cases h
  | ok step =>
    rw [hres] at h
    dsimp only at h
    cases ht : step.target with
    | typed t =>
      rw [ht] at h
      dsimp only at h
      cases hrest : (ctx.compileFrom path (i + 1) t rest).val with
      | error f => rw [hrest] at h; cases h
      | ok steps' =>
        rw [hrest] at h
        cases h
        exact ⟨step, steps', rfl, rfl, .inl ⟨t, ht, hrest⟩⟩
    | untyped =>
      rw [ht] at h
      dsimp only at h
      split at h
      · rename_i hlast
        cases h
        exact ⟨step, [], rfl, rfl, .inr ⟨ht, List.isEmpty_iff.mp hlast, rfl⟩⟩
      · cases h

/-- A compiled path has one step for each element. -/
theorem compileFrom_length {path : String} :
    ∀ (segs : List Segment) {i : Nat} {s : Shape} {steps : List Step},
      (ctx.compileFrom path i s segs).val = .ok steps → steps.length = segs.length
  | [], _, _, _, h => by
    cases h
    rfl
  | e :: rest, _, _, _, h => by
    obtain ⟨step, steps', rfl, -, htarget⟩ := ctx.compileFrom_cons_ok h
    rcases htarget with ⟨t, -, hrest⟩ | ⟨-, rfl, rfl⟩
    · simp [compileFrom_length rest hrest]
    · rfl

/-- A compiled path is empty exactly when the path is. -/
theorem compileFrom_isEmpty {path : String} {i : Nat} {s : Shape} {segs : List Segment}
    {steps : List Step} (h : (ctx.compileFrom path i s segs).val = .ok steps) :
    steps.isEmpty = segs.isEmpty := by
  have hlen := ctx.compileFrom_length segs h
  cases steps <;> cases segs <;> simp_all

/-- Reading along compiled steps gives what reading along the elements they were compiled
from gives, from any value that fits the shape they were compiled at. -/
theorem readFrom_compiled {path : String} :
    ∀ (segs : List Segment) {i : Nat} {state : WalkState} {s : Shape} {v : Value}
      {steps : List Step}, (ctx.compileFrom path i s segs).val = .ok steps → v.Fits s →
      (ctx.readFrom path i state (steps.map .resolved) v).val =
        (ctx.readFrom path i state (segs.map .element) v).val
  | [], _, _, _, _, _, h, _ => by
    cases h
    rfl
  | e :: rest, i, state, s, v, _, h, hv => by
    obtain ⟨step, steps', rfl, hres, htarget⟩ := ctx.compileFrom_cons_ok h
    have hb := ctx.resolve_bound hres
    -- the walk resolves the element against the value to the step compiled for it
    have hdyn : (ctx.legStep (.element e) v.shape (rest.map Leg.element).isEmpty).run.val =
        .ok step := by
      rw [legStep, List.isEmpty_map, ctx.resolve_congr _ hv.shape]
      exact hres
    have hcomp : (ctx.legStep (.resolved step) v.shape (steps'.map Leg.resolved).isEmpty).run.val =
        .ok step := rfl
    simp only [List.map_cons, val_readFrom_cons, hdyn, hcomp]
    cases hr : step.read v with
    | none => rfl
    | some found =>
      cases found with
      | count n => rfl
      | value w =>
        rcases htarget with ⟨t, ht, hrest⟩ | ⟨-, rfl, rfl⟩
        · exact readFrom_compiled rest hrest (hv.read hb.2 hb.1 ht hr)
        · rfl

/-- Writing along compiled steps does what writing along the elements they were compiled
from does, into any value that fits the shape they were compiled at. -/
theorem writeFrom_compiled {path : String} {r : Raw} :
    ∀ (segs : List Segment) {i : Nat} {state : WalkState} {s : Shape} {c : Value}
      {steps : List Step}, (ctx.compileFrom path i s segs).val = .ok steps → c.Fits s →
      (ctx.writeFrom path r i state (steps.map .resolved) c).val =
        (ctx.writeFrom path r i state (segs.map .element) c).val
  | [], _, _, _, _, _, h, _ => by
    cases h
    rfl
  | e :: rest, i, state, s, c, _, h, hc => by
    obtain ⟨step, steps', rfl, hres, htarget⟩ := ctx.compileFrom_cons_ok h
    have hb := ctx.resolve_bound hres
    have hempty : steps'.isEmpty = rest.isEmpty := by
      rcases htarget with ⟨t, -, hrest⟩ | ⟨-, rfl, rfl⟩
      · exact ctx.compileFrom_isEmpty hrest
      · rfl
    have hdyn : (ctx.legStep (.element e) c.shape (rest.map Leg.element).isEmpty).run.val =
        .ok step := by
      rw [legStep, List.isEmpty_map, ctx.resolve_congr _ hc.shape]
      exact hres
    have hcomp : (ctx.legStep (.resolved step) c.shape (steps'.map Leg.resolved).isEmpty).run.val =
        .ok step := rfl
    rw [List.map_cons, List.map_cons, val_writeFrom_cons, val_writeFrom_cons, hdyn, hcomp]
    simp only [List.isEmpty_map, hempty]
    split
    · rfl
    · rename_i hlast
      -- below the last element the target is typed, and both walks go on in the same value
      obtain ⟨t, ht, hrest⟩ : ∃ t, step.target = .typed t ∧
          (ctx.compileFrom path (i + 1) t rest).val = .ok steps' := by
        rcases htarget with htyped | ⟨-, rfl, -⟩
        · exact htyped
        · simp at hlast
      split
      · cases hm : (ctx.createMissing step.target).run.val with
        | error f => rfl
        | ok member =>
          rw [ht] at hm
          have hmember := ctx.createMissing_typed hm ▸ Shape.wellTyped_zero t
          have hfill := ctx.wellTyped_fill hmember.1
          simp only
          rw [writeFrom_compiled rest hrest (hfill.1.fits_inner (hfill.2.trans hmember.2))]
      · cases hd : (ctx.descend step c).val with
        | mk c' res =>
          cases res with
          | error f => rfl
          | ok u =>
            cases u
            cases hch : c'.child? step.key with
            | none => rfl
            | some child =>
              have hchild := ctx.wellTyped_descend hc.typed hb.2 (hc.shape.trans hb.1.symm) hd hch
              simp only
              rw [writeFrom_compiled rest hrest (hchild.1.fits_inner (hchild.2 t ht))]

/-- A path compiled against a root shape reads and writes, in every well-typed value of
that shape, exactly what the walk of the same path reads and writes: the same value or
absence, the same error at the same element, and the same value left behind. -/
theorem compiled_eq_walk {root : Shape} {path : String} {d : Descriptor}
    (hd : (ctx.compile root path).val = .ok d) {v : Value} (hv : v.WellTyped)
    (hroot : v.shape = root) (r : Raw) :
    (ctx.readCompiled d v).val = (ctx.get v path).val ∧
      (ctx.writeCompiled d v r).val = (ctx.set v path r).val := by
  rw [val_compile] at hd
  cases hp : Path.parse path with
  | error e => rw [hp] at hd; cases hd
  | ok p =>
    rw [hp] at hd
    dsimp only at hd
    cases hc : (ctx.compileFrom path 0 root (p.steps.map (·.segment))).val with
    | error e => rw [hc] at hd; cases hd
    | ok steps =>
      rw [hc] at hd
      cases hd
      have hcheck : Descriptor.checkRoot ⟨root, path, steps⟩ v = .ok () := by
        simp [Descriptor.checkRoot, hroot]
      have hlegs : p.route = ⟨path, (p.steps.map (·.segment)).map .element⟩ := by
        simp [Path.route, Path.parse_source hp]
      have hfits : v.Fits root := ⟨hv, by rw [hroot]⟩
      rw [val_readCompiled, val_writeCompiled, hcheck, val_get, val_set, hp]
      dsimp only
      rw [hlegs]
      refine ⟨ctx.readFrom_compiled _ hc hfits, ?_⟩
      have hempty : (steps.map Leg.resolved).isEmpty =
          ((p.steps.map (·.segment)).map Leg.element).isEmpty := by
        simp only [List.isEmpty_map, ctx.compileFrom_isEmpty hc]
      simp only [val_writeWalk, Descriptor.route, hempty, ctx.writeFrom_compiled _ hc hfits]

end Context

end

namespace Context

set_option maxRecDepth 4000 in
/-- The path `c` compiled against `Leaf` reads and writes the default leaf as the walk does,
and so does the path `[1][0]` compiled against a list of byte lists, in a list of two. -/
theorem compiled_eq_walk_leaf :
    ((({ registry := .empty } : Context).compile (.record Sample.leaf) "c").val =
        .ok ⟨.record Sample.leaf, "c",
          [⟨.record, .field "c" .readWrite, .record Sample.leaf, .typed (.scalar (.int .u32))⟩]⟩ ∧
      (Record.zero Sample.leaf).WellTyped ∧ (Record.zero Sample.leaf).shape = .record Sample.leaf ∧
      ((({ registry := .empty } : Context).readCompiled ⟨.record Sample.leaf, "c",
          [⟨.record, .field "c" .readWrite, .record Sample.leaf, .typed (.scalar (.int .u32))⟩]⟩
          (Record.zero Sample.leaf)).val =
        (({ registry := .empty } : Context).get (Record.zero Sample.leaf) "c").val ∧
      (({ registry := .empty } : Context).writeCompiled ⟨.record Sample.leaf, "c",
          [⟨.record, .field "c" .readWrite, .record Sample.leaf, .typed (.scalar (.int .u32))⟩]⟩
          (Record.zero Sample.leaf) (.one "7")).val =
        (({ registry := .empty } : Context).set (Record.zero Sample.leaf) "c" (.one "7")).val)) ∧
    let ctx : Context := { registry := (Registry.empty.register
      (.list .contiguous (.list .contiguous (.scalar (.int .u8))))).val }
    let path := Path.render [.subscript "1", .subscript "0"]
    let root : Value := .list .contiguous (.list .contiguous (.scalar (.int .u8)))
      [.list .contiguous (.scalar (.int .u8)) [.int .u8 1, .int .u8 2],
        .list .contiguous (.scalar (.int .u8)) [.int .u8 3]]
    let d : Descriptor := ⟨.list .contiguous (.list .contiguous (.scalar (.int .u8))), path,
      [⟨.list, .index 1, .list .contiguous (.list .contiguous (.scalar (.int .u8))),
          .typed (.list .contiguous (.scalar (.int .u8)))⟩,
        ⟨.list, .index 0, .list .contiguous (.scalar (.int .u8)), .typed (.scalar (.int .u8))⟩]⟩
    (ctx.compile (.list .contiguous (.list .contiguous (.scalar (.int .u8)))) path).val = .ok d ∧
      root.WellTyped ∧ root.shape = .list .contiguous (.list .contiguous (.scalar (.int .u8))) ∧
      ((ctx.readCompiled d root).val = (ctx.get root path).val ∧
        (ctx.writeCompiled d root (.one "9")).val = (ctx.set root path (.one "9")).val) := by
  refine ⟨?_, ?_⟩
  · have hd : (({ registry := .empty } : Context).compile (.record Sample.leaf) "c").val =
        .ok ⟨.record Sample.leaf, "c",
          [⟨.record, .field "c" .readWrite, .record Sample.leaf,
            .typed (.scalar (.int .u32))⟩]⟩ := by
      have hparse : Path.parse "c" = .ok ⟨"c", [⟨.property "c", 0⟩]⟩ := by
        simp [Path.parse, Path.segments, Path.isDelimiter]
      rw [val_compile, hparse]
      rfl
    exact ⟨hd, (Record.wellTyped_zero Sample.leaf).1, rfl,
      compiled_eq_walk _ hd (Record.wellTyped_zero Sample.leaf).1 rfl (.one "7")⟩
  · intro ctx path root d
    have hparse : Path.parse path = .ok ⟨path, Path.place [.subscript "1", .subscript "0"] 0⟩ :=
      Path.parse_render (List.cons_ne_nil _ _) (by decide)
    have hd : (ctx.compile (.list .contiguous (.list .contiguous (.scalar (.int .u8)))) path).val =
        .ok d := by
      rw [val_compile, hparse]
      rfl
    have hroot : root.WellTyped := by
      refine .list (by simp [Value.shape]) fun x hx => ?_
      simp only [List.mem_cons, List.not_mem_nil, or_false] at hx
      rcases hx with rfl | rfl
      · exact .intList .contiguous .u8 [1, 2]
      · exact .intList .contiguous .u8 [3]
    exact ⟨hd, hroot, rfl, compiled_eq_walk _ hd hroot rfl (.one "9")⟩

end Context

end ValuePaths
