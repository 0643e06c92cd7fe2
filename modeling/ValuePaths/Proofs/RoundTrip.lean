import ValuePaths.Proofs.Store
import ValuePaths.Proofs.PathGrammar
import ValuePaths.Proofs.Conversion
import ValuePaths.Sample.Records

/-!
# Reading back what was written

A successful write is read back by the same path: the read finds the value that the text
converted to for the target of the path's last element, with its `Option` layers stripped,
or finds nothing when one of those layers is unset.  The write and the read go through
different code (a write creates what is missing, fills `Option` layers and stores; a read
only looks), so the theorem is a simulation along the path: each element the write
entered is one the read finds, of the same shape, resolved to the same step.

Two kinds of element are left out, as they are not found by what was written under them:
a subscript on a set, where the write adds a member built on its own, and a write-only
field, which a read never shows.  Which steps a path takes depends on the shapes met on
the way, so both are stated of `stepsAlong`, the steps a read resolves in the value
written.  The registry's converters must return values of the shapes they are installed
for (`Registry.Sound`), since a map entry is added under its key converted once more, and
the value written into must be well typed.

## Main definitions

* `Context.stepsAlong` — the steps a read of a path resolves in a value.

## Main statements

* `Context.read_after_write` — the walk-level round trip, by induction on the path.
* `Context.get_after_set` — the round trip of `set` and `get`.
-/

namespace ValuePaths

section

variable [Catalogue]

open Logged

namespace Path

omit [Catalogue]

/-- Segments read from some characters start with a named property or a subscript. -/
theorem segments_head {cs : List Char} {offset : Nat} {els : List Element}
    (h : segments cs offset = .ok els) (hcs : cs ≠ []) :
    ∃ e rest, els = e :: rest ∧ e.segment ≠ .property "" := by
  unfold segments at h
  split at h
  · exact absurd rfl hcs
  · rename_i rest
    dsimp only at h
    split at h
    · cases h
    · rename_i hname
      cases hs : segments (rest.dropWhile fun c => !isDelimiter c)
          (offset + 1 + byteLength (rest.takeWhile fun c => !isDelimiter c)) with
      | error f => rw [hs] at h; cases h
      | ok tail =>
        rw [hs] at h
        cases h
        refine ⟨_, tail, rfl, fun he => ofList_ne_empty ?_ (Segment.property.inj he)⟩
        simpa using hname
  · rename_i rest
    dsimp only at h
    split at h
    · cases h
    · rename_i after _
      cases hs : segments after
          (offset + 2 + byteLength (rest.takeWhile (· != ']'))) with
      | error f => rw [hs] at h; cases h
      | ok tail =>
        rw [hs] at h
        cases h
        exact ⟨_, tail, rfl, fun he => by cases he⟩
  · cases h

/-- A path that is not empty starts with a named property or a subscript. -/
theorem elements_head {source : String} {p : Path} (h : parse source = .ok p)
    (hne : source ≠ "") : ∃ e rest, p.elements = e :: rest ∧ e.segment ≠ .property "" := by
  have hcs : source.toList ≠ [] := by simpa using hne
  unfold parse at h
  dsimp only at h
  split at h
  · rename_i tail htail
    cases h
    by_cases hlead : (source.toList.takeWhile fun c => !isDelimiter c).isEmpty
    · -- the path starts at a delimiter: its elements are the segments of the whole text
      have hdrop : (source.toList.dropWhile fun c => !isDelimiter c) = source.toList := by
        have := List.takeWhile_append_dropWhile (p := fun c => !isDelimiter c) (l := source.toList)
        rw [List.isEmpty_iff.mp hlead, List.nil_append] at this
        exact this
      rw [hdrop] at htail
      obtain ⟨e, rest, rfl, he⟩ := segments_head htail hcs
      exact ⟨e, rest, by simp [hlead, hcs], he⟩
    · -- the leading name, without its dot
      refine ⟨⟨.property (String.ofList (source.toList.takeWhile fun c => !isDelimiter c)), 0⟩,
        tail, by simp [hlead], fun he => ofList_ne_empty ?_ (Segment.property.inj he)⟩
      simpa using hlead
  · cases h

/-- Only the empty path is the root path. -/
theorem steps_ne_nil {source : String} {p : Path} (h : parse source = .ok p)
    (hne : source ≠ "") : p.steps ≠ [] := by
  obtain ⟨e, rest, hel, he⟩ := elements_head h hne
  unfold steps isRoot
  rw [hel]
  split
  · rename_i hroot
    cases hroot
    exact absurd rfl he
  · simp
end Path

namespace Context

variable (ctx : Context)

/-- The steps a read of `segs` resolves in `v`, element by element, as far as it gets. -/
def stepsAlong : List Segment → Value → List Step
  | [], _ => []
  | e :: rest, v =>
    match (ctx.resolve e v.shape rest.isEmpty).run.val with
    | .error _ => []
    | .ok step =>
      step :: match step.read v with
        | some (.value w) => stepsAlong rest w
        | _ => []

theorem stepsAlong_cons_value {e : Segment} {rest : List Segment} {v w : Value} {step : Step}
    (hres : (ctx.resolve e v.shape rest.isEmpty).run.val = .ok step)
    (hread : step.read v = some (.value w)) :
    ctx.stepsAlong (e :: rest) v = step :: ctx.stepsAlong rest w := by
  simp [stepsAlong, hres, hread]

theorem stepsAlong_last {e : Segment} {v : Value} {step : Step}
    (hres : (ctx.resolve e v.shape true).run.val = .ok step) : ctx.stepsAlong [e] v = [step] := by
  simp only [stepsAlong, List.isEmpty_nil, hres]
  split <;> rfl

theorem head_mem_stepsAlong {e : Segment} {rest : List Segment} {v : Value} {step : Step}
    (hres : (ctx.resolve e v.shape rest.isEmpty).run.val = .ok step) :
    step ∈ ctx.stepsAlong (e :: rest) v := by
  simp [stepsAlong, hres]

/-- A read that finds a value at an element goes on from it. -/
theorem val_readFrom_value {path : String} {i : Nat} {state : WalkState} {e : Segment}
    {rest : List Leg} {v w : Value} {step : Step}
    (hres : (ctx.resolve e v.shape rest.isEmpty).run.val = .ok step)
    (hread : step.read v = some (.value w)) :
    (ctx.readFrom path i state (.element e :: rest) v).val =
      (ctx.readFrom path (i + 1) (.applying step.kind) rest w).val := by
  rw [val_readFrom_cons]
  simp only [legStep, hres, hread]

/-- A write that succeeds keeps the shape of what it writes into, which is a container. -/
theorem writeFrom_container {path : String} {r : Raw} {i : Nat} {state st : WalkState}
    {leg : Leg} {rest : List Leg} {c c' : Value}
    (h : (ctx.writeFrom path r i state (leg :: rest) c).val = (c', st, .ok ())) :
    c'.shape = c.shape ∧ c.shape.unwrap = c.shape := by
  obtain ⟨step, -, hcases⟩ := ctx.writeFrom_cons_ok h
  rcases hcases with ⟨-, v, -, hstore⟩ | ⟨-, -, member, filled, inner, -, -, -, hstore⟩ |
    ⟨-, -, c₁, child, inner, hdesc, hch, -, rfl⟩
  · exact ⟨ctx.store_shape hstore, ctx.store_container hstore⟩
  · exact ⟨ctx.store_shape hstore, ctx.store_container hstore⟩
  · have hshape := ctx.descend_shape hdesc
    refine ⟨by rw [Value.shape_setChild, hshape], ?_⟩
    rw [← hshape]
    exact Value.shape_unwrap_of_child? hch

/-- **Read after write.**  A write along a path that takes no set subscript is read back by
the same path: every element resolves in what the write left, and the read finds the text
converted for the last element's target, layers stripped, unless that element is a
write-only field.  By induction on the path; the invariant is that the value written into
is well typed. -/
theorem read_after_write (hsound : ctx.registry.Sound) {path : String} {r : Raw}
    {segs : List Segment} {i : Nat} {state st : WalkState} {c c' : Value} (hc : c.WellTyped)
    (hne : segs ≠ [])
    (h : (ctx.writeFrom path r i state (segs.map .element) c).val = (c', st, .ok ()))
    (hsets : ∀ step ∈ ctx.stepsAlong segs c', step.kind ≠ .set) :
    ∃ step v, (ctx.stepsAlong segs c').length = segs.length ∧
      (ctx.stepsAlong segs c').getLast? = some step ∧ (ctx.coerce step.target r).run.val = .ok v ∧
      ((∀ name access, step.key = .field name access → access.readable) →
        (ctx.readFrom path i state (segs.map .element) c').val = .ok (v.present.map .value)) := by
  induction segs generalizing i state st c c' with
  | nil => exact absurd rfl hne
  | cons e rest ih =>
    obtain ⟨step, hres, hcases⟩ := ctx.writeFrom_cons_ok h
    simp only [legStep, List.isEmpty_map] at hres
    obtain ⟨hcont, hb⟩ := ctx.resolve_bound hres
    rcases hcases with ⟨hnil, v, hv, hstore⟩ |
      ⟨-, hset, member, filled, inner, -, -, -, hstore⟩ |
      ⟨hmid, -, c₁, child, inner, hdesc, hch, hinner, rfl⟩
    · -- the last element: the converted value is stored in place
      rw [List.map_eq_nil_iff] at hnil
      subst hnil
      have hres' : (ctx.resolve e c'.shape true).run.val = .ok step := by
        rw [ctx.store_shape hstore]
        exact hres
      have hsteps := ctx.stepsAlong_last hres'
      have hchild := ctx.store_child hsound hc hb hcont.symm (hsets step (by simp [hsteps])) hstore
      refine ⟨step, v, by simp [hsteps], by simp [hsteps], hv, fun hreadable => ?_⟩
      rw [List.map_cons, List.map_nil, val_readFrom_cons]
      simp only [legStep, List.isEmpty_nil, hres', Step.read_of_child? hreadable hchild]
      cases v.present <;> rfl
    · -- a set member built before the last element: the hypothesis leaves it out
      have hres' : (ctx.resolve e c'.shape rest.isEmpty).run.val = .ok step := by
        rw [ctx.store_shape hstore]
        exact hres
      exact absurd hset (hsets step (ctx.head_mem_stepsAlong hres'))
    · -- an element entered: the read finds there what the write below it left
      have hrest : rest ≠ [] := fun h => hmid (by simp [h])
      have hres' : (ctx.resolve e (c₁.setChild step.key (child.withInner inner)).shape
          rest.isEmpty).run.val = .ok step := by
        rw [Value.shape_setChild, ctx.descend_shape hdesc]
        exact hres
      obtain ⟨-, -, -, -, -, -, -, -, -, -, hreadable⟩ := ctx.descend_ok hdesc
      have hpresent : inner.present = some inner := by
        obtain ⟨e', rest', rfl⟩ := List.exists_cons_of_ne_nil hrest
        rw [List.map_cons] at hinner
        obtain ⟨hshape, hunwrap⟩ := ctx.writeFrom_container hinner
        exact Value.present_of_unwrap (by rw [hshape, hunwrap])
      have hread : step.read (c₁.setChild step.key (child.withInner inner)) =
          some (.value inner) := by
        rw [Step.read_of_child? hreadable (ctx.descend_setChild _ hdesc hch),
          Value.present_withInner, hpresent]
        rfl
      have hsteps := ctx.stepsAlong_cons_value hres' hread
      have htyped : child.inner.WellTyped :=
        (ctx.wellTyped_descend hc hb hcont.symm hdesc hch).1.inner.1
      obtain ⟨last, v, hlen, hlast, hv, hget⟩ := ih htyped hrest hinner
        fun s hs => hsets s (by rw [hsteps]; exact List.mem_cons_of_mem _ hs)
      refine ⟨last, v, by simp [hsteps, hlen], by simp [hsteps, List.getLast?_cons, hlast], hv,
        fun hreadable' => ?_⟩
      rw [List.map_cons, ctx.val_readFrom_value (by simpa using hres') hread]
      exact hget hreadable'

/-- **Write-then-read round trip.**  After `set` writes text at a path other than the empty
one into a well-typed value, `get` of the same path finds the value the text converted to
for the target of the path's last step, with its `Option` layers stripped, or nothing when
one of them is unset.  The path may take no set subscript, and its last element may not be
a write-only field. -/
theorem get_after_set (hsound : ctx.registry.Sound) {root root' : Value} {path : String}
    {r : Raw} {p : Path} (hroot : root.WellTyped) (hp : Path.parse path = .ok p)
    (hne : path ≠ "")
    (hsets : ∀ step ∈ ctx.stepsAlong (p.steps.map (·.segment)) root', step.kind ≠ .set)
    (hlast : ∀ step ∈ (ctx.stepsAlong (p.steps.map (·.segment)) root').getLast?,
      ∀ name access, step.key = .field name access → access.readable)
    (h : (ctx.set root path r).val = (root', .ok ())) :
    ∃ step v, (ctx.stepsAlong (p.steps.map (·.segment)) root').length = p.steps.length ∧
      (ctx.stepsAlong (p.steps.map (·.segment)) root').getLast? = some step ∧
      (ctx.coerce step.target r).run.val = .ok v ∧
      (ctx.get root' path).val = .ok (v.present.map .value) := by
  have hsteps : p.steps ≠ [] := Path.steps_ne_nil hp hne
  have hlegs : p.route.legs = (p.steps.map (·.segment)).map .element := by
    simp [Path.route]
  rw [val_set, hp] at h
  dsimp only at h
  rw [val_writeWalk, if_neg (by simpa [Path.route] using hsteps)] at h
  generalize hw : (ctx.writeFrom p.route.path r 0 .atRoot p.route.legs root).val = w at h
  obtain ⟨c', st, res⟩ := w
  cases h
  rw [hlegs] at hw
  obtain ⟨step, v, hlen, hl, hv, hget⟩ :=
    ctx.read_after_write hsound hroot (by simpa using hsteps) hw hsets
  refine ⟨step, v, by simpa using hlen, hl, hv, ?_⟩
  rw [val_get, hp]
  dsimp only
  unfold readWalk
  rw [hlegs]
  exact hget (hlast step hl)

end Context

end

namespace Context

set_option maxRecDepth 4000 in
/-- Text written under a key of an empty text table is read back under that key, and a byte
written two subscripts deep into a list of byte lists is read back there. -/
theorem get_after_set_text :
    ((({ registry := .empty } : Context).set (.properties []) "[a]" (.one "x")).val =
        (.properties [("a", "x")], .ok ()) ∧
      ∃ step v, (({ registry := .empty } : Context).stepsAlong [.subscript "a"]
          (.properties [("a", "x")])).length = 1 ∧
        (({ registry := .empty } : Context).stepsAlong [.subscript "a"]
          (.properties [("a", "x")])).getLast? = some step ∧
        (({ registry := .empty } : Context).coerce step.target (.one "x")).run.val = .ok v ∧
        (({ registry := .empty } : Context).get (.properties [("a", "x")]) "[a]").val =
          .ok (v.present.map .value)) ∧
    let ctx : Context := { registry := (Registry.empty.register
      (.list .contiguous (.list .contiguous (.scalar (.int .u8))))).val }
    let path := Path.render [.subscript "0", .subscript "1"]
    (ctx.set (.list .contiguous (.list .contiguous (.scalar (.int .u8)))
        [.list .contiguous (.scalar (.int .u8)) [.int .u8 1, .int .u8 2],
          .list .contiguous (.scalar (.int .u8)) [.int .u8 3]]) path (.one "7")).val =
        (.list .contiguous (.list .contiguous (.scalar (.int .u8)))
          [.list .contiguous (.scalar (.int .u8)) [.int .u8 1, .int .u8 7],
            .list .contiguous (.scalar (.int .u8)) [.int .u8 3]], .ok ()) ∧
      ∃ step v, (ctx.stepsAlong [.subscript "0", .subscript "1"]
          (.list .contiguous (.list .contiguous (.scalar (.int .u8)))
            [.list .contiguous (.scalar (.int .u8)) [.int .u8 1, .int .u8 7],
              .list .contiguous (.scalar (.int .u8)) [.int .u8 3]])).length = 2 ∧
        (ctx.stepsAlong [.subscript "0", .subscript "1"]
          (.list .contiguous (.list .contiguous (.scalar (.int .u8)))
            [.list .contiguous (.scalar (.int .u8)) [.int .u8 1, .int .u8 7],
              .list .contiguous (.scalar (.int .u8)) [.int .u8 3]])).getLast? = some step ∧
        (ctx.coerce step.target (.one "7")).run.val = .ok v ∧
        (ctx.get (.list .contiguous (.list .contiguous (.scalar (.int .u8)))
            [.list .contiguous (.scalar (.int .u8)) [.int .u8 1, .int .u8 7],
              .list .contiguous (.scalar (.int .u8)) [.int .u8 3]]) path).val =
          .ok (v.present.map .value) := by
  refine ⟨?_, ?_⟩
  · -- one subscript into an empty text table, through the empty registry
    have hparse : Path.parse "[a]" = .ok ⟨"[a]", [⟨.subscript "a", 0⟩]⟩ := by
      have hsegments : Path.segments ['[', 'a', ']'] 0 = .ok [⟨.subscript "a", 0⟩] := by
        rw [Path.segments]
        split
        · rename_i h
          cases h
        · rename_i head after h
          cases h
          rw [Path.segments]
          rfl
      simp [Path.parse, Path.isDelimiter, hsegments]
    have hset : (({ registry := .empty } : Context).set (.properties []) "[a]" (.one "x")).val =
        (.properties [("a", "x")], .ok ()) := by
      rw [val_set, hparse]
      rfl
    have halong : ({ registry := .empty } : Context).stepsAlong
        ((Path.steps ⟨"[a]", [⟨.subscript "a", 0⟩]⟩).map (·.segment)) (.properties [("a", "x")]) =
          [⟨.properties, .text "a", .properties, .untyped⟩] := rfl
    exact ⟨hset, get_after_set _ (fun _ _ _ h => by cases h) (.properties []) hparse (by decide)
      (fun step hs => by
        rw [halong, List.mem_singleton] at hs
        subst hs
        intro hkind
        cases hkind)
      (fun step hs name access hk => by
        rw [halong] at hs
        cases hs
        cases hk)
      hset⟩
  · -- two subscripts into a list of byte lists, converting the text with the byte converter
    intro ctx path
    have hparse : Path.parse path = .ok ⟨path, Path.place [.subscript "0", .subscript "1"] 0⟩ :=
      Path.parse_render (List.cons_ne_nil _ _) (by decide)
    have hset : (ctx.set (.list .contiguous (.list .contiguous (.scalar (.int .u8)))
          [.list .contiguous (.scalar (.int .u8)) [.int .u8 1, .int .u8 2],
            .list .contiguous (.scalar (.int .u8)) [.int .u8 3]]) path (.one "7")).val =
          (.list .contiguous (.list .contiguous (.scalar (.int .u8)))
            [.list .contiguous (.scalar (.int .u8)) [.int .u8 1, .int .u8 7],
              .list .contiguous (.scalar (.int .u8)) [.int .u8 3]], .ok ()) := by
      rw [val_set, hparse]
      rfl
    have halong : ctx.stepsAlong
        ((Path.steps ⟨path, Path.place [.subscript "0", .subscript "1"] 0⟩).map (·.segment))
        (.list .contiguous (.list .contiguous (.scalar (.int .u8)))
          [.list .contiguous (.scalar (.int .u8)) [.int .u8 1, .int .u8 7],
            .list .contiguous (.scalar (.int .u8)) [.int .u8 3]]) =
        [⟨.list, .index 0, .list .contiguous (.list .contiguous (.scalar (.int .u8))),
            .typed (.list .contiguous (.scalar (.int .u8)))⟩,
          ⟨.list, .index 1, .list .contiguous (.scalar (.int .u8)), .typed (.scalar (.int .u8))⟩] :=
      rfl
    have hroot : Value.WellTyped (.list .contiguous (.list .contiguous (.scalar (.int .u8)))
          [.list .contiguous (.scalar (.int .u8)) [.int .u8 1, .int .u8 2],
            .list .contiguous (.scalar (.int .u8)) [.int .u8 3]]) := by
      refine .list (by simp [Value.shape]) fun x hx => ?_
      simp only [List.mem_cons, List.not_mem_nil, or_false] at hx
      rcases hx with rfl | rfl
      · exact .intList .contiguous .u8 [1, 2]
      · exact .intList .contiguous .u8 [3]
    exact ⟨hset, get_after_set ctx (Registry.Built.register _ .empty).typed.sound hroot hparse
      (by decide)
      (fun step hs => by
        rw [halong] at hs
        simp only [List.mem_cons, List.not_mem_nil, or_false] at hs
        rcases hs with rfl | rfl <;> decide)
      (fun step hs name access hk => by
        rw [halong] at hs
        cases hs
        cases hk)
      hset⟩

end Context

end ValuePaths
