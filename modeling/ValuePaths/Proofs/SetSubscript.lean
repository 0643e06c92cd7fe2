import ValuePaths.Proofs.Focus
import ValuePaths.Sample.Records

/-!
# Subscripts of a set

A subscript names a member of a set by its text: the text converted for the element shape
when it converts, or the text itself when it does not.  A read of the subscript looks the
member up and finds the one that ties with the converted text, or nothing.  A write never looks
the member up.  A set member cannot be entered in place, so the write converts the text for the
last element, or builds a registered default of the element shape, fills its layers and writes
the rest of the path into it; then it adds that member to the set.  The text of the subscript
takes no part in a write.

Adding a member to a set is a union (`Members.add_union`): what the set held stays, and the new
member, or one that ties with it, is there after.  A write that fails adds nothing.

## Main statements

* `Context.resolve_set_subscript` — what a subscript of a set binds.
* `Context.writeFrom_set_subscript` — a write through a set subscript adds one member.
* `Context.writeFrom_set_subscript_text` — whatever the subscript's text.
* `Context.readFrom_set_subscript` — a read of a set subscript finds the member that ties with
  the converted text.
* `Context.set_subscript_adds_member` — all of it for `set` and `get`, at a set that the write
  and the read reach.
-/

namespace ValuePaths

section

variable [Catalogue]

open Logged

namespace Context

variable (ctx : Context)

/-- The member a subscript of a set names: its text converted for the element shape `t`, or
the text itself when it does not convert. -/
def memberKey (raw : String) (t : Shape) : Key :=
  (((ctx.coerce (.typed t) (.one raw)).run.val.toOption.map (Key.member raw)).getD (.text raw))

theorem memberKey_cases (raw : String) (t : Shape) :
    (∃ s, ctx.memberKey raw t = .text s) ∨ ∃ s v, ctx.memberKey raw t = .member s v := by
  unfold memberKey
  cases (ctx.coerce (.typed t) (.one raw)).run.val with
  | error f => exact .inl ⟨raw, rfl⟩
  | ok v => exact .inr ⟨raw, v, rfl⟩

/-- A subscript of a set binds the member it names, whether or not it ends the path. -/
theorem resolve_set_subscript (raw : String) (l : Layout) (t : Shape) (isLast : Bool) :
    (ctx.resolve (.subscript raw) (.set l t) isLast).run.val =
      .ok ⟨.set, ctx.memberKey raw t, .set l t, .typed t⟩ := by
  unfold resolve memberKey
  conv => lhs; simp only [Shape.unwrap, val, ExceptT.run_bind, run_bind_eq]
  rw [Oblivious.fst_run (ctx.oblivious_elementTargets _), val_elementTargets]
  simp only [ExceptT.run_bind, run_bind_eq, ExceptT.run_tryCatch, ExceptT.run_map, run_map_eq]
  rw [Oblivious.fst_run (ctx.oblivious_coerce _ _)]
  cases (ctx.coerce (.typed t) (.one raw)).run.val <;> rfl

/-- A leg through a subscript of a set steps to add the member the subscript names. -/
theorem legStep_set_subscript (raw : String) (pl : Placement) (t : Shape) (ms : List Value)
    (isLast : Bool) :
    (ctx.legStep (.element (.subscript raw)) (Value.set pl t ms).shape isLast).run.val =
      .ok ⟨.set, ctx.memberKey raw t, .set pl.layout t, .typed t⟩ :=
  ctx.resolve_set_subscript raw pl.layout t isLast

/-- A store into a set adds the value as a member, whatever member the step names, when the
value has the element shape; the set refuses any other value and stays as it was. -/
theorem val_store_set {kind : StepKind} {key : Key} {container : Shape} {target : Target}
    (hkey : (∃ s, key = .text s) ∨ ∃ s v, key = .member s v) (pl : Placement) (t : Shape)
    (ms : List Value) (v : Value) :
    (ctx.store ⟨kind, key, container, target⟩ (.set pl t ms) v).val =
      if v.shape = t then
        (.set (Members.add ctx.table pl t v ms).1 t (Members.add ctx.table pl t v ms).2.1, .ok ())
      else (.set pl t ms, .error (Fault.misfit target.shape v)) := by
  rcases hkey with ⟨s, rfl⟩ | ⟨s, w, rfl⟩ <;>
  · unfold store
    simp only [beq_iff_eq]
    split <;> rfl

/-! ## A write through a set subscript -/

/-- **A write ignores the text of a set subscript.**  Through a subscript of a set, a write
with any other text leaves the same value, ends in the same state and has the same outcome. -/
theorem writeFrom_set_subscript_text (path : String) (r : Raw) (i : Nat) (state : WalkState)
    (pl : Placement) (t : Shape) (ms : List Value) (raw raw' : String) (rest : List Segment) :
    (ctx.writeFrom path r i state ((.subscript raw :: rest).map .element) (.set pl t ms)).val =
      (ctx.writeFrom path r i state ((.subscript raw' :: rest).map .element)
        (.set pl t ms)).val := by
  simp only [List.map_cons, val_writeFrom_cons, legStep, Value.shape, resolve_set_subscript,
    ctx.val_store_set (ctx.memberKey_cases raw t), ctx.val_store_set (ctx.memberKey_cases raw' t)]
  rfl

/-- **A write through a set subscript adds one member.**  At the last element the member is
the text converted for the element shape; below it, a registered default of the element
shape, its layers filled, that the rest of the write went into.  A write that fails leaves
the set as it was. -/
theorem writeFrom_set_subscript {path : String} {r : Raw} {i : Nat} {state st : WalkState}
    {pl : Placement} {t : Shape} {ms : List Value} {raw : String} {rest : List Segment}
    {c' : Value} {res : Except AccessError Unit}
    (h : (ctx.writeFrom path r i state ((.subscript raw :: rest).map .element)
      (.set pl t ms)).val = (c', st, res)) :
    (res.isOk = false → c' = .set pl t ms) ∧
    (res = .ok () → ∃ m,
      c' = .set (Members.add ctx.table pl t m ms).1 t (Members.add ctx.table pl t m ms).2.1 ∧
      ((rest = [] ∧ (ctx.coerce (.typed t) r).run.val = .ok m) ∨
        (rest ≠ [] ∧ ∃ d d' inner, (ctx.createMissing (.typed t)).run.val = .ok d ∧
          (ctx.fill d).val = (d', .ok ()) ∧
          (ctx.writeFrom path r (i + 1) .inSet (rest.map .element) d'.inner).val =
            (inner, st, .ok ()) ∧ m = d'.withInner inner))) := by
  rw [List.map_cons] at h
  cases ctx.writesLeg h with
  | unresolved hstep => rw [ctx.legStep_set_subscript] at hstep; cases hstep
  | unconverted | uncreated | unfilled | memberRefused =>
    -- the write stopped before it reached the set
    exact ⟨fun _ => rfl, fun h => by cases h⟩
  | stored hstep hlast hv hs =>
    -- the last element: the converted text is added
    rw [ctx.legStep_set_subscript] at hstep
    cases hstep
    rw [ctx.val_store_set (ctx.memberKey_cases raw t)] at hs
    split at hs <;> cases hs
    exact ⟨(fun h => by cases h),
      fun _ => ⟨_, rfl, .inl ⟨List.map_eq_nil_iff.mp hlast, hv⟩⟩⟩
  | member hstep hrest _ hd hfill hbelow hs =>
    -- below the set: a member built on its own takes the rest of the write
    rw [ctx.legStep_set_subscript] at hstep
    cases hstep
    rw [ctx.val_store_set (ctx.memberKey_cases raw t)] at hs
    split at hs <;> cases hs
    have hrest' : rest ≠ [] := fun h => hrest (List.map_eq_nil_iff.mpr h)
    exact ⟨(fun h => by cases h),
      fun _ => ⟨_, rfl, .inr ⟨hrest', _, _, _, hd, hfill, hbelow, rfl⟩⟩⟩
  | unstored hstep _ _ hs | memberUnstored hstep _ _ _ _ _ hs =>
    -- the set refuses a member of another shape and stays as it was
    rw [ctx.legStep_set_subscript] at hstep
    cases hstep
    rw [ctx.val_store_set (ctx.memberKey_cases raw t)] at hs
    split at hs <;> cases hs
    exact ⟨fun _ => rfl, fun h => by cases h⟩
  | unentered hstep _ hkind | notFound hstep _ hkind | entered hstep _ hkind =>
    -- a set member is never entered in place
    rw [ctx.legStep_set_subscript] at hstep
    cases hstep
    exact absurd rfl hkind

/-! ## A read of a set subscript -/

/-- A read of a subscript of a set finds the member that ties with the text converted for the
element shape, under its layers; nothing when the text does not convert or no member ties. -/
theorem readFrom_set_subscript (path : String) (i : Nat) (state : WalkState) (pl : Placement)
    (t : Shape) (ms : List Value) (raw : String) :
    (ctx.readFrom path i state [.element (.subscript raw)] (.set pl t ms)).val =
      .ok (Found.value <$> ((ctx.coerce (.typed t) (.one raw)).run.val.toOption.bind
        fun v => (Members.find? v ms).bind Value.present)) := by
  have hsh : (Value.set pl t ms).shape = .set pl.layout t := rfl
  rw [val_readFrom_cons]
  simp only [legStep, hsh, List.isEmpty_nil, resolve_set_subscript]
  unfold memberKey
  cases (ctx.coerce (.typed t) (.one raw)).run.val with
  | error f => rfl
  | ok v =>
    have hpres : (Value.set pl t ms).present = some (.set pl t ms) := rfl
    simp only [Step.read, hpres, Value.child?, Option.bind_eq_bind, Option.bind_some,
      Except.toOption, Option.map_some, Option.getD_some]
    cases (Members.find? v ms).bind Value.present <;> rfl

/-! ## Through `set` and `get` -/

/-- `set` through a subscript of a set that the write reaches at the end of `q`: the write
through the subscript at that set, put back along `q`. -/
theorem set_set_subscript {root : Value} {plug : Value → Value} {pl : Placement} {t : Shape}
    {ms : List Value} {q rest : List Segment} {path raw : String} {p : Path}
    (hp : Path.parse path = .ok p)
    (hsegs : p.steps.map (·.segment) = q ++ .subscript raw :: rest)
    (hq : ctx.Focus q root (.set pl t ms) plug) (r : Raw) :
    (ctx.set root path r).val =
      let w := (ctx.writeFrom path r q.length .atRoot ((.subscript raw :: rest).map .element)
        (.set pl t ms)).val
      (plug w.1, w.2.2) := by
  obtain ⟨state, h⟩ := ctx.set_focus hp hsegs (List.cons_ne_nil _ _) hq r
  rw [h, List.map_cons, ctx.writeFrom_cons_state path r q.length state .atRoot]

/-- **Set subscripts add members, whatever their text.**  Let a write along `q` reach, in a
tidy root, a set of members of shape `t`.  A `set` through a subscript of that set gives the
same root, and the same outcome up to the path text its errors name, whatever the text of the
subscript.  A write that fails leaves the set as it was; one that succeeds adds one member to
it and keeps every member it held: at the last element the text converted for `t`, below it a
registered default of `t`, its layers filled, that the rest of the path was written into.  A
`get` of the subscript, where the read reaches the set, finds the member that ties with the
subscript's text converted for `t`, under its layers, and nothing when the text does not
convert or no member ties. -/
theorem set_subscript_adds_member {root : Value} {plug : Value → Value} {pl : Placement}
    {t : Shape} {ms : List Value} {q rest : List Segment} {path₁ path₂ raw₁ raw₂ : String}
    {p₁ p₂ : Path} (hroot : root.Tidy) (hq : ctx.Focus q root (.set pl t ms) plug)
    (hp₁ : Path.parse path₁ = .ok p₁)
    (hsegs₁ : p₁.steps.map (·.segment) = q ++ .subscript raw₁ :: rest)
    (hp₂ : Path.parse path₂ = .ok p₂)
    (hsegs₂ : p₂.steps.map (·.segment) = q ++ .subscript raw₂ :: rest) (r : Raw) :
    (ctx.set root path₂ r).val = ((ctx.set root path₁ r).val.1,
        (ctx.set root path₁ r).val.2.mapError ({ · with path := path₂ })) ∧
      ((ctx.set root path₁ r).val.2.isOk = false →
        (ctx.set root path₁ r).val.1 = plug (.set pl t ms)) ∧
      ((ctx.set root path₁ r).val.2 = .ok () → ∃ m,
        (ctx.set root path₁ r).val.1 =
          plug (.set (Members.add ctx.table pl t m ms).1 t (Members.add ctx.table pl t m ms).2.1) ∧
        ((∀ x ∈ (Members.add ctx.table pl t m ms).2.1, x = m ∨ x ∈ ms) ∧
          (∀ x ∈ ms, x ∈ (Members.add ctx.table pl t m ms).2.1) ∧
          ∃ x ∈ (Members.add ctx.table pl t m ms).2.1, Value.same m x = true) ∧
        ((rest = [] ∧ (ctx.coerce (.typed t) r).run.val = .ok m) ∨
          (rest ≠ [] ∧ ∃ d d' inner st, (ctx.createMissing (.typed t)).run.val = .ok d ∧
            (ctx.fill d).val = (d', .ok ()) ∧
            (ctx.writeFrom path₁ r (q.length + 1) .inSet (rest.map .element) d'.inner).val =
              (inner, st, .ok ()) ∧ m = d'.withInner inner))) ∧
      ∀ (path : String) (p : Path), Path.parse path = .ok p →
        p.steps.map (·.segment) = q ++ [.subscript raw₁] → ctx.ReadFocus q root (.set pl t ms) →
        (ctx.get root path).val = .ok (Found.value <$>
          ((ctx.coerce (.typed t) (.one raw₁)).run.val.toOption.bind
            fun v => (Members.find? v ms).bind Value.present)) := by
  have hkept : Members.Kept pl ms := (hq.tidy hroot).kept
  have hw₁ := ctx.set_set_subscript hp₁ hsegs₁ hq r
  -- the text of the subscript takes no part, and the path's text is only named by errors
  have hkey : (ctx.set root path₂ r).val = ((ctx.set root path₁ r).val.1,
      (ctx.set root path₁ r).val.2.mapError ({ · with path := path₂ })) := by
    rw [ctx.set_set_subscript hp₂ hsegs₂ hq r, hw₁, ctx.writeFrom_path path₁ path₂ r,
      ctx.writeFrom_set_subscript_text path₁ r q.length .atRoot pl t ms raw₂ raw₁ rest]
  obtain ⟨⟨c', st, res⟩, hw⟩ : ∃ w, (ctx.writeFrom path₁ r q.length .atRoot
      ((.subscript raw₁ :: rest).map .element) (.set pl t ms)).val = w := ⟨_, rfl⟩
  obtain ⟨hfail, hok⟩ := ctx.writeFrom_set_subscript hw
  rw [hw] at hw₁
  refine ⟨hkey, fun h => ?_, fun h => ?_, fun path p hp hsegs hr => ?_⟩
  · rw [hw₁] at h ⊢
    exact congrArg plug (hfail h)
  · rw [hw₁] at h ⊢
    obtain ⟨m, rfl, hm⟩ := hok h
    refine ⟨m, rfl, Members.add_union _ hkept t m, hm.imp id ?_⟩
    rintro ⟨hne, d, d', inner, hd, hf, hb, rfl⟩
    exact ⟨hne, d, d', inner, st, hd, hf, hb, rfl⟩
  · obtain ⟨state, hget⟩ := ctx.get_focus hp hsegs (List.cons_ne_nil _ _) hr
    rw [hget]
    exact ctx.readFrom_set_subscript path q.length state pl t ms raw₁

end Context

end

namespace Context

set_option maxRecDepth 4000 in
/-- In an empty set of texts, the write through `[a]` and through `[b]` reach the set at the
root; in a list holding a set of bytes, the writes through `[0][2]` and `[0][02]` reach the
set in the list. -/
theorem set_subscript_adds_member_texts :
    ((Value.set .tree (.scalar .string) []).Tidy ∧
      ({ registry := .empty } : Context).Focus [] (.set .tree (.scalar .string) [])
        (.set .tree (.scalar .string) []) id ∧
      Path.parse (Path.render [.subscript "a"]) =
        .ok ⟨Path.render [.subscript "a"], Path.place [.subscript "a"] 0⟩ ∧
      (Path.steps ⟨Path.render [.subscript "a"], Path.place [.subscript "a"] 0⟩).map
        (·.segment) = [] ++ [.subscript "a"] ∧
      Path.parse (Path.render [.subscript "b"]) =
        .ok ⟨Path.render [.subscript "b"], Path.place [.subscript "b"] 0⟩ ∧
      (Path.steps ⟨Path.render [.subscript "b"], Path.place [.subscript "b"] 0⟩).map
        (·.segment) = [] ++ [.subscript "b"] ∧
      (({ registry := .empty } : Context).set (.set .tree (.scalar .string) [])
          (Path.render [.subscript "b"]) (.one "x")).val =
        ((({ registry := .empty } : Context).set (.set .tree (.scalar .string) [])
          (Path.render [.subscript "a"]) (.one "x")).val.1,
        (({ registry := .empty } : Context).set (.set .tree (.scalar .string) [])
          (Path.render [.subscript "a"]) (.one "x")).val.2.mapError
            ({ · with path := Path.render [.subscript "b"] }))) ∧
    let ctx : Context := { registry := (Registry.empty.register
      (.list .contiguous (.set .tree (.scalar (.int .u8))))).val }
    let root : Value := .list .contiguous (.set .tree (.scalar (.int .u8)))
      [.set .tree (.scalar (.int .u8)) [.int .u8 1]]
    let path₁ := Path.render [.subscript "0", .subscript "2"]
    let path₂ := Path.render [.subscript "0", .subscript "02"]
    root.Tidy ∧
      ctx.Focus [.subscript "0"] root (.set .tree (.scalar (.int .u8)) [.int .u8 1])
        (fun d => .list .contiguous (.set .tree (.scalar (.int .u8))) [d]) ∧
      Path.parse path₁ = .ok ⟨path₁, Path.place [.subscript "0", .subscript "2"] 0⟩ ∧
      (Path.steps ⟨path₁, Path.place [.subscript "0", .subscript "2"] 0⟩).map (·.segment) =
        [.subscript "0"] ++ [.subscript "2"] ∧
      Path.parse path₂ = .ok ⟨path₂, Path.place [.subscript "0", .subscript "02"] 0⟩ ∧
      (Path.steps ⟨path₂, Path.place [.subscript "0", .subscript "02"] 0⟩).map (·.segment) =
        [.subscript "0"] ++ [.subscript "02"] ∧
      (ctx.set root path₂ (.one "2")).val = ((ctx.set root path₁ (.one "2")).val.1,
        (ctx.set root path₁ (.one "2")).val.2.mapError ({ · with path := path₂ })) := by
  refine ⟨?_, ?_⟩
  · have htidy : (Value.set .tree (.scalar .string) []).Tidy :=
      Value.tidy_of_childless trivial fun k => by cases k <;> rfl
    have hsteps : ∀ key : String, (Path.steps ⟨Path.render [.subscript key],
        Path.place [.subscript key] 0⟩).map (·.segment) = [] ++ [.subscript key] := fun key => by
      simp [Path.steps, Path.isRoot, Path.place]
    obtain ⟨hkey, -⟩ := set_subscript_adds_member _ htidy (.here _)
      (Path.parse_render (List.cons_ne_nil _ _) (by decide)) (hsteps "a")
      (Path.parse_render (List.cons_ne_nil _ _) (by decide)) (hsteps "b") (.one "x")
    exact ⟨htidy, .here _, Path.parse_render (List.cons_ne_nil _ _) (by decide), hsteps "a",
      Path.parse_render (List.cons_ne_nil _ _) (by decide), hsteps "b", hkey⟩
  · intro ctx root path₁ path₂
    have hmember : (Value.set .tree (.scalar (.int .u8)) [.int .u8 1]).Tidy :=
      .intro trivial fun k x hx => by
        cases k <;> simp only [Value.child?, reduceCtorEq] at hx
        rw [List.mem_singleton.1 (List.mem_of_find?_eq_some hx)]
        exact Value.tidy_of_childless trivial fun k => by cases k <;> rfl
    have htidy : root.Tidy := .intro trivial fun k x hx => by
      cases k <;> simp only [root, Value.child?, reduceCtorEq] at hx
      rw [List.mem_singleton.1 (List.mem_of_getElem? hx)]
      exact hmember
    -- the subscript `[0]` enters the list in place and reaches its one set
    have hfocus : ctx.Focus [.subscript "0"] root (.set .tree (.scalar (.int .u8)) [.int .u8 1])
        (fun d => .list .contiguous (.set .tree (.scalar (.int .u8))) [d]) :=
      @Focus.enter _ ctx (.subscript "0") [] root root
        (.set .tree (.scalar (.int .u8)) [.int .u8 1]) _
        ⟨.list, .index 0, .list .contiguous (.set .tree (.scalar (.int .u8))),
          .typed (.set .tree (.scalar (.int .u8)))⟩ id rfl (by decide) rfl rfl (.here _)
    have hsteps : ∀ key : String, (Path.steps ⟨Path.render [.subscript "0", .subscript key],
        Path.place [.subscript "0", .subscript key] 0⟩).map (·.segment) =
          [.subscript "0"] ++ [.subscript key] := fun key => by
      simp [Path.steps, Path.isRoot, Path.place]
    obtain ⟨hsame, -⟩ := set_subscript_adds_member ctx htidy hfocus
      (Path.parse_render (List.cons_ne_nil _ _) (by decide)) (hsteps "2")
      (Path.parse_render (List.cons_ne_nil _ _) (by decide)) (hsteps "02") (.one "2")
    exact ⟨htidy, hfocus, Path.parse_render (List.cons_ne_nil _ _) (by decide), hsteps "2",
      Path.parse_render (List.cons_ne_nil _ _) (by decide), hsteps "02", hsame⟩

end Context

end ValuePaths
