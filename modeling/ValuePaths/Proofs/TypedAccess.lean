import Mathlib
import ValuePaths.Proofs.Refusal
import ValuePaths.Sample.Records

/-!
# The accesses and the shapes of values

`Refusal` follows one write along its path.  This module carries what it found to every
access of the library: a list of writes (`Context.apply`) writes one path after the other,
a compiled path writes what `set` writes into a value of its root shape and refuses every
other value without changing it, and reads never store a value, so no container is asked
to take one.

Together with `Conversion` this gives the typing discipline of the library in one
statement: with a registry a program builds, creation and conversion are well typed, no
access leaves a well-typed value ill typed, and a write is refused for a value of the wrong
shape only where `Refuses` says — at an element that declares no shape.

## Main statements

* `Context.applyFrom_wellTyped`, `Context.applyFrom_refuses` — a list of writes keeps
  values well typed and fails for a misfit only at a path where `Refuses` says.
* `Context.writeCompiled_mismatch_or_set` — a compiled write refuses a value of another
  root shape, and otherwise writes what `set` writes.
* `Context.readFrom_noMisfit` — reads never fail for a misfit.
* `Context.accesses_keep_shapes` — the typing discipline of the library.
-/

namespace ValuePaths

section

variable [Catalogue]

open Logged

namespace Context

variable (ctx : Context)

/-! ## Writing a list of paths -/

theorem oblivious_applyFrom :
    ∀ (props : List (String × Raw)) (done : Nat) (root : Value),
      (ctx.applyFrom done root props).Oblivious
  | [], _, _ => oblivious_pure _
  | (key, r) :: rest, done, root => by
    unfold applyFrom
    dsimp only
    refine (ctx.oblivious_set root key r).bind ?_
    split
    · exact (oblivious_note _ _).bind (oblivious_pure _)
    · exact oblivious_applyFrom rest (done + 1) _

@[simp] theorem val_applyFrom_nil (done : Nat) (root : Value) :
    (ctx.applyFrom done root []).val = (root, .ok done) := rfl

/-- One write of a list: write the first path, and go on from what it left if it succeeded. -/
theorem val_applyFrom_cons (done : Nat) (root : Value) (key : String) (r : Raw)
    (rest : List (String × Raw)) :
    (ctx.applyFrom done root ((key, r) :: rest)).val =
      match (ctx.set root key r).val with
      | (root', .error e) => (root', .error ⟨key, r.display, e⟩)
      | (root', .ok ()) => (ctx.applyFrom (done + 1) root' rest).val := by
  conv => lhs; unfold val applyFrom
  simp only [run_bind_eq]
  rw [Oblivious.fst_run (ctx.oblivious_set _ _ _)]
  generalize (ctx.set root key r).val = out
  obtain ⟨root', res⟩ := out
  cases res with
  | error e => rfl
  | ok u => exact (ctx.oblivious_applyFrom _ _ _) _

/-- A list of writes keeps a well-typed root well typed, however far it gets. -/
theorem applyFrom_wellTyped (htyped : ctx.registry.Typed) :
    ∀ (props : List (String × Raw)) (done : Nat) {root : Value}, root.WellTyped →
      (ctx.applyFrom done root props).val.1.WellTyped
  | [], _, _, hroot => hroot
  | (key, r) :: rest, done, root, hroot => by
    rw [val_applyFrom_cons]
    have hset := ctx.set_wellTyped htyped hroot key r
    generalize (ctx.set root key r).val = out at hset ⊢
    obtain ⟨root', res⟩ := out
    cases res with
    | error e => exact hset
    | ok u => exact applyFrom_wellTyped htyped rest (done + 1) hset

/-- A list of writes fails for a misfit only at a path, the `k`-th, where `Refuses` says,
in the root as the writes before it left it. -/
theorem applyFrom_refuses (htyped : ctx.registry.Typed) :
    ∀ (props : List (String × Raw)) (done : Nat) {root : Value} {e : ApplyError},
      (ctx.applyFrom done root props).val.2 = .error e → e.source.fault.isMisfit = true →
      ∃ k r p w, props[k]? = some (e.key, r) ∧ Path.parse e.key = .ok p ∧
        ctx.Refuses r (p.steps.map (·.segment)) (ctx.applyFrom done root (props.take k)).val.1 ∧
        (ctx.coerce .untyped r).run.val = .ok w ∧ e.source.fault = Fault.misfit .string w
  | [], _, _, _, h, _ => by cases h
  | (key, r) :: rest, done, root, e, h, he => by
    rw [val_applyFrom_cons] at h
    generalize hs : (ctx.set root key r).val = out at h
    obtain ⟨root', res⟩ := out
    cases res with
    | error e' =>
      cases h
      obtain ⟨p, w, hp, hrefuses, hw, hfault⟩ := ctx.set_refuses htyped (by rw [hs]) he
      exact ⟨0, r, p, w, rfl, hp, hrefuses, hw, hfault⟩
    | ok u =>
      obtain ⟨k, r', p, w, hk, hp, hrefuses, hw, hfault⟩ :=
        applyFrom_refuses htyped rest (done + 1) h he
      refine ⟨k + 1, r', p, w, hk, hp, ?_, hw, hfault⟩
      rw [List.take_succ_cons, val_applyFrom_cons, hs]
      exact hrefuses

/-! ## Compiled paths -/

/-- A compiled write refuses, unchanged, a value of another shape than its root, and writes
into a well-typed value of its root shape what `set` writes. -/
theorem writeCompiled_mismatch_or_set {s : Shape} {path : String} {d : Descriptor}
    (hd : (ctx.compile s path).val = .ok d) {v : Value} (hv : v.WellTyped) (r : Raw) :
    (ctx.writeCompiled d v r).val = (v, .error ⟨.mismatchedRoot s v.shape, path, none⟩) ∨
      (ctx.writeCompiled d v r).val = (ctx.set v path r).val := by
  rw [val_compile] at hd
  cases hp : Path.parse path with
  | error e => rw [hp] at hd; cases hd
  | ok p =>
    rw [hp] at hd
    dsimp only at hd
    cases hc : (ctx.compileFrom path 0 s (p.steps.map (·.segment))).val with
    | error e => rw [hc] at hd; cases hd
    | ok steps =>
      rw [hc] at hd
      cases hd
      rw [val_writeCompiled]
      by_cases hroot : v.shape = s
      · right
        have hcheck : Descriptor.checkRoot ⟨s, path, steps⟩ v = .ok () := by
          simp [Descriptor.checkRoot, hroot]
        have hlegs : p.route = ⟨path, (p.steps.map (·.segment)).map .element⟩ := by
          simp [Path.route, Path.parse_source hp]
        have hempty : (steps.map Leg.resolved).isEmpty =
            ((p.steps.map (·.segment)).map Leg.element).isEmpty := by
          simp only [List.isEmpty_map, ctx.compileFrom_isEmpty hc]
        rw [hcheck, val_set, hp]
        dsimp only
        rw [hlegs]
        simp only [val_writeWalk, Descriptor.route, hempty,
          ctx.writeFrom_compiled _ hc ⟨hv, by rw [hroot]⟩]
      · left
        have hcheck : Descriptor.checkRoot ⟨s, path, steps⟩ v =
            .error ⟨.mismatchedRoot s v.shape, path, none⟩ := by
          simp [Descriptor.checkRoot, hroot]
        rw [hcheck]

theorem writeCompiled_wellTyped (htyped : ctx.registry.Typed) {s : Shape} {path : String}
    {d : Descriptor} (hd : (ctx.compile s path).val = .ok d) {v : Value} (hv : v.WellTyped)
    (r : Raw) : (ctx.writeCompiled d v r).val.1.WellTyped := by
  rcases ctx.writeCompiled_mismatch_or_set hd hv r with hw | hw <;> rw [hw]
  · exact hv
  · exact ctx.set_wellTyped htyped hv path r

theorem writeCompiled_refuses (htyped : ctx.registry.Typed) {s : Shape} {path : String}
    {d : Descriptor} (hd : (ctx.compile s path).val = .ok d) {v : Value} (hv : v.WellTyped)
    {r : Raw} {e : AccessError} (h : (ctx.writeCompiled d v r).val.2 = .error e)
    (he : e.fault.isMisfit = true) :
    ∃ p w, Path.parse path = .ok p ∧ ctx.Refuses r (p.steps.map (·.segment)) v ∧
      (ctx.coerce .untyped r).run.val = .ok w ∧ e.fault = Fault.misfit .string w := by
  rcases ctx.writeCompiled_mismatch_or_set hd hv r with hw | hw <;> rw [hw] at h
  · -- a value of another root shape is refused before any container sees it
    cases h
    cases he
  · exact ctx.set_refuses htyped h he

/-! ## Reading -/

/-- A read fails only as resolution does, and resolution never fails for a misfit. -/
theorem readFrom_noMisfit (path : String) :
    ∀ (legs : List Leg) {i : Nat} {state : WalkState} {v : Value} {e : AccessError},
      (ctx.readFrom path i state legs v).val = .error e → e.fault.isMisfit = false := by
  intro legs i state v e h
  exact readFrom_fails (fun leg _ => legStep_fails ctx.noMisfit_resolve leg) h

theorem get_noMisfit {root : Value} {path : String} {e : AccessError}
    (h : (ctx.get root path).val = .error e) : e.fault.isMisfit = false :=
  get_fails (fun _ => rfl) ctx.noMisfit_resolve h

theorem readCompiled_noMisfit {d : Descriptor} {v : Value} {e : AccessError}
    (h : (ctx.readCompiled d v).val = .error e) : e.fault.isMisfit = false := by
  rw [readCompiled_fails h]
  rfl

/-! ## The typing discipline -/

/-- **Creation and conversion are well typed, so a value of the wrong shape is refused only
where no shape is declared.**  With a registry a program builds, every installed converter
gives values of its shape, and so do the registered defaults and text converted for a
shape; text for an untyped target is kept as text, and several texts as an untyped list of
texts.  No write — by path, by a list of paths or by a compiled path — leaves a well-typed
value ill typed, and a write fails because a container refused a value only where `Refuses`
says: at a text table given several texts, or at an element of an untyped list that holds a
value of another shape.  Reads never fail so. -/
theorem accesses_keep_shapes (hbuilt : ctx.registry.Built) :
    ctx.registry.Typed ∧
    (∀ s v, ctx.registry.createDefault s = some v → v.WellTyped ∧ v.shape = s) ∧
    (∀ raw s v, ctx.registry.convert raw s = .ok v → v.WellTyped ∧ v.shape = s) ∧
    (∀ s r v, (ctx.coerce (.typed s) r).run.val = .ok v → v.WellTyped ∧ v.shape = s) ∧
    (∀ t, (ctx.coerce .untyped (.one t)).run.val = .ok (.string t)) ∧
    (∀ ts, (ctx.coerce .untyped (.many ts)).run.val = .ok (.untypedList (ts.map .string))) ∧
    (∀ root path r, root.WellTyped → (ctx.set root path r).val.1.WellTyped) ∧
    (∀ root path r e, (ctx.set root path r).val.2 = .error e → e.fault.isMisfit = true →
      ∃ p w, Path.parse path = .ok p ∧ ctx.Refuses r (p.steps.map (·.segment)) root ∧
        (ctx.coerce .untyped r).run.val = .ok w ∧ e.fault = Fault.misfit .string w) ∧
    (∀ root props, root.WellTyped → (ctx.apply root props).val.1.WellTyped) ∧
    (∀ root props e, (ctx.apply root props).val.2 = .error e → e.source.fault.isMisfit = true →
      ∃ k r p w, props[k]? = some (e.key, r) ∧ Path.parse e.key = .ok p ∧
        ctx.Refuses r (p.steps.map (·.segment)) (ctx.apply root (props.take k)).val.1 ∧
        (ctx.coerce .untyped r).run.val = .ok w ∧ e.source.fault = Fault.misfit .string w) ∧
    (∀ s path d v r, (ctx.compile s path).val = .ok d → v.WellTyped →
      (ctx.writeCompiled d v r).val.1.WellTyped ∧
      ∀ e, (ctx.writeCompiled d v r).val.2 = .error e → e.fault.isMisfit = true →
        ∃ p w, Path.parse path = .ok p ∧ ctx.Refuses r (p.steps.map (·.segment)) v ∧
          (ctx.coerce .untyped r).run.val = .ok w ∧ e.fault = Fault.misfit .string w) ∧
    (∀ root path e, (ctx.get root path).val = .error e → e.fault.isMisfit = false) ∧
    (∀ d v e, (ctx.readCompiled d v).val = .error e → e.fault.isMisfit = false) := by
  have htyped := hbuilt.typed
  refine ⟨htyped, fun _ _ => Registry.createDefault_wellTyped, fun _ _ _ => htyped.convert,
    fun s _ _ => ctx.coerceTo_wellTyped htyped s, fun _ => rfl, fun _ => rfl,
    fun _ path r hroot => ctx.set_wellTyped htyped hroot path r,
    fun _ _ _ _ => ctx.set_refuses htyped,
    fun _ props hroot => ctx.applyFrom_wellTyped htyped props 0 hroot,
    fun _ props _ => ctx.applyFrom_refuses htyped props 0, ?_,
    fun _ _ _ => ctx.get_noMisfit, fun _ _ _ => ctx.readCompiled_noMisfit⟩
  intro s path d v r hd hv
  exact ⟨ctx.writeCompiled_wellTyped htyped hd hv r,
    fun _ => ctx.writeCompiled_refuses htyped hd hv⟩

end Context

end

namespace Context

/-- With the standard registry, writing text into an empty untyped list leaves it well
typed. -/
theorem accesses_keep_shapes_standard :
    Registry.standard.val.Built ∧
      (({ registry := Registry.standard.val } : Context).set (.untypedList []) "[0]"
        (.one "x")).val.1.WellTyped := by
  -- the registry is named through the context, so that it is never evaluated
  have hbuilt : ({ registry := Registry.standard.val } : Context).registry.Built := by
    dsimp only
    exact .standard
  exact ⟨.standard, (accesses_keep_shapes _ hbuilt).2.2.2.2.2.2.1 _ _ _
    (.untypedList fun _ h => nomatch h)⟩

/-- An untyped list that holds a text refuses, in its place, the untyped list that several
texts are kept as, although the element declares no shape: the second write fails with
`does not fit` and leaves the list as it was. -/
theorem set_untyped_element_refuses_other_shape :
    Registry.empty.Built ∧
    (({ registry := .empty } : Context).set (.untypedList []) "[0]" (.one "x")).val =
      (.untypedList [.string "x"], .ok ()) ∧
    (({ registry := .empty } : Context).set (.untypedList [.string "x"]) "[0]"
        (.many ["a", "b"])).val =
      (.untypedList [.string "x"],
        .error ⟨Fault.misfit .string (.untypedList [.string "a", .string "b"]), "[0]",
          some 0⟩) := by
  have hsegments : Path.segments ['[', '0', ']'] 0 = .ok [⟨.subscript "0", 0⟩] := by
    rw [Path.segments]
    split
    · rename_i h
      cases h
    · rename_i head after h
      cases h
      rw [Path.segments]
      rfl
  have hparse : Path.parse "[0]" = .ok ⟨"[0]", [⟨.subscript "0", 0⟩]⟩ := by
    simp [Path.parse, Path.isDelimiter, hsegments]
  refine ⟨.empty, ?_, ?_⟩
  · rw [val_set, hparse]
    rfl
  · rw [val_set, hparse]
    rfl

end Context

end ValuePaths
