import ValuePaths.Proofs.Conversion
import ValuePaths.Proofs.Idempotence
import ValuePaths.Proofs.Descriptor

/-!
# Where the faults of an access come from

An access fails with a fault that one of its steps raises: resolving an element against the
shape it meets, converting text, creating a missing value, or one of the refusals a write
makes at a container itself: no such element, a field that cannot be read or written, an
operation the container does not support, a value of another shape.  A read fails only as
resolution does; a compilation as resolution does, or at an untyped element before the end.

Everything here is stated for any sort of fault `P`: whatever covers the faults of the steps
covers every fault of the access.  The sort at hand then says what an access can fail with,
for instance never with an undeclared element shape while those are accepted.

## Main definitions

* `Context.CoversWrites` — a sort of fault that covers the steps of a write.

## Main statements

* `Context.writeFrom_fails`, `Context.set_fails`, `Context.writeCompiled_fails` — writes.
* `Context.readFrom_fails`, `Context.get_fails`, `Context.readCompiled_fails` — reads.
* `Context.compileFrom_fails`, `Context.compile_fails` — compilation.
-/

namespace ValuePaths

variable [Catalogue]

open Logged

namespace Context

variable (ctx : Context) {P : Fault → Prop}

/-! ## One container -/

section Steps

variable {ctx} (hcreate : ∀ target, FailsOnly P (ctx.createMissing target))
include hcreate

/-- Padding fails with a default that cannot be made, or with a list that cannot grow. -/
theorem pad_fails (hgrow : ∀ ty n limit, P (.unsupported .list ty (.grow n limit)))
    {items items' : List Value} {n : Nat} {ty : Shape} {target : Target} {f : Fault}
    (h : (ctx.pad items n ty target).val = (items', .error f)) : P f := by
  unfold pad at h
  dsimp only at h
  split at h
  · cases h
    exact hgrow _ _ _
  · split at h
    · cases h
    · unfold val at h
      rw [run_bind_eq, Oblivious.fst_run (ctx.oblivious_createMissing _)] at h
      cases hm : (ctx.createMissing target).run.val with
      | error f' =>
        rw [hm] at h
        cases h
        exact (hcreate target).val hm
      | ok filler =>
        rw [hm] at h
        cases h

/-- Filling the layers of a value fails only with a default that cannot be made. -/
theorem fillAt_fails (s : Shape) :
    ∀ {v v' : Value} {f : Fault}, (ctx.fillAt s v).val = (v', .error f) → P f := by
  induction s with
  | option t ih =>
    intro v v' f h
    cases v
    case option t' o =>
      cases o with
      | none =>
        rw [val_fillAt_option_none] at h
        cases hm : (ctx.createMissing (.typed t')).run.val with
        | error f' =>
          rw [hm] at h
          cases h
          exact (hcreate _).val hm
        | ok m =>
          rw [hm] at h
          dsimp only at h
          generalize hf : (ctx.fillAt t m).val = filled at h
          obtain ⟨m', r⟩ := filled
          cases h
          exact ih hf
      | some x =>
        rw [val_fillAt_option_some] at h
        generalize hf : (ctx.fillAt t x).val = filled at h
        obtain ⟨x', r⟩ := filled
        cases h
        exact ih hf
    all_goals
      rw [ctx.val_fillAt_of_shape (fun _ h => by cases h)] at h
      cases h
  | _ =>
    intro v v' f h
    rw [ctx.val_fillAt_of_not_option (fun _ h => by cases h)] at h
    cases h

theorem fill_fails {v v' : Value} {f : Fault} (h : (ctx.fill v).val = (v', .error f)) : P f :=
  fillAt_fails hcreate _ h

section Refusals

variable (hcoerce : ∀ t r, FailsOnly P (ctx.coerce t r)) (hnone : ∀ c name, P (.noProperty c name))
  (hreadOnly : ∀ c name, P (.readOnly c name))
  (hunsupported : ∀ kind c op, P (.unsupported kind c op))
include hcoerce hnone hreadOnly hunsupported

/-- **Entering an element fails only as its steps do**: an element that cannot be reached,
a field that cannot be read or written, a list that cannot grow, a default or a key that
cannot be made. -/
theorem descend_fails (hwriteOnly : ∀ c name, P (.writeOnly c name)) {step : Step}
    {c c' : Value} {f : Fault} (h : (ctx.descend step c).val = (c', .error f)) : P f := by
  rcases ctx.descend_opens h with ⟨f', hshut, -, hf⟩ | ⟨c₀, -, ⟨-, -, hf⟩ | ⟨x, -, -, hf⟩⟩
  · -- refused before anything was entered
    cases hf
    cases hshut with
    | writeOnly => exact hwriteOnly _ _
    | readOnly => exact hreadOnly _ _
    | noField => exact hnone _ _
    | unpadded _ hp | unpaddedUntyped _ hp =>
      exact pad_fails hcreate (fun _ _ _ => hunsupported _ _ _) hp
    | outside | unsupported => exact hunsupported _ _ _
    | uncreated _ _ hfresh => exact (hcreate _).val hfresh
    | unconverted _ _ _ howned => exact (hcoerce _ _).val howned
  · -- no element under the key of an entry added
    cases hf
    exact hnone _ _
  · -- the element's layers could not be filled
    exact fill_fails hcreate (Prod.ext rfl hf.symm)

/-- **A store fails only as its steps do**: a field that cannot be written or is not there, a
list that cannot grow, a map key that does not convert, an operation the container does not
support, or a value of another shape than the container holds. -/
theorem store_fails (hmisfit : ∀ t v, P (Fault.misfit t v)) {step : Step} {c c' v : Value}
    {f : Fault} (h : (ctx.store step c v).val = (c', .error f)) : P f := by
  cases ctx.store_unstored h with
  | readOnly => exact hreadOnly _ _
  | noField => exact hnone _ _
  | unpadded _ hp | unpaddedUntyped _ hp =>
    exact pad_fails hcreate (fun _ _ _ => hunsupported _ _ _) hp
  | unconverted _ howned => exact (hcoerce _ _).val howned
  | outside | length | unsupported => exact hunsupported _ _ _
  | fieldMisfit | listMisfit | untypedMisfit | arrayMisfit | entryMisfit | memberMisfit
  | notText => exact hmisfit _ _

end Refusals

end Steps

/-! ## Along a path -/

/-- A sort of fault that covers every fault of the steps of a write: resolving an element,
converting text, creating a missing value, and each refusal a write makes itself. -/
structure CoversWrites (P : Fault → Prop) : Prop where
  resolve : ∀ e s isLast, FailsOnly P (ctx.resolve e s isLast)
  coerce : ∀ t r, FailsOnly P (ctx.coerce t r)
  create : ∀ target, FailsOnly P (ctx.createMissing target)
  noProperty : ∀ c name, P (.noProperty c name)
  readOnly : ∀ c name, P (.readOnly c name)
  writeOnly : ∀ c name, P (.writeOnly c name)
  unsupported : ∀ kind c op, P (.unsupported kind c op)
  misfit : ∀ t v, P (Fault.misfit t v)

variable {ctx}

/-- A leg fails to give its step only as resolution does: a resolved leg has its step. -/
theorem legStep_fails (hresolve : ∀ e s isLast, FailsOnly P (ctx.resolve e s isLast)) (leg : Leg)
    (s : Shape) (isLast : Bool) : FailsOnly P (ctx.legStep leg s isLast) := by
  unfold Context.legStep
  split
  · exact hresolve _ _ _
  · exact failsOnly_pure _

theorem CoversWrites.legStep (hP : ctx.CoversWrites P) (leg : Leg) (s : Shape) (isLast : Bool) :
    FailsOnly P (ctx.legStep leg s isLast) :=
  legStep_fails hP.resolve leg s isLast

theorem CoversWrites.descend (hP : ctx.CoversWrites P) {step : Step} {c c' : Value} {f : Fault}
    (h : (ctx.descend step c).val = (c', .error f)) : P f :=
  descend_fails hP.create hP.coerce hP.noProperty hP.readOnly hP.unsupported hP.writeOnly h

theorem CoversWrites.store (hP : ctx.CoversWrites P) {step : Step} {c c' v : Value} {f : Fault}
    (h : (ctx.store step c v).val = (c', .error f)) : P f :=
  store_fails hP.create hP.coerce hP.noProperty hP.readOnly hP.unsupported hP.misfit h

/-- **A write fails only as its steps do.**  By induction on the legs: the fault of a failed
write is the fault of the step that failed, or of the write below the element it entered. -/
theorem writeFrom_fails (hP : ctx.CoversWrites P) {path : String} {r : Raw} :
    ∀ {legs : List Leg} {i : Nat} {state st : WalkState} {c c' : Value} {e : AccessError},
      (ctx.writeFrom path r i state legs c).val = (c', st, .error e) → P e.fault := by
  intro legs
  induction legs with
  | nil =>
    intro i state st c c' e h
    cases h
  | cons leg rest ih =>
    intro i state st c c' e h
    cases ctx.writesLeg h with
    | unresolved hstep => exact (hP.legStep _ _ _).val hstep
    | unconverted _ _ hv => exact (hP.coerce _ _).val hv
    | uncreated _ _ _ hd => exact (hP.create _).val hd
    | unfilled _ _ _ _ hfill => exact fill_fails hP.create hfill
    | unstored _ _ _ hs | memberUnstored _ _ _ _ _ _ hs => exact hP.store hs
    | unentered _ _ _ hd => exact hP.descend hd
    | notFound => exact hP.noProperty _ _
    | memberRefused _ _ _ _ _ hbelow | entered _ _ _ _ _ hbelow =>
      -- refused below the member built or the element entered
      exact ih hbelow

/-- `set` fails with a malformed path or as its write does. -/
theorem set_fails (hmalformed : ∀ e, P (.malformed e)) (hP : ctx.CoversWrites P)
    {root root' : Value} {path : String} {r : Raw}
    {e : AccessError} (h : (ctx.set root path r).val = (root', .error e)) : P e.fault := by
  rw [val_set] at h
  split at h
  · cases h
    exact hmalformed _
  · rw [val_writeWalk] at h
    split at h
    · cases h
    · generalize hw : (ctx.writeFrom _ r 0 .atRoot _ root).val = w at h
      obtain ⟨c', st, res⟩ := w
      cases h
      exact writeFrom_fails hP hw

/-- A compiled path writes nothing into a value of another shape, and fails otherwise as
its write does. -/
theorem writeCompiled_fails (hP : ctx.CoversWrites P)
    (hroot : ∀ expected actual, P (.mismatchedRoot expected actual)) {d : Descriptor}
    {v v' : Value} {r : Raw} {e : AccessError}
    (h : (ctx.writeCompiled d v r).val = (v', .error e)) : P e.fault := by
  rw [val_writeCompiled] at h
  split at h
  · rename_i e' he
    cases h
    unfold Descriptor.checkRoot at he
    split at he <;> cases he
    exact hroot _ _
  · rw [val_writeWalk] at h
    split at h
    · cases h
    · generalize hw : (ctx.writeFrom _ r 0 .atRoot _ v).val = w at h
      obtain ⟨c', st, res⟩ := w
      cases h
      exact writeFrom_fails hP hw

/-- **A read fails only as resolution does**, at the first element it cannot resolve with
a fault that does not read as absent. -/
theorem readFrom_fails {path : String} :
    ∀ {legs : List Leg} {i : Nat} {state : WalkState} {c : Value} {e : AccessError},
      (∀ leg ∈ legs, ∀ s isLast, FailsOnly P (ctx.legStep leg s isLast)) →
      (ctx.readFrom path i state legs c).val = .error e → P e.fault := by
  intro legs
  induction legs with
  | nil =>
    intro i state c e _ h
    cases h
  | cons leg rest ih =>
    intro i state c e hstep h
    rcases ctx.readFrom_cons_error.mp h with ⟨f, hres, -, rfl⟩ | ⟨step, w, -, -, hbelow⟩
    · exact (hstep leg List.mem_cons_self _ _).val hres
    · exact ih (fun leg hleg => hstep leg (List.mem_cons_of_mem _ hleg)) hbelow

/-- `get` fails with a malformed path or as its read does. -/
theorem get_fails (hmalformed : ∀ e, P (.malformed e))
    (hresolve : ∀ e s isLast, FailsOnly P (ctx.resolve e s isLast)) {root : Value}
    {path : String} {e : AccessError} (h : (ctx.get root path).val = .error e) : P e.fault := by
  rw [val_get] at h
  split at h
  · cases h
    exact hmalformed _
  · exact readFrom_fails (fun leg _ => legStep_fails hresolve leg) h

/-- **A compiled path fails to read only on a value of another shape**: its steps were
resolved once, and a resolved step is taken as it is. -/
theorem readCompiled_fails {d : Descriptor} {v : Value} {e : AccessError}
    (h : (ctx.readCompiled d v).val = .error e) :
    e = ⟨.mismatchedRoot d.root v.shape, d.path, none⟩ := by
  rw [val_readCompiled] at h
  split at h
  · rename_i e' he
    cases h
    unfold Descriptor.checkRoot at he
    split at he <;> cases he
    rfl
  · refine absurd (readFrom_fails (P := fun _ => False) (fun leg hleg s isLast => ?_) h) id
    obtain ⟨step, -, rfl⟩ := List.mem_map.mp hleg
    exact failsOnly_pure _

/-- **A compilation fails only as resolution does**, or at an untyped element before the
end. -/
theorem compileFrom_fails (hresolve : ∀ e s isLast, FailsOnly P (ctx.resolve e s isLast))
    (hunsupported : ∀ kind c op, P (.unsupported kind c op)) {path : String} :
    ∀ {segs : List Segment} {i : Nat} {s : Shape} {e : AccessError},
      (ctx.compileFrom path i s segs).val = .error e → P e.fault := by
  intro segs
  induction segs with
  | nil =>
    intro i s e h
    cases h
  | cons seg rest ih =>
    intro i s e h
    rw [val_compileFrom_cons] at h
    cases hres : (ctx.resolve seg s rest.isEmpty).run.val with
    | error f =>
      rw [hres] at h
      cases h
      exact (hresolve _ _ _).val hres
    | ok step =>
      rw [hres] at h
      dsimp only at h
      split at h
      · cases hrest : (ctx.compileFrom path (i + 1) _ rest).val with
        | error e' =>
          rw [hrest] at h
          cases h
          exact ih hrest
        | ok steps =>
          rw [hrest] at h
          cases h
      · split at h
        · cases h
        · cases h
          exact hunsupported _ _ _

/-- `compile` fails with a malformed path or as the compilation of its elements does. -/
theorem compile_fails (hmalformed : ∀ e, P (.malformed e))
    (hresolve : ∀ e s isLast, FailsOnly P (ctx.resolve e s isLast))
    (hunsupported : ∀ kind c op, P (.unsupported kind c op)) {root : Shape} {path : String}
    {e : AccessError} (h : (ctx.compile root path).val = .error e) : P e.fault := by
  rw [val_compile] at h
  split at h
  · cases h
    exact hmalformed _
  · split at h
    · cases h
      exact compileFrom_fails hresolve hunsupported ‹_›
    · cases h

end Context

end ValuePaths
