import ValuePaths.Proofs.Descriptor
import ValuePaths.Proofs.Conversion
import ValuePaths.Proofs.PathGrammar
import ValuePaths.Sample.Records

/-!
# What a read refuses

Reading is tolerant: a name that is no property, a key that does not convert, a missing
element, an unset option and a write-only field make a read absent.  What a read does refuse
is a resolution refusal met at an element it reaches: under strict generics, a subscript of a
list that declares no element shape; a subscript of a record; an element count that is not
the last element; a map key whose shape one text cannot make, for want of a registered
default or for a count of slots other than one.

A read stops at the first absent element, so whether it reaches a refusal depends on the
value read and not only on the path, the shapes and the options: under strict generics,
`opt_dyn[0]` reads as absent from a `Config` whose `opt_dyn` is unset and is refused once it
is set.

## Main definitions

* `Context.Refusal` — the faults with which resolution refuses an element outright.
* `Context.RefusedAt` — a read goes through some elements and is refused at the next.

## Main statements

* `Context.resolve_fails` — resolution fails with an absent element or a refusal.
* `Context.readFrom_error_iff` — a read fails exactly when it reaches a refusal.
* `Context.get_fails_only_on_refusals` — so does `get`, besides on malformed paths.
-/

namespace ValuePaths

section

variable [Catalogue]

open Logged

namespace Context

variable (ctx : Context)

/-- The faults with which resolution refuses an element outright, which a read does not take
for an absent element. -/
inductive Refusal : Fault → Prop
  /-- A subscript of a list that declares no element shape, under strict generics. -/
  | undeclared (h : ctx.options.strictGenerics = true) : Refusal (.undeclared .untypedList)
  /-- A subscript of a record. -/
  | subscript (c : Shape) (raw : String) : Refusal (.unsupported .record c (.subscript raw))
  /-- An element count that is not the last element. -/
  | throughCount (c : Shape) (name : String) :
      Refusal (.unsupported .length c (.throughLength name))
  /-- A map key whose shape needs a registered default to be made, and has none. -/
  | keyCreation (s : Shape) (reason : CreationReason) : Refusal (.creation s reason)
  /-- A map key of an array shape, which one text does not fill. -/
  | keyFill (t : Shape) (n count : Nat) :
      Refusal (.unsupported .array (.array t n) (.fill count n))

/-- A refusal is no absent element. -/
theorem Refusal.not_absent {f : Fault} (h : ctx.Refusal f) : f.readsAsAbsent = false := by
  cases h <;> rfl

/-! ## What resolution fails with -/

/-- A fault that makes a read absent, or a refusal. -/
def ReadFault (f : Fault) : Prop := f.readsAsAbsent = true ∨ ctx.Refusal f

theorem readFault_convertOne (raw : String) (s : Shape) :
    FailsOnly ctx.ReadFault (ctx.convertOne raw s) :=
  ctx.failsOnly_convertOne (fun _ => .inl rfl) raw s

theorem readFault_instantiate (s : Shape) : FailsOnly ctx.ReadFault (ctx.instantiate s) :=
  ctx.failsOnly_instantiate (fun _ _ => .inr (.keyCreation _ _)) s

theorem readFault_elementTargets (s : Shape) :
    FailsOnly ctx.ReadFault (ctx.elementTargets s) :=
  ctx.failsOnly_elementTargets (fun hstrict => .inr (.undeclared hstrict)) s

/-- **Resolution fails with an absent element or a refusal.** -/
theorem resolve_fails {e : Segment} {s : Shape} {isLast : Bool} {f : Fault}
    (h : (ctx.resolve e s isLast).run.val = .error f) :
    f.readsAsAbsent = true ∨ ctx.Refusal f :=
  (ctx.failsOnly_resolve
    (ctx.failsOnly_coerce (ctx.failsOnly_coerceTo ctx.readFault_convertOne
      ctx.readFault_instantiate ctx.readFault_elementTargets (fun _ _ _ => .inr (.keyFill _ _ _))
      (fun _ _ _ => .inl rfl)))
    ctx.readFault_elementTargets (fun _ _ => .inl rfl) (fun _ _ => .inr (.subscript _ _))
    (fun _ _ => .inr (.throughCount _ _)) (fun _ _ => .inl rfl) e s isLast).val h

/-! ## Where a read is refused -/

/-- `ctx.RefusedAt segs v k f`: a read of the elements `segs` from `v` resolves the first `k`
of them and finds a value at each, and the resolution of the next one refuses it with `f`. -/
inductive RefusedAt : List Segment → Value → Nat → Fault → Prop
  | here {seg : Segment} {rest : List Segment} {v : Value} {f : Fault}
      (hres : (ctx.resolve seg v.shape rest.isEmpty).run.val = .error f) (hf : ctx.Refusal f) :
      RefusedAt (seg :: rest) v 0 f
  | later {seg : Segment} {rest : List Segment} {v w : Value} {step : Step} {k : Nat}
      {f : Fault} (hres : (ctx.resolve seg v.shape rest.isEmpty).run.val = .ok step)
      (hread : step.read v = some (.value w)) (h : RefusedAt rest w k f) :
      RefusedAt (seg :: rest) v (k + 1) f

/-- **A read fails exactly when it reaches a refusal**, with that fault, at that element. -/
theorem readFrom_error_iff (path : String) (segs : List Segment) :
    ∀ (i : Nat) (state : WalkState) (cursor : Value) (e : AccessError),
      (ctx.readFrom path i state (segs.map .element) cursor).val = .error e ↔
        ∃ k f, ctx.RefusedAt segs cursor k f ∧ e = ⟨f, path, some (i + k)⟩ := by
  induction segs with
  | nil =>
    intro i state cursor e
    simp only [List.map_nil, val_readFrom_nil, reduceCtorEq, false_iff]
    rintro ⟨k, f, h, -⟩
    cases h
  | cons seg segs ih =>
    intro i state cursor e
    rw [List.map_cons, readFrom_cons_error]
    simp only [legStep, List.isEmpty_map]
    constructor
    · rintro (⟨f, hres, habsent, rfl⟩ | ⟨step, w, hres, hread, hbelow⟩)
      · -- refused here, by a fault that is no absence: a refusal
        have hf : ctx.Refusal f := (ctx.resolve_fails hres).resolve_left (by simp [habsent])
        exact ⟨0, f, .here hres hf, rfl⟩
      · -- refused below the value found here
        obtain ⟨k, f, h, rfl⟩ := (ih (i + 1) _ w e).mp hbelow
        exact ⟨k + 1, f, .later hres hread h, by rw [Nat.add_assoc, Nat.add_comm 1 k]⟩
    · rintro ⟨k, f, h, rfl⟩
      cases h with
      | here hres hf => exact .inl ⟨f, hres, Refusal.not_absent ctx hf, rfl⟩
      | @later _ _ _ w step k _ hres hread h =>
        refine .inr ⟨step, w, hres, hread, (ih (i + 1) _ w _).mpr ⟨k, f, h, ?_⟩⟩
        rw [Nat.add_assoc, Nat.add_comm 1 k]

/-- **Reads fail only on malformed paths and on refusals they reach.**  `get` fails exactly
when the path does not parse, or when the walk of its elements, finding a value at each of
the first `k`, reaches an element whose resolution refuses it: under strict generics a
subscript of a list that declares no element shape, a subscript of a record, an element
count that is not the last element, or a map key one text cannot make.  The error then
names that fault, the path, and the element `k`.  Absent elements, unset options,
write-only fields, names that are no property and keys that do not convert make the read
absent instead. -/
theorem get_fails_only_on_refusals (root : Value) (path : String) (e : AccessError) :
    (ctx.get root path).val = .error e ↔
      (∃ pe, Path.parse path = .error pe ∧ e = .ofPath pe) ∨
        ∃ p k f, Path.parse path = .ok p ∧ ctx.RefusedAt (p.steps.map (·.segment)) root k f ∧
          e = ⟨f, path, some k⟩ := by
  rw [val_get]
  cases hp : Path.parse path with
  | error pe =>
    simp only [Except.error.injEq, reduceCtorEq, false_and, exists_false, or_false]
    constructor
    · intro h
      exact ⟨pe, rfl, h.symm⟩
    · rintro ⟨_, hpe, he⟩
      cases hpe
      exact he.symm
  | ok p =>
    simp only [reduceCtorEq, false_and, exists_false, false_or, Except.ok.injEq]
    have hroute : p.route = ⟨path, (p.steps.map (·.segment)).map .element⟩ := by
      rw [Path.route, Path.parse_source hp, List.map_map]
      rfl
    unfold readWalk
    rw [hroute, readFrom_error_iff]
    simp only [Nat.zero_add]
    constructor
    · rintro ⟨k, f, h, he⟩
      exact ⟨p, k, f, rfl, h, he⟩
    · rintro ⟨_, k, f, hp', h, he⟩
      cases hp'
      exact ⟨k, f, h, he⟩

end Context

end

namespace Context

/-- **Whether a read is refused depends on the value read.**  Under strict generics,
`opt_dyn[0]` reads as absent from a `Config` whose `opt_dyn` is unset, since the read stops
there, and is refused at its subscript once `opt_dyn` holds a list, which declares no
element shape. -/
theorem get_refusal_depends_on_value :
    let ctx : Context := { registry := .empty, options := { strictGenerics := true } }
    let unset := Sample.config.zero
    let holding := unset.setChild (.field "opt_dyn" .readWrite)
      (.option .untypedList (some (.untypedList [])))
    holding.shape = unset.shape ∧ (ctx.get unset "opt_dyn[0]").val = .ok none ∧
      (ctx.get holding "opt_dyn[0]").val =
        .error ⟨.undeclared .untypedList, "opt_dyn[0]", some 1⟩ := by
  intro ctx unset holding
  have hsegments : Path.segments ['[', '0', ']'] 7 = .ok [⟨.subscript "0", 7⟩] := by
    rw [show ['[', '0', ']'] = '[' :: (['0'] ++ ']' :: []) from rfl,
      Path.segments_subscript (by decide), Path.segments]
    rfl
  have hparse : Path.parse "opt_dyn[0]" =
      .ok ⟨"opt_dyn[0]", [⟨.property "opt_dyn", 0⟩, ⟨.subscript "0", 7⟩]⟩ := by
    simp [Path.parse, Path.isDelimiter, Char.utf8Size, hsegments]
  refine ⟨Value.shape_setChild _ _ _, ?_, ?_⟩
  · rw [val_get, hparse]
    rfl
  · rw [val_get, hparse]
    rfl

end Context

end ValuePaths
