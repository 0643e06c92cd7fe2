import ValuePaths.Access.Api
import ValuePaths.Proofs.Logged

/-!
# Every computation of the library is oblivious

Each computation that resolves, converts, creates, reads or writes notes diagnostics
and never looks at them, so its result does not depend on the notes made before it.
The lemmas below say so one function at a time, each from the lemmas of the functions it
calls; the recursive walks carry it through their own induction.

With them, every result of the library is its `Logged.val`, whatever was noted before.
-/

namespace ValuePaths

open Logged

theorem oblivious_noteMove (path : String) (i : Nat) (source target : WalkState) :
    (noteMove path i source target).Oblivious := oblivious_note _ _

variable [Catalogue]

namespace Context

variable (ctx : Context)

theorem oblivious_undeclaredElement (s : Shape) : (ctx.undeclaredElement s).run.Oblivious := by
  unfold undeclaredElement
  split
  · exact oblivious_run_throw _
  · intro st; rfl

theorem oblivious_elementTargets (s : Shape) : (ctx.elementTargets s).run.Oblivious := by
  unfold elementTargets
  split
  all_goals first
    | exact oblivious_run_pure _
    | exact (ctx.oblivious_undeclaredElement _).run_bind fun _ _ => oblivious_run_pure _

theorem oblivious_instantiate (s : Shape) : (ctx.instantiate s).run.Oblivious := by
  unfold instantiate
  split
  · exact oblivious_run_throw _
  · split <;> first | exact oblivious_run_pure _ | exact oblivious_run_throw _

theorem oblivious_createMissing (t : Target) : (ctx.createMissing t).run.Oblivious := by
  unfold createMissing
  split
  · exact oblivious_run_throw _
  · split
    · exact ctx.oblivious_instantiate _
    · exact oblivious_run_pure _

theorem oblivious_convertOne (raw : String) (s : Shape) : (ctx.convertOne raw s).run.Oblivious := by
  unfold convertOne
  repeat' split
  all_goals first | exact oblivious_run_pure _ | exact oblivious_run_throw _

theorem oblivious_coerceTo (s : Shape) : ∀ r : Raw, (ctx.coerceTo s r).run.Oblivious := by
  induction s with
  | option t ih =>
    intro r
    unfold coerceTo
    split
    · exact ctx.oblivious_convertOne _ _
    · exact (ih _).run_bind fun _ _ => oblivious_run_pure _
  | list l t ih =>
    intro r
    unfold coerceTo
    split
    · exact ctx.oblivious_convertOne _ _
    · exact (ctx.oblivious_elementTargets _).run_bind fun _ _ =>
        (ctx.oblivious_instantiate _).run_bind fun _ _ =>
        (Oblivious.run_mapM (fun x => ih (.one x)) _).run_bind fun _ _ => oblivious_run_pure _
  | untypedList =>
    intro r
    unfold coerceTo
    split
    · exact ctx.oblivious_convertOne _ _
    · exact (ctx.oblivious_elementTargets _).run_bind fun _ _ =>
        (ctx.oblivious_instantiate _).run_bind fun _ _ => oblivious_run_pure _
  | set l t ih =>
    intro r
    unfold coerceTo
    split
    · exact ctx.oblivious_convertOne _ _
    · exact (ctx.oblivious_elementTargets _).run_bind fun _ _ =>
        (ctx.oblivious_instantiate _).run_bind fun _ _ =>
        (Oblivious.run_mapM (fun x => ih (.one x)) _).run_bind fun _ _ => oblivious_run_pure _
  | array t n ih =>
    intro r
    unfold coerceTo
    split
    · exact ctx.oblivious_convertOne _ _
    · have rest : ∀ (r : Raw), (do
          let _ ← ctx.instantiate (.array t n)
          let items ← (Raw.items r).mapM fun x => ctx.coerceTo t (.one x)
          pure (Value.array t items) : Checked Value).run.Oblivious := fun _ =>
        (ctx.oblivious_instantiate _).run_bind fun _ _ =>
          (Oblivious.run_mapM (fun x => ih (.one x)) _).run_bind fun _ _ => oblivious_run_pure _
      dsimp only
      split
      · exact (oblivious_run_throw _).run_bind fun _ _ => rest _
      · exact rest _
  | scalar | record | map | properties =>
    intro r
    unfold coerceTo
    split
    · exact ctx.oblivious_convertOne _ _
    · -- one text converts with the shape's converter, several cannot
      dsimp only
      split
      · exact ctx.oblivious_convertOne _ _
      · exact ctx.oblivious_convertOne _ _
      · exact oblivious_run_throw _

theorem oblivious_coerce (t : Target) (r : Raw) : (ctx.coerce t r).run.Oblivious := by
  unfold coerce
  split
  · exact oblivious_run_pure _
  · exact oblivious_run_pure _
  · exact ctx.oblivious_coerceTo _ _

theorem oblivious_resolve (e : Segment) (s : Shape) (b : Bool) :
    (ctx.resolve e s b).run.Oblivious := by
  unfold resolve
  dsimp only
  split
  · repeat' split
    all_goals first | exact oblivious_run_pure _ | exact oblivious_run_throw _
  · refine (ctx.oblivious_elementTargets _).run_bind fun _ _ => ?_
    split
    · split <;> exact oblivious_run_throw _
    · split
      -- an index is read from the text
      iterate 3
        refine Oblivious.run_bind ?_ fun _ _ => oblivious_run_pure _
        split
        · exact oblivious_run_pure _
        · exact oblivious_run_throw _
      · exact (ctx.oblivious_coerce _ _).run_bind fun _ _ => oblivious_run_pure _
      · exact (((ctx.oblivious_coerce _ _).run_map _).run_tryCatch fun _ _ =>
          oblivious_run_pure _).run_bind fun _ _ => oblivious_run_pure _
      · exact oblivious_run_pure _

theorem oblivious_fillAt : ∀ (t : Shape) (v : Value), (ctx.fillAt t v).Oblivious
  | .option t, .option t' none => by
    unfold fillAt
    refine (ctx.oblivious_createMissing _).bind ?_
    split
    · exact oblivious_pure _
    · exact (oblivious_fillAt t _).bind (oblivious_pure _)
  | .option t, .option t' (some v) => by
    unfold fillAt
    exact (oblivious_fillAt t v).bind (oblivious_pure _)
  | .option _, .bool _ | .option _, .char _ | .option _, .int .. | .option _, .f32 _
  | .option _, .f64 _ | .option _, .string _ | .option _, .record .. | .option _, .list ..
  | .option _, .untypedList _ | .option _, .array .. | .option _, .map ..
  | .option _, .set .. | .option _, .properties _ => oblivious_pure _
  | .scalar _, _ | .record _, _ | .list .., _ | .untypedList, _ | .array .., _ | .map .., _
  | .set .., _ | .properties, _ => oblivious_pure _

theorem oblivious_fill (v : Value) : (ctx.fill v).Oblivious := ctx.oblivious_fillAt _ _

theorem oblivious_pad (items : List Value) (length : Nat) (ty : Shape) (target : Target) :
    (ctx.pad items length ty target).Oblivious := by
  unfold pad
  dsimp only
  split
  · exact oblivious_pure _
  · split
    · exact oblivious_pure _
    · refine (ctx.oblivious_createMissing _).bind ?_
      split <;> exact oblivious_pure _


theorem oblivious_descend (step : Step) (c : Value) : (ctx.descend step c).Oblivious := by
  unfold descend
  dsimp only
  split
  -- each arm is pure, or binds one of the computations below; a mismatch fails at once
  all_goals
    repeat' first
      | with_reducible exact oblivious_pure _
      | with_reducible refine (ctx.oblivious_pad _ _ _ _).bind ?_
      | with_reducible refine (ctx.oblivious_createMissing _).bind ?_
      | with_reducible refine (ctx.oblivious_coerce _ _).bind ?_
      | with_reducible exact (ctx.oblivious_fill _).bind (oblivious_pure _)
      | split

theorem oblivious_store (step : Step) (c v : Value) : (ctx.store step c v).Oblivious := by
  unfold store
  dsimp only
  split
  all_goals
    repeat' first
      | with_reducible exact oblivious_pure _
      | with_reducible refine (ctx.oblivious_pad _ _ _ _).bind ?_
      | with_reducible refine (ctx.oblivious_coerce _ _).bind ?_
      | split


theorem oblivious_legStep (leg : Leg) (s : Shape) (isLast : Bool) :
    (ctx.legStep leg s isLast).run.Oblivious := by
  unfold legStep
  split
  · exact ctx.oblivious_resolve _ _ _
  · exact oblivious_run_pure _

theorem oblivious_readFrom (path : String) (legs : List Leg) :
    ∀ (i : Nat) (state : WalkState) (cursor : Value),
      (ctx.readFrom path i state legs cursor).Oblivious := by
  induction legs with
  | nil =>
    intro i state cursor
    unfold readFrom
    exact (oblivious_note _ _).bind (oblivious_pure _)
  | cons leg rest ih =>
    intro i state cursor
    unfold readFrom
    refine (ctx.oblivious_legStep _ _ _).bind ?_
    split
    · split
      · exact (oblivious_note _ _).bind (oblivious_pure _)
      · exact (oblivious_note _ _).bind (oblivious_pure _)
    · refine (oblivious_note _ _).bind ?_
      split
      · exact ih _ _ _
      · exact oblivious_pure _
      · exact (oblivious_note _ _).bind (oblivious_pure _)

theorem oblivious_writeFrom (path : String) (r : Raw) (legs : List Leg) :
    ∀ (i : Nat) (state : WalkState) (c : Value),
      (ctx.writeFrom path r i state legs c).Oblivious := by
  induction legs with
  | nil =>
    intro i state c
    exact oblivious_pure _
  | cons leg rest ih =>
    intro i state c
    unfold writeFrom
    dsimp only
    refine (ctx.oblivious_legStep _ _ _).bind ?_
    repeat' first
      | with_reducible exact oblivious_pure _
      | with_reducible refine (oblivious_noteMove _ _ _ _).bind ?_
      | with_reducible refine (ctx.oblivious_coerce _ _).bind ?_
      | with_reducible refine (ctx.oblivious_store _ _ _).bind ?_
      | with_reducible refine (ctx.oblivious_createMissing _).bind ?_
      | with_reducible refine (ctx.oblivious_fill _).bind ?_
      | with_reducible refine (ctx.oblivious_descend _ _).bind ?_
      | with_reducible refine (ih _ _ _).bind ?_
      | split


theorem oblivious_writeWalk (route : Route) (root : Value) (r : Raw) :
    (ctx.writeWalk route root r).Oblivious := by
  unfold writeWalk
  split
  · exact (oblivious_note _ _).bind (oblivious_pure _)
  · exact (ctx.oblivious_writeFrom _ _ _ _ _ _).bind (oblivious_pure _)

theorem oblivious_set (root : Value) (path : String) (r : Raw) :
    (ctx.set root path r).Oblivious := by
  unfold set
  split
  · exact oblivious_pure _
  · exact ctx.oblivious_writeWalk _ _ _

theorem oblivious_compileFrom (path : String) (segs : List Segment) :
    ∀ (i : Nat) (cursor : Shape), (ctx.compileFrom path i cursor segs).Oblivious := by
  induction segs with
  | nil => intro i cursor; exact oblivious_pure _
  | cons e rest ih =>
    intro i cursor
    unfold compileFrom
    dsimp only
    refine (ctx.oblivious_resolve _ _ _).bind ?_
    split
    · exact oblivious_pure _
    · split
      · exact ((ih _ _).map _)
      · split <;> exact oblivious_pure _

theorem oblivious_compile (root : Shape) (path : String) : (ctx.compile root path).Oblivious := by
  unfold compile
  split
  · exact oblivious_pure _
  · refine (ctx.oblivious_compileFrom _ _ _ _).bind ?_
    split
    · exact oblivious_pure _
    · exact (oblivious_note _ _).bind (oblivious_pure _)

end Context

end ValuePaths
