import ValuePaths.Proofs.Reach
import ValuePaths.Sample.Records

/-!
# Read-only and write-only fields

A record field may be read-only or write-only, and the three accesses check that in
different ways.

* A read finds nothing in a write-only field, so reading through one is absent.
* A write cannot go through a write-only field, since going through reads it.  It can go
  through a read-only field only when the field is present: entering a field whose value is
  unset at some `Option` layer would have to create it, and that is a write.
* A write never stores into a read-only field.

These hold wherever the walk is when it meets the field: after any elements, list slots,
map entries or set members it went through.  A write that fails at such a field leaves
the record it stands at as it found it.

## Main statements

* `Context.access_modes_hold` — the three rules, for `get`, descriptor reads and `set`.
-/

namespace ValuePaths

section

variable [Catalogue]

open Logged

/-- A write-only field reads as absent. -/
theorem Step.read_writeOnly {step : Step} {name : String} {access : Access}
    (hkey : step.key = .field name access) (h : access.readable = false) (c : Value) :
    step.read c = none := by
  unfold Step.read
  rw [hkey]
  cases c.present <;> simp [h]

namespace Context

variable (ctx : Context)

/-- A field name on a record resolves to the field, whatever the options and wherever the
name stands in the path. -/
theorem val_resolve_field {s : Shape} {rec : Record} (hs : s.unwrap = .record rec) {name : String}
    {fd : Field} (hfd : rec.field? name = some fd) (isLast : Bool) :
    (ctx.resolve (.property name) s isLast).run.val =
      .ok ⟨.record, .field name fd.access, .record rec, .typed fd.shape⟩ := by
  have hname : fd.name = name := by simpa using List.find?_some hfd
  rw [← ctx.resolve_unwrap, hs]
  unfold resolve
  simp only [Shape.unwrap, hfd, hname]
  rfl

section Field

variable {step : Step} {name : String} {access : Access} (hkey : step.key = .field name access)
  (r : Record) (fields : List Value)
include hkey

/-- Going through a write-only field is refused. -/
theorem descend_writeOnly (h : access.readable = false) :
    (ctx.descend step (.record r fields)).val =
      (.record r fields, .error (.writeOnly (.record r) name)) := by
  unfold descend
  rw [hkey]
  simp [h, Value.shape]

/-- Going through a read-only field whose value is unset at some `Option` layer is
refused. -/
theorem descend_readOnly_absent (hr : access.readable = true) (hw : access.writable = false)
    {x : Value} (hx : (Value.record r fields).child? step.key = some x)
    (hpresent : x.present = none) :
    (ctx.descend step (.record r fields)).val =
      (.record r fields, .error (.readOnly (.record r) name)) := by
  unfold descend
  rw [hkey] at hx ⊢
  simp [hr, hw, hx, hpresent, Value.shape]

/-- A read-only field whose value is present is entered as it is. -/
theorem descend_readOnly_present (hr : access.readable = true) {x : Value}
    (hx : (Value.record r fields).child? step.key = some x) (hpresent : x.present.isSome) :
    (ctx.descend step (.record r fields)).val =
      ((Value.record r fields).setChild step.key x, .ok ()) := by
  have hfill : (ctx.fill x).val = (x, .ok ()) := ctx.val_fillAt_of_present _ hpresent
  have hset : x.present.isNone = false := by simpa using hpresent
  unfold descend
  rw [hkey] at hx ⊢
  simp only [hr, hx, hset, Bool.not_true, Bool.false_eq_true, if_false, Bool.and_false]
  unfold val
  rw [run_bind_eq, Oblivious.fst_run (ctx.oblivious_fill _)]
  simp only [hfill]
  rfl

/-- Nothing is stored into a read-only field. -/
theorem store_readOnly (hw : access.writable = false) (v : Value) :
    (ctx.store step (.record r fields) v).val =
      (.record r fields, .error (.readOnly (.record r) name)) := by
  unfold store
  rw [hkey]
  simp [hw, Value.shape]

end Field

omit [Catalogue] in
/-- A value of a record shape is a record. -/
theorem eq_record_of_shape {d : Value} {rec : Record} (hd : d.shape = .record rec) :
    ∃ fields, d = .record rec fields := by
  cases d <;> simp only [Value.shape, reduceCtorEq, Shape.record.injEq] at hd
  subst hd
  exact ⟨_, rfl⟩

/-! ## Along a path -/

section Walk

variable {ctx} {root d : Value} {path : String} {p : Path} {q rest : List Segment} {name : String}
  {rec : Record} {fd : Field} (hp : Path.parse path = .ok p)
  (hsegs : p.steps.map (·.segment) = q ++ .property name :: rest) (hfd : rec.field? name = some fd)
include hp hsegs hfd

/-- A read whose walk stands at a record reads a write-only field of it as absent, whatever
follows. -/
theorem get_through_writeOnly (hq : ctx.ReadReach (q.map .element) root d)
    (hd : d.shape.unwrap = .record rec) (hwo : fd.access.readable = false) :
    (ctx.get root path).val = .ok none :=
  ctx.get_reach hp hsegs (List.cons_ne_nil _ _) hq fun _ =>
    ctx.readFrom_read_none (ctx.val_resolve_field hd hfd _) (Step.read_writeOnly rfl hwo d)

variable {plug : Value → Value} (hq : ctx.Reach (q.map .element) root d plug)
  (hd : d.shape = .record rec)
include hq hd

/-- A write whose walk stands at a record fails there when it has to go through a write-only
field of it, and leaves the record as it found it. -/
theorem set_through_writeOnly (hwo : fd.access.readable = false) (hrest : rest ≠ []) (r : Raw) :
    (ctx.set root path r).val =
      (plug d, .error ⟨.writeOnly (.record rec) name, path, some q.length⟩) := by
  obtain ⟨fields, rfl⟩ := eq_record_of_shape hd
  exact ctx.set_reach_error hp hsegs (List.cons_ne_nil _ _) hq fun _ =>
    ctx.writeFrom_descend_error (ctx.val_resolve_field rfl hfd false) (by simpa using hrest)
      (fun h => by cases h) (ctx.descend_writeOnly rfl rec fields hwo)

/-- A write whose last element is a read-only field of the record its walk stands at fails
there, and leaves the record as it found it: with the conversion's fault when the text does
not convert, and as read-only when it does. -/
theorem set_readOnly_last (hro : fd.access.writable = false) (hlast : rest = []) (r : Raw) :
    ∃ f, (ctx.set root path r).val = (plug d, .error ⟨f, path, some q.length⟩) ∧
      ((∃ v, (ctx.coerce (.typed fd.shape) r).run.val = .ok v) →
        f = .readOnly (.record rec) name) := by
  subst hlast
  obtain ⟨fields, rfl⟩ := eq_record_of_shape hd
  have hstep := ctx.val_resolve_field (rfl : (Shape.record rec).unwrap = _) hfd true
  cases hv : (ctx.coerce (.typed fd.shape) r).run.val with
  | error f =>
    refine ⟨f, ctx.set_reach_error hp hsegs (List.cons_ne_nil _ _) hq fun _ =>
      ctx.writeFrom_coerce_error hstep hv, ?_⟩
    rintro ⟨v, hv'⟩
    cases hv'
  | ok v =>
    exact ⟨_, ctx.set_reach_error hp hsegs (List.cons_ne_nil _ _) hq fun _ =>
      ctx.writeFrom_store_error hstep hv (ctx.store_readOnly rfl rec fields hro v), fun _ => rfl⟩

section ReadOnly

variable (hro : fd.access = .readOnly) (hrest : rest ≠ []) {x : Value}
  (hx : d.child? (.field name fd.access) = some x)
include hro hrest hx

/-- A write whose walk stands at a record fails there when it has to go through a read-only
field of it whose value is unset at some `Option` layer, and leaves the record as it found it. -/
theorem set_through_readOnly_absent (hpresent : x.present = none) (r : Raw) :
    (ctx.set root path r).val =
      (plug d, .error ⟨.readOnly (.record rec) name, path, some q.length⟩) := by
  obtain ⟨fields, rfl⟩ := eq_record_of_shape hd
  exact ctx.set_reach_error hp hsegs (List.cons_ne_nil _ _) hq fun _ =>
    ctx.writeFrom_descend_error (ctx.val_resolve_field rfl hfd false) (by simpa using hrest)
      (fun h => by cases h)
      (ctx.descend_readOnly_absent rfl rec fields (by rw [hro]; rfl) (by rw [hro]; rfl) hx hpresent)

omit hp hsegs hrest in
/-- A write whose walk stands at a record goes on into the value of a read-only field of it
when that value is present. -/
theorem reach_through_readOnly_present (hpresent : x.present.isSome) :
    ∃ plug', ctx.Reach ((q ++ [Segment.property name]).map .element) root x.inner plug' := by
  obtain ⟨fields, rfl⟩ := eq_record_of_shape hd
  have hdesc : (ctx.descend ⟨.record, .field name fd.access, .record rec, .typed fd.shape⟩
      (.record rec fields)).val =
        ((Value.record rec fields).setChild (.field name fd.access) x, .ok ()) :=
    ctx.descend_readOnly_present rfl rec fields (by rw [hro]; rfl) hx hpresent
  have hchild : ((Value.record rec fields).setChild (.field name fd.access) x).child?
      (.field name fd.access) = some x :=
    Value.child?_setChild x hx (fun _ _ _ h => by cases h) (fun _ h => by cases h)
  rw [List.map_append]
  exact ⟨_, hq.append (.enter (ctx.val_resolve_field rfl hfd false) (fun h => by cases h) hdesc
    hchild (.here _))⟩

end ReadOnly

end Walk

/-- A descriptor read whose walk stands at a write-only field reads as absent, whatever
follows. -/
theorem readCompiled_through_writeOnly {desc : Descriptor} {v d : Value} {pre post : List Step}
    {step : Step} {name : String} {access : Access} (hroot : v.shape = desc.root)
    (hsteps : desc.steps = pre ++ step :: post) (hkey : step.key = .field name access)
    (hwo : access.readable = false) (hq : ctx.ReadReach (pre.map .resolved) v d) :
    (ctx.readCompiled desc v).val = .ok none :=
  ctx.readCompiled_reach hroot hsteps (List.cons_ne_nil _ _) hq fun _ =>
    ctx.readFrom_read_none rfl (Step.read_writeOnly hkey hwo d)

/-- **Field access modes hold on every path.**  Let a path name the field `name` of a record
shape right after its elements `q`, the elements `rest` following.

* A read whose walk found a value at each element of `q` and stands at such a record reads
  as absent when the field is write-only; so does a descriptor read whose walk stands at a
  step into a write-only field.
* A write whose walk went through `q` and stands at such a record fails there when the field
  is write-only and `rest` is not empty; fails when the field is read-only and ends the
  path, as read-only whenever the text converts; fails there when the field is read-only,
  `rest` is not empty and its value is unset at some `Option` layer; and goes on into the
  field's value when that value is present.  Each failure leaves the record as the walk
  found it, put back along `q`. -/
theorem access_modes_hold {root d : Value} {path : String} {p : Path} {q rest : List Segment}
    {name : String} {rec : Record} {fd : Field} (hp : Path.parse path = .ok p)
    (hsegs : p.steps.map (·.segment) = q ++ .property name :: rest)
    (hfd : rec.field? name = some fd) (r : Raw) :
    (fd.access = .writeOnly → ctx.ReadReach (q.map .element) root d →
        d.shape.unwrap = .record rec → (ctx.get root path).val = .ok none) ∧
      (∀ (desc : Descriptor) (v c : Value) (pre post : List Step) (step : Step),
        v.shape = desc.root → desc.steps = pre ++ step :: post →
        step.key = .field name .writeOnly → ctx.ReadReach (pre.map .resolved) v c →
        (ctx.readCompiled desc v).val = .ok none) ∧
      ∀ plug, ctx.Reach (q.map .element) root d plug → d.shape = .record rec →
        (fd.access = .writeOnly → rest ≠ [] → (ctx.set root path r).val =
          (plug d, .error ⟨.writeOnly (.record rec) name, path, some q.length⟩)) ∧
        (fd.access = .readOnly → rest = [] →
          ∃ f, (ctx.set root path r).val = (plug d, .error ⟨f, path, some q.length⟩) ∧
            ((∃ v, (ctx.coerce (.typed fd.shape) r).run.val = .ok v) →
              f = .readOnly (.record rec) name)) ∧
        (fd.access = .readOnly → rest ≠ [] → ∀ x, d.child? (.field name fd.access) = some x →
          (x.present = none → (ctx.set root path r).val =
            (plug d, .error ⟨.readOnly (.record rec) name, path, some q.length⟩)) ∧
          (x.present.isSome →
            ∃ plug',
              ctx.Reach ((q ++ [Segment.property name]).map .element) root x.inner plug')) := by
  refine ⟨fun hwo hq hd => get_through_writeOnly hp hsegs hfd hq hd (by rw [hwo]; rfl),
    fun _ _ _ _ _ _ hroot hsteps hkey hq =>
      ctx.readCompiled_through_writeOnly hroot hsteps hkey rfl hq,
    fun plug hq hd => ⟨fun hwo hrest => ?_, fun hro hlast => ?_, fun hro hrest x hx => ⟨?_, ?_⟩⟩⟩
  · exact set_through_writeOnly hp hsegs hfd hq hd (by rw [hwo]; rfl) hrest r
  · exact set_readOnly_last hp hsegs hfd hq hd (by rw [hro]; rfl) hlast r
  · exact fun hpresent => set_through_readOnly_absent hp hsegs hfd hq hd hro hrest hx hpresent r
  · exact fun hpresent => reach_through_readOnly_present hfd hq hd hro hx hpresent

end Context

end

namespace Context

/-- Writing below the write-only `hidden` of a default `Root` fails at its first element and
leaves the root as it was. -/
theorem access_modes_hold_hidden :
    (({ registry := .empty } : Context).set (Record.zero Sample.root)
        (Path.render [.property "hidden", .property "c"]) (.one "5")).val =
      (Record.zero Sample.root, .error ⟨.writeOnly (.record Sample.root) "hidden",
        Path.render [.property "hidden", .property "c"], some 0⟩) := by
  have hp : Path.parse (Path.render [.property "hidden", .property "c"]) =
      .ok ⟨Path.render [.property "hidden", .property "c"],
        Path.place [.property "hidden", .property "c"] 0⟩ :=
    Path.parse_render (List.cons_ne_nil _ _)
      (by simp [Segment.Readable, Path.Plain, Path.isDelimiter])
  have hsegs : (Path.steps ⟨Path.render [.property "hidden", .property "c"],
      Path.place [.property "hidden", .property "c"] 0⟩).map (·.segment) =
      [] ++ .property "hidden" :: [.property "c"] := by
    decide
  have hfd : Sample.root.field? "hidden" = some ⟨"hidden", .writeOnly, .record Sample.leaf⟩ := by
    decide
  exact ((access_modes_hold _ hp hsegs hfd (.one "5")).2.2 id (.here _) rfl).1 rfl
    (List.cons_ne_nil _ _)

end Context

end ValuePaths
