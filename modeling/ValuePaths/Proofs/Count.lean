import ValuePaths.Proofs.FieldAccess
import ValuePaths.Proofs.Refusal
import ValuePaths.Sample.Records

/-!
# The element count of a container

With pseudo properties on, the name `length` or `size` on a list, set, map, array or text
table reads the number of its elements, looking through its `Option` layers.  The count is
computed, not stored: it ends the path, and a write can neither go through it nor assign
it.  On a record the two names are only ever its fields, and with pseudo properties off
they name nothing on a container, so reading them there is absent.

## Main statements

* `Context.count_is_a_read_only_view` — the count read by `get`, the fields of records, the
  names off, and the writes and compilations that meet the count.
-/

namespace ValuePaths

section

variable [Catalogue]

open Logged

namespace Value

omit [Catalogue]

/-- Every container value has an element count. -/
theorem count?_of_container {c : Value} (hc : c.shape.kind.isContainer) :
    ∃ n, c.count? = some n := by
  cases c <;> simp_all [count?, shape, Shape.kind, Kind.isContainer]

/-- The count of an array is its capacity. -/
theorem count?_array {c : Value} {n N : Nat} {t : Shape} (hn : c.count? = some n)
    (hc : c.shape = .array t N) : n = N := by
  cases c <;> simp_all [count?, shape]

end Value

/-- The count step reads the element count of the container under its layers. -/
theorem Step.read_length {step : Step} (hkey : step.key = .length) (v : Value) :
    step.read v = (v.present.bind Value.count?).map Found.count := by
  unfold Step.read
  rw [hkey]
  cases v.present <;> rfl

namespace Context

variable (ctx : Context)

/-- With pseudo properties on, `length` or `size` on a container is its count when it ends
the path, and refused anywhere else. -/
theorem val_resolve_count {s : Shape} (hs : s.unwrap.kind.isContainer) {name : String}
    (hname : isCountName name = true) (hon : ctx.options.pseudoProperties = true) (isLast : Bool) :
    (ctx.resolve (.property name) s isLast).run.val =
      if isLast then .ok ⟨.length, .length, s.unwrap, .typed .usize⟩
      else .error (.unsupported .length s.unwrap (.throughLength name)) := by
  unfold resolve
  dsimp only
  split
  · rename_i rec hrec
    rw [hrec] at hs
    cases hs
  · simp only [hname, hon, hs, Bool.and_self, if_true]
    cases isLast <;> rfl

/-- With pseudo properties off, a name on anything but a record names nothing. -/
theorem val_resolve_name_off {s : Shape} (hs : ∀ rec, s.unwrap ≠ .record rec) {name : String}
    (hoff : ctx.options.pseudoProperties = false) (isLast : Bool) :
    (ctx.resolve (.property name) s isLast).run.val = .error (.noProperty s.unwrap name) := by
  unfold resolve
  dsimp only
  split
  · rename_i rec hrec
    exact absurd hrec (hs rec)
  · simp only [hoff, Bool.and_false, Bool.false_and]
    rfl

/-! ## Along a path -/

section Walk

variable {ctx} {root d : Value} {path : String} {p : Path} {q rest : List Segment} {name : String}
  (hp : Path.parse path = .ok p) (hsegs : p.steps.map (·.segment) = q ++ .property name :: rest)
include hp hsegs

/-- A read of a record's field at the end of a path reads the field, whatever the options. -/
theorem get_field_last (hlast : rest = []) (hq : ctx.ReadReach (q.map .element) root d)
    {rec : Record} {fd : Field} (hd : d.shape.unwrap = .record rec)
    (hfd : rec.field? name = some fd) :
    (ctx.get root path).val =
      .ok (Step.read ⟨.record, .field name fd.access, .record rec, .typed fd.shape⟩ d) := by
  subst hlast
  exact ctx.get_reach hp hsegs (List.cons_ne_nil _ _) hq fun _ =>
    ctx.readFrom_last (ctx.val_resolve_field hd hfd true)

section On

variable (hname : isCountName name = true) (hon : ctx.options.pseudoProperties = true)
include hname hon

/-- With pseudo properties on, reading the count at the end of a path from a well-typed value
gives the number of elements of the container the read reaches. -/
theorem get_count (hlast : rest = []) (hroot : root.WellTyped)
    (hq : ctx.ReadReach (q.map .element) root d) {c : Value} (hc : d.present = some c)
    (hcont : c.shape.kind.isContainer) {n : Nat} (hn : c.count? = some n) :
    (ctx.get root path).val = .ok (some (.count n)) := by
  subst hlast
  have hshape : c.shape = d.shape.unwrap := ((ReadReach.wellTyped hq hroot).present hc).2
  have hstep : (ctx.legStep (.element (.property name)) d.shape true).run.val =
      .ok ⟨.length, .length, d.shape.unwrap, .typed .usize⟩ := by
    rw [legStep, ctx.val_resolve_count (by rw [← hshape]; exact hcont) hname hon, if_pos rfl]
  have hread : Step.read ⟨.length, .length, d.shape.unwrap, .typed .usize⟩ d = some (.count n) := by
    rw [Step.read_length rfl, hc, Option.bind_some, hn, Option.map_some]
  exact ctx.get_reach hp hsegs (List.cons_ne_nil _ _) hq fun _ => by
    rw [← hread]
    exact ctx.readFrom_last hstep

variable {plug : Value → Value} (hq : ctx.Reach (q.map .element) root d plug)
  (hd : d.shape.unwrap.kind.isContainer)
include hq hd

/-- With pseudo properties on, a write fails where it has to go through the count, and
leaves the container as it found it. -/
theorem set_through_count (hrest : rest ≠ []) (r : Raw) :
    (ctx.set root path r).val =
      (plug d, .error ⟨.unsupported .length d.shape.unwrap (.throughLength name), path,
        some q.length⟩) := by
  have hstep :
      (ctx.legStep (.element (.property name)) d.shape (rest.map Leg.element).isEmpty).run.val =
        .error (.unsupported .length d.shape.unwrap (.throughLength name)) := by
    rw [legStep, List.isEmpty_map, ctx.val_resolve_count hd hname hon,
      if_neg (by simpa using hrest)]
  exact ctx.set_reach_error hp hsegs (List.cons_ne_nil _ _) hq fun _ =>
    ctx.writeFrom_legStep_error hstep

/-- With pseudo properties on, a write of the count fails, and leaves the container as it
found it: with the conversion's fault when the text is no `usize`, and as an assignment the
count does not support when it is. -/
theorem set_count_last (hlast : rest = []) (r : Raw) :
    ∃ f, (ctx.set root path r).val = (plug d, .error ⟨f, path, some q.length⟩) ∧
      ((∃ v, (ctx.coerce (.typed .usize) r).run.val = .ok v) →
        f = .unsupported .length d.shape .assignment) := by
  subst hlast
  have hstep := ctx.val_resolve_count hd hname hon true
  rw [if_pos rfl] at hstep
  cases hv : (ctx.coerce (.typed .usize) r).run.val with
  | error f =>
    refine ⟨f, ctx.set_reach_error hp hsegs (List.cons_ne_nil _ _) hq fun _ =>
      ctx.writeFrom_coerce_error hstep hv, ?_⟩
    rintro ⟨v, hv'⟩
    cases hv'
  | ok v =>
    exact ⟨_, ctx.set_reach_error hp hsegs (List.cons_ne_nil _ _) hq fun _ =>
      ctx.writeFrom_store_error hstep hv (ctx.store_length rfl d v), fun _ => rfl⟩

end On

/-- With pseudo properties off, `length` or `size` on a container that a read reaches reads
as absent, whatever follows. -/
theorem get_count_off (hoff : ctx.options.pseudoProperties = false)
    (hq : ctx.ReadReach (q.map .element) root d) (hd : d.shape.unwrap.kind.isContainer) :
    (ctx.get root path).val = .ok none := by
  have hrec : ∀ rec, d.shape.unwrap ≠ .record rec := fun rec h => by
    rw [h] at hd
    cases hd
  have hstep :
      (ctx.legStep (.element (.property name)) d.shape (rest.map Leg.element).isEmpty).run.val =
        .error (.noProperty d.shape.unwrap name) :=
    ctx.val_resolve_name_off hrec hoff _
  exact ctx.get_reach hp hsegs (List.cons_ne_nil _ _) hq fun _ =>
    (ctx.readFrom_legStep_error hstep).trans rfl

end Walk

/-- With pseudo properties on, a compilation fails where it has to go through the count of
a container shape. -/
theorem compile_through_count {path : String} {p : Path} {q rest : List Segment} {name : String}
    (hp : Path.parse path = .ok p) (hsegs : p.steps.map (·.segment) = q ++ .property name :: rest)
    (hname : isCountName name = true) (hon : ctx.options.pseudoProperties = true)
    (hrest : rest ≠ []) {s t : Shape} (hq : ctx.CompileReach q s t)
    (ht : t.unwrap.kind.isContainer) :
    (ctx.compile s path).val =
      .error ⟨.unsupported .length t.unwrap (.throughLength name), path, some q.length⟩ :=
  ctx.compile_reach_error hp hsegs (List.cons_ne_nil _ _) hq
    (ctx.compileFrom_resolve_error (by
      rw [ctx.val_resolve_count ht hname hon, if_neg (by simpa using hrest)]))

/-- **The count is a read-only view of the number of elements.**  Let a path name `length`
or `size` right after its elements `q`, the elements `rest` following.

* With pseudo properties on, when the name ends the path and the read of a well-typed value
  reaches a container, under any `Option` layers, `get` gives its number of elements: the
  capacity of an array.
* On a record with a field of that name the name is the field, whatever the options and
  wherever it stands, and `get` reads the field.
* With pseudo properties off, `get` reads the name on a container as absent.
* With pseudo properties on, a write that has to go through the count of a container it
  reached fails there, and so does a compilation that has to go through the count of a
  container shape; a write of the count itself always fails.  The writes leave the
  container as they found it, put back along `q`. -/
theorem count_is_a_read_only_view {root d : Value} {path : String} {p : Path}
    {q rest : List Segment} {name : String} (hp : Path.parse path = .ok p)
    (hsegs : p.steps.map (·.segment) = q ++ .property name :: rest)
    (hname : isCountName name = true) (r : Raw) :
    (ctx.options.pseudoProperties = true → rest = [] → root.WellTyped →
      ctx.ReadReach (q.map .element) root d → ∀ c, d.present = some c → c.shape.kind.isContainer →
        ∃ n, c.count? = some n ∧ (ctx.get root path).val = .ok (some (.count n)) ∧
          ∀ t N, c.shape = .array t N → n = N) ∧
      (∀ (s : Shape) (rec : Record) (fd : Field) (isLast : Bool), s.unwrap = .record rec →
        rec.field? name = some fd → (ctx.resolve (.property name) s isLast).run.val =
          .ok ⟨.record, .field name fd.access, .record rec, .typed fd.shape⟩) ∧
      (∀ (rec : Record) (fd : Field), rest = [] → ctx.ReadReach (q.map .element) root d →
        d.shape.unwrap = .record rec → rec.field? name = some fd → (ctx.get root path).val =
          .ok (Step.read ⟨.record, .field name fd.access, .record rec, .typed fd.shape⟩ d)) ∧
      (ctx.options.pseudoProperties = false → ctx.ReadReach (q.map .element) root d →
        d.shape.unwrap.kind.isContainer → (ctx.get root path).val = .ok none) ∧
      (ctx.options.pseudoProperties = true →
        (∀ plug, ctx.Reach (q.map .element) root d plug → d.shape.unwrap.kind.isContainer →
          (rest ≠ [] → (ctx.set root path r).val = (plug d, .error ⟨.unsupported .length
            d.shape.unwrap (.throughLength name), path, some q.length⟩)) ∧
          (rest = [] → ∃ f, (ctx.set root path r).val = (plug d, .error ⟨f, path, some q.length⟩) ∧
            ((∃ v, (ctx.coerce (.typed .usize) r).run.val = .ok v) →
              f = .unsupported .length d.shape .assignment))) ∧
        (rest ≠ [] → ∀ s t, ctx.CompileReach q s t → t.unwrap.kind.isContainer →
          (ctx.compile s path).val =
            .error ⟨.unsupported .length t.unwrap (.throughLength name), path,
              some q.length⟩)) := by
  refine ⟨fun hon hlast hroot hq c hc hcont => ?_,
    fun _ _ _ isLast hs hfd => ctx.val_resolve_field hs hfd isLast,
    fun _ _ hlast hq hd hfd => get_field_last hp hsegs hlast hq hd hfd,
    fun hoff hq hd => get_count_off hp hsegs hoff hq hd,
    fun hon => ⟨fun plug hq hd => ⟨fun hrest => ?_, fun hlast => ?_⟩, fun hrest s t hq ht => ?_⟩⟩
  · obtain ⟨n, hn⟩ := Value.count?_of_container hcont
    exact ⟨n, hn, get_count hp hsegs hname hon hlast hroot hq hc hcont hn,
      fun _ _ => Value.count?_array hn⟩
  · exact set_through_count hp hsegs hname hon hq hd hrest r
  · exact set_count_last hp hsegs hname hon hq hd hlast r
  · exact ctx.compile_through_count hp hsegs hname hon hrest hq ht

end Context

end

namespace Context

/-- The `length` of a list of two bytes reads as the count two. -/
theorem count_is_a_read_only_view_bytes :
    (({ registry := .empty } : Context).get
        (.list .contiguous (.scalar (.int .u8)) [.int .u8 1, .int .u8 2])
        (Path.render [.property "length"])).val = .ok (some (.count 2)) := by
  have hp : Path.parse (Path.render [.property "length"]) =
      .ok ⟨Path.render [.property "length"], Path.place [.property "length"] 0⟩ :=
    Path.parse_render (List.cons_ne_nil _ _)
      (by simp [Segment.Readable, Path.Plain, Path.isDelimiter])
  have hsegs : (Path.steps ⟨Path.render [.property "length"],
      Path.place [.property "length"] 0⟩).map (·.segment) = [] ++ [.property "length"] := by
    decide
  have hroot :
      (Value.list .contiguous (.scalar (.int .u8)) [.int .u8 1, .int .u8 2]).WellTyped := by
    refine .list (by simp [Value.shape]) fun x hx => ?_
    simp only [List.mem_cons, List.not_mem_nil, or_false] at hx
    rcases hx with rfl | rfl <;> exact .int _ _
  obtain ⟨n, hn, hget, -⟩ :=
    (count_is_a_read_only_view { registry := .empty } hp hsegs rfl (.one "3")).1 rfl rfl hroot
      (.here _) _ rfl rfl
  cases hn
  exact hget

end Context

end ValuePaths
