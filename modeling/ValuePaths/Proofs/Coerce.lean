import ValuePaths.Proofs.Walk
import ValuePaths.Proofs.Collection

/-!
# Converting text

What text converts to.  A registry installs a converter for a shape; the typed
registration of the host program only accepts converters that give values of that shape,
which `Registry.Sound` states.  With such a registry, text converted for a shape gives a
value of exactly that shape (`Context.coerceTo_shape`): the shape of a container built
from items does not depend on what the items convert to.
-/

namespace ValuePaths

open Logged

namespace Registry

/-- A registry whose converters give values of the shape they are installed for, as the
typed registration of a converter guarantees. -/
def Sound (reg : Registry) : Prop :=
  ∀ raw s v, reg.convert raw s = .ok v → v.shape = s

/-- A registry whose conversions for one shape that the order ties are the same value, as
the keys of an ordered map must be. -/
def Faithful (reg : Registry) : Prop :=
  ∀ {raw₁ raw₂ s v₁ v₂}, reg.convert raw₁ s = .ok v₁ → reg.convert raw₂ s = .ok v₂ →
    Value.same v₁ v₂ = true → v₁ = v₂

end Registry

namespace Members

theorem build_layout (tbl : FixedTable) (l : Layout) (t : Shape) (vs : List Value) :
    (build tbl l t vs).1.layout = l := by
  unfold build
  have hstart : ((l.start, ([] : List Value)) : Placement × List Value).1.layout = l :=
    Layout.start_layout l
  generalize ((l.start, []) : Placement × List Value) = acc at hstart ⊢
  -- each member added keeps the layout of the placement
  induction vs generalizing acc with
  | nil => exact hstart
  | cons v vs ih => exact ih _ (by simp [hstart])

end Members

variable [Catalogue]

namespace Context

variable (ctx : Context)

theorem convertOne_shape (hsound : ctx.registry.Sound) {raw : String} {s : Shape} {v : Value}
    (h : (ctx.convertOne raw s).run.val = .ok v) : v.shape = s := by
  unfold convertOne at h
  split at h
  · split at h
    · rename_i w hw
      cases h
      exact hsound raw s _ hw
    · cases h
  · split at h <;> cases h

/-! ## What converted text is

Text converted for a container is taken whole by a converter installed for the container
itself, or else makes the container: an option holds the text converted for its inner
shape, a list, set or array holds each text converted for its element shape, and a list
that declares no element shape keeps the texts as they are. -/

/-- Text taken whole by the converter installed for a shape. -/
def Converts (s : Shape) (r : Raw) (v : Value) : Prop :=
  ∃ raw, r = .one raw ∧ ctx.registry.hasConverter s = true ∧
    (ctx.convertOne raw s).run.val = .ok v

section Results

variable {ctx} {r : Raw} {v : Value}

theorem coerceTo_option_ok {t : Shape} (h : (ctx.coerceTo (.option t) r).run.val = .ok v) :
    ctx.Converts (.option t) r v ∨
      ∃ w, v = .option t (some w) ∧ (ctx.coerceTo t r).run.val = .ok w := by
  unfold coerceTo at h
  split at h
  · exact .inl ⟨_, rfl, ‹_›, h⟩
  · dsimp only at h
    obtain ⟨w, hw, h⟩ := run_bind_ok (fun _ _ => oblivious_run_pure _) h
    cases h
    exact .inr ⟨w, rfl, hw⟩

theorem coerceTo_list_ok {l : ListLayout} {t : Shape}
    (h : (ctx.coerceTo (.list l t) r).run.val = .ok v) :
    ctx.Converts (.list l t) r v ∨ ∃ items, v = .list l t items ∧
      (r.items.mapM fun x => ctx.coerceTo t (.one x)).run.val = .ok items := by
  unfold coerceTo at h
  split at h
  · exact .inl ⟨_, rfl, ‹_›, h⟩
  · dsimp only at h
    have items (xs : List String) :=
      Oblivious.run_mapM (fun x => ctx.oblivious_coerceTo t (.one x)) xs
    obtain ⟨_, -, h⟩ := run_bind_ok (fun _ _ => (ctx.oblivious_instantiate _).run_bind
      fun _ _ => (items _).run_bind fun _ _ => oblivious_run_pure _) h
    obtain ⟨_, -, h⟩ :=
      run_bind_ok (fun _ _ => (items _).run_bind fun _ _ => oblivious_run_pure _) h
    obtain ⟨vs, hvs, h⟩ := run_bind_ok (fun _ _ => oblivious_run_pure _) h
    cases h
    exact .inr ⟨vs, rfl, hvs⟩

/-- A list that declares no element shape keeps the texts, once the context has allowed
its element targets. -/
theorem coerceTo_untypedList_ok (h : (ctx.coerceTo .untypedList r).run.val = .ok v) :
    ctx.Converts .untypedList r v ∨
      (∃ ts, (ctx.elementTargets .untypedList).run.val = .ok ts) ∧
        v = .untypedList (r.items.map .string) := by
  unfold coerceTo at h
  split at h
  · exact .inl ⟨_, rfl, ‹_›, h⟩
  · dsimp only at h
    obtain ⟨ts, hts, h⟩ := run_bind_ok (fun _ _ => (ctx.oblivious_instantiate _).run_bind
      fun _ _ => oblivious_run_pure _) h
    obtain ⟨_, -, h⟩ := run_bind_ok (fun _ _ => oblivious_run_pure _) h
    cases h
    exact .inr ⟨⟨ts, hts⟩, rfl⟩

theorem coerceTo_set_ok {l : Layout} {t : Shape}
    (h : (ctx.coerceTo (.set l t) r).run.val = .ok v) :
    ctx.Converts (.set l t) r v ∨ ∃ items,
      v = .set (Members.build ctx.table l t items).1 t (Members.build ctx.table l t items).2 ∧
        (r.items.mapM fun x => ctx.coerceTo t (.one x)).run.val = .ok items := by
  unfold coerceTo at h
  split at h
  · exact .inl ⟨_, rfl, ‹_›, h⟩
  · dsimp only at h
    have members (xs : List String) :=
      Oblivious.run_mapM (fun x => ctx.oblivious_coerceTo t (.one x)) xs
    obtain ⟨_, -, h⟩ := run_bind_ok (fun _ _ => (ctx.oblivious_instantiate _).run_bind
      fun _ _ => (members _).run_bind fun _ _ => oblivious_run_pure _) h
    obtain ⟨_, -, h⟩ :=
      run_bind_ok (fun _ _ => (members _).run_bind fun _ _ => oblivious_run_pure _) h
    obtain ⟨vs, hvs, h⟩ := run_bind_ok (fun _ _ => oblivious_run_pure _) h
    cases h
    exact .inr ⟨vs, rfl, hvs⟩

/-- An array takes exactly as many texts as it has places. -/
theorem coerceTo_array_ok {t : Shape} {n : Nat}
    (h : (ctx.coerceTo (.array t n) r).run.val = .ok v) :
    ctx.Converts (.array t n) r v ∨ ∃ items, r.items.length = n ∧ v = .array t items ∧
      (r.items.mapM fun x => ctx.coerceTo t (.one x)).run.val = .ok items := by
  unfold coerceTo at h
  split at h
  · exact .inl ⟨_, rfl, ‹_›, h⟩
  · dsimp only at h
    have items (xs : List String) :=
      Oblivious.run_mapM (fun x => ctx.oblivious_coerceTo t (.one x)) xs
    split at h
    · cases h
    · rename_i hlen
      obtain ⟨_, -, h⟩ := run_bind_ok (fun _ _ => (items _).run_bind
        fun _ _ => oblivious_run_pure _) h
      obtain ⟨vs, hvs, h⟩ := run_bind_ok (fun _ _ => oblivious_run_pure _) h
      cases h
      exact .inr ⟨vs, by simpa using hlen, rfl, hvs⟩

/-- What holds of every value converted for an element shape holds of each item converted
for it. -/
theorem forall_items {P : Value → Prop} {t : Shape} {xs : List String} {vs : List Value}
    (ih : ∀ {r : Raw} {v : Value}, (ctx.coerceTo t r).run.val = .ok v → P v)
    (h : (xs.mapM fun x => ctx.coerceTo t (.one x)).run.val = .ok vs) : ∀ v ∈ vs, P v := by
  intro v hv
  obtain ⟨x, -, hx⟩ := mem_mapM_ok (fun x => ctx.oblivious_coerceTo t (.one x)) h v hv
  exact ih hx

end Results

/-- With a sound registry, text converts to a value of the shape asked for. -/
theorem coerceTo_shape (hsound : ctx.registry.Sound) {s : Shape} {r : Raw} {v : Value}
    (h : (ctx.coerceTo s r).run.val = .ok v) : v.shape = s := by
  cases s with
  | option t =>
    rcases coerceTo_option_ok h with ⟨_, -, -, h⟩ | ⟨w, rfl, -⟩
    · exact ctx.convertOne_shape hsound h
    · rfl
  | list l t =>
    rcases coerceTo_list_ok h with ⟨_, -, -, h⟩ | ⟨items, rfl, -⟩
    · exact ctx.convertOne_shape hsound h
    · rfl
  | untypedList =>
    rcases coerceTo_untypedList_ok h with ⟨_, -, -, h⟩ | ⟨-, rfl⟩
    · exact ctx.convertOne_shape hsound h
    · rfl
  | set l t =>
    rcases coerceTo_set_ok h with ⟨_, -, -, h⟩ | ⟨items, rfl, -⟩
    · exact ctx.convertOne_shape hsound h
    · simp [Value.shape, Members.build_layout]
  | array t n =>
    rcases coerceTo_array_ok h with ⟨_, -, -, h⟩ | ⟨items, hlen, rfl, hitems⟩
    · exact ctx.convertOne_shape hsound h
    · have hlen' := length_mapM_ok (fun x => ctx.oblivious_coerceTo t (.one x)) hitems
      simp [Value.shape, hlen', hlen]
  | _ =>
    -- a shape with no elements converts one text through its converter or fails
    unfold coerceTo at h
    split at h
    · exact ctx.convertOne_shape hsound h
    · dsimp only at h
      split at h
      · exact ctx.convertOne_shape hsound h
      · exact ctx.convertOne_shape hsound h
      · cases h

theorem coerce_typed_shape (hsound : ctx.registry.Sound) {s : Shape} {r : Raw} {v : Value}
    (h : (ctx.coerce (.typed s) r).run.val = .ok v) : v.shape = s :=
  ctx.coerceTo_shape hsound h

end Context

end ValuePaths
