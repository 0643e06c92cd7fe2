import Mathlib
import ValuePaths.Registry.Basic

/-!
# Reading a shape back from its path

The full path of a shape names it: two shapes with the same path are the same shape.  A
path is an opening text, which the kind of the shape and its layout fix, followed by the
paths of the shape's parts with separators between them, and a closing text.  Inside a
path, the path of a part is followed by a closing `>`, a `,` or a `;`.

A record's path is made of letters, digits, `_` and `:`, and is none of the library's own
paths, so it ends where such a closing text starts, and no other opening is made of those
characters alone without being a path the library provides.  No other opening begins
another one, and an opening fixes the head of the shape, so a path followed by a closing
text can be read from the left one part at a time.

## Main statements

* `Shape.path_append_inj` — a path followed by a closing text is another path followed by
  a closing text only when the shapes and the texts are the same.
* `Shape.path_injective` — so different shapes have different paths.
-/

namespace ValuePaths

/-- The text a path of a map or set of a layout ends with, after the path of its last
part. -/
def Layout.closing : Layout → String
  | .tree => ">"
  | .hash => ", std::hash::RandomState>"
  | .fixedHash => ", pw_utils::hash::FixedHashState>"

namespace Shape

/-- The text a path starts with, before the path of its first part; all of it for a shape
without parts. -/
def opening : Shape → String
  | list .contiguous _ => "alloc::vec::Vec<"
  | list .ring _ => "alloc::collections::VecDeque<"
  | array _ _ => "["
  | option _ => "core::option::Option<"
  | map .tree _ _ => "alloc::collections::BTreeMap<"
  | map .hash _ _ => "std::collections::HashMap<"
  | map .fixedHash _ _ => "hashbrown::HashMap<"
  | set .tree _ => "alloc::collections::BTreeSet<"
  | set .hash _ => "std::collections::HashSet<"
  | set .fixedHash _ => "hashbrown::HashSet<"
  | s => s.path

/-- The shape with its parts left out, which is what its opening depends on. -/
def head : Shape → Shape
  | list l _ => list l properties
  | array _ _ => array properties 0
  | option _ => option properties
  | map l _ _ => map l properties properties
  | set l _ => set l properties
  | s => s

theorem opening_head (s : Shape) : s.head.opening = s.opening := by
  cases s with
  | list l t => cases l <;> rfl
  | map l k v => cases l <;> rfl
  | set l t => cases l <;> rfl
  | _ => rfl

/-- The heads of the containers. -/
def containerHeads : List Shape :=
  [list .contiguous properties, list .ring properties, array properties 0, option properties,
    map .tree properties properties, map .hash properties properties,
    map .fixedHash properties properties, set .tree properties, set .hash properties,
    set .fixedHash properties]

/-- The heads of all shapes other than records: the shapes without parts, which are their
own heads, and the heads of the containers. -/
def heads : List Shape :=
  Registry.standardScalars.map scalar ++ [untypedList, properties] ++ containerHeads

theorem head_mem_heads {s : Shape} (hs : ∀ r, s ≠ record r) : s.head ∈ heads := by
  cases s with
  | scalar sc => cases sc <;> (try rename_i t; cases t) <;> decide
  | record r => exact absurd rfl (hs r)
  | list l t => show list l properties ∈ heads; cases l <;> decide
  | array t n => show array properties 0 ∈ heads; decide
  | option t => show option properties ∈ heads; decide
  | map l k v => show map l properties properties ∈ heads; cases l <;> decide
  | set l t => show set l properties ∈ heads; cases l <;> decide
  | _ => decide

/-- No opening of a shape other than a record begins another one. -/
theorem eq_of_opening_prefix_heads :
    ∀ a ∈ heads, ∀ b ∈ heads, a.opening.toList <+: b.opening.toList → a = b := by
  decide +kernel

/-- An opening of a shape other than a record that begins another is one of the same head. -/
theorem head_eq_of_opening_begins {s s' : Shape} (hs : ∀ r, s ≠ record r)
    (hs' : ∀ r, s' ≠ record r) (h : s.opening.toList <+: s'.opening.toList) :
    s.head = s'.head := by
  rw [← opening_head, ← opening_head s'] at h
  exact eq_of_opening_prefix_heads _ (head_mem_heads hs) _ (head_mem_heads hs') h

/-! ## A path, part by part -/

theorem path_list (l : ListLayout) (t : Shape) :
    (list l t).path = (list l t).opening ++ t.path ++ ">" := by
  cases l <;> rfl

theorem path_option (t : Shape) : (option t).path = (option t).opening ++ t.path ++ ">" := rfl

theorem path_set (l : Layout) (t : Shape) :
    (set l t).path = (set l t).opening ++ t.path ++ l.closing := by
  cases l <;> rfl

theorem path_map (l : Layout) (k v : Shape) :
    (map l k v).path = (map l k v).opening ++ k.path ++ ", " ++ v.path ++ l.closing := by
  cases l <;> rfl

theorem path_array (t : Shape) (n : Nat) :
    (array t n).path = (array t n).opening ++ t.path ++ "; " ++ n.repr ++ "]" := rfl

theorem opening_prefix_path (s : Shape) : s.opening.toList <+: s.path.toList := by
  cases s with
  | list l t => simp only [path_list, String.toList_append, List.append_assoc, List.prefix_append]
  | array t n => simp only [path_array, String.toList_append, List.append_assoc, List.prefix_append]
  | option t => simp only [path_option, String.toList_append, List.append_assoc, List.prefix_append]
  | map l k v => simp only [path_map, String.toList_append, List.append_assoc, List.prefix_append]
  | set l t => simp only [path_set, String.toList_append, List.append_assoc, List.prefix_append]
  | _ => exact List.prefix_refl _

/-! ## Record paths

A record's path is a run of path characters.  Inside a path, the path of a part is followed
by a text that closes it, and no such text starts with a path character, so a record's path
ends where that text starts. -/

/-- Whether a character ends the path of a part inside a path. -/
def isCloser (c : Char) : Bool := c == '>' || c == ',' || c == ';'

/-- What can follow the path of a part inside a path: nothing, or a text that starts with a
closing `>`, a `,` or a `;`. -/
def Closes : List Char → Bool
  | [] => true
  | c :: _ => isCloser c

theorem closes_append {l : List Char} (hl : l ≠ []) (h : Closes l) (l' : List Char) :
    Closes (l ++ l') := by
  cases l with
  | nil => exact absurd rfl hl
  | cons c l => exact h

theorem closes_closing (l : Layout) : l.closing.toList ≠ [] ∧ Closes l.closing.toList := by
  cases l <;> decide

theorem pathChar_of_closer {c : Char} (h : isCloser c = true) : Record.IsPathChar c = false := by
  simp only [isCloser, Bool.or_eq_true, beq_iff_eq] at h
  rcases h with (rfl | rfl) | rfl <;> decide

/-- Two runs of path characters, each followed by a closing text, are the same run followed by
the same text. -/
theorem append_inj_of_pathChars {xs ys : List Char} (hxs : Closes xs) (hys : Closes ys) :
    ∀ {a b : List Char}, a.all Record.IsPathChar → b.all Record.IsPathChar →
      a ++ xs = b ++ ys → a = b ∧ xs = ys
  | [], [], _, _, h => ⟨rfl, h⟩
  | [], c :: b, _, hb, h => by
    -- the text after the shorter run would start with a path character
    rw [List.nil_append] at h
    rw [h] at hxs
    simp only [List.all_cons, Bool.and_eq_true] at hb
    exact absurd hb.1 (by simp [pathChar_of_closer hxs])
  | c :: a, [], ha, _, h => by
    rw [List.nil_append] at h
    rw [← h] at hys
    simp only [List.all_cons, Bool.and_eq_true] at ha
    exact absurd ha.1 (by simp [pathChar_of_closer hys])
  | c :: a, d :: b, ha, hb, h => by
    simp only [List.all_cons, Bool.and_eq_true] at ha hb
    simp only [List.cons_append, List.cons.injEq] at h
    obtain ⟨rfl, h⟩ := h
    obtain ⟨rfl, rfl⟩ := append_inj_of_pathChars hxs hys ha.2 hb.2 h
    exact ⟨rfl, rfl⟩

theorem builtinPaths_pathChars : ∀ p ∈ Record.builtinPaths, p.toList.all Record.IsPathChar := by
  decide

theorem Scalar.path_mem_builtinPaths (sc : Scalar) : sc.path ∈ Record.builtinPaths := by
  cases sc <;> (try rename_i t; cases t) <;> decide

/-- The opening of a container is not made of path characters alone. -/
theorem opening_not_pathChars :
    ∀ a ∈ containerHeads, a.opening.toList.all Record.IsPathChar = false := by
  decide +kernel

/-- The opening of a container holds no closing character. -/
theorem opening_no_closer : ∀ a ∈ containerHeads, a.opening.toList.any isCloser = false := by
  decide +kernel

/-- A record's path followed by a closing text is no path of the library's own followed by
a closing text. -/
theorem record_append_ne_builtin {r : Record} {p : String} (hp : p ∈ Record.builtinPaths)
    {xs ys : List Char} (hxs : Closes xs) (hys : Closes ys) :
    r.path.toList ++ xs ≠ p.toList ++ ys := by
  intro h
  obtain ⟨hpath, -⟩ := append_inj_of_pathChars hxs hys r.pathChars (builtinPaths_pathChars p hp) h
  exact r.not_builtin (String.toList_inj.mp hpath ▸ hp)

/-- A record's path followed by a closing text does not begin with the opening of a container:
the opening either stops inside the record's path, and would be made of path characters, or
goes on past it with a character that closes nothing. -/
theorem record_append_ne_container {r : Record} {s : Shape} {xs ys : List Char} (hxs : Closes xs)
    (hs : s.head ∈ containerHeads) : r.path.toList ++ xs ≠ s.path.toList ++ ys := by
  intro h
  have ho : s.head.opening.toList <+: r.path.toList ++ xs := by
    rw [opening_head, h]
    exact (opening_prefix_path s).trans (List.prefix_append _ _)
  have hchars : ¬s.head.opening.toList <+: r.path.toList := fun hp => by
    have hall := opening_not_pathChars _ hs
    rw [List.all_eq_false] at hall
    obtain ⟨c, hc, hnot⟩ := hall
    exact hnot (List.all_eq_true.mp r.pathChars c (hp.subset hc))
  rcases List.prefix_or_prefix_of_prefix ho (List.prefix_append _ _) with hp | ⟨z, hz⟩
  · exact hchars hp
  · -- the opening goes on past the record's path, and the closing text starts where it does
    cases z with
    | nil => exact hchars (by rw [← hz, List.append_nil])
    | cons c z =>
      rw [← hz, List.prefix_append_right_inj] at ho
      obtain ⟨w, rfl⟩ := ho
      have hc : c ∈ s.head.opening.toList := by rw [← hz]; simp
      exact List.any_eq_false.mp (opening_no_closer _ hs) c hc hxs

/-- **A record's path is read back.**  A record's path followed by a closing text is only the
same record's path followed by the same text. -/
theorem record_path_append {r : Record} {s : Shape} {xs ys : List Char} (hxs : Closes xs)
    (hys : Closes ys) (h : (record r).path.toList ++ xs = s.path.toList ++ ys) :
    s = record r ∧ xs = ys := by
  cases s with
  | record r' =>
    obtain ⟨hpath, rfl⟩ :=
      append_inj_of_pathChars hxs hys r.pathChars r'.pathChars h
    exact ⟨congrArg record (Record.ext (String.toList_inj.mp hpath)).symm, rfl⟩
  | scalar sc => exact absurd h (record_append_ne_builtin (Scalar.path_mem_builtinPaths sc) hxs hys)
  | untypedList | properties => exact absurd h (record_append_ne_builtin (by decide) hxs hys)
  | list l _ | map l _ _ | set l _ =>
    exact absurd h (record_append_ne_container hxs (by cases l <;> simp [head, containerHeads]))
  | array _ _ | option _ =>
    exact absurd h (record_append_ne_container hxs (by simp [head, containerHeads]))

/-! ## Reading a path -/

/-- Two paths that begin one text, each followed by a closing text, begin with the same
head. -/
theorem head_eq_of_path_append {s s' : Shape} {xs ys : List Char} (hxs : Closes xs)
    (hys : Closes ys) (h : s.path.toList ++ xs = s'.path.toList ++ ys) : s.head = s'.head := by
  by_cases hs : ∃ r, s = record r
  · obtain ⟨r, rfl⟩ := hs
    rw [(record_path_append hxs hys h).1]
  by_cases hs' : ∃ r, s' = record r
  · obtain ⟨r, rfl⟩ := hs'
    rw [(record_path_append hys hxs h.symm).1]
  simp only [not_exists] at hs hs'
  -- both openings begin the text, so one begins the other
  have ho : s.opening.toList <+: s.path.toList ++ xs :=
    (opening_prefix_path s).trans (List.prefix_append _ _)
  have ho' : s'.opening.toList <+: s.path.toList ++ xs :=
    h ▸ (opening_prefix_path s').trans (List.prefix_append _ _)
  rcases List.prefix_or_prefix_of_prefix ho ho' with hp | hp
  · exact head_eq_of_opening_begins hs hs' hp
  · exact (head_eq_of_opening_begins hs' hs hp).symm

theorem opening_eq_of_path_append {s s' : Shape} {xs ys : List Char} (hxs : Closes xs)
    (hys : Closes ys) (h : s.path.toList ++ xs = s'.path.toList ++ ys) :
    s.opening = s'.opening := by
  rw [← opening_head, head_eq_of_path_append hxs hys h, opening_head]

/-- A list that a character does not occur in ends where the character comes. -/
theorem append_cons_inj {c : Char} {xs ys : List Char} :
    ∀ {l l' : List Char}, c ∉ l → c ∉ l' → l ++ c :: xs = l' ++ c :: ys → l = l' ∧ xs = ys
  | [], [], _, _, h => ⟨rfl, List.cons.inj h |>.2⟩
  | [], b :: l', _, hl', h => by
    simp only [List.nil_append, List.cons_append, List.cons.injEq] at h
    obtain ⟨rfl, -⟩ := h
    exact absurd List.mem_cons_self hl'
  | a :: l, [], hl, _, h => by
    simp only [List.nil_append, List.cons_append, List.cons.injEq] at h
    obtain ⟨rfl, -⟩ := h
    exact absurd List.mem_cons_self hl
  | a :: l, b :: l', hl, hl', h => by
    simp only [List.cons_append, List.cons.injEq] at h
    obtain ⟨rfl, h⟩ := h
    obtain ⟨rfl, rfl⟩ := append_cons_inj (fun hc => hl (List.mem_cons_of_mem _ hc))
      (fun hc => hl' (List.mem_cons_of_mem _ hc)) h
    exact ⟨rfl, rfl⟩

theorem close_not_mem_toDigits (n : Nat) : ']' ∉ Nat.toDigits 10 n := fun h => by
  have := Nat.isDigit_of_mem_toDigits (by decide) (by decide) h
  revert this
  decide +kernel

/-- A path of one part between an opening and a closing is read back by its part. -/
theorem part_append_inj {o c : String} {t t' : Shape} {xs ys : List Char}
    (hc : c.toList ≠ [] ∧ Closes c.toList)
    (ih : ∀ {s' : Shape} {xs ys : List Char}, Closes xs → Closes ys →
      t.path.toList ++ xs = s'.path.toList ++ ys → t = s' ∧ xs = ys)
    (h : (o ++ t.path ++ c).toList ++ xs = (o ++ t'.path ++ c).toList ++ ys) :
    t = t' ∧ xs = ys := by
  simp only [String.toList_append, List.append_assoc, List.append_cancel_left_eq] at h
  obtain ⟨rfl, hrest⟩ := ih (closes_append hc.1 hc.2 _) (closes_append hc.1 hc.2 _) h
  exact ⟨rfl, List.append_cancel_left hrest⟩

/-- **A path is read back from the left.**  A path followed by a closing text is another path
followed by a closing text only when the two shapes and the two texts are the same. -/
theorem path_append_inj (s : Shape) : ∀ {s' : Shape} {xs ys : List Char}, Closes xs → Closes ys →
    s.path.toList ++ xs = s'.path.toList ++ ys → s = s' ∧ xs = ys := by
  induction s with
  | list l t ih =>
    intro s' xs ys hxs hys h
    have ho := opening_eq_of_path_append hxs hys h
    cases s' <;> cases head_eq_of_path_append hxs hys h
    rw [path_list, path_list, ho] at h
    obtain ⟨rfl, rfl⟩ := part_append_inj (by decide) ih h
    exact ⟨rfl, rfl⟩
  | option t ih =>
    intro s' xs ys hxs hys h
    have ho := opening_eq_of_path_append hxs hys h
    cases s' <;> cases head_eq_of_path_append hxs hys h
    rw [path_option, path_option, ho] at h
    obtain ⟨rfl, rfl⟩ := part_append_inj (by decide) ih h
    exact ⟨rfl, rfl⟩
  | set l t ih =>
    intro s' xs ys hxs hys h
    have ho := opening_eq_of_path_append hxs hys h
    cases s' <;> cases head_eq_of_path_append hxs hys h
    rw [path_set, path_set, ho] at h
    obtain ⟨rfl, rfl⟩ := part_append_inj (closes_closing l) ih h
    exact ⟨rfl, rfl⟩
  | map l k v ihk ihv =>
    intro s' xs ys hxs hys h
    have ho := opening_eq_of_path_append hxs hys h
    cases s' <;> cases head_eq_of_path_append hxs hys h
    simp only [path_map, String.toList_append, ho, List.append_assoc,
      List.append_cancel_left_eq] at h
    -- the key's path ends where the separator starts, and the value's path at the closing
    have hsep (zs : List Char) : Closes (", ".toList ++ zs) := closes_append (by decide) rfl zs
    have hclose (zs : List Char) : Closes (l.closing.toList ++ zs) :=
      closes_append (closes_closing l).1 (closes_closing l).2 zs
    obtain ⟨rfl, hrest⟩ := ihk (hsep _) (hsep _) h
    rw [List.append_cancel_left_eq] at hrest
    obtain ⟨rfl, hclosed⟩ := ihv (hclose _) (hclose _) hrest
    exact ⟨rfl, List.append_cancel_left hclosed⟩
  | array t n ih =>
    intro s' xs ys hxs hys h
    have ho := opening_eq_of_path_append hxs hys h
    cases s' <;> cases head_eq_of_path_append hxs hys h
    rename_i t' n'
    simp only [path_array, String.toList_append, ho, List.append_assoc,
      List.append_cancel_left_eq, Nat.toList_repr] at h
    have hsep (zs : List Char) : Closes ("; ".toList ++ zs) := closes_append (by decide) rfl zs
    obtain ⟨rfl, hrest⟩ := ih (hsep _) (hsep _) h
    rw [List.append_cancel_left_eq] at hrest
    -- the capacity's digits end at the closing bracket
    obtain ⟨hn, rfl⟩ :=
      append_cons_inj (close_not_mem_toDigits n) (close_not_mem_toDigits n') hrest
    rw [← Nat.toList_repr, ← Nat.toList_repr, String.toList_inj, Nat.repr_inj] at hn
    exact ⟨hn ▸ rfl, rfl⟩
  | _ =>
    intro s' xs ys hxs hys h
    cases s' <;> cases head_eq_of_path_append hxs hys h
    exact ⟨rfl, List.append_cancel_left h⟩

/-- **Different shapes have different paths.** -/
theorem path_injective : Function.Injective path := fun s s' h =>
  (path_append_inj s rfl rfl (show s.path.toList ++ [] = s'.path.toList ++ [] by rw [h])).1

end Shape

end ValuePaths
