import ValuePaths.Path.Basic

/-!
# The grammar of paths

The reader of paths accepts exactly the texts of its grammar, `lead? seg*`: an optional
leading name, then segments, each `.` and a non-empty name free of `.` and `[`, or `[`, a key
free of `]`, and `]`.  Here the grammar is stated on its own, as the inductive predicates
`Path.Segments` and `Path.Wellformed`, and the reader is proved to accept exactly those texts
and to reject every other one where its longest well-formed prefix ends.

Writing is the other direction: segments are written as `.name` and `[key]`, and written
segments are read back, each at the byte offset where the ones before it end, as long as
each one is readable (a name that is not empty and holds no `.` or `[`, a key without `]`).
A path that was read is written back as its text, a `.` put before a leading name.

All proofs follow the reader's own recursion: one equation per kind of segment
(`segments_property`, `segments_subscript`) and one per fault (`segments_emptyName`,
`segments_unclosed`, `segments_other`).

## Main definitions

* `Path.Segments`, `Path.Wellformed` — the grammar.
* `PathFault.atChar` — the fault reported at the character where a path goes wrong.
* `Segment.Readable`, `Path.place` — segments that read back, and where they are placed.

## Main statements

* `Path.parse_accepts_grammar` — acceptance is the grammar, and a rejection points at the
  end of the longest well-formed prefix.
* `Path.parse_render_inverse` — writing and reading paths are inverse.
-/

namespace ValuePaths

/-- The fault a reader reports where a path stops being well formed, by the character it
stops at: an empty name at a `.`, an unclosed bracket at a `[`, and a missing separator at
anything else. -/
def PathFault.atChar (c : Char) : PathFault :=
  if c = '.' then .emptyName else if c = '[' then .unclosedBracket else .missingSeparator

namespace Path

/-- A run of characters that can be a property name: it holds no `.` and no `[`. -/
def Plain (cs : List Char) : Prop := ∀ c ∈ cs, isDelimiter c = false

/-- Characters that are empty or start a new segment. -/
def Opens (cs : List Char) : Prop := ∀ c ∈ cs.head?, isDelimiter c = true

/-- The texts of a run of segments: `.` and a non-empty name free of `.` and `[`, or `[` and
a key free of `]` and then `]`. -/
inductive Segments : List Char → Prop
  | nil : Segments []
  | property {name rest : List Char} (nonempty : name ≠ []) (plain : Plain name)
      (tail : Segments rest) : Segments ('.' :: (name ++ rest))
  | subscript {key rest : List Char} (closed : ']' ∉ key) (tail : Segments rest) :
      Segments ('[' :: (key ++ ']' :: rest))

/-- The texts of paths, `lead? seg*`: an optional leading name free of `.` and `[`, then
segments.  The empty text is one of them. -/
inductive Wellformed : List Char → Prop
  | segments {cs : List Char} : Segments cs → Wellformed cs
  | lead {lead rest : List Char} (nonempty : lead ≠ []) (plain : Plain lead) :
      Segments rest → Wellformed (lead ++ rest)

@[simp] theorem isDelimiter_dot : isDelimiter '.' = true := rfl

@[simp] theorem isDelimiter_bracket : isDelimiter '[' = true := rfl

theorem Segments.opens {cs : List Char} (h : Segments cs) : Opens cs := by
  cases h <;> simp [Opens]

/-- A name followed by the start of a segment is read as that name. -/
theorem split_name {name rest : List Char} (hname : Plain name) (hrest : Opens rest) :
    (name ++ rest).takeWhile (fun c => !isDelimiter c) = name ∧
      (name ++ rest).dropWhile (fun c => !isDelimiter c) = rest := by
  have hpos : ∀ c ∈ name, (!isDelimiter c) = true := fun c hc => by simp [hname c hc]
  rw [List.takeWhile_append_of_pos hpos, List.dropWhile_append_of_pos hpos]
  cases rest with
  | nil => simp
  | cons c rest =>
    have hc : isDelimiter c = true := hrest c rfl
    simp [hc]

/-- A key is read up to the first `]`. -/
theorem split_key {key rest : List Char} (hkey : ']' ∉ key) :
    (key ++ ']' :: rest).takeWhile (· != ']') = key ∧
      (key ++ ']' :: rest).dropWhile (· != ']') = ']' :: rest := by
  have hpos : ∀ c ∈ key, (c != ']') = true := fun c hc => by
    simpa using fun h : c = ']' => hkey (h ▸ hc)
  rw [List.takeWhile_append_of_pos hpos, List.dropWhile_append_of_pos hpos]
  simp

theorem dropWhile_of_opens {cs : List Char} (h : Opens cs) :
    cs.dropWhile (fun c => !isDelimiter c) = cs := by
  have hsplit := (@split_name [] _ (by simp [Plain]) h).2
  rwa [List.nil_append] at hsplit

/-! ## The reader, one segment at a time -/

theorem segments_property {name rest : List Char} (hne : name ≠ []) (hname : Plain name)
    (hrest : Opens rest) (offset : Nat) :
    segments ('.' :: (name ++ rest)) offset =
      (⟨.property (String.ofList name), offset⟩ :: ·) <$>
        segments rest (offset + 1 + byteLength name) := by
  obtain ⟨htake, hdrop⟩ := split_name hname hrest
  rw [segments]
  simp [htake, hdrop, hne]

theorem segments_subscript {key rest : List Char} (hkey : ']' ∉ key) (offset : Nat) :
    segments ('[' :: (key ++ ']' :: rest)) offset =
      (⟨.subscript (String.ofList key), offset⟩ :: ·) <$>
        segments rest (offset + 2 + byteLength key) := by
  obtain ⟨htake, hdrop⟩ := @split_key _ rest hkey
  rw [segments]
  simp only [htake]
  -- the key ends at the first `]`, after which the rest is read
  split
  · rename_i h
    rw [hdrop] at h
    cases h
  · rename_i h
    rw [hdrop] at h
    cases h
    rfl

theorem segments_other {c : Char} (hdot : c ≠ '.') (hbracket : c ≠ '[') (cs : List Char)
    (offset : Nat) : segments (c :: cs) offset = .error (.missingSeparator, offset) := by
  rw [segments] <;> assumption

/-- What is read by a bracket: the key, up to the first `]`, and what follows that `]`. -/
theorem split_bracket {rest after : List Char} {c : Char}
    (h : rest.dropWhile (· != ']') = c :: after) :
    ']' ∉ rest.takeWhile (· != ']') ∧ rest = rest.takeWhile (· != ']') ++ ']' :: after := by
  have hc : c = ']' := by
    have := List.head_dropWhile_not (· != ']') (l := rest) (by simp [h])
    simpa [h] using this
  subst hc
  refine ⟨fun hmem => by simpa using List.all_eq_true.1 List.all_takeWhile _ hmem, ?_⟩
  rw [← h, List.takeWhile_append_dropWhile]

theorem plain_takeWhile (cs : List Char) : Plain (cs.takeWhile fun c => !isDelimiter c) :=
  fun c hc => by simpa using List.all_eq_true.1 List.all_takeWhile c hc

theorem opens_dropWhile (cs : List Char) : Opens (cs.dropWhile fun c => !isDelimiter c) := by
  intro c hc
  have hne : cs.dropWhile (fun c => !isDelimiter c) ≠ [] := by
    intro h; simp [h] at hc
  have := List.head_dropWhile_not (fun c => !isDelimiter c) hne
  rw [List.head?_eq_some_head hne] at hc
  cases hc
  simpa using this

theorem ok_of_map_eq_ok {ε α β : Type} {f : α → β} {x : Except ε α} {b : β}
    (h : f <$> x = .ok b) : ∃ a, x = .ok a := by
  cases x with
  | error e => cases h
  | ok a => exact ⟨a, rfl⟩

/-- What the reader accepts after the leading name is a run of segments. -/
theorem segments_of_ok {cs : List Char} {offset : Nat} :
    ∀ {els : List Element}, segments cs offset = .ok els → Segments cs := by
  fun_induction segments cs offset with
  | case1 => exact fun _ => .nil
  | case2 => simp
  | case3 offset rest name hname =>
    rename_i ih
    intro els h
    obtain ⟨tail, htail⟩ := ok_of_map_eq_ok h
    rw [← List.takeWhile_append_dropWhile (p := fun c => !isDelimiter c) (l := rest)]
    exact .property (fun h => hname (List.isEmpty_iff.2 h)) (plain_takeWhile rest) (ih htail)
  | case4 => simp
  | case5 offset rest key c after hsplit =>
    rename_i ih
    intro els h
    obtain ⟨tail, htail⟩ := ok_of_map_eq_ok h
    obtain ⟨hkey, hrest⟩ := split_bracket hsplit
    rw [hrest]
    exact .subscript hkey (ih htail)
  | case6 => simp

/-- Every run of segments is accepted. -/
theorem segments_ok_of_segments {cs : List Char} (h : Segments cs) (offset : Nat) :
    ∃ els, segments cs offset = .ok els := by
  induction h generalizing offset with
  | nil => exact ⟨[], by rw [segments]⟩
  | property hne hname htail ih =>
    obtain ⟨els, hels⟩ := ih (offset + 1 + byteLength _)
    rw [segments_property hne hname htail.opens, hels]
    exact ⟨_, rfl⟩
  | subscript hkey _ ih =>
    obtain ⟨els, hels⟩ := ih (offset + 2 + byteLength _)
    rw [segments_subscript hkey, hels]
    exact ⟨_, rfl⟩

/-- The reader of segments accepts exactly the runs of segments. -/
theorem segments_ok_iff {cs : List Char} {offset : Nat} :
    (∃ els, segments cs offset = .ok els) ↔ Segments cs :=
  ⟨fun ⟨_, h⟩ => segments_of_ok h, fun h => segments_ok_of_segments h offset⟩

/-! ## Where the reader stops -/

theorem utf8Size_dot : '.'.utf8Size = 1 := rfl

theorem utf8Size_open : '['.utf8Size = 1 := rfl

theorem utf8Size_close : ']'.utf8Size = 1 := rfl

@[simp] theorem byteLength_append (xs ys : List Char) :
    byteLength (xs ++ ys) = byteLength xs + byteLength ys := by
  induction xs with
  | nil => simp
  | cons c xs ih => simp [ih, Nat.add_assoc]

theorem opens_iff_takeWhile {cs : List Char} :
    Opens cs ↔ cs.takeWhile (fun c => !isDelimiter c) = [] := by
  cases cs with
  | nil => simp [Opens]
  | cons c cs => cases h : isDelimiter c <;> simp [Opens, h]

theorem Opens.initial {p cs : List Char} (hp : p <+: cs) (h : Opens cs) : Opens p := by
  obtain ⟨t, rfl⟩ := hp
  cases p with
  | nil => simp [Opens]
  | cons c p => simpa [Opens] using h

/-- Whether a list opens is decided by its first character. -/
theorem opens_append_cons {xs ys zs : List Char} {c : Char} (h : Opens (xs ++ c :: ys)) :
    Opens (xs ++ c :: zs) := by
  cases xs <;> simpa [Opens] using h

theorem dropWhile_key_eq_nil {cs : List Char} :
    cs.dropWhile (· != ']') = [] ↔ ']' ∉ cs := by
  induction cs with
  | nil => simp
  | cons c cs ih =>
    by_cases hc : c = ']'
    · simp [hc]
    · simp [hc, ih, Ne.symm hc]

theorem segments_emptyName {rest : List Char} (h : Opens rest) (offset : Nat) :
    segments ('.' :: rest) offset = .error (.emptyName, offset) := by
  rw [segments]
  simp [opens_iff_takeWhile.1 h]

theorem segments_unclosed {rest : List Char} (h : ']' ∉ rest) (offset : Nat) :
    segments ('[' :: rest) offset = .error (.unclosedBracket, offset) := by
  rw [segments]
  split
  · rfl
  · rename_i hsplit
    rw [dropWhile_key_eq_nil.2 h] at hsplit
    cases hsplit

theorem error_of_map_eq_error {ε α β : Type} {f : α → β} {x : Except ε α} {e : ε}
    (h : f <$> x = .error e) : x = .error e := by
  cases x with
  | error e' => cases h; rfl
  | ok a => cases h

/-- A reader of segments that fails stops at the end of the longest run of segments at the
start of its input: the fault is the one of the character there, the offset is where that
character starts, and every longer prefix of the input fails in the same way. -/
theorem segments_error {cs : List Char} {offset : Nat} :
    ∀ {f : PathFault} {o : Nat}, segments cs offset = .error (f, o) →
      ∃ done c bad, cs = done ++ c :: bad ∧ Segments done ∧ o = offset + byteLength done ∧
        f = PathFault.atChar c ∧
        ∀ p, p <+: bad → segments (done ++ c :: p) offset = .error (f, o) := by
  fun_induction segments cs offset with
  | case1 => simp
  | case2 offset rest name =>
    rename_i hname
    intro f o h
    cases h
    have hopens : Opens rest := opens_iff_takeWhile.2 (List.isEmpty_iff.1 hname)
    exact ⟨[], '.', rest, rfl, .nil, rfl, rfl,
      fun p hp => segments_emptyName (hopens.initial hp) offset⟩
  | case3 offset rest name hname =>
    rename_i ih
    have hne : name ≠ [] := fun h => hname (List.isEmpty_iff.2 h)
    intro f o h
    obtain ⟨done, c, bad, hrest, hdone, ho, hf, hlonger⟩ := ih (error_of_map_eq_error h)
    have hsplit : rest = name ++ (done ++ c :: bad) := by
      rw [← hrest, List.takeWhile_append_dropWhile]
    -- the character after the run of segments opens a segment, as it did in the input
    have hopens : Opens (done ++ c :: bad) := hrest ▸ opens_dropWhile rest
    refine ⟨'.' :: (name ++ done), c, bad, by simp [hsplit], .property hne
      (plain_takeWhile rest) hdone, by simp [ho, utf8Size_dot]; omega, hf, fun p hp => ?_⟩
    rw [List.cons_append, List.append_assoc, segments_property hne
      (plain_takeWhile rest) (opens_append_cons hopens), hlonger p hp]
    rfl
  | case4 offset rest hclosed =>
    intro f o h
    cases h
    have hkey : ']' ∉ rest := dropWhile_key_eq_nil.1 hclosed
    exact ⟨[], '[', rest, rfl, .nil, rfl, rfl,
      fun p hp => segments_unclosed (fun hmem => hkey (hp.mem hmem)) offset⟩
  | case5 offset rest key c' after hsplit =>
    rename_i ih
    intro f o h
    obtain ⟨done, c, bad, hafter, hdone, ho, hf, hlonger⟩ := ih (error_of_map_eq_error h)
    obtain ⟨hkey, hrest⟩ := split_bracket hsplit
    refine ⟨'[' :: (key ++ ']' :: done), c, bad, by rw [hrest, hafter]; simp; rfl,
      .subscript hkey hdone, by simp [ho, utf8Size_open, utf8Size_close]; omega, hf,
      fun p hp => ?_⟩
    rw [List.cons_append, List.append_assoc, List.cons_append, segments_subscript hkey,
      hlonger p hp]
    rfl
  | case6 offset c bad hdot hbracket =>
    intro f o h
    cases h
    exact ⟨[], c, bad, rfl, .nil, rfl, by rw [PathFault.atChar, if_neg hdot, if_neg hbracket],
      fun p _ => segments_other hdot hbracket p offset⟩

/-! ## Reading whole paths -/

theorem utf8ByteSize_ofList (cs : List Char) : (String.ofList cs).utf8ByteSize = byteLength cs := by
  induction cs with
  | nil => simp
  | cons c cs ih =>
    have hsplit : String.ofList (c :: cs) = String.ofList [c] ++ String.ofList cs := by
      rw [← String.ofList_append]; rfl
    rw [hsplit, String.utf8ByteSize_append, ih, ← String.singleton_eq_ofList,
      String.utf8ByteSize_singleton, byteLength_cons]

/-- A path is read as its leading name and the segments after it. -/
theorem parse_ok_iff_segments (s : String) :
    (∃ p, parse s = .ok p) ↔ Segments (s.toList.dropWhile fun c => !isDelimiter c) := by
  rw [← @segments_ok_iff _ (byteLength (s.toList.takeWhile fun c => !isDelimiter c))]
  dsimp only [parse]
  split <;> simp_all

theorem parse_error {s : String} {e : PathError} (h : parse s = .error e) :
    segments (s.toList.dropWhile fun c => !isDelimiter c)
      (byteLength (s.toList.takeWhile fun c => !isDelimiter c)) = .error (e.fault, e.offset) := by
  dsimp only [parse] at h
  split at h
  · cases h
  · cases h
    assumption

/-- A text is well formed when what follows its leading name is a run of segments. -/
theorem wellformed_iff_segments (cs : List Char) :
    Wellformed cs ↔ Segments (cs.dropWhile fun c => !isDelimiter c) := by
  constructor
  · rintro (h | ⟨_, hlead, h⟩)
    · rwa [dropWhile_of_opens h.opens]
    · rwa [(split_name hlead h.opens).2]
  · intro h
    have hcs := List.takeWhile_append_dropWhile (p := fun c => !isDelimiter c) (l := cs)
    by_cases hlead : cs.takeWhile (fun c => !isDelimiter c) = []
    · rw [hlead, List.nil_append] at hcs
      exact hcs ▸ .segments h
    · exact hcs ▸ .lead hlead (plain_takeWhile cs) h

/-- **The reader accepts exactly the well-formed paths.** -/
theorem parse_ok_iff_wellformed (s : String) : (∃ p, parse s = .ok p) ↔ Wellformed s.toList := by
  rw [parse_ok_iff_segments, wellformed_iff_segments]

/-- **A path is rejected where its longest well-formed prefix ends.**  The offset of the
error is the byte length of that prefix, which is read, while no longer prefix is; the
character there tells the fault. -/
theorem parse_error_locates_fault {s : String} {e : PathError} (h : parse s = .error e) :
    ∃ k c, s.toList[k]? = some c ∧ e.fault = PathFault.atChar c ∧
      e.offset = (String.ofList (s.toList.take k)).utf8ByteSize ∧ e.offset < s.utf8ByteSize ∧
      (∃ p, parse (String.ofList (s.toList.take k)) = .ok p) ∧
      ∀ j, k < j → j ≤ s.length → ¬∃ p, parse (String.ofList (s.toList.take j)) = .ok p := by
  obtain ⟨done, c, bad, hrest, hdone, ho, hf, hlonger⟩ := segments_error (parse_error h)
  generalize hlead : s.toList.takeWhile (fun c => !isDelimiter c) = lead at hrest ho hlonger
  have hcs : s.toList = (lead ++ done) ++ c :: bad := by
    rw [← hlead, List.append_assoc, ← hrest, List.takeWhile_append_dropWhile]
  have hplain : Plain lead := hlead ▸ plain_takeWhile s.toList
  have hopens : Opens (done ++ c :: bad) := hrest ▸ opens_dropWhile s.toList
  refine ⟨(lead ++ done).length, c, by simp [hcs], hf, ?_, ?_, ?_, ?_⟩
  · rw [hcs, List.take_append_length, utf8ByteSize_ofList, ho, byteLength_append]
  · rw [← String.ofList_toList (s := s), utf8ByteSize_ofList, hcs, ho]
    have := Char.utf8Size_pos c
    simp
    omega
  · -- the prefix before the fault is a leading name and a run of segments
    rw [parse_ok_iff_segments, hcs, List.take_append_length, String.toList_ofList,
      (split_name hplain hdone.opens).2]
    exact hdone
  · -- a longer prefix holds the character of the fault and fails there
    intro j hk hj hparse
    obtain ⟨i, rfl⟩ : ∃ i, j = (lead ++ done).length + (i + 1) :=
      ⟨j - (lead ++ done).length - 1, by omega⟩
    rw [parse_ok_iff_segments, hcs, List.take_length_add_append, List.take_succ_cons,
      String.toList_ofList, List.append_assoc, (split_name hplain (opens_append_cons hopens)).2]
      at hparse
    obtain ⟨_, hok⟩ := segments_ok_of_segments hparse (byteLength lead)
    rw [hlonger _ ⟨bad.drop i, List.take_append_drop i bad⟩] at hok
    cases hok

/-- **The grammar of paths.**  A text is read exactly when it is well formed; a text that
is not is rejected at the end of its longest well-formed prefix, with the fault of the
character there. -/
theorem parse_accepts_grammar (s : String) :
    ((∃ p, parse s = .ok p) ↔ Wellformed s.toList) ∧
    ∀ e, parse s = .error e →
      ∃ k c, s.toList[k]? = some c ∧ e.fault = PathFault.atChar c ∧
        e.offset = (String.ofList (s.toList.take k)).utf8ByteSize ∧ e.offset < s.utf8ByteSize ∧
        (∃ p, parse (String.ofList (s.toList.take k)) = .ok p) ∧
        ∀ j, k < j → j ≤ s.length → ¬∃ p, parse (String.ofList (s.toList.take j)) = .ok p :=
  ⟨parse_ok_iff_wellformed s, fun _ h => parse_error_locates_fault h⟩

/-- Brackets do not nest: `a[b[c]]` is read up to the first `]`, and the second `]` is where
the path stops being well formed. -/
theorem parse_accepts_grammar_nested_bracket :
    Path.parse "a[b[c]]" = .error ⟨"a[b[c]]", 6, .missingSeparator⟩ ∧
      ∃ k c, "a[b[c]]".toList[k]? = some c ∧ PathFault.missingSeparator = PathFault.atChar c ∧
        6 = (String.ofList ("a[b[c]]".toList.take k)).utf8ByteSize ∧
        6 < "a[b[c]]".utf8ByteSize ∧
        (∃ p, parse (String.ofList ("a[b[c]]".toList.take k)) = .ok p) ∧
        ∀ j, k < j → j ≤ "a[b[c]]".length →
          ¬∃ p, parse (String.ofList ("a[b[c]]".toList.take j)) = .ok p := by
  have hsegments : segments ['[', 'b', '[', 'c', ']', ']'] 1 = .error (.missingSeparator, 6) := by
    rw [show ['[', 'b', '[', 'c', ']', ']'] = '[' :: (['b', '[', 'c'] ++ ']' :: [']']) from rfl,
      segments_subscript (by decide), segments_other (by decide) (by decide)]
    rfl
  have h : Path.parse "a[b[c]]" = .error ⟨"a[b[c]]", 6, .missingSeparator⟩ := by
    simp [parse, isDelimiter, Char.utf8Size, hsegments]
  exact ⟨h, (parse_accepts_grammar "a[b[c]]").2 _ h⟩

/-! ## Writing paths -/

/-- Segments placed one after another from a byte offset, each where the written forms of
the ones before it end. -/
def place : List Segment → Nat → List Element
  | [], _ => []
  | seg :: rest, offset => ⟨seg, offset⟩ :: place rest (offset + seg.render.utf8ByteSize)

@[simp] theorem render_nil : render [] = "" := rfl

@[simp] theorem render_cons (seg : Segment) (rest : List Segment) :
    render (seg :: rest) = seg.render ++ render rest := String.join_cons

theorem toList_render_property (name : String) (rest : List Segment) :
    (render (.property name :: rest)).toList = '.' :: (name.toList ++ (render rest).toList) := by
  simp [Segment.render]

theorem toList_render_subscript (key : String) (rest : List Segment) :
    (render (.subscript key :: rest)).toList =
      '[' :: (key.toList ++ ']' :: (render rest).toList) := by
  simp [Segment.render]

/-- Written segments start a segment. -/
theorem opens_render (es : List Segment) : Opens (render es).toList := by
  match es with
  | [] => simp [Opens]
  | .property _ :: _ => rw [toList_render_property]; simp [Opens]
  | .subscript _ :: _ => rw [toList_render_subscript]; simp [Opens]

@[simp] theorem map_segment_place (es : List Segment) (offset : Nat) :
    (place es offset).map (·.segment) = es := by
  induction es generalizing offset with
  | nil => rfl
  | cons seg rest ih => simp [place, ih]

@[simp] theorem length_place (es : List Segment) (offset : Nat) :
    (place es offset).length = es.length := by
  induction es generalizing offset with
  | nil => rfl
  | cons seg rest ih => simp [place, ih]

/-- Each segment placed sits where the written form of the segments before it ends. -/
theorem offset_place (es : List Segment) (offset i : Nat) (h : i < (place es offset).length) :
    (place es offset)[i].offset = offset + (render (es.take i)).utf8ByteSize := by
  induction es generalizing offset i with
  | nil => simp at h
  | cons seg rest ih =>
    cases i with
    | zero => simp [place]
    | succ i =>
      simp only [place, List.getElem_cons_succ, List.take_succ_cons, render_cons,
        String.utf8ByteSize_append]
      rw [ih]
      omega

end Path

namespace Segment

/-- A segment that is read back as itself: a non-empty name free of `.` and `[`, or a key
free of `]`. -/
def Readable : Segment → Prop
  | property name => name ≠ "" ∧ Path.Plain name.toList
  | subscript key => ']' ∉ key.toList

instance : DecidablePred Readable
  | .property name => inferInstanceAs (Decidable (name ≠ "" ∧ ∀ c ∈ name.toList, _))
  | .subscript key => inferInstanceAs (Decidable (']' ∉ key.toList))

end Segment

namespace Path

/-- Text made of some characters is not empty. -/
theorem ofList_ne_empty {cs : List Char} (h : cs ≠ []) : String.ofList cs ≠ "" := by
  intro hs
  have := congrArg String.toList hs
  simp only [String.toList_ofList] at this
  exact h (by simpa using this)

theorem toList_ne_nil {name : String} (h : name ≠ "") : name.toList ≠ [] := by
  intro hnil
  exact h (String.toList_inj.1 (by simpa using hnil))

/-- Readable segments, once written, are read back with the offsets of their written forms. -/
theorem segments_render {es : List Segment} (h : ∀ seg ∈ es, seg.Readable) (offset : Nat) :
    segments (render es).toList offset = .ok (place es offset) := by
  induction es generalizing offset with
  | nil => rw [render_nil, String.toList_empty, segments]; rfl
  | cons seg rest ih =>
    have hrest := ih (fun seg hseg => h seg (List.mem_cons_of_mem _ hseg))
    cases seg with
    | property name =>
      obtain ⟨hne, hplain⟩ : Segment.Readable (.property name) := h _ (List.mem_cons_self ..)
      have hsize : offset + 1 + byteLength name.toList =
          offset + (Segment.property name).render.utf8ByteSize := by
        rw [← utf8ByteSize_ofList, String.ofList_toList, Segment.render,
          String.utf8ByteSize_append]
        have : ".".utf8ByteSize = 1 := rfl
        omega
      rw [toList_render_property, segments_property (toList_ne_nil hne) hplain (opens_render rest),
        String.ofList_toList, hsize, hrest]
      rfl
    | subscript key =>
      have hkey : ']' ∉ key.toList := h _ (List.mem_cons_self ..)
      have hsize : offset + 2 + byteLength key.toList =
          offset + (Segment.subscript key).render.utf8ByteSize := by
        rw [← utf8ByteSize_ofList, String.ofList_toList, Segment.render,
          String.utf8ByteSize_append, String.utf8ByteSize_append]
        have : "[".utf8ByteSize = 1 ∧ "]".utf8ByteSize = 1 := ⟨rfl, rfl⟩
        omega
      rw [toList_render_subscript, segments_subscript hkey, String.ofList_toList, hsize, hrest]
      rfl

/-- What the reader of segments accepts is a run of readable segments, written as it was
read. -/
theorem segments_ok_readable_render {cs : List Char} {offset : Nat} :
    ∀ {els : List Element}, segments cs offset = .ok els →
      (∀ e ∈ els, e.segment.Readable) ∧ (render (els.map (·.segment))).toList = cs := by
  fun_induction segments cs offset with
  | case1 => intro els h; cases h; simp
  | case2 => simp
  | case3 offset rest name hname =>
    rename_i ih
    intro els h
    obtain ⟨tail, htail⟩ := ok_of_map_eq_ok h
    rw [htail] at h
    cases h
    obtain ⟨hread, hrender⟩ := ih htail
    refine ⟨?_, ?_⟩
    · simp only [List.mem_cons, forall_eq_or_imp]
      refine ⟨⟨ofList_ne_empty fun h => hname (List.isEmpty_iff.2 h), ?_⟩, hread⟩
      rw [String.toList_ofList]
      exact plain_takeWhile rest
    · rw [List.map_cons, toList_render_property, hrender, String.toList_ofList,
        List.takeWhile_append_dropWhile]
  | case4 => simp
  | case5 offset rest key c after hsplit =>
    rename_i ih
    intro els h
    obtain ⟨tail, htail⟩ := ok_of_map_eq_ok h
    rw [htail] at h
    cases h
    obtain ⟨hread, hrender⟩ := ih htail
    obtain ⟨hkey, hrest⟩ := split_bracket hsplit
    refine ⟨?_, ?_⟩
    · simp only [List.mem_cons, forall_eq_or_imp]
      exact ⟨by simpa [Segment.Readable] using hkey, hread⟩
    · rw [List.map_cons, toList_render_subscript, hrender, String.toList_ofList, hrest]
  | case6 => simp

/-- How a path is read: its leading name, unless it is empty while the text is not, then
the segments after it. -/
theorem parse_eq_ok {s : String} {p : Path} (h : parse s = .ok p) :
    ∃ els, segments (s.toList.dropWhile fun c => !isDelimiter c)
        (byteLength (s.toList.takeWhile fun c => !isDelimiter c)) = .ok els ∧
      p = ⟨s, (if ((s.toList.takeWhile fun c => !isDelimiter c).isEmpty && !s.toList.isEmpty)
        then [] else [⟨.property (String.ofList (s.toList.takeWhile fun c => !isDelimiter c)), 0⟩])
        ++ els⟩ := by
  dsimp only [parse] at h
  split at h
  · cases h
    exact ⟨_, by assumption, rfl⟩
  · cases h

/-- **Written paths are read back.**  A non-empty list of readable segments, once written, is
read as those segments, each at the byte offset where the written forms of the ones before
it end. -/
theorem parse_render {es : List Segment} (hne : es ≠ []) (h : ∀ seg ∈ es, seg.Readable) :
    parse (render es) = .ok ⟨render es, place es 0⟩ := by
  have hopens := opens_render es
  have hcs : (render es).toList ≠ [] := by
    obtain ⟨seg, rest, rfl⟩ := List.exists_cons_of_ne_nil hne
    cases seg with
    | property name => rw [toList_render_property]; exact List.cons_ne_nil _ _
    | subscript key => rw [toList_render_subscript]; exact List.cons_ne_nil _ _
  dsimp only [parse]
  rw [opens_iff_takeWhile.1 hopens, dropWhile_of_opens hopens, byteLength_nil, segments_render h]
  simp [hcs]

/-- **Read paths are written back,** with a `.` before a leading name. -/
theorem render_parse {s : String} {p : Path} (h : parse s = .ok p) :
    render (p.elements.map (·.segment)) =
      if s.toList.head?.any isDelimiter then s else "." ++ s := by
  obtain ⟨els, hseg, rfl⟩ := parse_eq_ok h
  have hrender := (segments_ok_readable_render hseg).2
  apply String.ext
  cases hs : s.toList with
  | nil =>
    rw [hs] at hrender
    simp_all [Segment.render]
  | cons c cs =>
    rw [hs] at hrender
    cases hc : isDelimiter c
    · -- a leading name, read back after a `.`
      simp_all [Segment.render]
    · -- the text starts at a segment and is read back as it is
      simp_all

/-- **Only the empty path is the root path.** -/
theorem isRoot_iff {s : String} {p : Path} (h : parse s = .ok p) : p.isRoot = true ↔ s = "" := by
  obtain ⟨els, hseg, rfl⟩ := parse_eq_ok h
  constructor
  · intro hroot
    unfold isRoot at hroot
    split at hroot
    · rename_i o helements
      -- segments are readable, so the one element is the leading name, and it is empty
      have hread := (segments_ok_readable_render hseg).1
      split at helements
      · rw [List.nil_append] at helements
        have := hread _ (helements ▸ List.mem_singleton_self _)
        simp [Segment.Readable] at this
      · rename_i hfirst
        obtain ⟨hlead, rfl⟩ := List.cons_eq_cons.1 helements
        have hnil : s.toList.takeWhile (fun c => !isDelimiter c) = [] := by
          simpa using congrArg String.toList (Segment.property.inj (Element.mk.inj hlead).1)
        have hs : s.toList = [] := by simpa [hnil] using hfirst
        exact String.ext (by simp [hs])
    · cases hroot
  · rintro rfl
    have hels : els = [] := by
      rw [String.toList_empty, List.dropWhile_nil, segments] at hseg
      cases hseg
      rfl
    subst hels
    rfl

/-- **Writing and reading paths are inverse.**  Readable segments, written and read, come
back with the byte offsets of their written forms; a path that was read, written again, is
its text, with a `.` before a leading name; and only the empty text reads as the root path. -/
theorem parse_render_inverse :
    (∀ es : List Segment, es ≠ [] → (∀ seg ∈ es, seg.Readable) →
      ∃ p, parse (render es) = .ok p ∧ p.elements.map (·.segment) = es ∧
        ∀ (i : Nat) (h : i < p.elements.length),
          p.elements[i].offset = (render (es.take i)).utf8ByteSize) ∧
    ∀ s p, parse s = .ok p →
      render (p.elements.map (·.segment)) =
          (if s.toList.head?.any isDelimiter then s else "." ++ s) ∧
        (p.isRoot = true ↔ s = "") := by
  refine ⟨fun es hne h => ⟨_, parse_render hne h, map_segment_place es 0, fun i hi => ?_⟩,
    fun s p h => ⟨render_parse h, isRoot_iff h⟩⟩
  simpa using offset_place es 0 i hi

/-- A key may hold a `.`: `m[a.b]` is the name `m` and the key `a.b`, written back as
`.m[a.b]`. -/
theorem parse_render_inverse_key_with_dot :
    (([.property "m", .subscript "a.b"] : List Segment) ≠ [] ∧
      (∀ seg ∈ ([.property "m", .subscript "a.b"] : List Segment), seg.Readable) ∧
      ∃ p, parse (render [.property "m", .subscript "a.b"]) = .ok p ∧
        p.elements.map (·.segment) = [.property "m", .subscript "a.b"] ∧
        ∀ (i : Nat) (h : i < p.elements.length), p.elements[i].offset =
          (render (([.property "m", .subscript "a.b"] : List Segment).take i)).utf8ByteSize) ∧
    (parse "m[a.b]" = .ok ⟨"m[a.b]", [⟨.property "m", 0⟩, ⟨.subscript "a.b", 1⟩]⟩ ∧
      render (([⟨.property "m", 0⟩, ⟨.subscript "a.b", 1⟩] : List Element).map (·.segment)) =
        (if "m[a.b]".toList.head?.any isDelimiter then "m[a.b]" else "." ++ "m[a.b]") ∧
      (isRoot ⟨"m[a.b]", [⟨.property "m", 0⟩, ⟨.subscript "a.b", 1⟩]⟩ = true ↔ "m[a.b]" = "")) := by
  have hread : ∀ seg ∈ ([.property "m", .subscript "a.b"] : List Segment), seg.Readable := by
    simp [Segment.Readable, Plain, isDelimiter]
  have hsegments : segments ['[', 'a', '.', 'b', ']'] 1 = .ok [⟨.subscript "a.b", 1⟩] := by
    rw [show ['[', 'a', '.', 'b', ']'] = '[' :: (['a', '.', 'b'] ++ ']' :: []) from rfl,
      segments_subscript (by decide), segments]
    rfl
  have hparse : parse "m[a.b]" = .ok ⟨"m[a.b]", [⟨.property "m", 0⟩, ⟨.subscript "a.b", 1⟩]⟩ := by
    simp [parse, isDelimiter, Char.utf8Size, hsegments]
  exact ⟨⟨List.cons_ne_nil _ _, hread, parse_render_inverse.1 _ (List.cons_ne_nil _ _) hread⟩,
    hparse, parse_render_inverse.2 _ _ hparse⟩

end Path

end ValuePaths
