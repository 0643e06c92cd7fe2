/-!
# Property paths

A property path such as `servers[2].ports[http]` names a value inside a nested
structure.  It is a leading name followed by segments: `.name` selects a property,
`[key]` selects an element of a container.  Keys are kept as raw text; what they mean
is decided later, against the type of the container they are applied to.

The grammar is small enough to state in one line: a path is empty, or it is
`lead? seg*` where `lead` is a run of characters other than `.` and `[`, and each
`seg` is `.` followed by such a run, or `[` followed by anything up to the first `]`.

## Main definitions

* `Segment` — one element of a path, and `Segment.render`, its written form.
* `Path.parse` — reads a path, reporting the byte offset and cause of the first fault.
* `Path.isRoot` — the empty path, which addresses the root value itself.
-/

namespace ValuePaths

/-- One element of a path: a property name, or the raw text between brackets. -/
inductive Segment where
  | property (name : String)
  | subscript (key : String)
  deriving DecidableEq, Repr, Inhabited

namespace Segment

/-- The raw text of a segment, without its `.` or brackets. -/
def text : Segment → String
  | property name => name
  | subscript key => key

/-- A segment as it is written inside a path: `.name` or `[key]`. -/
def render : Segment → String
  | property name => "." ++ name
  | subscript key => "[" ++ key ++ "]"

end Segment

/-- A segment together with the byte offset at which it starts in its path. -/
structure Element where
  segment : Segment
  offset : Nat
  deriving DecidableEq, Repr, Inhabited

/-- Why a path was rejected. -/
inductive PathFault where
  /-- A `[` with no `]` after it. -/
  | unclosedBracket
  /-- A `.` directly followed by `.`, `[` or the end of the path. -/
  | emptyName
  /-- A `]` followed by something other than `.`, `[` or the end of the path. -/
  | missingSeparator
  deriving DecidableEq, Repr, Inhabited

/-- The description of a fault, as it appears at the end of an error message. -/
def PathFault.message : PathFault → String
  | .unclosedBracket => "unmatched `[`"
  | .emptyName => "empty property name after `.`"
  | .missingSeparator => "expected `.` or `[` after `]`"

/-- A rejected path: its text, the byte offset of the offending character and the cause. -/
structure PathError where
  source : String
  offset : Nat
  fault : PathFault
  deriving DecidableEq, Repr, Inhabited

/-- The full description of a rejected path. -/
def PathError.message (e : PathError) : String :=
  s!"Encountered an error at offset {e.offset} while parsing `{e.source}`: {e.fault.message}"

/-- A parsed path: its text and its elements in order. -/
structure Path where
  source : String
  elements : List Element
  deriving DecidableEq, Repr, Inhabited

namespace Path

/-! ## Reading a path -/

/-- Characters that end a property name. -/
def isDelimiter (c : Char) : Bool := c == '.' || c == '['

/-- The number of bytes that a run of characters takes in UTF-8. -/
def byteLength : List Char → Nat
  | [] => 0
  | c :: cs => c.utf8Size + byteLength cs

@[simp] theorem byteLength_nil : byteLength [] = 0 := rfl

@[simp] theorem byteLength_cons (c : Char) (cs : List Char) :
    byteLength (c :: cs) = c.utf8Size + byteLength cs := rfl

theorem length_dropWhile_le (p : Char → Bool) (cs : List Char) :
    (cs.dropWhile p).length ≤ cs.length := by
  have h := congrArg List.length (List.takeWhile_append_dropWhile (p := p) (l := cs))
  rw [List.length_append] at h
  omega

/-- Reads the segments after the leading name.  `offset` is the byte offset of the
first character of `cs` in the whole path. -/
def segments (cs : List Char) (offset : Nat) : Except (PathFault × Nat) (List Element) :=
  match cs with
  | [] => .ok []
  | '.' :: rest =>
    let name := rest.takeWhile (fun c => !isDelimiter c)
    if name.isEmpty then .error (.emptyName, offset)
    else
      have : (rest.dropWhile (fun c => !isDelimiter c)).length < rest.length + 1 :=
        Nat.lt_succ_of_le (length_dropWhile_le _ rest)
      (⟨.property (String.ofList name), offset⟩ :: ·) <$>
        segments (rest.dropWhile (fun c => !isDelimiter c)) (offset + 1 + byteLength name)
  | '[' :: rest =>
    let key := rest.takeWhile (· != ']')
    match h : rest.dropWhile (· != ']') with
    | [] => .error (.unclosedBracket, offset)
    | _ :: after =>
      have : after.length < rest.length + 1 := by
        have := length_dropWhile_le (· != ']') rest
        rw [h] at this
        simp only [List.length_cons] at this; omega
      (⟨.subscript (String.ofList key), offset⟩ :: ·) <$>
        segments after (offset + 2 + byteLength key)
  | _ :: _ => .error (.missingSeparator, offset)
termination_by cs.length

/-- Reads a path.  The leading name may omit its `.`; the empty path reads as one empty
property name, the root path. -/
def parse (source : String) : Except PathError Path :=
  let cs := source.toList
  let lead := cs.takeWhile (fun c => !isDelimiter c)
  let first : List Element :=
    if lead.isEmpty && !cs.isEmpty then [] else [⟨.property (String.ofList lead), 0⟩]
  match segments (cs.dropWhile (fun c => !isDelimiter c)) (byteLength lead) with
  | .ok rest => .ok ⟨source, first ++ rest⟩
  | .error (fault, offset) => .error ⟨source, offset, fault⟩

/-! ## Views of a path -/

/-- The root path is the single empty property name: it addresses the value it is
applied to. -/
def isRoot (p : Path) : Bool :=
  match p.elements with
  | [⟨.property "", _⟩] => true
  | _ => false

/-- The elements a walk goes through: none for the root path. -/
def steps (p : Path) : List Element :=
  if p.isRoot then [] else p.elements

/-- The written form of a list of segments. -/
def render (segments : List Segment) : String :=
  String.join (segments.map Segment.render)

end Path

end ValuePaths
