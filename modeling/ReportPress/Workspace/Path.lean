/-!
Paths as they are written. A path is where it starts and the names from there on; empty names and
`.` are dropped, `..` is kept, and joining an absolute path replaces what was before it.
-/

namespace ReportPress

/-- Where a path starts: at the working directory, at the root, or at the root written with two
slashes. -/
inductive Anchor
  | here
  | root
  | doubleRoot
  deriving DecidableEq

/-- A path: where it starts and its names. -/
structure Path where
  anchor : Anchor
  names : List String
  deriving DecidableEq

namespace Path

/-- The parts of a text between its slashes. -/
def splitSlash : List Char → List (List Char)
  | [] => [[]]
  | c :: cs =>
    if c = '/' then [] :: splitSlash cs
    else
      match splitSlash cs with
      | [] => [[c]]
      | part :: parts => (c :: part) :: parts

/-- A part that stays in a path. -/
def isName (part : List Char) : Bool := part != [] && part != ['.']

/-- The names in a text. -/
def namesOf (cs : List Char) : List String := ((splitSlash cs).filter isName).map String.ofList

/-- Where a text starts; exactly two slashes are kept, more count as one. -/
def anchorOf (cs : List Char) : Anchor :=
  match (cs.takeWhile (· == '/')).length with
  | 0 => .here
  | 2 => .doubleRoot
  | _ => .root

/-- The path that a text writes. -/
def ofString (s : String) : Path := ⟨anchorOf s.toList, namesOf s.toList⟩

/-- The path followed by another; an absolute one stands alone. -/
def join (path other : Path) : Path :=
  match other.anchor with
  | .here => ⟨path.anchor, path.names ++ other.names⟩
  | _ => other

/-- The path followed by the one that a text writes. -/
def append (path : Path) (s : String) : Path := path.join (.ofString s)

/-- The text of a path; the path without a name is a point. -/
def text (path : Path) : String :=
  let names := "/".intercalate path.names
  match path.anchor with
  | .here => if path.names.isEmpty then "." else names
  | .root => "/" ++ names
  | .doubleRoot => "//" ++ names

/-- The path without its last name; one without names is its own parent. -/
def parent (path : Path) : Path := ⟨path.anchor, path.names.dropLast⟩

/-- The last name, empty if there is none. -/
def name (path : Path) : String := path.names.getLast?.getD ""

/-- The last name up to its last point, if that is neither its first nor its last character. -/
def stem (path : Path) : String :=
  let cs := path.name.toList
  let suffix := (cs.reverse.takeWhile (· != '.')).length
  if suffix = 0 ∨ cs.length ≤ suffix + 1 then path.name
  else String.ofList (cs.take (cs.length - suffix - 1))

theorem splitSlash_of_notMem {cs : List Char} (h : '/' ∉ cs) : splitSlash cs = [cs] := by
  induction cs with
  | nil => rfl
  | cons c cs ih =>
    simp only [List.mem_cons, not_or] at h
    rw [splitSlash, if_neg (Ne.symm h.1), ih h.2]

/-- A text without slashes that is neither empty nor a point is one name. -/
theorem names_ofString {s : String} (hSlash : '/' ∉ s.toList) (hName : isName s.toList = true) :
    ofString s = ⟨.here, [s]⟩ := by
  have hAnchor : anchorOf s.toList = .here := by
    cases h : s.toList with
    | nil => simp [anchorOf]
    | cons c cs =>
      have hc : (c == '/') = false := by
        rw [h] at hSlash
        simp only [List.mem_cons, not_or] at hSlash
        simpa using Ne.symm hSlash.1
      simp [anchorOf, hc]
  simp [ofString, hAnchor, namesOf, splitSlash_of_notMem hSlash, hName]

end Path

end ReportPress
