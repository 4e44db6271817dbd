import ReportPress.Binary64.Decimal

/-!
JSON values. Members keep their order, whole numbers are exact and told apart from the others, which
are binary64 numbers; all three infinities and the not-a-number are values too.
-/

namespace ReportPress

/-- A JSON value. -/
inductive Json
  | null
  | bool (value : Bool)
  | int (value : Int)
  | float (value : Binary64)
  | str (value : String)
  | arr (items : List Json)
  | obj (members : List (String × Json))
  deriving BEq, Inhabited

/-- The members of an object, in order. -/
abbrev Members := List (String × Json)

namespace Members

/-- The value of a member. -/
def get? (members : Members) (key : String) : Option Json := members.lookup key

/-- The members with the value put under the key, in its place if there is one, else at the end. -/
def put (key : String) (value : Json) : Members → Members
  | [] => [(key, value)]
  | (k, v) :: rest => if k = key then (key, value) :: rest else (k, v) :: put key value rest

/-- The members without those of the key. -/
def erase (members : Members) (key : String) : Members := members.filter (·.1 != key)

/-- The keys in order. -/
def keys (members : Members) : List String := members.map (·.1)

theorem sizeOf_lt_of_get? {members : Members} {key : String} {value : Json}
    (h : members.get? key = some value) : sizeOf value < sizeOf members := by
  induction members with
  | nil => simp [get?] at h
  | cons member rest ih =>
    obtain ⟨k, v⟩ := member
    simp only [get?, List.lookup_cons] at h
    split at h
    · cases h
      simp only [List.cons.sizeOf_spec, Prod.mk.sizeOf_spec]
      omega
    · have := ih h
      simp only [List.cons.sizeOf_spec]
      omega

theorem sizeOf_lt_of_mem {members : Members} {key : String} {value : Json}
    (h : (key, value) ∈ members) : sizeOf value < sizeOf members := by
  have := List.sizeOf_lt_of_mem h
  simp only [Prod.mk.sizeOf_spec] at this
  omega

theorem get?_put_self (members : Members) (key : String) (value : Json) :
    get? (put key value members) key = some value := by
  induction members with
  | nil => simp [put, get?]
  | cons member rest ih =>
    obtain ⟨k, v⟩ := member
    simp only [put]
    split
    · simp [get?]
    · rename_i hk
      have hk' : (key == k) = false := by simpa using fun h => hk h.symm
      simpa [get?, List.lookup_cons, hk'] using ih

theorem get?_put_of_ne (members : Members) {key other : String} (value : Json) (h : other ≠ key) :
    get? (put key value members) other = members.get? other := by
  have hOther : (other == key) = false := by simpa using h
  induction members with
  | nil => simp [put, get?, List.lookup_cons, hOther]
  | cons member rest ih =>
    obtain ⟨k, v⟩ := member
    simp only [put]
    split
    · rename_i hk
      subst hk
      simp [get?, List.lookup_cons, hOther]
    · simp only [get?, List.lookup_cons] at ih ⊢
      split
      · rfl
      · exact ih

end Members

namespace Json

/-- The members of an object. -/
def members? : Json → Option Members
  | .obj members => some members
  | _ => none

/-- The value of a member of an object. -/
def get? (value : Json) (key : String) : Option Json := value.members?.bind (·.get? key)

/-- Everything but `null`, `false`, the zeros and the empty text, list and object. -/
def isTruthy : Json → Bool
  | .null => false
  | .bool b => b
  | .int n => n != 0
  | .float x => !x.isZero
  | .str s => !s.isEmpty
  | .arr items => !items.isEmpty
  | .obj members => !members.isEmpty

mutual

/-- How many lists and objects that are not empty stand in each other in the value. -/
def nesting : Json → Nat
  | .arr items => nestingItems items
  | .obj members => nestingMembers members
  | _ => 0

/-- The nesting of a list of items. -/
def nestingItems : List Json → Nat
  | [] => 0
  | item :: rest => max (nesting item + 1) (nestingItems rest)

/-- The nesting of an object of members. -/
def nestingMembers : List (String × Json) → Nat
  | [] => 0
  | (_, value) :: rest => max (nesting value + 1) (nestingMembers rest)

end

mutual

/-- The value with every number that is not finite replaced by `null`. -/
def finite : Json → Json
  | .float x => if x.isFinite then .float x else .null
  | .arr items => .arr (finiteItems items)
  | .obj members => .obj (finiteMembers members)
  | value => value

/-- `finite` of each item. -/
def finiteItems : List Json → List Json
  | [] => []
  | item :: rest => finite item :: finiteItems rest

/-- `finite` of each member's value. -/
def finiteMembers : List (String × Json) → List (String × Json)
  | [] => []
  | (key, value) :: rest => (key, finite value) :: finiteMembers rest

end

theorem finiteItems_eq_map (items : List Json) : finiteItems items = items.map finite := by
  induction items with
  | nil => rfl
  | cons item rest ih => simp [finiteItems, ih]

theorem finiteMembers_eq_map (members : Members) :
    finiteMembers members = members.map fun member => (member.1, finite member.2) := by
  induction members with
  | nil => rfl
  | cons member rest ih => simp [finiteMembers, ih]

end Json

end ReportPress
