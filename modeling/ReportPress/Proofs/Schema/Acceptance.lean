import Mathlib.Logic.Basic
import ReportPress.Proofs.Json.Members
import ReportPress.Schema.Strict

/-!
Which values a schema accepts. A value must be of the type that the schema names and one of the
values that it lists; the items of a list must be accepted by the schema of items, and an object
must have the required members, each member under the name of a property must be accepted by that
property, and every other one by the schema for others. Other keywords are ignored. Main statements:
`accepts_arr_iff` and `accepts_members_iff`, acceptance of a list and of an object in terms of the
schemas below the node.
-/

namespace ReportPress.Schema

/-- The names of the types that a value has; a whole number is a number too. -/
def typeNames : Json → List String
  | .null => ["null"]
  | .bool _ => ["boolean"]
  | .int _ => ["integer", "number"]
  | .float x => if x.toInt?.isSome then ["integer", "number"] else ["number"]
  | .str _ => ["string"]
  | .arr _ => ["array"]
  | .obj _ => ["object"]

/-- The texts in a list. -/
def texts (items : List Json) : List String := items.filterMap fun item =>
  match item with
  | .str text => some text
  | _ => none

/-- A type keyword has one name or a list of them. -/
def isOfType (value : Json) : Json → Bool
  | .str name => (typeNames value).contains name
  | .arr names => (texts names).any (typeNames value).contains
  | _ => false

def fitsType (node : Members) (value : Json) : Bool :=
  match node.get? "type" with
  | some type => isOfType value type
  | none => true

/-- A list of allowed values has texts only. -/
def fitsEnum (node : Members) (value : Json) : Bool :=
  match node.get? "enum", value with
  | some (.arr options), .str text => (texts options).contains text
  | some (.arr _), _ => false
  | _, _ => true

def fitsRequired (node members : Members) : Bool :=
  match node.get? "required" with
  | some (.arr names) => (texts names).all members.keys.contains
  | _ => true

mutual

/-- Whether a schema accepts a value. A schema may also be `true` or `false`. -/
def accepts : Json → Json → Bool
  | .bool answer, _ => answer
  | .obj node, value =>
    fitsType node value && fitsEnum node value &&
      match value with
      | .arr items =>
        match hItems : Members.get? node "items" with
        | some schema =>
          have := Members.sizeOf_lt_of_get? hItems
          items.all fun item => accepts schema item
        | none => true
      | .obj members =>
        fitsRequired node members &&
          (match hProperties : Members.get? node "properties" with
            | some (.obj properties) =>
              have := Members.sizeOf_lt_of_get? hProperties
              acceptsEach properties members
            | _ => true) &&
          match hOthers : Members.get? node "additionalProperties" with
          | some schema =>
            have := Members.sizeOf_lt_of_get? hOthers
            members.all fun member =>
              (declared (.obj node)).keys.contains member.1 || accepts schema member.2
          | none => true
      | _ => true
  | _, _ => true
termination_by schema => sizeOf schema
decreasing_by all_goals (simp_all only [Json.obj.sizeOf_spec]; omega)

/-- Whether each property accepts the member under its name, if there is one. -/
def acceptsEach : Members → Members → Bool
  | [], _ => true
  | (name, schema) :: rest, members =>
    (match Members.get? members name with
      | some value => accepts schema value
      | none => true) && acceptsEach rest members
termination_by properties => sizeOf properties

end

theorem texts_map_str (names : List String) : texts (names.map .str) = names := by
  rw [texts, List.filterMap_map]
  exact List.filterMap_some

section

variable {value : Json}

/-- A float is a number, and an integer at most besides. -/
theorem notMem_typeNames_float {x : Binary64} {name : String} (h : name ∉ ["integer", "number"]) :
    name ∉ typeNames (.float x) := by
  rw [typeNames]
  split
  · exact h
  · exact fun hName => h (List.mem_cons_of_mem _ hName)

theorem array_mem_typeNames : "array" ∈ typeNames value ↔ ∃ items, value = .arr items := by
  cases value with
  | float x => simp [notMem_typeNames_float]
  | _ => simp [typeNames]

theorem object_mem_typeNames : "object" ∈ typeNames value ↔ ∃ members, value = .obj members := by
  cases value with
  | float x => simp [notMem_typeNames_float]
  | _ => simp [typeNames]

end

theorem acceptsEach_iff {properties members : Members} : acceptsEach properties members = true ↔
    ∀ property ∈ properties, ∀ value, members.get? property.1 = some value →
      accepts property.2 value = true := by
  induction properties with
  | nil => simp [acceptsEach]
  | cons property rest ih =>
    obtain ⟨name, schema⟩ := property
    rw [acceptsEach, Bool.and_eq_true, ih, List.forall_mem_cons]
    refine and_congr_left fun _ => ?_
    cases members.get? name <;> simp

theorem declared_obj (node : Members) :
    declared (.obj node) = ((node.get? "properties").bind (·.members?)).getD [] := rfl

section

variable {node members : Members} {value : Json}

theorem accepts_scalar_iff (hList : ∀ items, value ≠ .arr items)
    (hObject : ∀ members, value ≠ .obj members) : accepts (.obj node) value = true ↔
      fitsType node value = true ∧ fitsEnum node value = true := by
  rw [accepts]
  · simp
  · exact hList
  · exact hObject

theorem accepts_arr_iff {items : List Json} : accepts (.obj node) (.arr items) = true ↔
    (fitsType node (.arr items) = true ∧ fitsEnum node (.arr items) = true) ∧
      ∀ schema, node.get? "items" = some schema → ∀ item ∈ items, accepts schema item = true := by
  rw [accepts, Bool.and_eq_true, Bool.and_eq_true]
  refine and_congr_right fun _ => ?_
  split
  · rename_i schema hItems
    simp [hItems]
  · rename_i hItems
    simp [hItems]

/-- A node accepts an object if its type fits, no required member is missing, and each member is
accepted by the property of its name or by the schema for others. -/
theorem accepts_members_iff : accepts (.obj node) (.obj members) = true ↔
    (fitsType node (.obj members) = true ∧ fitsEnum node (.obj members) = true) ∧
      fitsRequired node members = true ∧
        (∀ property ∈ declared (.obj node), ∀ found, members.get? property.1 = some found →
          accepts property.2 found = true) ∧
        ∀ schema, node.get? "additionalProperties" = some schema →
          ∀ member ∈ members, member.1 ∉ (declared (.obj node)).keys →
            accepts schema member.2 = true := by
  rw [accepts, Bool.and_eq_true, Bool.and_eq_true]
  refine and_congr_right fun _ => ?_
  rw [Bool.and_eq_true, Bool.and_eq_true, and_assoc]
  refine and_congr_right fun _ => and_congr ?_ ?_
  · rw [declared_obj]
    split
    · rename_i properties hProperties
      rw [acceptsEach_iff, hProperties]
      rfl
    · rename_i hProperties
      cases hGet : node.get? "properties" with
      | none => simp
      | some found =>
        cases found with
        | obj properties => exact absurd hGet (hProperties properties)
        | _ => simp [Json.members?]
  · split
    · rename_i schema hOthers
      simp only [hOthers, Option.some.injEq, forall_eq', List.all_eq_true, Bool.or_eq_true,
        List.contains_iff_mem]
      exact forall₂_congr fun _ _ => or_iff_not_imp_left
    · rename_i hOthers
      simp [hOthers]

/-- The keywords that acceptance reads. -/
def keywords : List String :=
  ["type", "enum", "items", "required", "properties", "additionalProperties"]

/-- Nodes that agree on these keywords accept the same. -/
theorem accepts_congr {other : Members} (h : ∀ key ∈ keywords, node.get? key = other.get? key) :
    accepts (.obj node) value = true ↔ accepts (.obj other) value = true := by
  have hType (value : Json) : fitsType node value = fitsType other value := by
    rw [fitsType, fitsType, h "type" (by decide)]
  have hEnum (value : Json) : fitsEnum node value = fitsEnum other value := by
    unfold fitsEnum
    rw [h "enum" (by decide)]
  have hRequired (members : Members) : fitsRequired node members = fitsRequired other members := by
    rw [fitsRequired, fitsRequired, h "required" (by decide)]
  have hDeclared : declared (.obj node) = declared (.obj other) := by
    rw [declared_obj, declared_obj, h "properties" (by decide)]
  cases value with
  | arr items => rw [accepts_arr_iff, accepts_arr_iff, hType, hEnum, h "items" (by decide)]
  | obj members =>
    rw [accepts_members_iff, accepts_members_iff, hType, hEnum, hRequired, hDeclared,
      h "additionalProperties" (by decide)]
  | _ => rw [accepts_scalar_iff (by simp) (by simp), accepts_scalar_iff (by simp) (by simp), hType,
      hEnum]

theorem fitsType_iff_of_name {name : String} (h : node.get? "type" = some (.str name)) :
    fitsType node value = true ↔ name ∈ typeNames value := by
  rw [fitsType, h]
  exact List.contains_iff_mem

theorem fitsEnum_of_none (h : node.get? "enum" = none) : fitsEnum node value = true := by
  unfold fitsEnum
  rw [h]

theorem fitsType_of_accepts (h : accepts (.obj node) value = true) :
    fitsType node value = true := by
  cases value with
  | arr items => exact (accepts_arr_iff.1 h).1.1
  | obj members => exact (accepts_members_iff.1 h).1.1
  | _ => exact ((accepts_scalar_iff (by simp) (by simp)).1 h).1

theorem fitsRequired_iff {names : List String} {members : Members}
    (h : node.get? "required" = some (.arr (names.map .str))) :
    fitsRequired node members = true ↔ ∀ name ∈ names, name ∈ members.keys := by
  rw [fitsRequired, h]
  simp only [texts_map_str, List.all_eq_true, List.contains_iff_mem]

end

end ReportPress.Schema
