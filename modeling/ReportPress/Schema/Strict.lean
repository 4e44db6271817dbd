import ReportPress.Json

/-!
Strict schemas. A strict object schema has exactly a type, its properties, all their names as
required and a ban on others. An authored schema is compiled into one: every property that is an
object or an array of objects with a mapping of properties is made strict in turn, and every other
node keeps its keywords but for the one that strict schemas do not allow.
-/

namespace ReportPress.Schema

/-- The keyword that strict schemas do not allow. -/
def bannedKeyword : String := "format"

/-- The mapping of properties of an object node, if the node declares itself one. -/
def objectProperties? (node : Members) : Option Members :=
  match node.get? "type", node.get? "properties" with
  | some (.str "object"), some (.obj properties) => some properties
  | _, _ => none

/-- The strict object schema over properties that are strict already. -/
def closed (properties : Members) : Json :=
  .obj [("type", .str "object"), ("properties", .obj properties),
    ("required", .arr (properties.keys.map .str)), ("additionalProperties", .bool false)]

/-- A node that holds no other: its keywords without the banned one. -/
def leaf (node : Members) : Members := node.erase bannedKeyword

theorem sizeOf_objectProperties? {node properties : Members}
    (h : objectProperties? node = some properties) : sizeOf properties < sizeOf node := by
  simp only [objectProperties?] at h
  split at h
  · rename_i hType hProperties
    cases h
    have := Members.sizeOf_lt_of_get? hProperties
    simp only [Json.obj.sizeOf_spec] at this
    omega
  · cases h

mutual

/-- The strict form of a property. Anything but a mapping allows every value. -/
def property : Json → Json
  | .obj node =>
    match Members.get? node "type" with
    | some (.str "array") =>
      match hItems : Members.get? node "items" with
      | some (.obj items) =>
        match hObject : objectProperties? items with
        | some properties =>
          have := Members.sizeOf_lt_of_get? hItems
          have := sizeOf_objectProperties? hObject
          .obj [("type", .str "array"), ("items", closed (propertyList properties))]
        | none =>
          have := Members.sizeOf_lt_of_get? hItems
          .obj (Members.put "items" (property (.obj items)) (leaf node))
      | _ => .obj (leaf node)
    | _ =>
      match hObject : objectProperties? node with
      | some properties =>
        have := sizeOf_objectProperties? hObject
        closed (propertyList properties)
      | none => .obj (leaf node)
  | _ => .obj []
termination_by node => sizeOf node
decreasing_by all_goals (simp_all only [Json.obj.sizeOf_spec]; omega)

/-- The strict form of each property, under its name. -/
def propertyList : Members → Members
  | [] => []
  | (name, node) :: rest => (name, property node) :: propertyList rest
termination_by properties => sizeOf properties

end

theorem propertyList_eq_map (properties : Members) :
    propertyList properties = properties.map fun member => (member.1, property member.2) := by
  induction properties with
  | nil => simp [propertyList]
  | cons member rest ih =>
    obtain ⟨name, node⟩ := member
    simp [propertyList, ih]

/-- The names of the strict properties are those of the authored ones. -/
@[simp] theorem keys_propertyList (properties : Members) :
    (propertyList properties).keys = properties.keys := by
  simp [propertyList_eq_map, Members.keys]

/-- The properties that a node declares, none if they are no mapping. -/
def declared (node : Json) : Members := ((node.get? "properties").bind (·.members?)).getD []

/-- The strict schema of an authored object schema; one without a mapping of properties has the
strict schema without any. -/
def strict (authored : Json) : Json := closed (propertyList (declared authored))

end ReportPress.Schema
