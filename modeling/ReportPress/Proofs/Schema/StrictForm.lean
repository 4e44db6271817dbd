import Mathlib.Logic.Basic
import ReportPress.Proofs.Json.Members
import ReportPress.Schema.Strict

/-!
What compiling a schema produces. `IsStrict` and `IsNode` describe the strict schemas and the nodes
below them by their keywords alone. Main statement: `strict_projection`, compiling maps every value
to a strict schema and keeps the strict schemas as they are, so that these are its fixed points.
-/

namespace ReportPress

namespace Schema

/-- A node that declares itself an object and has a mapping of properties. -/
def IsObjectNode (node : Members) : Prop :=
  node.get? "type" = some (.str "object") ∧
    ∃ properties, node.get? "properties" = some (.obj properties)

mutual

/-- A strict object schema: exactly a type, properties, all their names as required and a ban on
others, in this order, and a node under every name. -/
inductive IsStrict : Json → Prop
  | object {properties : Members} (nodes : ∀ member ∈ properties, IsNode member.2) :
    IsStrict (.obj [("type", .str "object"), ("properties", .obj properties),
      ("required", .arr (properties.keys.map .str)), ("additionalProperties", .bool false)])

/-- A node below a strict object schema: a mapping without the banned keyword. The items of an array
are a node, or a strict schema if they declare themselves objects with properties, and then the
array has no other keyword. An object with properties is a strict schema. -/
inductive IsNode : Json → Prop
  | mapping {node : Members} (clean : "format" ∉ node.keys)
    (bare : ∀ items, node.get? "type" = some (.str "array") → node.get? "items" = some (.obj items) →
      IsObjectNode items → node.keys = ["type", "items"])
    (objects : ∀ items, node.get? "type" = some (.str "array") →
      node.get? "items" = some (.obj items) → IsObjectNode items → IsStrict (.obj items))
    (others : ∀ items, node.get? "type" = some (.str "array") →
      node.get? "items" = some (.obj items) → ¬ IsObjectNode items → IsNode (.obj items))
    (object : IsObjectNode node → IsStrict (.obj node)) : IsNode (.obj node)

end

theorem objectProperties?_eq_some_iff {node properties : Members} :
    objectProperties? node = some properties ↔
      node.get? "type" = some (.str "object") ∧ node.get? "properties" = some (.obj properties) := by
  simp only [objectProperties?]
  split
  · rename_i hType hProperties
    simp [hType, hProperties]
  · rename_i hOther
    simp only [reduceCtorEq, false_iff, not_and]
    exact fun hType hProperties => hOther _ hType hProperties

theorem objectProperties?_eq_none_iff {node : Members} :
    objectProperties? node = none ↔ ¬ IsObjectNode node := by
  rw [← not_iff_not, not_not, ← ne_eq, Option.ne_none_iff_exists']
  simp [IsObjectNode, objectProperties?_eq_some_iff]

theorem isObjectNode_of_some {node properties : Members}
    (h : objectProperties? node = some properties) : IsObjectNode node := by
  obtain ⟨hType, hProperties⟩ := objectProperties?_eq_some_iff.1 h
  exact ⟨hType, properties, hProperties⟩

/-- What compiling makes of the node: one case for each way to treat it. -/
inductive Shape (node : Members) : Json → Prop
  | objects {items properties : Members} (array : node.get? "type" = some (.str "array"))
    (under : node.get? "items" = some (.obj items))
    (object : objectProperties? items = some properties) :
    Shape node (.obj [("type", .str "array"), ("items", closed (propertyList properties))])
  | others {items : Members} (array : node.get? "type" = some (.str "array"))
    (under : node.get? "items" = some (.obj items)) (other : objectProperties? items = none) :
    Shape node (.obj (Members.put "items" (property (.obj items)) (leaf node)))
  | object {properties : Members} (object : objectProperties? node = some properties) :
    Shape node (closed (propertyList properties))
  | leaf (bare : node.get? "type" = some (.str "array") →
      ∀ items, node.get? "items" ≠ some (.obj items))
    (other : objectProperties? node = none) : Shape node (.obj (leaf node))

theorem objectProperties?_of_array {node : Members}
    (h : node.get? "type" = some (.str "array")) : objectProperties? node = none := by
  rw [objectProperties?_eq_none_iff]
  rintro ⟨hType, -⟩
  rw [h] at hType
  simp at hType

/-- The strict form of a mapping has one of the four shapes. -/
theorem shape_property (node : Members) : Shape node (property (.obj node)) := by
  rw [property]
  split
  · rename_i hArray
    split
    · rename_i items hItems
      split
      · rename_i properties hObject
        exact .objects hArray hItems hObject
      · rename_i hOther
        exact .others hArray hItems hOther
    · rename_i hItems
      exact .leaf (fun _ => hItems) (objectProperties?_of_array hArray)
  · rename_i hArray
    split
    · rename_i properties hObject
      exact .object hObject
    · rename_i hOther
      exact .leaf (fun h => absurd h hArray) hOther

theorem get?_leaf {node : Members} {key : String} (h : key ≠ "format") :
    Members.get? (leaf node) key = node.get? key :=
  Members.get?_erase_of_ne node h

theorem objectProperties?_leaf (node : Members) :
    objectProperties? (leaf node) = objectProperties? node := by
  simp only [objectProperties?, get?_leaf (show "type" ≠ "format" by decide),
    get?_leaf (show "properties" ≠ "format" by decide)]

theorem objectProperties?_put (node : Members) (items : Json) :
    objectProperties? (Members.put "items" items node) = objectProperties? node := by
  simp only [objectProperties?,
    Members.get?_put_of_ne node items (show "type" ≠ "items" by decide),
    Members.get?_put_of_ne node items (show "properties" ≠ "items" by decide)]

/-- Compiling makes no object with properties of what is none. -/
theorem objectProperties?_property {node compiled : Members}
    (hNode : objectProperties? node = none) (h : property (.obj node) = .obj compiled) :
    objectProperties? compiled = none := by
  have hShape := shape_property node
  rw [h] at hShape
  cases hShape with
  | objects => rfl
  | others => rw [objectProperties?_put, objectProperties?_leaf, hNode]
  | object hObject => simp [hNode] at hObject
  | leaf => rw [objectProperties?_leaf, hNode]

theorem notMem_keys_leaf (node : Members) : "format" ∉ (leaf node).keys :=
  Members.notMem_keys_erase node "format"

theorem leaf_of_notMem {node : Members} (h : "format" ∉ node.keys) : leaf node = node :=
  Members.erase_of_notMem h

theorem mem_keys_leaf_of_get? {node : Members} {key : String} {value : Json} (h : key ≠ "format")
    (hGet : node.get? key = some value) : key ∈ (leaf node).keys :=
  Members.mem_keys_of_get? ((get?_leaf h).trans hGet)

/-- A node without an array's items and an object's properties needs only be clean. -/
theorem IsNode.of_leaf {node : Members} (clean : "format" ∉ node.keys)
    (bare : node.get? "type" = some (.str "array") → ∀ items, node.get? "items" ≠ some (.obj items))
    (other : ¬ IsObjectNode node) : IsNode (.obj node) :=
  .mapping clean (fun items hArray hItems _ => absurd hItems (bare hArray items))
    (fun items hArray hItems _ => absurd hItems (bare hArray items))
    (fun items hArray hItems _ => absurd hItems (bare hArray items)) fun h => absurd h other

theorem not_isObjectNode_of_array {node : Members} (h : node.get? "type" = some (.str "array")) :
    ¬ IsObjectNode node :=
  objectProperties?_eq_none_iff.1 (objectProperties?_of_array h)

theorem isNode_arrayOfObjects {properties : Members} (h : ∀ member ∈ properties, IsNode member.2) :
    IsNode (.obj [("type", .str "array"), ("items", closed properties)]) := by
  have hArray : Members.get? [("type", .str "array"), ("items", closed properties)] "type" =
      some (.str "array") := rfl
  have hObject : IsObjectNode [("type", .str "object"), ("properties", .obj properties),
      ("required", .arr (properties.keys.map .str)), ("additionalProperties", .bool false)] :=
    ⟨rfl, properties, rfl⟩
  refine .mapping (by simp [Members.keys]) (fun items _ _ _ => rfl) (fun items _ hItems _ => ?_)
    (fun items _ hItems hOther => ?_) fun h => absurd h (not_isObjectNode_of_array hArray)
  · cases hItems
    exact .object h
  · cases hItems
    exact absurd hObject hOther

theorem isNode_arrayOfOthers {node items : Members} (clean : "format" ∉ node.keys)
    (hArray : node.get? "type" = some (.str "array")) (hItems : node.get? "items" = some (.obj items))
    (hOther : ¬ IsObjectNode items) (h : IsNode (.obj items)) : IsNode (.obj node) := by
  have hOnly : ∀ found, node.get? "items" = some (.obj found) → found = items := by
    intro found hFound
    rw [hItems] at hFound
    simpa using hFound.symm
  refine .mapping clean (fun found _ hFound hObject => ?_) (fun found _ hFound hObject => ?_)
    (fun found _ hFound _ => ?_) fun hObject => absurd hObject (not_isObjectNode_of_array hArray)
  · exact absurd (hOnly found hFound ▸ hObject) hOther
  · exact absurd (hOnly found hFound ▸ hObject) hOther
  · exact hOnly found hFound ▸ h

/-- A copy of an array with such a node put in for its items. -/
theorem isNode_put_items {node items found : Members}
    (hArray : node.get? "type" = some (.str "array")) (hItems : node.get? "items" = some (.obj items))
    (hOther : ¬ IsObjectNode found) (h : IsNode (.obj found)) :
    IsNode (.obj (Members.put "items" (.obj found) (leaf node))) := by
  have hKeys := mem_keys_leaf_of_get? (by decide) hItems
  have clean : "format" ∉ (Members.put "items" (.obj found) (leaf node)).keys := by
    rw [Members.keys_put_of_mem _ hKeys]
    exact notMem_keys_leaf node
  have hType : (Members.put "items" (.obj found) (leaf node)).get? "type" =
      some (.str "array") := by
    rw [Members.get?_put_of_ne _ _ (by decide), get?_leaf (by decide), hArray]
  exact isNode_arrayOfOthers clean hType (Members.get?_put_self _ _ _) hOther h

theorem isNode_leaf {node : Members} (hBare : node.get? "type" = some (.str "array") →
    ∀ items, node.get? "items" ≠ some (.obj items)) (hOther : objectProperties? node = none) :
    IsNode (.obj (leaf node)) := by
  refine .of_leaf (notMem_keys_leaf node) (fun hArray items hItems => ?_) ?_
  · rw [get?_leaf (by decide)] at hArray hItems
    exact hBare hArray items hItems
  · rw [← objectProperties?_eq_none_iff, objectProperties?_leaf, hOther]

theorem isNode_closed {properties : Members} (h : ∀ member ∈ properties, IsNode member.2) :
    IsNode (closed properties) := by
  have hType : ∀ {P : Prop}, Members.get? [("type", .str "object"), ("properties", .obj properties),
      ("required", .arr (properties.keys.map .str)), ("additionalProperties", .bool false)] "type" =
        some (.str "array") → P := by
    intro P hArray
    simp at hArray
  exact .mapping (by simp [Members.keys]) (fun _ hArray => hType hArray)
    (fun _ hArray => hType hArray) (fun _ hArray => hType hArray) fun _ => .object h

theorem IsNode.exists_eq_obj {node : Json} (h : IsNode node) : ∃ members, node = .obj members := by
  cases h with
  | mapping => exact ⟨_, rfl⟩

mutual

/-- What compiling makes of a property is a node. -/
theorem isNode_property (node : Json) : IsNode (property node) := by
  cases node with
  | obj node =>
    have hShape := shape_property node
    generalize hCompiled : property (.obj node) = compiled at hShape ⊢
    cases hShape with
    | @objects items properties _ hItems hObject =>
      have := Members.sizeOf_lt_of_get? hItems
      have := sizeOf_objectProperties? hObject
      exact isNode_arrayOfObjects (isNode_propertyList properties)
    | @others items hArray hItems hOther =>
      have := Members.sizeOf_lt_of_get? hItems
      have ih := isNode_property (.obj items)
      obtain ⟨found, hFound⟩ := ih.exists_eq_obj
      rw [hFound] at ih ⊢
      have hFoundOther := objectProperties?_property hOther hFound
      exact isNode_put_items hArray hItems (objectProperties?_eq_none_iff.1 hFoundOther) ih
    | @object properties hObject =>
      have := sizeOf_objectProperties? hObject
      exact isNode_closed (isNode_propertyList properties)
    | leaf hBare hOther => exact isNode_leaf hBare hOther
  | _ =>
    rw [property]
    · exact .of_leaf (by simp [Members.keys]) (by simp) (by simp [IsObjectNode])
    · simp
termination_by sizeOf node
decreasing_by all_goals (simp_all only [Json.obj.sizeOf_spec]; omega)

theorem isNode_propertyList (properties : Members) :
    ∀ member ∈ propertyList properties, IsNode member.2 := by
  cases properties with
  | nil => simp [propertyList]
  | cons member rest =>
    obtain ⟨name, node⟩ := member
    rw [propertyList]
    intro found hFound
    rcases List.mem_cons.1 hFound with rfl | hRest
    · exact isNode_property node
    · exact isNode_propertyList rest found hRest
termination_by sizeOf properties

end

theorem isStrict_strict (authored : Json) : IsStrict (strict authored) :=
  .object (isNode_propertyList _)

theorem strict_of_objectProperties? {node properties : Members}
    (h : objectProperties? node = some properties) :
    strict (.obj node) = closed (propertyList properties) := by
  have hProperties := (objectProperties?_eq_some_iff.1 h).2
  have hDeclared : declared (.obj node) = properties := by
    simp [declared, Json.get?, Json.members?, hProperties]
  rw [strict, hDeclared]

theorem propertyList_of_forall {properties : Members}
    (h : ∀ member ∈ properties, property member.2 = member.2) :
    propertyList properties = properties := by
  rw [propertyList_eq_map]
  refine (List.map_congr_left fun member hMember => ?_).trans (List.map_id properties)
  rw [h member hMember, id]

theorem eq_of_keys_eq {node : Members} {array items : Json} (h : node.keys = ["type", "items"])
    (hArray : node.get? "type" = some array) (hItems : node.get? "items" = some items) :
    node = [("type", array), ("items", items)] := by
  match node, h with
  | [(_, _), (_, _)], h =>
    simp only [Members.keys, List.map_cons, List.map_nil, List.cons.injEq, and_true] at h
    obtain ⟨rfl, rfl⟩ := h
    simp_all

/-- Compiling keeps a node as it is. The induction carries along that compiling keeps the strict
schemas that stand below a node. -/
theorem property_of_isNode {node : Json} (h : IsNode node) : property node = node := by
  induction h using @IsNode.rec fun schema _ => strict schema = schema with
  | object nodes ih =>
    rw [strict_of_objectProperties? rfl, propertyList_of_forall ih, closed]
  | @mapping node clean bare objects others object ihObjects ihOthers ihObject =>
    have hShape := shape_property node
    generalize property (.obj node) = compiled at hShape ⊢
    cases hShape with
    | @objects items properties hArray hItems hObject =>
      have hIs := isObjectNode_of_some hObject
      rw [← strict_of_objectProperties? hObject, ihObjects items hArray hItems hIs,
        eq_of_keys_eq (bare items hArray hItems hIs) hArray hItems]
    | @others items hArray hItems hOther =>
      have hIs := objectProperties?_eq_none_iff.1 hOther
      rw [leaf_of_notMem clean, ihOthers items hArray hItems hIs, Members.put_of_get? hItems]
    | @object properties hObject =>
      rw [← strict_of_objectProperties? hObject, ihObject (isObjectNode_of_some hObject)]
    | leaf => rw [leaf_of_notMem clean]

theorem strict_of_isStrict {schema : Json} (h : IsStrict schema) : strict schema = schema := by
  cases h with
  | object nodes =>
    have hList := propertyList_of_forall fun member hMember =>
      property_of_isNode (nodes member hMember)
    rw [strict_of_objectProperties? rfl, hList, closed]

/-- Compiling maps every value to a strict schema and keeps every strict schema as it is. So
compiling twice is compiling once, and the strict schemas are exactly the values it keeps. -/
theorem strict_projection :
    (∀ authored, IsStrict (strict authored)) ∧
      (∀ schema, IsStrict schema → strict schema = schema) ∧
        (∀ authored, strict (strict authored) = strict authored) ∧
          ∀ schema, strict schema = schema ↔ IsStrict schema := by
  refine ⟨isStrict_strict, fun _ h => strict_of_isStrict h, fun authored => ?_, fun schema => ?_⟩
  · exact strict_of_isStrict (isStrict_strict authored)
  · exact ⟨fun h => h ▸ isStrict_strict schema, strict_of_isStrict⟩

end Schema

end ReportPress
