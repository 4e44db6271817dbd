import ReportPress.Proofs.Schema.StrictForm

/-!
How deep strictness reaches. A node stands in a schema if it is the schema itself, or stands in the
value of one of its properties or in its items. Compiling visits nodes of the authored schema and
copies some of them keyword by keyword, with all that is below. Main statement:
`inOrder_strict_iff`, the compiled schema is in order at every depth exactly if all that was copied
was in order already.
-/

namespace ReportPress.Schema

/-- The second node stands in the first: it is reached through properties and items that are
mappings. -/
inductive Within : Json → Json → Prop
  | self (node : Json) : Within node node
  | property {node properties : Members} {name : String} {value found : Json} :
    node.get? "properties" = some (.obj properties) → (name, value) ∈ properties →
      Within value found → Within (.obj node) found
  | items {node items : Members} {found : Json} :
    node.get? "items" = some (.obj items) → Within (.obj items) found → Within (.obj node) found

/-- The node has properties only if it requires all their names in order and allows no others. -/
def IsComplete (node : Members) : Prop :=
  ∀ properties : Members, node.get? "properties" = some (.obj properties) →
    node.get? "additionalProperties" = some (.bool false) ∧
      node.get? "required" = some (.arr (properties.keys.map .str))

/-- Every node that stands in the schema is complete and without the banned keyword. -/
def InOrder (schema : Json) : Prop :=
  ∀ node : Members, Within schema (.obj node) → "format" ∉ node.keys ∧ IsComplete node

/-- Compiling the first node as a property comes to the second. -/
inductive Visits : Json → Json → Prop
  | self (node : Json) : Visits node node
  | object {node properties : Members} {name : String} {value found : Json} :
    objectProperties? node = some properties → (name, value) ∈ properties →
      Visits value found → Visits (.obj node) found
  | objects {node items properties : Members} {name : String} {value found : Json} :
    node.get? "type" = some (.str "array") → node.get? "items" = some (.obj items) →
      objectProperties? items = some properties → (name, value) ∈ properties →
        Visits value found → Visits (.obj node) found
  | others {node items : Members} {found : Json} :
    node.get? "type" = some (.str "array") → node.get? "items" = some (.obj items) →
      objectProperties? items = none → Visits (.obj items) found → Visits (.obj node) found

/-- The node is neither an object with properties nor an array of such objects, so that its keywords
are copied. -/
def IsCopied (node : Members) : Prop :=
  ¬ IsObjectNode node ∧ ∀ items, node.get? "type" = some (.str "array") →
    node.get? "items" = some (.obj items) → ¬ IsObjectNode items

/-- What a copy of the node's keywords takes over is in order: the node is complete, and so is all
that stands in its properties and, unless it is an array, in its items. -/
def CopiesInOrder (node : Members) : Prop :=
  IsComplete node ∧
    (∀ properties : Members, node.get? "properties" = some (.obj properties) →
      ∀ member ∈ properties, InOrder member.2) ∧
      ∀ items, node.get? "type" ≠ some (.str "array") → node.get? "items" = some (.obj items) →
        InOrder (.obj items)

/-- All that compiling the property copies is in order. -/
def IsCovered (authored : Json) : Prop :=
  ∀ node : Members, Visits authored (.obj node) → IsCopied node → CopiesInOrder node

/-- A node is in order if it is complete and clean and all below it is in order. -/
theorem inOrder_obj_iff {node : Members} : InOrder (.obj node) ↔
    ("format" ∉ node.keys ∧ IsComplete node) ∧
      (∀ properties : Members, node.get? "properties" = some (.obj properties) →
        ∀ member ∈ properties, InOrder member.2) ∧
        ∀ items, node.get? "items" = some (.obj items) → InOrder (.obj items) := by
  constructor
  · intro h
    refine ⟨h node (.self _), fun properties hProperties member hMember => ?_, fun items hItems => ?_⟩
    · exact fun found hFound => h found (.property hProperties hMember hFound)
    · exact fun found hFound => h found (.items hItems hFound)
  · rintro ⟨hSelf, hProperties, hItems⟩ found hFound
    cases hFound with
    | self => exact hSelf
    | property hGet hMember hFound => exact hProperties _ hGet _ hMember found hFound
    | items hGet hFound => exact hItems _ hGet found hFound

/-- Only mappings have an order to be in. -/
theorem inOrder_of_forall {value : Json} (h : ∀ node, value = .obj node → InOrder (.obj node)) :
    InOrder value := by
  intro node hWithin
  cases hWithin with
  | self => exact h node rfl node (.self _)
  | property hGet hMember hFound => exact h _ rfl node (.property hGet hMember hFound)
  | items hGet hFound => exact h _ rfl node (.items hGet hFound)

theorem inOrder_closed_iff {properties : Members} :
    InOrder (closed properties) ↔ ∀ member ∈ properties, InOrder member.2 := by
  rw [closed, inOrder_obj_iff]
  simp [IsComplete, Members.keys]

section

variable {node items properties : Members}

theorem isCovered_object_iff (h : objectProperties? node = some properties) :
    IsCovered (.obj node) ↔ ∀ member ∈ properties, IsCovered member.2 := by
  constructor
  · intro hCovered member hMember found hFound
    exact hCovered found (.object h hMember hFound)
  · intro hAll found hFound hCopied
    cases hFound with
    | self => exact absurd (isObjectNode_of_some h) hCopied.1
    | object hObject hMember hFound =>
      obtain rfl : _ = properties := by simpa [h] using hObject.symm
      exact hAll _ hMember found hFound hCopied
    | objects hArray => simp [objectProperties?_of_array hArray] at h
    | others hArray => simp [objectProperties?_of_array hArray] at h

theorem isCovered_objects_iff (hArray : node.get? "type" = some (.str "array"))
    (hItems : node.get? "items" = some (.obj items)) (h : objectProperties? items = some properties) :
    IsCovered (.obj node) ↔ ∀ member ∈ properties, IsCovered member.2 := by
  constructor
  · intro hCovered member hMember found hFound
    exact hCovered found (.objects hArray hItems h hMember hFound)
  · intro hAll found hFound hCopied
    cases hFound with
    | self => exact absurd (isObjectNode_of_some h) (hCopied.2 items hArray hItems)
    | object hObject => simp [objectProperties?_of_array hArray] at hObject
    | objects _ hGet hObject hMember hFound =>
      obtain rfl : _ = items := by simpa [hItems] using hGet.symm
      obtain rfl : _ = properties := by simpa [h] using hObject.symm
      exact hAll _ hMember found hFound hCopied
    | others _ hGet hOther =>
      obtain rfl : _ = items := by simpa [hItems] using hGet.symm
      simp [h] at hOther

/-- Another array with a mapping of items is covered if the items are and what is copied beside them
is in order. -/
theorem isCovered_others_iff (hArray : node.get? "type" = some (.str "array"))
    (hItems : node.get? "items" = some (.obj items)) (h : objectProperties? items = none) :
    IsCovered (.obj node) ↔ CopiesInOrder node ∧ IsCovered (.obj items) := by
  have hOnly : ∀ {found}, node.get? "items" = some (.obj found) → found = items := by
    intro found hFound
    simpa [hItems] using hFound.symm
  constructor
  · intro hCovered
    refine ⟨hCovered node (.self _) ⟨not_isObjectNode_of_array hArray, fun found _ hFound => ?_⟩,
      fun found hFound => hCovered found (.others hArray hItems h hFound)⟩
    rw [hOnly hFound]
    exact objectProperties?_eq_none_iff.1 h
  · rintro ⟨hSelf, hRest⟩ found hFound hCopied
    cases hFound with
    | self => exact hSelf
    | object hObject => simp [objectProperties?_of_array hArray] at hObject
    | objects _ hGet hObject =>
      rw [hOnly hGet, h] at hObject
      cases hObject
    | others _ hGet _ hFound =>
      obtain rfl := hOnly hGet
      exact hRest found hFound hCopied

/-- Any other node is covered if what is copied is in order. -/
theorem isCovered_leaf_iff (hBare : node.get? "type" = some (.str "array") →
    ∀ items, node.get? "items" ≠ some (.obj items)) (h : objectProperties? node = none) :
    IsCovered (.obj node) ↔ CopiesInOrder node := by
  constructor
  · intro hCovered
    refine hCovered node (.self _) ⟨objectProperties?_eq_none_iff.1 h, fun items hArray hItems => ?_⟩
    exact absurd hItems (hBare hArray items)
  · intro hSelf found hFound hCopied
    cases hFound with
    | self => exact hSelf
    | object hObject => simp [h] at hObject
    | objects hArray hItems => exact absurd hItems (hBare hArray _)
    | others hArray hItems => exact absurd hItems (hBare hArray _)

end

theorem isComplete_congr {node other : Members}
    (h : ∀ key ∈ ["properties", "additionalProperties", "required"],
      node.get? key = other.get? key) : IsComplete node ↔ IsComplete other := by
  simp only [List.mem_cons, List.not_mem_nil, or_false, forall_eq_or_imp, forall_eq] at h
  obtain ⟨hProperties, hAdditional, hRequired⟩ := h
  rw [IsComplete, IsComplete, hProperties, hAdditional, hRequired]

/-- A copy without the banned keyword is in order if what it takes over is. -/
theorem inOrder_leaf_iff {node : Members} (hBare : node.get? "type" = some (.str "array") →
    ∀ items, node.get? "items" ≠ some (.obj items)) :
    InOrder (.obj (leaf node)) ↔ CopiesInOrder node := by
  have hComplete : IsComplete (leaf node) ↔ IsComplete node :=
    isComplete_congr (by simp [get?_leaf])
  rw [inOrder_obj_iff, hComplete, get?_leaf (by decide), get?_leaf (by decide), CopiesInOrder]
  constructor
  · rintro ⟨⟨-, hSelf⟩, hProperties, hItems⟩
    exact ⟨hSelf, hProperties, fun items _ => hItems items⟩
  · rintro ⟨hSelf, hProperties, hItems⟩
    refine ⟨⟨notMem_keys_leaf node, hSelf⟩, hProperties, fun items hGet => ?_⟩
    exact hItems items (fun hArray => hBare hArray items hGet) hGet

/-- A copy with other items put in is in order if they are and the rest of the copy is. -/
theorem inOrder_put_iff {node items : Members} {compiled : Json}
    (hArray : node.get? "type" = some (.str "array")) (hItems : node.get? "items" = some (.obj items)) :
    InOrder (.obj (Members.put "items" compiled (leaf node))) ↔
      CopiesInOrder node ∧ InOrder compiled := by
  have hKeys := Members.keys_put_of_mem compiled (mem_keys_leaf_of_get? (by decide) hItems)
  have hOthers : ∀ key ∈ ["properties", "additionalProperties", "required"],
      (Members.put "items" compiled (leaf node)).get? key = node.get? key := by
    intro key hKey
    have hNe : key ≠ "items" ∧ key ≠ "format" := by
      constructor <;> rintro rfl <;> simp at hKey
    rw [Members.get?_put_of_ne _ _ hNe.1, get?_leaf hNe.2]
  rw [inOrder_obj_iff, isComplete_congr hOthers, hOthers "properties" (by simp), hKeys,
    Members.get?_put_self, CopiesInOrder]
  constructor
  · rintro ⟨⟨-, hSelf⟩, hProperties, hPut⟩
    exact ⟨⟨hSelf, hProperties, fun _ hType => absurd hArray hType⟩,
      inOrder_of_forall fun found hFound => hPut found (congrArg some hFound)⟩
  · rintro ⟨⟨hSelf, hProperties, -⟩, hCompiled⟩
    refine ⟨⟨notMem_keys_leaf node, hSelf⟩, hProperties, fun found hFound => ?_⟩
    rwa [Option.some.inj hFound] at hCompiled

theorem inOrder_empty : InOrder (.obj []) := by
  rw [inOrder_obj_iff]
  simp [Members.keys, IsComplete]

/-- An array with nothing but its type and items is in order if the items are. -/
theorem inOrder_bareArray_iff {items : Json} :
    InOrder (.obj [("type", .str "array"), ("items", items)]) ↔ InOrder items := by
  have hProperties : Members.get? [("type", .str "array"), ("items", items)] "properties" = none :=
    rfl
  have hItems : Members.get? [("type", .str "array"), ("items", items)] "items" = some items := rfl
  have hKeys : "format" ∉ Members.keys [("type", .str "array"), ("items", items)] := by
    simp [Members.keys]
  rw [inOrder_obj_iff, IsComplete, hProperties, hItems]
  constructor
  · rintro ⟨-, -, h⟩
    exact inOrder_of_forall fun node hNode => h node (congrArg some hNode)
  · intro h
    refine ⟨⟨hKeys, by simp⟩, by simp, fun node hNode => ?_⟩
    rwa [Option.some.inj hNode] at h

theorem isCovered_of_not_obj {value : Json} (h : ∀ node, value ≠ .obj node) : IsCovered value := by
  intro node hVisits
  cases hVisits with
  | self => exact absurd rfl (h node)
  | object | objects | others => exact absurd rfl (h _)

mutual

/-- A compiled property is in order exactly if all that compiling it copies is. -/
theorem inOrder_property_iff (node : Json) : InOrder (property node) ↔ IsCovered node := by
  cases node with
  | obj node =>
    have hShape := shape_property node
    generalize property (.obj node) = compiled at hShape ⊢
    cases hShape with
    | @objects items properties hArray hItems hObject =>
      have := Members.sizeOf_lt_of_get? hItems
      have := sizeOf_objectProperties? hObject
      rw [isCovered_objects_iff hArray hItems hObject, inOrder_bareArray_iff, inOrder_closed_iff,
        inOrder_propertyList_iff]
    | @others items hArray hItems hOther =>
      have := Members.sizeOf_lt_of_get? hItems
      rw [isCovered_others_iff hArray hItems hOther, inOrder_put_iff hArray hItems,
        inOrder_property_iff (.obj items)]
    | @object properties hObject =>
      have := sizeOf_objectProperties? hObject
      rw [isCovered_object_iff hObject, inOrder_closed_iff, inOrder_propertyList_iff]
    | leaf hBare hOther => rw [isCovered_leaf_iff hBare hOther, inOrder_leaf_iff hBare]
  | _ =>
    rw [property]
    · exact ⟨fun _ => isCovered_of_not_obj (by simp), fun _ => inOrder_empty⟩
    · simp
termination_by sizeOf node
decreasing_by all_goals (simp_all only [Json.obj.sizeOf_spec]; omega)

theorem inOrder_propertyList_iff (properties : Members) :
    (∀ member ∈ propertyList properties, InOrder member.2) ↔
      ∀ member ∈ properties, IsCovered member.2 := by
  cases properties with
  | nil => simp [propertyList]
  | cons member rest =>
    obtain ⟨name, node⟩ := member
    rw [propertyList, List.forall_mem_cons, List.forall_mem_cons, inOrder_property_iff node,
      inOrder_propertyList_iff rest]
termination_by sizeOf properties

end

/-- The compiled schema is in order at every depth, whatever form its nodes have, exactly if for
every declared property all that compiling copies was in order already. -/
theorem inOrder_strict_iff (authored : Json) : InOrder (strict authored) ↔
    ∀ member ∈ declared authored, ∀ node : Members,
      Visits member.2 (.obj node) → IsCopied node → CopiesInOrder node := by
  rw [strict, inOrder_closed_iff, inOrder_propertyList_iff]
  rfl

/-- An author who may be null, with a date. -/
def nullableAuthor : Members :=
  [("type", .arr [.str "object", .str "null"]),
    ("properties", .obj [("born", .obj [("type", .str "string"), ("format", .str "date")])])]

theorem property_nullableAuthor : property (.obj nullableAuthor) = .obj nullableAuthor := by
  have hType : nullableAuthor.get? "type" = some (.arr [.str "object", .str "null"]) := rfl
  have hShape := shape_property nullableAuthor
  generalize property (.obj nullableAuthor) = compiled at hShape ⊢
  cases hShape with
  | objects hArray => simp [hType] at hArray
  | others hArray => simp [hType] at hArray
  | object hObject => simp [objectProperties?_eq_some_iff, hType] at hObject
  | leaf => rfl

/-- The banned keyword stays in the date of an author who may be null, and the author stays open to
other properties. -/
theorem not_inOrder_nullableAuthor : ¬ ∀ authored, InOrder (strict authored) := by
  intro h
  have hStrict : strict (.obj [("properties", .obj [("author", .obj nullableAuthor)])]) =
      closed [("author", .obj nullableAuthor)] := by
    have hDeclared : declared (.obj [("properties", .obj [("author", .obj nullableAuthor)])]) =
        [("author", .obj nullableAuthor)] := rfl
    rw [strict, hDeclared, propertyList, propertyList, property_nullableAuthor]
  have hWithin : Within (closed [("author", .obj nullableAuthor)]) (.obj nullableAuthor) :=
    .property rfl List.mem_cons_self (.self _)
  have hOpen := (h _ _ (hStrict ▸ hWithin)).2 _ rfl
  simp [nullableAuthor] at hOpen

end ReportPress.Schema
