import ReportPress.Proofs.Schema.Acceptance
import ReportPress.Proofs.Schema.StrictForm

/-!
What compiling does to the meaning of an authored schema: a value is accepted by the strict schema
exactly if the authored one accepts it and every object in it, at any depth, has exactly the members
that are declared for it. Main statement: `accepts_strict_iff`.
-/

namespace ReportPress.Schema

/-- The types of nodes that hold no others. -/
def scalarTypes : List String := ["string", "number", "integer", "boolean", "null"]

/-- Of the keywords that acceptance reads the node has these only. -/
def HasOnly (node : Members) (allowed : List String) : Prop :=
  ∀ key ∈ keywords, key ∈ node.keys → key ∈ allowed

instance (node : Members) (allowed : List String) : Decidable (HasOnly node allowed) :=
  inferInstanceAs (Decidable (∀ key ∈ keywords, key ∈ node.keys → key ∈ allowed))

/-- A node as authors write them: a scalar, an array of such nodes, or an object with such nodes as
properties, some of them required. Keywords that acceptance does not read may stand in any. -/
inductive IsAuthored : Json → Prop
  | scalar {node : Members} {type : String} (hType : node.get? "type" = some (.str type))
    (hScalar : type ∈ scalarTypes) (hOnly : HasOnly node ["type"]) : IsAuthored (.obj node)
  | array {node : Members} {items : Json} (hType : node.get? "type" = some (.str "array"))
    (hItems : node.get? "items" = some items) (hAuthored : IsAuthored items)
    (hOnly : HasOnly node ["type", "items"]) : IsAuthored (.obj node)
  | object {node properties : Members} (hType : node.get? "type" = some (.str "object"))
    (hProperties : node.get? "properties" = some (.obj properties))
    (hAuthored : ∀ property ∈ properties, IsAuthored property.2)
    (hRequired : ∀ required, node.get? "required" = some required →
      ∃ names : List String, required = .arr (names.map .str) ∧ names ⊆ properties.keys)
    (hOnly : HasOnly node ["type", "properties", "required"]) : IsAuthored (.obj node)

/-- Within a schema and a value, a node and a part of the value that it is about. -/
inductive Matched : Json → Json → Json → Json → Prop
  | self (schema value : Json) : Matched schema value schema value
  | property {node properties members : Members} {name : String} {schema value found part : Json} :
    node.get? "properties" = some (.obj properties) → (name, schema) ∈ properties →
      members.get? name = some value → Matched schema value found part →
        Matched (.obj node) (.obj members) found part
  | items {node : Members} {items : List Json} {schema item found part : Json} :
    node.get? "items" = some schema → item ∈ items → Matched schema item found part →
      Matched (.obj node) (.arr items) found part

/-- Every object in the value that is matched against an object node has exactly the declared
members. -/
def IsExact (schema value : Json) : Prop :=
  ∀ node properties members : Members, Matched schema value (.obj node) (.obj members) →
    objectProperties? node = some properties → ∀ key, key ∈ members.keys ↔ key ∈ properties.keys

section

variable {node properties members : Members} {schema value : Json} {items : List Json}
  {allowed : List String} {key : String}

theorem HasOnly.get?_eq_none (h : HasOnly node allowed) (hKeyword : key ∈ keywords)
    (hNot : key ∉ allowed) : node.get? key = none :=
  Members.get?_eq_none fun hMem => hNot (h key hKeyword hMem)

theorem objectProperties?_of_scalar {type : String}
    (hType : node.get? "type" = some (.str type)) (hScalar : type ∈ scalarTypes) :
    objectProperties? node = none := by
  rw [objectProperties?_eq_none_iff]
  rintro ⟨hObject, -⟩
  obtain rfl : type = "object" := by simpa [hType] using hObject
  exact absurd hScalar (by decide)

theorem isExact_scalar (hObject : objectProperties? node = none)
    (hProperties : node.get? "properties" = none) (hItems : node.get? "items" = none) :
    IsExact (.obj node) value := by
  intro found properties members hMatched hFound
  cases hMatched with
  | self => simp [hObject] at hFound
  | property hGet => simp [hProperties] at hGet
  | items hGet => simp [hItems] at hGet

theorem isExact_arr_iff (hItems : node.get? "items" = some schema) :
    IsExact (.obj node) (.arr items) ↔ ∀ item ∈ items, IsExact schema item := by
  constructor
  · intro h item hItem found properties members hMatched
    exact h found properties members (.items hItems hItem hMatched)
  · intro h found properties members hMatched hFound
    cases hMatched with
    | items hGet hItem hMatched =>
      obtain rfl := Option.some.inj (hItems.symm.trans hGet)
      exact h _ hItem found properties members hMatched hFound

theorem isExact_obj_iff (h : objectProperties? node = some properties) :
    IsExact (.obj node) (.obj members) ↔
      (∀ key, key ∈ members.keys ↔ key ∈ properties.keys) ∧
        ∀ property ∈ properties, ∀ found, members.get? property.1 = some found →
          IsExact property.2 found := by
  have hProperties := (objectProperties?_eq_some_iff.1 h).2
  constructor
  · intro hExact
    refine ⟨hExact node properties members (.self _ _) h, ?_⟩
    intro property hProperty found hFound other others inner hMatched
    exact hExact other others inner (.property hProperties hProperty hFound hMatched)
  · rintro ⟨hKeys, hBelow⟩ other others inner hMatched hOther
    cases hMatched with
    | self =>
      obtain rfl := Option.some.inj (h.symm.trans hOther)
      exact hKeys
    | property hGet hProperty hFound hMatched =>
      obtain rfl : properties = _ := by simpa [hProperties] using hGet
      exact hBelow _ hProperty _ hFound other others inner hMatched hOther

theorem accepts_array_iff (hType : node.get? "type" = some (.str "array"))
    (hEnum : node.get? "enum" = none) (hItems : node.get? "items" = some schema) :
    accepts (.obj node) value = true ↔
      ∃ items, value = .arr items ∧ ∀ item ∈ items, accepts schema item = true := by
  constructor
  · intro h
    have hFits := (fitsType_iff_of_name hType).1 (fitsType_of_accepts h)
    obtain ⟨items, rfl⟩ := array_mem_typeNames.1 hFits
    exact ⟨items, rfl, (accepts_arr_iff.1 h).2 schema hItems⟩
  · rintro ⟨items, rfl, h⟩
    have hFits := (fitsType_iff_of_name hType).2 (array_mem_typeNames.2 ⟨items, rfl⟩)
    refine accepts_arr_iff.2 ⟨⟨hFits, fitsEnum_of_none hEnum⟩, fun other hOther => ?_⟩
    obtain rfl := Option.some.inj (hItems.symm.trans hOther)
    exact h

theorem accepts_object_iff (h : objectProperties? node = some properties)
    (hEnum : node.get? "enum" = none) : accepts (.obj node) value = true ↔
      ∃ members : Members, value = .obj members ∧ fitsRequired node members = true ∧
        (∀ property ∈ properties, ∀ found, members.get? property.1 = some found →
          accepts property.2 found = true) ∧
        ∀ schema, node.get? "additionalProperties" = some schema →
          ∀ member ∈ members, member.1 ∉ properties.keys → accepts schema member.2 = true := by
  obtain ⟨hType, hProperties⟩ := objectProperties?_eq_some_iff.1 h
  have hDeclared : declared (.obj node) = properties := by
    rw [declared_obj, hProperties]
    rfl
  constructor
  · intro h
    have hFits := (fitsType_iff_of_name hType).1 (fitsType_of_accepts h)
    obtain ⟨members, rfl⟩ := object_mem_typeNames.1 hFits
    rw [accepts_members_iff, hDeclared] at h
    exact ⟨members, rfl, h.2⟩
  · rintro ⟨members, rfl, h⟩
    have hFits := (fitsType_iff_of_name hType).2 (object_mem_typeNames.2 ⟨members, rfl⟩)
    rw [accepts_members_iff, hDeclared]
    exact ⟨⟨hFits, fitsEnum_of_none hEnum⟩, h⟩

/-- A closed schema accepts the objects with exactly its properties. -/
theorem accepts_closed_iff : accepts (closed properties) value = true ↔
    ∃ members : Members, value = .obj members ∧
      (∀ key, key ∈ members.keys ↔ key ∈ properties.keys) ∧
      ∀ property ∈ properties, ∀ found, members.get? property.1 = some found →
        accepts property.2 found = true := by
  have hObject : objectProperties? [("type", .str "object"), ("properties", .obj properties),
      ("required", .arr (properties.keys.map .str)), ("additionalProperties", .bool false)] =
        some properties := objectProperties?_eq_some_iff.2 ⟨rfl, rfl⟩
  rw [closed, accepts_object_iff hObject rfl]
  refine exists_congr fun members => and_congr_right fun _ => ?_
  rw [fitsRequired_iff rfl]
  constructor
  · rintro ⟨hRequired, hEach, hOthers⟩
    refine ⟨fun key => ⟨fun hKey => ?_, hRequired key⟩, hEach⟩
    obtain ⟨member, hMember, rfl⟩ := List.mem_map.1 hKey
    by_cases hOld : member.1 ∈ properties.keys
    · exact hOld
    · have hRefused := hOthers (.bool false) rfl member hMember hOld
      simp [accepts] at hRefused
  · rintro ⟨hKeys, hEach⟩
    refine ⟨fun name => (hKeys name).2, hEach, fun _ _ member hMember hNew => ?_⟩
    exact absurd ((hKeys member.1).1 (List.mem_map_of_mem hMember)) hNew

theorem property_of_objectProperties? (h : objectProperties? node = some properties) :
    property (.obj node) = closed (propertyList properties) := by
  have hShape := shape_property node
  generalize property (.obj node) = compiled at hShape ⊢
  cases hShape with
  | objects hArray => simp [objectProperties?_of_array hArray] at h
  | others hArray => simp [objectProperties?_of_array hArray] at h
  | object hObject => rw [Option.some.inj (h.symm.trans hObject)]
  | leaf _ hOther => simp [hOther] at h

/-- The strict form of a scalar only loses a keyword that acceptance does not read. -/
theorem property_of_scalar {type : String} (hType : node.get? "type" = some (.str type))
    (hScalar : type ∈ scalarTypes) : property (.obj node) = .obj (leaf node) := by
  have hArray : node.get? "type" ≠ some (.str "array") := by
    intro hArray
    obtain rfl : type = "array" := by simpa [hType] using hArray
    exact absurd hScalar (by decide)
  have hShape := shape_property node
  generalize property (.obj node) = compiled at hShape ⊢
  cases hShape with
  | objects hArray' => exact absurd hArray' hArray
  | others hArray' => exact absurd hArray' hArray
  | object hObject => simp [objectProperties?_of_scalar hType hScalar] at hObject
  | leaf => rfl

/-- The strict form of an array has the strict form of its items, and no other keyword that
acceptance reads. -/
theorem exists_property_of_array (hType : node.get? "type" = some (.str "array"))
    (hItems : node.get? "items" = some (.obj members)) (hOnly : HasOnly node ["type", "items"]) :
    ∃ compiled : Members, property (.obj node) = .obj compiled ∧
      compiled.get? "type" = some (.str "array") ∧ compiled.get? "enum" = none ∧
        compiled.get? "items" = some (property (.obj members)) := by
  have hShape := shape_property node
  generalize property (.obj node) = compiled at hShape ⊢
  cases hShape with
  | @objects items properties _ hUnder hObject =>
    obtain rfl : members = items := by simpa [hItems] using hUnder
    rw [property_of_objectProperties? hObject]
    exact ⟨_, rfl, rfl, rfl, rfl⟩
  | @others items _ hUnder hOther =>
    obtain rfl : members = items := by simpa [hItems] using hUnder
    refine ⟨_, rfl, ?_, ?_, Members.get?_put_self _ _ _⟩
    · rw [Members.get?_put_of_ne _ _ (by decide), get?_leaf (by decide), hType]
    · rw [Members.get?_put_of_ne _ _ (by decide), get?_leaf (by decide)]
      exact hOnly.get?_eq_none (by decide) (by decide)
  | object hObject => simp [objectProperties?_of_array hType] at hObject
  | leaf hBare => exact absurd hItems (hBare hType members)

theorem fitsRequired_of_keys (hRequired : ∀ required, node.get? "required" = some required →
      ∃ names : List String, required = .arr (names.map .str) ∧ names ⊆ properties.keys)
    (hKeys : ∀ key ∈ properties.keys, key ∈ members.keys) : fitsRequired node members = true := by
  cases hGet : node.get? "required" with
  | none =>
    unfold fitsRequired
    rw [hGet]
  | some required =>
    obtain ⟨names, rfl, hNames⟩ := hRequired required hGet
    exact (fitsRequired_iff hGet).2 fun name hName => hKeys name (hNames hName)

theorem IsAuthored.exists_eq_obj (h : IsAuthored schema) : ∃ node, schema = .obj node := by
  cases h <;> exact ⟨_, rfl⟩

/-- The strict form accepts what the node accepts, with every object in it exact. -/
def KeepsMeaning (node : Json) : Prop :=
  ∀ value, accepts (property node) value = true ↔ accepts node value = true ∧ IsExact node value

theorem keepsMeaning_scalar {type : String} (hType : node.get? "type" = some (.str type))
    (hScalar : type ∈ scalarTypes) (hOnly : HasOnly node ["type"]) : KeepsMeaning (.obj node) := by
  intro value
  have hExact : IsExact (.obj node) value := by
    apply isExact_scalar (objectProperties?_of_scalar hType hScalar)
    · exact hOnly.get?_eq_none (by decide) (by decide)
    · exact hOnly.get?_eq_none (by decide) (by decide)
  rw [property_of_scalar hType hScalar, and_iff_left hExact]
  apply accepts_congr
  intro key hKey
  apply get?_leaf
  rintro rfl
  exact absurd hKey (by decide)

theorem keepsMeaning_array (hType : node.get? "type" = some (.str "array"))
    (hItems : node.get? "items" = some (.obj members)) (hOnly : HasOnly node ["type", "items"])
    (h : KeepsMeaning (.obj members)) : KeepsMeaning (.obj node) := by
  intro value
  have hEnum : node.get? "enum" = none := hOnly.get?_eq_none (by decide) (by decide)
  obtain ⟨compiled, hCompiled, hArray, hNone, hUnder⟩ := exists_property_of_array hType hItems hOnly
  rw [hCompiled, accepts_array_iff hArray hNone hUnder, accepts_array_iff hType hEnum hItems,
    ← exists_and_right]
  refine exists_congr fun items => ?_
  rw [and_assoc, and_congr_right_iff]
  rintro rfl
  rw [isExact_arr_iff hItems, ← forall₂_and]
  exact forall₂_congr fun item _ => h item

theorem keepsMeaning_object (h : objectProperties? node = some properties)
    (hRequired : ∀ required, node.get? "required" = some required →
      ∃ names : List String, required = .arr (names.map .str) ∧ names ⊆ properties.keys)
    (hOnly : HasOnly node ["type", "properties", "required"])
    (hBelow : ∀ property ∈ properties, KeepsMeaning property.2) : KeepsMeaning (.obj node) := by
  intro value
  have hEnum : node.get? "enum" = none := hOnly.get?_eq_none (by decide) (by decide)
  have hOthers : node.get? "additionalProperties" = none :=
    hOnly.get?_eq_none (by decide) (by decide)
  rw [property_of_objectProperties? h, accepts_closed_iff, accepts_object_iff h hEnum,
    ← exists_and_right]
  refine exists_congr fun members => ?_
  rw [and_assoc, and_congr_right_iff]
  rintro rfl
  -- what is accepted and what is exact are told apart member by member
  have hEach : (∀ property ∈ propertyList properties, ∀ found,
      members.get? property.1 = some found → accepts property.2 found = true) ↔
        (∀ property ∈ properties, ∀ found, members.get? property.1 = some found →
          accepts property.2 found = true) ∧
        ∀ property ∈ properties, ∀ found, members.get? property.1 = some found →
          IsExact property.2 found := by
    rw [propertyList_eq_map, List.forall_mem_map]
    simp only [← forall_and]
    exact forall₂_congr fun property hProperty => forall₂_congr fun found _ =>
      hBelow property hProperty found
  rw [isExact_obj_iff h, keys_propertyList, hEach]
  constructor
  · rintro ⟨hKeys, hAccepted, hExact⟩
    refine ⟨⟨fitsRequired_of_keys hRequired fun key => (hKeys key).2, hAccepted, ?_⟩, hKeys, hExact⟩
    simp [hOthers]
  · rintro ⟨⟨-, hAccepted, -⟩, hKeys, hExact⟩
    exact ⟨hKeys, hAccepted, hExact⟩

theorem keepsMeaning_of_isAuthored (h : IsAuthored schema) : KeepsMeaning schema := by
  induction h with
  | scalar hType hScalar hOnly => exact keepsMeaning_scalar hType hScalar hOnly
  | array hType hItems hAuthored hOnly ih =>
    obtain ⟨members, rfl⟩ := hAuthored.exists_eq_obj
    exact keepsMeaning_array hType hItems hOnly ih
  | object hType hProperties hAuthored hRequired hOnly ih =>
    have hObject := objectProperties?_eq_some_iff.2 ⟨hType, hProperties⟩
    exact keepsMeaning_object hObject hRequired hOnly ih

end

/-- The strict schema of an authored object schema accepts exactly the values that the authored one
accepts and in which every object has exactly the members that are declared for it. -/
theorem accepts_strict_iff {node : Members} (hAuthored : IsAuthored (.obj node))
    (hObject : IsObjectNode node) (value : Json) : accepts (strict (.obj node)) value = true ↔
      accepts (.obj node) value = true ∧ IsExact (.obj node) value := by
  obtain ⟨hType, properties, hProperties⟩ := hObject
  have hDeclares := objectProperties?_eq_some_iff.2 ⟨hType, hProperties⟩
  rw [strict_of_objectProperties? hDeclares, ← property_of_objectProperties? hDeclares]
  exact keepsMeaning_of_isAuthored hAuthored value

/-- Authors as a list of objects. -/
def authors : Members :=
  [("type", .str "array"), ("title", .str "Authors"),
    ("items", .obj [("type", .str "object"),
      ("properties", .obj [("name", .obj [("type", .str "string")]),
        ("born", .obj [("type", .str "integer"), ("format", .str "year")])])])]

/-- A book of which only the title is required. -/
def book : Members :=
  [("type", .str "object"), ("description", .str "A book."), ("required", .arr [.str "title"]),
    ("properties", .obj [("title", .obj [("type", .str "string")]), ("authors", .obj authors)])]

theorem isAuthored_book : IsAuthored (.obj book) := by
  have hAuthors : IsAuthored (.obj authors) := by
    refine .array rfl rfl (.object rfl rfl ?_ (by simp) (by decide)) (by decide)
    rw [List.forall_mem_cons, List.forall_mem_singleton]
    exact ⟨.scalar rfl (by decide) (by decide), .scalar rfl (by decide) (by decide)⟩
  refine .object rfl rfl ?_ ?_ (by decide)
  · rw [List.forall_mem_cons, List.forall_mem_singleton]
    exact ⟨.scalar rfl (by decide) (by decide), hAuthors⟩
  · rintro required hRequired
    exact ⟨["title"], (Option.some.inj hRequired).symm, by decide⟩

/-- A book by one author, of whom these members are told. -/
def bookBy (author : Members) : Json :=
  .obj [("authors", .arr [.obj author]), ("title", .str "T")]

/-- The strict schema refuses a book for a member that one of its authors misses. -/
theorem accepts_strict_book :
    (accepts (strict (.obj book)) (bookBy [("born", .int 1901), ("name", .str "A")]) = true ∧
      IsExact (.obj book) (bookBy [("born", .int 1901), ("name", .str "A")])) ∧
    accepts (.obj book) (bookBy [("name", .str "A")]) = true ∧
      accepts (strict (.obj book)) (bookBy [("name", .str "A")]) = false ∧
        ¬ IsExact (.obj book) (bookBy [("name", .str "A")]) := by
  have hObject : IsObjectNode book := ⟨rfl, _, rfl⟩
  have hComplete : accepts (strict (.obj book)) (bookBy [("born", .int 1901), ("name", .str "A")]) =
      true := by
    decide +kernel
  have hAccepted : accepts (.obj book) (bookBy [("name", .str "A")]) = true := by decide +kernel
  have hRefused : accepts (strict (.obj book)) (bookBy [("name", .str "A")]) = false := by
    decide +kernel
  refine ⟨⟨hComplete, ((accepts_strict_iff isAuthored_book hObject _).1 hComplete).2⟩, hAccepted,
    hRefused, fun hExact => ?_⟩
  rw [(accepts_strict_iff isAuthored_book hObject _).2 ⟨hAccepted, hExact⟩] at hRefused
  cases hRefused

end ReportPress.Schema
