import ReportPress.Proofs.Record.Faithful

/-!
Values that agree in what is declared. Two records agree if each of their fields is given with
values that agree, under whichever of its names; the order of the members and all other members may
differ. A check that looks at nothing but fields refuses both of two such values or takes both for
the same. Main statements: `IsDeclared.list`, `IsDeclared.nullable` and `isDeclared_object`.
-/

namespace ReportPress

/-- The values are the same in everything that the shape declares. -/
def Shape.Agree : Shape → Json → Json → Prop
  | .any, value, other => value = other
  | .whole, value, other => value = other
  | .nullable shape, value, other => shape.Agree value other
  | .list shape, value, other => value = other ∨
    ∃ items others, value = .arr items ∧ other = .arr others ∧ List.Forall₂ shape.Agree items others
  | .record fields shape, value, other => value = other ∨
    ∃ members others, value = .obj members ∧ other = .obj others ∧
      ∀ field ∈ fields,
        Option.Rel (shape field).Agree (field.value? members) (field.value? others)

theorem Shape.Agree.refl (shape : Shape) (value : Json) : shape.Agree value value := by
  induction shape with
  | any => rfl
  | whole => rfl
  | nullable shape ih => exact ih
  | list shape ih => exact .inl rfl
  | record fields shape ih => exact .inl rfl

theorem Shape.Agree.eq_null_iff {shape : Shape} {value other : Json} (h : shape.Agree value other) :
    value = .null ↔ other = .null := by
  induction shape with
  | any => rw [show value = other from h]
  | whole => rw [show value = other from h]
  | nullable shape ih => exact ih h
  | list shape ih => rcases h with rfl | ⟨items, others, rfl, rfl, -⟩ <;> simp
  | record fields shape ih => rcases h with rfl | ⟨members, others, rfl, rfl, -⟩ <;> simp

/-- A free-form field is given the same value if what is given for it agrees. -/
theorem Shape.Agree.eq_of_rel {value other : Option Json}
    (h : Option.Rel Shape.any.Agree value other) :
    value = other := by
  cases h with
  | none => rfl
  | some hAgree => exact congrArg some hAgree

namespace Check

section

variable {α β γ δ : Type} {R : α → α → Prop} {S : β → β → Prop} {T : γ → γ → Prop}
  {U : δ → δ → Prop} {first first' : Check α} {second second' : Check β} {third third' : Check γ}
  {fourth fourth' : Check δ}

/-- Both checks fail, or both succeed with related values. -/
inductive Alike (R : α → α → Prop) : Check α → Check α → Prop
  | ok {a b : α} (h : R a b) : Alike R (.ok a) (.ok b)
  | error (faults others : List Fault) : Alike R (.error faults) (.error others)

theorem Alike.imp (h : Alike R first first') {R' : α → α → Prop} (hR : ∀ a b, R a b → R' a b) :
    Alike R' first first' := by
  cases h with
  | ok h => exact .ok (hR _ _ h)
  | error faults others => exact .error faults others

theorem Alike.under (h : Alike R first first') (step step' : Step) :
    Alike R (Check.under step first) (Check.under step' first') := by
  cases h with
  | ok h => exact .ok h
  | error faults others => exact .error _ _

theorem Alike.map {f f' : α → β} (h : Alike R first first') (hf : ∀ a b, R a b → S (f a) (f' b)) :
    Alike S (first.map f) (first'.map f') := by
  cases h with
  | ok h => exact .ok (hf _ _ h)
  | error faults others => exact .error faults others

theorem Alike.ap {f f' : Check (α → β)} {Q : (α → β) → (α → β) → Prop} (hf : Alike Q f f')
    (h : Alike R first first') (hQ : ∀ g g', Q g g' → ∀ a b, R a b → S (g a) (g' b)) :
    Alike S (Check.ap f first) (Check.ap f' first') := by
  cases hf with
  | ok hf =>
    cases h with
    | ok h => exact .ok (hQ _ _ hf _ _ h)
    | error faults others => exact .error _ _
  | error faults others => cases h <;> exact .error _ _

theorem Alike.map2 {f f' : α → β → γ} (hFirst : Alike R first first')
    (hSecond : Alike S second second')
    (hf : ∀ a a', R a a' → ∀ b b', S b b' → T (f a b) (f' a' b')) :
    Alike T (Check.map2 f first second) (Check.map2 f' first' second') :=
  (hFirst.map hf).ap hSecond fun _ _ h => h

theorem Alike.map3 {f f' : α → β → γ → δ} (hFirst : Alike R first first')
    (hSecond : Alike S second second') (hThird : Alike T third third')
    (hf : ∀ a a', R a a' → ∀ b b', S b b' → ∀ c c', T c c' → U (f a b c) (f' a' b' c')) :
    Alike U (Check.map3 f first second third) (Check.map3 f' first' second' third') :=
  (hFirst.map2 hSecond hf).ap hThird fun _ _ h => h

theorem Alike.map4 {ε : Type} {V : ε → ε → Prop} {f f' : α → β → γ → δ → ε}
    (hFirst : Alike R first first') (hSecond : Alike S second second')
    (hThird : Alike T third third') (hFourth : Alike U fourth fourth')
    (hf : ∀ a a', R a a' → ∀ b b', S b b' → ∀ c c', T c c' → ∀ d d', U d d' →
      V (f a b c d) (f' a' b' c' d')) :
    Alike V (Check.map4 f first second third fourth)
      (Check.map4 f' first' second' third' fourth') :=
  (hFirst.map3 hSecond hThird hf).ap hFourth fun _ _ h => h

theorem Alike.each {check : β → Check α} {items others : List β}
    (h : List.Forall₂ (fun item other => Alike R (check item) (check other)) items others)
    (position : Nat) :
    Alike (List.Forall₂ R) (Check.each check position items)
      (Check.each check position others) := by
  induction h generalizing position with
  | nil => exact .ok .nil
  | cons hHead _ ih =>
    exact (hHead.under _ _).map2 (ih (position + 1)) fun _ _ hItem _ _ hRest => .cons hItem hRest

end

end Check

namespace Record

/-- Values that agree are both refused by the check, or taken for the same up to what `bare` leaves
out. -/
def IsDeclared {α : Type} (check : Json → Check α) (bare : α → α) (shape : Shape) : Prop :=
  ∀ value other, shape.Agree value other →
    Check.Alike (fun a b => bare a = bare b) (check value) (check other)

section

variable {α : Type} {check : Json → Check α} {bare : α → α} {shape : Shape} {field : Field}
  {members others : Members}

theorem alike_self (result : Check α) (bare : α → α) :
    Check.Alike (fun a b => bare a = bare b) result result := by
  cases result with
  | ok a => exact .ok rfl
  | error faults => exact .error faults faults

theorem isDeclared_any (check : Json → Check α) (bare : α → α) : IsDeclared check bare .any := by
  intro value other hAgree
  rw [show value = other from hAgree]
  exact alike_self _ _

theorem isDeclared_whole (bare : Int → Int) : IsDeclared whole bare .whole := by
  intro value other hAgree
  rw [show value = other from hAgree]
  exact alike_self _ _

theorem IsDeclared.list (h : IsDeclared check bare shape) :
    IsDeclared (list check) (List.map bare) (.list shape) := by
  rintro value other (rfl | ⟨items, others, rfl, rfl, hItems⟩)
  · exact alike_self _ _
  · refine (Check.Alike.each (hItems.imp fun _ _ => h _ _) 0).imp fun found others hFound => ?_
    rw [← List.forall₂_eq_eq_eq, List.forall₂_map_left_iff, List.forall₂_map_right_iff]
    exact hFound

theorem IsDeclared.nullable (h : IsDeclared check bare shape) :
    IsDeclared (nullable check) (Option.map bare) (.nullable shape) := by
  intro value other hAgree
  -- null agrees with null only, so both values are checked or neither is
  by_cases hNull : value = .null
  · rw [hNull, hAgree.eq_null_iff.1 hNull]
    exact alike_self _ _
  · rw [nullable_of_ne_null hNull, nullable_of_ne_null (hAgree.eq_null_iff.not.1 hNull)]
    exact (h value other hAgree).map fun a b hBare => congrArg some hBare

/-- Members that give related values to a field may give it under either of its names. -/
theorem rel_given? {R : Json → Json → Prop}
    (h : Option.Rel R (field.value? members) (field.value? others)) :
    Option.Rel (fun given other => R given.2 other.2) (field.given? members)
      (field.given? others) := by
  rw [Field.value?, Field.value?] at h
  cases hGiven : field.given? members <;> cases hOther : field.given? others <;>
    rw [hGiven, hOther] at h <;> cases h
  · exact .none
  · exact .some ‹_›

theorem IsDeclared.optional (h : IsDeclared check bare shape)
    (hField : Option.Rel shape.Agree (field.value? members) (field.value? others)) :
    Check.Alike (fun a b => a.map bare = b.map bare) (field.optional check members)
      (field.optional check others) := by
  have hGiven := rel_given? hField
  rw [Field.optional, Field.optional]
  generalize field.given? members = given, field.given? others = other at hGiven ⊢
  cases hGiven with
  | none => exact alike_self _ _
  | some hAgree => exact ((h _ _ hAgree).under _ _).map fun a b hBare => congrArg some hBare

theorem IsDeclared.required (h : IsDeclared check bare shape)
    (hField : Option.Rel shape.Agree (field.value? members) (field.value? others)) :
    Check.Alike (fun a b => bare a = bare b) (field.required check members)
      (field.required check others) := by
  have hGiven := rel_given? hField
  rw [Field.required, Field.required]
  generalize field.given? members = given, field.given? others = other at hGiven ⊢
  cases hGiven with
  | none => exact .error _ _
  | some hAgree => exact (h _ _ hAgree).under _ _

/-- A check of objects looks at nothing but the fields if it does so of members. -/
theorem isDeclared_object {model : String} {check : Members → Check α} {fields : List Field}
    {shape : Field → Shape}
    (h : ∀ members others,
      (∀ field ∈ fields,
        Option.Rel (shape field).Agree (field.value? members) (field.value? others)) →
      Check.Alike (fun a b => bare a = bare b) (check members) (check others)) :
    IsDeclared (object model check) bare (.record fields shape) := by
  rintro value other (rfl | ⟨members, others, rfl, rfl, hFields⟩)
  · exact alike_self _ _
  · exact h members others hFields

end

end Record

end ReportPress
