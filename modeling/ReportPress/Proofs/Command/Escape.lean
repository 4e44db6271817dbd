import Mathlib.Data.List.TakeWhile
import ReportPress.Command.Markup

/-!
Text that is escaped for markup. A bracket starts a tag behind an even count of backslashes only,
and escaping puts an odd count in front of each that would, so no tag is read in escaped text. Main
statements: `isInert_escape` and `exists_renderedFrom_of_isInert`.
-/

namespace ReportPress.Markup

/-- Behind so many backslashes, no bracket of the text starts a tag. -/
def IsInert : Nat → List Char → Prop
  | _, [] => True
  | slashes, c :: rest =>
    if c = '\\' then IsInert (slashes + 1) rest
    else (c = '[' → (tagBody? rest).isSome = true → slashes % 2 = 1) ∧ IsInert 0 rest

def isBracket (c : Char) : Bool := c == '[' || c == ']'

section

variable {cs slashes tag inside left rest : List Char} {c : Char} {count fuel : Nat}

theorem isBracket_of_startsTag (h : startsTag c = true) : isBracket c = false := by
  refine Bool.eq_false_iff.2 fun hBracket => ?_
  rw [isBracket, Bool.or_eq_true, beq_iff_eq, beq_iff_eq] at hBracket
  rcases hBracket with rfl | rfl
  · cases h
  · cases h

/-- Whether a tag stands at the front is told by the first character and the first bracket. -/
theorem isSome_tagBody? (cs : List Char) : (tagBody? cs).isSome =
    (cs.head?.any startsTag && cs.find? isBracket == some ']') := by
  cases cs with
  | nil => rfl
  | cons c rest =>
    cases hStart : startsTag c with
    | false =>
      rw [tagBody?]
      split <;> simp [hStart]
    | true =>
      have hFind : (c :: rest).find? isBracket =
          (rest.dropWhile fun x => x != ']' && x != '[').head? := by
        have hBracket : isBracket = fun x => !(x != ']' && x != '[') := by
          funext x
          rw [isBracket, Bool.not_and, bne, bne, Bool.not_not, Bool.not_not, Bool.or_comm]
        rw [List.find?_cons_of_neg (by simp [isBracket_of_startsTag hStart]), hBracket,
          List.find?_not_eq_head?_dropWhile]
      rw [tagBody?, hFind, List.head?_cons, Option.any_some, hStart, Bool.true_and]
      split
      · rename_i left hLeft
        rw [hLeft]
        rfl
      · rename_i hOther
        cases hDrop : rest.dropWhile fun x => x != ']' && x != '[' with
        | nil => rfl
        | cons d more =>
          have hNe : d ≠ ']' := by
            rintro rfl
            exact hOther more hDrop
          simpa using hNe

theorem eq_of_tagBody? (h : tagBody? inside = some (tag, left)) :
    inside = tag ++ ']' :: left ∧ '[' ∉ tag := by
  unfold tagBody? at h
  split at h
  · cases h
  · rename_i c rest
    dsimp only at h
    split at h
    · rename_i found hFound
      split at h
      · rename_i hStart
        obtain ⟨rfl, rfl⟩ := Prod.mk.inj (Option.some.inj h)
        constructor
        · rw [List.cons_append, ← hFound, List.takeWhile_append_dropWhile]
        · rw [List.mem_cons, not_or]
          constructor
          · rintro rfl
            cases hStart
          · intro hMem
            have hInside := List.mem_takeWhile_imp hMem
            cases hInside
      · cases h
    · cases h

/-- The backslashes in front of a text, and what stands behind them. -/
theorem exists_slashes (cs : List Char) : ∃ slashes behind, cs = slashes ++ behind ∧
    cs.takeWhile (· == '\\') = slashes ∧ cs.dropWhile (· == '\\') = behind ∧
      (∀ c ∈ slashes, c = '\\') ∧ behind.head? ≠ some '\\' := by
  refine ⟨_, _, List.takeWhile_append_dropWhile.symm, rfl, rfl, fun c hc => ?_, fun hHead => ?_⟩
  · have hSlash := List.mem_takeWhile_imp hc
    exact eq_of_beq hSlash
  · have hNot := List.head?_dropWhile_not (· == '\\') cs
    rw [hHead] at hNot
    cases hNot

theorem isInert_append (hSlashes : ∀ c ∈ slashes, c = '\\') :
    IsInert count (slashes ++ cs) ↔ IsInert (count + slashes.length) cs := by
  induction slashes generalizing count with
  | nil => rfl
  | cons c slashes ih =>
    obtain ⟨rfl, hRest⟩ := List.forall_mem_cons.1 hSlashes
    rw [List.cons_append, IsInert, if_pos rfl, ih hRest, List.length_cons, Nat.add_right_comm,
      Nat.add_assoc]

theorem isInert_tag (hTag : '[' ∉ tag) :
    IsInert count (tag ++ ']' :: left) ↔ IsInert 0 left := by
  induction tag generalizing count with
  | nil => simp [IsInert]
  | cons c tag ih =>
    rw [List.mem_cons, not_or] at hTag
    obtain ⟨hBracket, hRest⟩ := hTag
    rw [List.cons_append, IsInert]
    split
    · exact ih hRest
    · rw [ih hRest, and_iff_right]
      exact fun hEq => absurd hEq.symm hBracket

theorem isInert_of_head? (hHead : cs.head? ≠ some '\\' ∧ cs.head? ≠ some '[')
    (h : IsInert count cs) : IsInert 0 cs := by
  cases cs with
  | nil => trivial
  | cons c rest =>
    have hSlash : c ≠ '\\' := fun hEq => hHead.1 (congrArg some hEq)
    have hBracket : c ≠ '[' := fun hEq => hHead.2 (congrArg some hEq)
    rw [IsInert, if_neg hSlash] at h ⊢
    exact ⟨fun hEq => absurd hEq hBracket, h.2⟩

theorem isInert_append_slash (h : IsInert count cs) : IsInert count (cs ++ ['\\']) := by
  induction cs generalizing count with
  | nil => trivial
  | cons c rest ih =>
    have hSame : (tagBody? (rest ++ ['\\'])).isSome = (tagBody? rest).isSome := by
      rw [isSome_tagBody?, isSome_tagBody?, List.find?_append]
      cases rest with
      | nil => rfl
      | cons d more =>
        have hNone : ['\\'].find? isBracket = none := rfl
        rw [hNone, Option.or_none, List.cons_append, List.head?_cons, List.head?_cons]
    rw [List.cons_append, IsInert, hSame]
    rw [IsInert] at h
    split at h
    · rw [if_pos ‹_›]
      exact ih h
    · rw [if_neg ‹_›]
      exact ⟨h.1, ih h.2⟩

end

section

variable {opened : List OpenTag} {spans : List Span} {before text cs : List Char}
  {fuel position : Nat}

theorem renderedFrom_nil :
    renderedFrom opened spans before text fuel position [] =
      .ok (rendered opened spans before text) := by
  cases fuel <;> rfl

/-- Inert text opens and closes no tag. -/
theorem exists_renderedFrom_of_isInert (h : IsInert 0 cs) :
    ∃ before' text', renderedFrom opened spans before text fuel position cs =
      .ok (rendered opened spans before' text') := by
  -- each step takes the backslashes in front together with what stands behind them, so the text
  -- that is left is inert behind none again
  induction fuel generalizing before text position cs with
  | zero => exact ⟨before, text, by rw [renderedFrom]⟩
  | succ fuel ih =>
    cases cs with
    | nil => exact ⟨before, text, renderedFrom_nil⟩
    | cons c rest =>
      obtain ⟨slashes, behind, hCs, hTake, -, hSlashes, hHead⟩ := exists_slashes (c :: rest)
      have hBehind : IsInert slashes.length behind := by
        rwa [hCs, isInert_append hSlashes, Nat.zero_add] at h
      have hDrop : (c :: rest).drop slashes.length = behind := by rw [hCs, List.drop_left]
      unfold renderedFrom
      simp only [hTake, hDrop]
      split
      · rename_i inside
        rw [IsInert, if_neg (by decide)] at hBehind
        obtain ⟨hOdd, hInside⟩ := hBehind
        cases hTag : tagBody? inside with
        | some found =>
          obtain ⟨tag, left⟩ := found
          obtain ⟨rfl, hBracket⟩ := eq_of_tagBody? hTag
          dsimp only
          rw [if_pos (hOdd rfl (by rw [hTag]; rfl))]
          exact ih ((isInert_tag hBracket).1 hInside)
        | none => exact ih hInside
      · rename_i hNoTag
        have hLeft : IsInert 0 behind := by
          refine isInert_of_head? ⟨hHead, fun hBracket => ?_⟩ hBehind
          obtain ⟨inside, hInside⟩ := List.head?_eq_some_iff.1 hBracket
          exact hNoTag inside hInside
        split
        · rename_i hNone
          obtain rfl := List.length_eq_zero_iff.1 hNone
          rw [List.nil_append] at hCs
          subst hCs
          have hSlash : c ≠ '\\' := fun hEq => hHead (congrArg some hEq)
          rw [IsInert, if_neg hSlash] at hLeft
          exact ih hLeft.2
        · exact ih hLeft

end

/-- Neither a backslash nor a tag is in front. -/
def IsBare (cs : List Char) : Prop :=
  cs.head? ≠ some '\\' ∧ ∀ inside, cs = '[' :: inside → tagBody? inside = none

/-- What escaping makes of a text, the rest being escaped with less fuel. -/
inductive Escapes (fuel : Nat) : List Char → List Char → Prop
  | tag {slashes tag left : List Char} (hSlashes : ∀ c ∈ slashes, c = '\\')
      (hTag : tagBody? (tag ++ ']' :: left) = some (tag, left)) :
      Escapes fuel (slashes ++ '[' :: (tag ++ ']' :: left))
        (slashes ++ slashes ++ '\\' :: '[' :: (tag ++ ']' :: escapeChars fuel left))
  | char {c : Char} {rest : List Char} (hBare : IsBare (c :: rest)) :
      Escapes fuel (c :: rest) (c :: escapeChars fuel rest)
  | slashes {slashes behind : List Char} (hSlashes : ∀ c ∈ slashes, c = '\\')
      (hSome : slashes ≠ []) (hBare : IsBare behind) :
      Escapes fuel (slashes ++ behind) (slashes ++ escapeChars fuel behind)

section

variable {cs : List Char} {c : Char} {rest : List Char} {fuel count : Nat}

theorem escapes_escapeChars (fuel : Nat) (c : Char) (rest : List Char) :
    Escapes fuel (c :: rest) (escapeChars (fuel + 1) (c :: rest)) := by
  obtain ⟨slashes, behind, hCs, hTake, hDropped, hSlashes, hHead⟩ := exists_slashes (c :: rest)
  unfold escapeChars
  simp only [hTake, hDropped]
  split
  · rename_i tag left hBracket hTag
    obtain ⟨inside, rfl⟩ := List.head?_eq_some_iff.1 hBracket
    rw [List.drop_one, List.tail_cons] at hTag
    obtain ⟨rfl, -⟩ := eq_of_tagBody? hTag
    rw [hCs, List.append_assoc (slashes ++ slashes)]
    exact .tag hSlashes hTag
  · rename_i hNoTag
    have hBare : IsBare behind := by
      refine ⟨hHead, fun inside hInside => ?_⟩
      subst hInside
      cases hTag : tagBody? inside with
      | none => rfl
      | some found => exact absurd hTag (hNoTag _ _ rfl)
    cases hSlashed : slashes with
    | nil =>
      rw [hSlashed, List.nil_append] at hCs
      rw [List.isEmpty_nil, if_pos rfl]
      exact .char (hCs ▸ hBare)
    | cons d more =>
      rw [List.isEmpty_cons, if_neg (by decide), ← hSlashed, hCs]
      exact .slashes hSlashes (by simp [hSlashed]) hBare

theorem find?_slashes {slashes : List Char} (hSlashes : ∀ c ∈ slashes, c = '\\') :
    slashes.find? isBracket = none := by
  refine List.find?_eq_none.2 fun c hc => ?_
  rw [hSlashes c hc]
  decide

/-- Escaping keeps the first bracket. -/
theorem find?_escapeChars (hFuel : cs.length ≤ fuel) :
    (escapeChars fuel cs).find? isBracket = cs.find? isBracket := by
  induction fuel generalizing cs with
  | zero => rw [List.length_eq_zero_iff.1 (Nat.le_zero.1 hFuel), escapeChars]
  | succ fuel ih =>
    cases cs with
    | nil => rfl
    | cons c rest =>
      have hEscapes := escapes_escapeChars fuel c rest
      generalize escapeChars (fuel + 1) (c :: rest) = found at hEscapes ⊢
      generalize c :: rest = cs at hEscapes hFuel ⊢
      cases hEscapes with
      | tag hSlashes =>
        simp only [List.find?_append, find?_slashes hSlashes]
        rfl
      | char =>
        have hRest := ih (Nat.le_of_succ_le_succ hFuel)
        rw [List.find?_cons, List.find?_cons, hRest]
      | slashes hSlashes hSome =>
        rw [List.length_append] at hFuel
        have hCount := List.length_pos_iff.2 hSome
        rw [List.find?_append, List.find?_append, ih (by omega)]

/-- Escaping puts a backslash in front where it puts something there, and no tag starts with it. -/
theorem any_head?_escapeChars (hFuel : cs.length ≤ fuel) :
    (escapeChars fuel cs).head?.any startsTag = cs.head?.any startsTag := by
  cases fuel with
  | zero => rw [List.length_eq_zero_iff.1 (Nat.le_zero.1 hFuel), escapeChars]
  | succ fuel =>
    cases cs with
    | nil => rfl
    | cons c rest =>
      have hEscapes := escapes_escapeChars fuel c rest
      generalize escapeChars (fuel + 1) (c :: rest) = found at hEscapes ⊢
      generalize c :: rest = cs at hEscapes ⊢
      cases hEscapes with
      | @tag slashes =>
        cases slashes with
        | nil => rfl
        | cons d more => rfl
      | char => rfl
      | @slashes slashes _ _ hSome =>
        cases slashes with
        | nil => exact absurd rfl hSome
        | cons d more => rfl

theorem isSome_tagBody?_escapeChars (hFuel : cs.length ≤ fuel) :
    (tagBody? (escapeChars fuel cs)).isSome = (tagBody? cs).isSome := by
  rw [isSome_tagBody?, isSome_tagBody?, find?_escapeChars hFuel, any_head?_escapeChars hFuel]

theorem not_isBare_slashes {slashes behind : List Char} (hSlashes : ∀ c ∈ slashes, c = '\\')
    (hSome : slashes ≠ []) : ¬ IsBare (slashes ++ behind) := by
  obtain ⟨d, more, rfl⟩ := List.exists_cons_of_ne_nil hSome
  obtain rfl := hSlashes d List.mem_cons_self
  exact fun hBare => hBare.1 rfl

/-- Escaped text is inert, behind any backslashes if it was bare. -/
theorem isInert_escapeChars (hFuel : cs.length ≤ fuel) (hFront : count = 0 ∨ IsBare cs) :
    IsInert count (escapeChars fuel cs) := by
  induction fuel generalizing cs count with
  | zero => trivial
  | succ fuel ih =>
    cases cs with
    | nil => trivial
    | cons c rest =>
      have hEscapes := escapes_escapeChars fuel c rest
      generalize escapeChars (fuel + 1) (c :: rest) = found at hEscapes ⊢
      generalize c :: rest = cs at hEscapes hFuel hFront ⊢
      cases hEscapes with
      | @tag slashes tag left hSlashes hTag =>
        have hNone : ¬ IsBare (slashes ++ '[' :: (tag ++ ']' :: left)) := by
          by_cases hSome : slashes = []
          · subst hSome
            intro hBare
            have hNoTag := hBare.2 _ rfl
            rw [hTag] at hNoTag
            cases hNoTag
          · exact not_isBare_slashes hSlashes hSome
        obtain rfl := hFront.resolve_right hNone
        have hLeft : left.length ≤ fuel := by
          simp only [List.length_append, List.length_cons] at hFuel
          omega
        rw [List.append_assoc, isInert_append hSlashes, isInert_append hSlashes, IsInert,
          if_pos rfl, IsInert, if_neg (by decide), isInert_tag (eq_of_tagBody? hTag).2]
        exact ⟨fun _ _ => by omega, ih hLeft (.inl rfl)⟩
      | @char c rest hBare =>
        have hRest : rest.length ≤ fuel := Nat.le_of_succ_le_succ hFuel
        have hSlash : c ≠ '\\' := fun hEq => hBare.1 (congrArg some hEq)
        rw [IsInert, if_neg hSlash]
        refine ⟨fun hBracket hTag => ?_, ih hRest (.inl rfl)⟩
        rw [isSome_tagBody?_escapeChars hRest, hBare.2 rest (by rw [hBracket])] at hTag
        cases hTag
      | slashes hSlashes hSome hBare =>
        obtain rfl := hFront.resolve_right (not_isBare_slashes hSlashes hSome)
        rw [List.length_append] at hFuel
        have hCount := List.length_pos_iff.2 hSome
        rw [isInert_append hSlashes]
        exact ih (by omega) (.inr hBare)

/-- No tag is read in text that was escaped. -/
theorem isInert_escape (s : String) : IsInert 0 (escape s).toList := by
  have hInert : IsInert 0 (escapeChars (s.length + 1) s.toList) :=
    isInert_escapeChars (by rw [String.length_toList]; omega) (.inl rfl)
  unfold escape
  rw [String.toList_ofList]
  split
  · exact isInert_append_slash hInert
  · exact hInert

end

end ReportPress.Markup
