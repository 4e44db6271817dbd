import ReportPress.Proofs.Workspace.Path

/-!
How far down names lead. The depth of names counts a step down for each name and a step up for each
`..`; where it never falls below zero the names stay inside the directory that they start from,
wherever that is. Main statements: `exists_descent` and `head?_of_depth?_none`.
-/

namespace ReportPress

namespace Workspace

/-- The depth that names lead to from a depth, unless they lead above where it is counted from. -/
def depth? : Nat → List String → Option Nat
  | depth, [] => some depth
  | depth, name :: rest =>
    if name = ".." then
      match depth with
      | 0 => none
      | depth + 1 => depth? depth rest
    else depth? (depth + 1) rest

/-- Names that lead down only. -/
def IsDescent (names : List String) : Prop := ".." ∉ names ∧ "/" ∉ names

variable {names inner : List String} {location : Location} {depth reached : Nat}

theorem depth?_up_zero : depth? 0 (".." :: names) = none := by
  rw [depth?, if_pos rfl]

theorem depth?_up_succ : depth? (depth + 1) (".." :: names) = depth? depth names := by
  rw [depth?, if_pos rfl]

theorem depth?_down {name : String} (h : name ≠ "..") :
    depth? depth (name :: names) = depth? (depth + 1) names := by
  rw [depth?.eq_def]
  exact if_neg h

theorem depth?_append (depth : Nat) (names more : List String) :
    depth? depth (names ++ more) = (depth? depth names).bind fun reached => depth? reached more := by
  induction names generalizing depth with
  | nil => rfl
  | cons name rest ih =>
    rw [List.cons_append]
    by_cases hUp : name = ".."
    · subst hUp
      cases depth with
      | zero => rw [depth?_up_zero, depth?_up_zero, Option.bind_none]
      | succ depth => rw [depth?_up_succ, depth?_up_succ, ih]
    · rw [depth?_down hUp, depth?_down hUp, ih]

/-- Only the names that lead up count, not how the others are spelled. -/
theorem depth?_map {f : String → String} (h : ∀ name, f name = ".." ↔ name = "..")
    (depth : Nat) (names : List String) : depth? depth (names.map f) = depth? depth names := by
  induction names generalizing depth with
  | nil => rfl
  | cons name rest ih =>
    rw [List.map_cons]
    by_cases hUp : name = ".."
    · rw [(h name).2 hUp, hUp]
      cases depth with
      | zero => rw [depth?_up_zero, depth?_up_zero]
      | succ depth => rw [depth?_up_succ, depth?_up_succ, ih]
    · rw [depth?_down (mt (h name).1 hUp), depth?_down hUp, ih]

theorem isDescent_nil : IsDescent [] := ⟨List.not_mem_nil, List.not_mem_nil⟩

theorem IsDescent.concat {name : String} (h : IsDescent inner) (hUp : name ≠ "..")
    (hRoot : name ≠ "/") : IsDescent (inner ++ [name]) := by
  unfold IsDescent
  rw [List.mem_append, List.mem_append, List.mem_singleton, List.mem_singleton]
  exact ⟨not_or.2 ⟨h.1, hUp.symm⟩, not_or.2 ⟨h.2, hRoot.symm⟩⟩

theorem IsDescent.front {front : List String} {name : String} (h : IsDescent (front ++ [name])) :
    IsDescent front :=
  ⟨fun hUp => h.1 (List.mem_append_left _ hUp), fun hRoot => h.2 (List.mem_append_left _ hRoot)⟩

/-- The way up from below a directory. -/
theorem parentOf_descent {name : String} (location : Location) (h : IsDescent (inner ++ [name])) :
    parentOf (location ++ (inner ++ [name])) = location ++ inner := by
  have hName : name ∈ location ++ (inner ++ [name]) := by simp
  have hLast : name ∈ inner ++ [name] := by simp
  unfold parentOf
  rw [if_neg, if_neg, ← List.append_assoc, List.dropLast_concat]
  · intro hRoot
    rw [hRoot, List.mem_singleton] at hName
    exact h.2 (hName ▸ hLast)
  · intro hUp
    have hEq : name = ".." := by simpa using List.all_eq_true.1 hUp name hName
    exact h.1 (hEq ▸ hLast)

/-- A name leads from below a directory to below it, unless it leads up out of it. -/
theorem child_descent (location : Location) (hInner : IsDescent inner) {name : String}
    (hRoot : name ≠ "/") : (name = ".." ∧ inner = []) ∨
      ∃ below, child (location ++ inner) name = location ++ below ∧ IsDescent below ∧
        ∀ rest, depth? inner.length (name :: rest) = depth? below.length rest := by
  by_cases hUp : name = ".."
  · subst hUp
    rcases List.eq_nil_or_concat inner with rfl | ⟨front, last, rfl⟩
    · exact .inl ⟨rfl, rfl⟩
    · rw [List.concat_eq_append] at hInner ⊢
      refine .inr ⟨front, ?_, hInner.front, fun rest => ?_⟩
      · rw [child, if_pos rfl, parentOf_descent location hInner]
      · rw [List.length_append, List.length_singleton, depth?_up_succ]
  · refine .inr ⟨inner ++ [name], ?_, hInner.concat hUp hRoot, fun rest => ?_⟩
    · rw [child_of_ne _ hUp, List.append_assoc]
    · rw [depth?_down hUp, List.length_append, List.length_singleton]

/-- Names that keep their depth stay below where they start. -/
theorem exists_descent (location : Location) (hInner : IsDescent inner)
    (h : depth? inner.length names = some reached) (hNames : "/" ∉ names) :
    ∃ below, names.foldl child (location ++ inner) = location ++ below ∧ IsDescent below ∧
      below.length = reached := by
  induction names generalizing inner with
  | nil => exact ⟨inner, rfl, hInner, Option.some.inj h⟩
  | cons name rest ih =>
    rw [List.mem_cons, not_or] at hNames
    rw [List.foldl_cons]
    rcases child_descent location hInner (Ne.symm hNames.1) with
      ⟨rfl, rfl⟩ | ⟨below, hChild, hBelow, hDepth⟩
    · rw [List.length_nil, depth?_up_zero] at h
      cases h
    · rw [hDepth] at h
      rw [hChild]
      exact ih hBelow h hNames.2

/-- Above the working directory the way leads down again only below another one. -/
theorem head?_foldl_child (h : location.head? = some "..") :
    (names.foldl child location).head? = some ".." := by
  induction names generalizing location with
  | nil => exact h
  | cons name rest ih =>
    rw [List.foldl_cons]
    apply ih
    cases location with
    | nil => cases h
    | cons first others =>
      obtain rfl : first = ".." := Option.some.inj h
      by_cases hUp : name = ".."
      · rw [child, if_pos hUp, parentOf]
        split
        · rfl
        · rename_i hDown
          rw [if_neg (by simp)]
          cases others with
          | nil => exact absurd rfl hDown
          | cons second rest => rfl
      · rw [child_of_ne _ hUp]
        rfl

/-- Names that lose their depth lead out of the working directory for good. -/
theorem head?_of_depth?_none (hInner : IsDescent inner) (h : depth? inner.length names = none)
    (hNames : "/" ∉ names) : (names.foldl child inner).head? = some ".." := by
  induction names generalizing inner with
  | nil => cases h
  | cons name rest ih =>
    rw [List.mem_cons, not_or] at hNames
    rw [List.foldl_cons]
    rcases child_descent [] hInner (Ne.symm hNames.1) with
      ⟨rfl, rfl⟩ | ⟨below, hChild, hBelow, hDepth⟩
    · -- from here on the way is above for good
      exact head?_foldl_child rfl
    · rw [hDepth] at h
      rw [List.nil_append, List.nil_append] at hChild
      rw [hChild]
      exact ih hBelow h hNames.2

end Workspace

end ReportPress
