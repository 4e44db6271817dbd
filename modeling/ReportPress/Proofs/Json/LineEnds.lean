import ReportPress.Proofs.Json.RoundTrip
import ReportPress.Proofs.Text.Line

/-!
Line ends in printed JSON. Carriage returns only stand in strings, where they are escaped, so that
reading the text from a file leaves it as it is. Main statement: `unifyLineEnds_indented`.
-/

namespace ReportPress.Json

theorem return_notMem_of_isDigit {cs : List Char} (h : ∀ c ∈ cs, c.isDigit = true) : '\r' ∉ cs :=
  fun hMem => absurd (h _ hMem) (by decide)

theorem return_notMem_sign (negative : Bool) : '\r' ∉ Binary64.sign negative := by
  cases negative <;> decide

theorem return_notMem_stringChars (s : String) : '\r' ∉ stringChars s := by
  have hControl : ∀ code < 0x20, '\r' ∉ '\\' :: 'u' :: Text.hexDigits 4 code := by decide
  have hChar : ∀ c, '\r' ∉ stringChar c := by
    intro c
    rcases stringChar_cases c with ⟨letter, hChar, hLetter⟩ | ⟨hChar, hCode⟩ | ⟨hChar, -, -, hCode⟩
    · have hNone : Reader.escaped? '\r' = none := by decide
      have hNe : letter ≠ '\r' := by
        rintro rfl
        rw [hNone] at hLetter
        cases hLetter
      rw [hChar]
      simp [hNe.symm]
    · rw [hChar]
      exact hControl _ hCode
    · rw [hChar, List.mem_singleton]
      rintro rfl
      exact hCode (by decide)
  rw [stringChars]
  simp only [List.mem_cons, List.mem_append, List.mem_flatMap, List.not_mem_nil, or_false, not_or,
    not_exists, not_and]
  exact ⟨by decide, fun c _ => hChar c, by decide⟩

theorem return_notMem_intChars (n : Int) : '\r' ∉ Text.intChars n := by
  have hDigits := return_notMem_of_isDigit fun c => @Text.isDigit_of_mem_repr n.natAbs c
  rw [Text.intChars]
  split
  · simpa using hDigits
  · exact hDigits

theorem return_notMem_exponentText (power : Int) : '\r' ∉ exponentText power := by
  have hMark : '\r' ∉ if power < 0 then ['e', '-'] else ['e', '+'] := by split <;> decide
  rw [exponentText_eq, List.mem_append, not_or]
  exact ⟨hMark, return_notMem_of_isDigit (isDigit_exponentDigits _)⟩

theorem Numeral.return_notMem_chars {n : Numeral} (h : n.IsWellFormed) : '\r' ∉ n.chars := by
  have hPlaces := return_notMem_of_isDigit h.isDigit
  have hFraction : '\r' ∉ if n.places = [] then [] else '.' :: n.places := by
    split
    · exact List.not_mem_nil
    · simpa using hPlaces
  have hPower : '\r' ∉ (n.power?.map exponentText).getD [] := by
    cases n.power? with
    | none => exact List.not_mem_nil
    | some power => exact return_notMem_exponentText power
  simp only [Numeral.chars, List.mem_append, not_or]
  exact ⟨return_notMem_of_isDigit h.isWhole.isDigit, hFraction, hPower⟩

theorem return_notMem_floatChars (x : Binary64) : '\r' ∉ floatChars x := by
  cases x with
  | nan => decide
  | infinite negative => cases negative <;> decide
  | finite negative m =>
    have hChars : floatChars (.finite negative m) = Binary64.sign negative ++
        if m.units = 0 then ['0', '.', '0'] else m.shortest.chars := rfl
    rw [hChars, List.mem_append, not_or]
    refine ⟨return_notMem_sign negative, ?_⟩
    split
    · decide
    · rename_i hUnits
      obtain ⟨n, hn, hNumeral, -⟩ :=
        exists_numeral (Magnitude.digits_ne_zero hUnits (Magnitude.inRange_shortest hUnits))
      rw [hNumeral]
      exact Numeral.return_notMem_chars hn

section

variable {layout : Layout}

theorem return_notMem_gap (depth : Nat) : '\r' ∉ layout.gap depth := by
  cases layout with
  | inline => exact List.not_mem_nil
  | indented => simp [Layout.gap]

theorem return_notMem_comma (depth : Nat) : '\r' ∉ layout.comma depth := by
  cases layout with
  | inline => simp [Layout.comma]
  | indented => simp [Layout.comma, Layout.gap]

theorem return_notMem_printItems {items : List Json} {depth : Nat}
    (h : ∀ item ∈ items, '\r' ∉ item.print layout depth) :
    '\r' ∉ printItems layout depth items := by
  induction items with
  | nil => exact List.not_mem_nil
  | cons item others ih =>
    have hOthers := ih fun v hv => h v (List.mem_cons_of_mem _ hv)
    simp only [printItems, List.mem_append, not_or]
    exact ⟨return_notMem_comma depth, h item List.mem_cons_self, hOthers⟩

theorem return_notMem_printMembers {members : List (String × Json)} {depth : Nat}
    (h : ∀ member ∈ members, '\r' ∉ member.2.print layout depth) :
    '\r' ∉ printMembers layout depth members := by
  induction members with
  | nil => exact List.not_mem_nil
  | cons member others ih =>
    have hOthers := ih fun v hv => h v (List.mem_cons_of_mem _ hv)
    simp only [printMembers, List.mem_append, List.mem_cons, not_or]
    exact ⟨return_notMem_comma depth, return_notMem_stringChars member.1, by decide, by decide,
      h member List.mem_cons_self, hOthers⟩

theorem return_notMem_print (v : Json) (depth : Nat) : '\r' ∉ v.print layout depth := by
  -- only strings could hold a return, and they escape it
  induction v using parts_induction generalizing depth with
  | step v ih =>
    cases v with
    | null => simp [print]
    | bool b => cases b <;> simp [print]
    | int n =>
      rw [print]
      exact return_notMem_intChars n
    | float x =>
      rw [print]
      exact return_notMem_floatChars x
    | str s =>
      rw [print]
      exact return_notMem_stringChars s
    | arr items =>
      cases items with
      | nil => simp [print]
      | cons item others =>
        have hOthers := return_notMem_printItems fun v hv =>
          ih v (List.mem_cons_of_mem item hv) (depth + 1)
        simp only [print, List.mem_cons, List.mem_append, List.not_mem_nil, or_false, not_or]
        exact ⟨by decide, return_notMem_gap _, ih item List.mem_cons_self _, hOthers,
          return_notMem_gap _, by decide⟩
    | obj members =>
      cases members with
      | nil => simp [print]
      | cons member others =>
        have hOthers := return_notMem_printMembers fun (v : String × Json) hv =>
          ih v.2 (List.mem_map_of_mem (List.mem_cons_of_mem member hv)) (depth + 1)
        have hItem := ih member.2 List.mem_cons_self (depth + 1)
        simp only [print, List.mem_cons, List.mem_append, List.not_mem_nil, or_false, not_or]
        exact ⟨by decide, return_notMem_gap _, return_notMem_stringChars _, by decide, by decide,
          hItem, hOthers, return_notMem_gap _, by decide⟩

end

/-- Printed JSON keeps its line ends. -/
theorem unifyLineEnds_indented (v : Json) :
    Text.unifyLineEnds v.indented.toList = v.indented.toList := by
  rw [indented, String.toList_ofList]
  exact Text.unifyLineEnds_of_notMem (return_notMem_print v 0)

end ReportPress.Json
