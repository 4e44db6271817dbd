import ReportPress.Text.Line

/-!
Line ends in text. Text without carriage returns is read as it was written, and elsewhere only the
line ends change. Lines that hold no line feed are all told by the text that joins them.
-/

namespace ReportPress.Text

theorem unifyLineEnds_cons {c : Char} (h : c ≠ '\r') (rest : List Char) :
    unifyLineEnds (c :: rest) = c :: unifyLineEnds rest := by
  rw [unifyLineEnds]
  · exact fun _ hc _ => h hc
  · exact h

theorem unifyLineEnds_return {rest : List Char} (h : ∀ next, rest = '\n' :: next → False) :
    unifyLineEnds ('\r' :: rest) = '\n' :: unifyLineEnds rest := by
  rw [unifyLineEnds]
  exact h

theorem unifyLineEnds_append {front : List Char} (h : '\r' ∉ front) (rest : List Char) :
    unifyLineEnds (front ++ rest) = front ++ unifyLineEnds rest := by
  induction front with
  | nil => rfl
  | cons c front ih =>
    simp only [List.mem_cons, not_or] at h
    rw [List.cons_append, unifyLineEnds_cons (Ne.symm h.1), ih h.2, List.cons_append]

theorem unifyLineEnds_of_notMem {text : List Char} (h : '\r' ∉ text) :
    unifyLineEnds text = text := by
  have hText := unifyLineEnds_append h []
  rwa [List.append_nil, unifyLineEnds, List.append_nil] at hText

/-- A character that is no part of a line end separates the text in front of it from the rest. -/
theorem unifyLineEnds_append_cons {c : Char} (hReturn : c ≠ '\r') (hFeed : c ≠ '\n')
    (front rest : List Char) :
    unifyLineEnds (front ++ c :: rest) = unifyLineEnds front ++ c :: unifyLineEnds rest := by
  induction front using unifyLineEnds.induct with
  | case1 => rw [List.nil_append, unifyLineEnds_cons hReturn, unifyLineEnds, List.nil_append]
  | case2 tail ih =>
    rw [List.cons_append, List.cons_append, unifyLineEnds, unifyLineEnds, ih, List.cons_append]
  | case3 tail hTail ih =>
    have hNext : ∀ next, tail ++ c :: rest = '\n' :: next → False := by
      intro next hEq
      cases tail with
      | nil => exact hFeed (List.head_eq_of_cons_eq hEq)
      | cons d tail =>
        obtain rfl : d = '\n' := List.head_eq_of_cons_eq hEq
        exact hTail tail rfl
    rw [List.cons_append, unifyLineEnds_return hNext, unifyLineEnds_return hTail, ih, List.cons_append]
  | case4 d tail hPair hSingle ih =>
    rw [List.cons_append, unifyLineEnds_cons hSingle, unifyLineEnds_cons hSingle, ih,
      List.cons_append]

/-- No character comes in but line feeds. -/
theorem mem_of_mem_unifyLineEnds {c : Char} {text : List Char} (h : c ∈ unifyLineEnds text)
    (hFeed : c ≠ '\n') : c ∈ text := by
  induction text using unifyLineEnds.induct with
  | case1 => exact h
  | case2 tail ih =>
    rw [unifyLineEnds] at h
    have hTail := ih ((List.mem_cons.1 h).resolve_left hFeed)
    exact List.mem_cons_of_mem _ (List.mem_cons_of_mem _ hTail)
  | case3 tail hTail ih =>
    rw [unifyLineEnds_return hTail] at h
    exact List.mem_cons_of_mem _ (ih ((List.mem_cons.1 h).resolve_left hFeed))
  | case4 d tail hPair hSingle ih =>
    rw [unifyLineEnds_cons hSingle] at h
    rcases List.mem_cons.1 h with rfl | hMem
    · exact List.mem_cons_self
    · exact List.mem_cons_of_mem _ (ih hMem)

theorem joinLines_append {front back : List String} (hFront : front ≠ []) (hBack : back ≠ []) :
    joinLines (front ++ back) = joinLines front ++ "\n" ++ joinLines back :=
  String.intercalate_append_of_ne_nil hFront hBack

/-- A text of lines among other lines counts as these lines. -/
theorem joinLines_nested (front : List String) {block back : List String} (hBlock : block ≠ [])
    (hBack : back ≠ []) :
    joinLines (front ++ joinLines block :: back) = joinLines (front ++ (block ++ back)) := by
  have hBlockBack : joinLines (joinLines block :: back) = joinLines (block ++ back) := by
    rw [joinLines_append hBlock hBack]
    exact String.intercalate_cons_of_ne_nil hBack
  cases front with
  | nil => exact hBlockBack
  | cons line front =>
    have hFront : line :: front ≠ [] := List.cons_ne_nil _ _
    rw [joinLines_append hFront (List.cons_ne_nil _ _), hBlockBack,
      joinLines_append hFront (List.append_ne_nil_of_left_ne_nil hBlock _)]

theorem splitOn_joinLines {lines : List String} (hSome : lines ≠ [])
    (hFeed : ∀ line ∈ lines, '\n' ∉ line.toList) :
    (joinLines lines).toList.splitOn '\n' = lines.map String.toList := by
  rw [joinLines, String.toList_intercalate]
  apply List.splitOn_intercalate
  · simpa using hFeed
  · simpa using hSome

theorem joinLines_inj {lines others : List String} (hLines : lines ≠ []) (hOthers : others ≠ [])
    (hFeed : ∀ line ∈ lines, '\n' ∉ line.toList) (hOther : ∀ line ∈ others, '\n' ∉ line.toList)
    (h : joinLines lines = joinLines others) : lines = others := by
  have hSplit := congrArg (fun text : String => text.toList.splitOn '\n') h
  simp only [splitOn_joinLines hLines hFeed, splitOn_joinLines hOthers hOther] at hSplit
  exact (List.map_inj_right fun _ _ => String.toList_inj.1).1 hSplit

end ReportPress.Text
