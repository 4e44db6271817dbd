import ReportPress.Proofs.Except
import ReportPress.Text.Line
import ReportPress.Text.LooseText

/-!
Texts that hold no surrogate are the strings, and only they can be encoded. Main statements:
`plain_eq_ok_iff` and `isPlain_joinLines_iff`.
-/

namespace ReportPress.LooseText

/-- No surrogate is in the text. -/
def IsPlain (text : LooseText) : Prop := ∀ point ∈ text.points, point.isSurrogate = false

instance : DecidablePred IsPlain := fun text =>
  inferInstanceAs (Decidable (∀ point ∈ text.points, point.isSurrogate = false))

section

variable {text front back : LooseText} {s : String} {points : List CodePoint} {cs : List Char}
  {position : Nat}

theorem charsFrom_eq_ok_iff : charsFrom position points = .ok cs ↔ points = cs.map .char := by
  induction points generalizing position cs with
  | nil => cases cs <;> simp [charsFrom]
  | cons point rest ih =>
    cases point with
    | surrogate index => cases cs <;> simp [charsFrom]
    | char c =>
      simp only [charsFrom, Except.map_eq_ok_iff, ih]
      cases cs with
      | nil => simp
      | cons d cs => simp [and_left_comm]

theorem plain_eq_ok_iff : text.plain = .ok s ↔ text = ofString s := by
  obtain ⟨points⟩ := text
  rw [plain, Except.map_eq_ok_iff, ofString, mk.injEq]
  simp only [charsFrom_eq_ok_iff]
  constructor
  · rintro ⟨cs, hPoints, rfl⟩
    rw [hPoints, String.toList_ofList]
  · exact fun hPoints => ⟨s.toList, hPoints, String.ofList_toList⟩

@[simp] theorem plain_ofString (s : String) : (ofString s).plain = .ok s := plain_eq_ok_iff.2 rfl

@[simp] theorem encode_ofString (s : String) :
    (ofString s).encode = .ok (Text.Utf8.encode s) := by
  rw [encode, plain_ofString]
  rfl

@[simp] theorem written_ofString (s : String) :
    (ofString s).written = Text.Utf8.encode s := by
  rw [written, encode_ofString]

theorem ofString_inj {s t : String} : ofString s = ofString t ↔ s = t := by
  rw [← plain_eq_ok_iff, plain_ofString, Except.ok.injEq]

theorem ofString_append (s t : String) : ofString (s ++ t) = ofString s ++ ofString t := by
  rw [ofString, String.toList_append, List.map_append]
  rfl

theorem isPlain_ofString (s : String) : IsPlain (ofString s) := by
  intro point hPoint
  obtain ⟨c, -, rfl⟩ := List.mem_map.1 hPoint
  rfl

/-- The texts without surrogates are the strings. -/
theorem isPlain_iff : text.IsPlain ↔ ∃ s, text = ofString s := by
  constructor
  · intro h
    obtain ⟨points⟩ := text
    have hChars : ∃ cs, points = List.map CodePoint.char cs := by
      induction points with
      | nil => exact ⟨[], rfl⟩
      | cons point rest ih =>
        obtain ⟨hPoint, hRest⟩ := List.forall_mem_cons.1 h
        obtain ⟨cs, rfl⟩ := ih hRest
        cases point with
        | char c => exact ⟨c :: cs, rfl⟩
        | surrogate index => cases hPoint
    obtain ⟨cs, rfl⟩ := hChars
    exact ⟨String.ofList cs, by rw [ofString, String.toList_ofList]⟩
  · rintro ⟨s, rfl⟩
    exact isPlain_ofString s

/-- A text that holds a surrogate is not encoded, and nothing of it is written. -/
theorem encode_of_not_isPlain (h : ¬ text.IsPlain) : ∃ e, text.encode = .error e := by
  cases hPlain : text.plain with
  | error e => exact ⟨e, by rw [encode, hPlain]; rfl⟩
  | ok s => exact absurd (isPlain_iff.2 ⟨s, plain_eq_ok_iff.1 hPlain⟩) h

theorem written_of_not_isPlain (h : ¬ text.IsPlain) : text.written = [] := by
  obtain ⟨e, hEncode⟩ := encode_of_not_isPlain h
  rw [written, hEncode]

theorem isPlain_append_iff : (front ++ back).IsPlain ↔ front.IsPlain ∧ back.IsPlain :=
  List.forall_mem_append

theorem joinLines_cons_cons (line next : LooseText) (rest : List LooseText) :
    joinLines (line :: next :: rest) = line ++ ofString "\n" ++ joinLines (next :: rest) := by
  rw [joinLines, List.map_cons, List.map_cons, List.intercalate_cons_cons]
  rfl

theorem isPlain_joinLines_iff {lines : List LooseText} :
    (joinLines lines).IsPlain ↔ ∀ line ∈ lines, line.IsPlain := by
  induction lines with
  | nil => simp [joinLines, IsPlain]
  | cons line rest ih =>
    rw [List.forall_mem_cons, ← ih]
    cases rest with
    | nil => simp [joinLines, IsPlain]
    | cons next rest =>
      rw [joinLines_cons_cons, isPlain_append_iff, isPlain_append_iff,
        and_iff_left (isPlain_ofString _)]

theorem joinLines_ofString (lines : List String) :
    joinLines (lines.map ofString) = ofString (Text.joinLines lines) := by
  induction lines with
  | nil => rfl
  | cons line rest ih =>
    cases rest with
    | nil => simp [joinLines, Text.joinLines]
    | cons next rest =>
      rw [Text.joinLines, String.intercalate_cons_cons, ← Text.joinLines, ofString_append,
        ofString_append, ← ih]
      exact joinLines_cons_cons _ _ _

end

end ReportPress.LooseText
