import ReportPress.Command
import ReportPress.Proofs.Command.Escape
import ReportPress.Proofs.Text.Whole

/-!
How console markup is read. Text without brackets and backslashes is added to the text since the
last tag, a tag is opened or closes the one that was opened before it, and markup whose styles can
all be read is shown. Main statement: `isOk_plain_styled`.
-/

namespace ReportPress.Markup

/-- The text neither starts a tag nor escapes one. -/
def IsPlain (cs : List Char) : Prop := ∀ c ∈ cs, c ≠ '[' ∧ c ≠ '\\'

instance (cs : List Char) : Decidable (IsPlain cs) := List.decidableBAll _ cs

theorem IsPlain.isInert {cs : List Char} (h : IsPlain cs) : IsInert 0 cs := by
  induction cs with
  | nil => trivial
  | cons c rest ih =>
    obtain ⟨⟨hBracket, hSlash⟩, hRest⟩ := List.forall_mem_cons.1 h
    rw [IsInert, if_neg hSlash]
    exact ⟨fun hEq => absurd hEq hBracket, ih hRest⟩

section

variable {opened : List OpenTag} {spans : List Span} {before text cs rest : List Char}
  {fuel position : Nat}

/-- Plain text is added to the text since the last tag. -/
theorem renderedFrom_append (hPlain : IsPlain cs) :
    renderedFrom opened spans before text (cs.length + fuel) position (cs ++ rest) =
      renderedFrom opened spans before (text ++ cs) fuel (position + cs.length) rest := by
  induction cs generalizing text position with
  | nil => simp
  | cons c cs ih =>
    obtain ⟨⟨hBracket, hSlash⟩, hRest⟩ := List.forall_mem_cons.1 hPlain
    have hFuel : (c :: cs).length + fuel = (cs.length + fuel) + 1 := by
      rw [List.length_cons]
      omega
    have hSlashes : ((c :: (cs ++ rest)).takeWhile (· == '\\')).length = 0 := by simp [hSlash]
    rw [hFuel, List.cons_append, renderedFrom]
    simp only [hSlashes, List.drop_zero]
    split
    · exact absurd (List.cons.inj ‹_›).1 hBracket
    · rw [if_pos trivial, ih hRest, List.append_assoc, List.singleton_append, List.length_cons]
      congr 1
      omega

theorem renderedFrom_tag {inside tag left : List Char} (hTag : tagBody? inside = some (tag, left)) :
    renderedFrom opened spans before text (fuel + 1) position ('[' :: inside) =
      (openedAfter opened tag position ((shown text).reverse ++ before).length).bind fun found =>
        renderedFrom found.1 (spans ++ found.2) ((shown text).reverse ++ before) [] fuel
          (position + tag.length + 2) left := by
  have hSlashes : (('[' :: inside).takeWhile (· == '\\')).length = 0 := by simp
  rw [renderedFrom]
  simp only [hSlashes, List.drop_zero, hTag, Nat.add_zero, Nat.zero_div, List.replicate_zero,
    List.nil_append, Nat.zero_mod, Nat.zero_ne_one, if_false]
  rfl

theorem mem_spans_of_mem_drawn {rendered : Rendered} {span : Span} (h : span ∈ rendered.drawn) :
    span ∈ rendered.spans := by
  rw [Rendered.drawn, List.mem_mergeSort, List.mem_reverse] at h
  exact (List.mem_filter.1 h).1

theorem forM_check_eq_ok {spans : List Span} (h : ∀ span ∈ spans, span.check = .ok ()) :
    spans.forM Span.check = .ok () := by
  induction spans with
  | nil => rfl
  | cons span spans ih =>
    obtain ⟨hSpan, hRest⟩ := List.forall_mem_cons.1 h
    rw [List.forM, hSpan]
    exact ih hRest

/-- Markup is shown if it can be read and all its styles can be. -/
theorem plain_eq {markup : String} {rendered : Rendered}
    (hRead : renderedFrom [] [] [] [] (markup.length + 1) 0 markup.toList = .ok rendered)
    (hStyles : ∀ span ∈ rendered.spans, span.check = .ok ()) :
    plain markup = .ok (String.ofList (Screen.expandTabs [] rendered.text)) := by
  have hDrawn : rendered.drawn.forM Span.check = .ok () :=
    forM_check_eq_ok fun span hSpan => hStyles span (mem_spans_of_mem_drawn hSpan)
  unfold plain
  rw [hRead]
  change (rendered.drawn.forM Span.check >>= fun _ => _ : Except _ _) = _
  rw [hDrawn]
  rfl

end

/-- A word of letters may be the name of a color, and gives no figures that are wrong. -/
theorem isColor_of_letters {name : String} (h : ∀ c ∈ name.toList, c.isLower = true) :
    ∃ answer, isColor name = .ok answer := by
  have hBracket (start : String) : bracketed? start name.toList = none := by
    have hLast : (name.toList.getLast? == some ')') = false :=
      beq_eq_false_iff_ne.2 fun hEnd =>
        Text.notMem_of_forall h rfl (List.mem_of_getLast? hEnd)
    rw [bracketed?, hLast, Bool.and_false]
    rfl
  rw [isColor]
  split
  · exact ⟨true, rfl⟩
  · simp only [hBracket]
    split
    · exact ⟨_, rfl⟩
    · cases ‹none = some _›
    · cases ‹none = some _›
    · exact ⟨false, rfl⟩

/-- A word of letters that names no effect sets the color of a style, or else is no part of one. -/
theorem read_color {style : Style} {name : String} (hLower : Text.lower name = name)
    (hWord : ¬(name = "on" ∨ name = "not" ∨ name = "link")) (hEffect : Effect.ofName? name = none)
    (hLetters : ∀ c ∈ name.toList, c.isLower = true) :
    style.read [name] = .ok { style with color := some name } ∨
      style.read [name] = .error .unknown := by
  obtain ⟨answer, hAnswer⟩ := isColor_of_letters hLetters
  have hRead : style.read [name] =
      (colorOf name).map fun color => { style with color := some color } := by
    rw [Style.read, hLower, if_neg hWord, hEffect]
  rw [hRead, colorOf, hLower, hAnswer]
  cases answer with
  | true => exact .inl rfl
  | false => exact .inr rfl

theorem read_effect {style : Style} {name next : String} {rest : List String} {effect : Effect}
    (hLower : Text.lower name = name) (hWord : ¬(name = "on" ∨ name = "not" ∨ name = "link"))
    (hEffect : Effect.ofName? name = some effect) : style.read (name :: next :: rest) =
      { style with effects := (effect, true) :: style.effects }.read (next :: rest) := by
  simp only [not_or] at hWord
  obtain ⟨hOn, hNot, hLink⟩ := hWord
  rw [Style.read, hLower, if_neg hOn, if_neg hNot, if_neg hLink, hEffect]

/-- A style is known by its normal form, and words that are no style by themselves. -/
theorem styleName_of_read {cs : List Char} {style : Style} {name : String}
    (hTrimmed : String.ofList (Text.trim Text.isBlank cs) = name) (hLower : Text.lower name = name)
    (hText : style.text = name)
    (hRead : Style.plain.read ((Text.words cs).map String.ofList) = .ok style ∨
      Style.plain.read ((Text.words cs).map String.ofList) = .error .unknown) :
    styleName cs = .ok name := by
  rw [styleName, hTrimmed]
  split
  · rfl
  · rcases hRead with hRead | hRead
    · rw [hRead]
      exact congrArg Except.ok hText
    · rw [hRead]
      exact congrArg Except.ok hLower

theorem check_of_read {span : Span} {style : Style}
    (hRead : Style.plain.read ((Text.words span.style.toList).map String.ofList) = .ok style ∨
      Style.plain.read ((Text.words span.style.toList).map String.ofList) = .error .unknown) :
    span.check = .ok () := by
  rw [Span.check]
  rcases hRead with hRead | hRead <;> rw [hRead]

/-- A tag that opens a style by its own name and closes it under the same name. -/
structure IsStyle (tag : List Char) (style : String) : Prop where
  body : ∀ left, tagBody? (tag ++ ']' :: left) = some (tag, left)
  closingBody : ∀ left, tagBody? ('/' :: tag ++ ']' :: left) = some ('/' :: tag, left)
  parts : tagParts tag = (tag, none)
  closingParts : tagParts ('/' :: tag) = ('/' :: tag, none)
  opens : ∀ rest, tag ≠ '/' :: rest
  named : (Text.trim Text.isBlank tag).isEmpty = false
  name : styleName tag = .ok style
  noHandler : ∀ rest, style.toList ≠ '@' :: rest
  check : ∀ span : Span, span.style = style → span.check = .ok ()

theorem isStyle_green : IsStyle "green".toList "green" := by
  have hRead : Style.plain.read ["green"] = .ok { Style.plain with color := some "green" } ∨
      Style.plain.read ["green"] = .error .unknown :=
    read_color rfl (by decide) rfl (List.all_eq_true.1 rfl)
  have hWords : (Text.words "green".toList).map String.ofList = ["green"] := rfl
  refine ⟨fun _ => rfl, fun _ => rfl, rfl, rfl, by simp, rfl, ?_, by simp, fun span hSpan => ?_⟩
  · have hText : Style.text { Style.plain with color := some "green" } = "green" := by
      simp [Style.text, Style.plain, Effect.all, Style.effectWords]
    refine styleName_of_read rfl rfl hText ?_
    rw [hWords]
    exact hRead
  · apply check_of_read
    rw [hSpan, hWords]
    exact hRead

theorem isStyle_boldRed : IsStyle "bold red".toList "bold red" := by
  have hWords : (Text.words "bold red".toList).map String.ofList = ["bold", "red"] := rfl
  have hBold : Style.plain.read ["bold", "red"] =
      { Style.plain with effects := [(.bold, true)] }.read ["red"] :=
    read_effect rfl (by decide) rfl
  have hRead : Style.plain.read ["bold", "red"] =
        .ok { Style.plain with effects := [(.bold, true)], color := some "red" } ∨
      Style.plain.read ["bold", "red"] = .error .unknown := by
    rw [hBold]
    exact read_color rfl (by decide) rfl (List.all_eq_true.1 rfl)
  refine ⟨fun _ => rfl, fun _ => rfl, rfl, rfl, by simp, rfl, ?_, by simp, fun span hSpan => ?_⟩
  · have hText : Style.text { Style.plain with effects := [(.bold, true)], color := some "red" } =
        "bold red" := by
      have hEffects : Effect.all.flatMap
          (Style.effectWords { Style.plain with effects := [(.bold, true)] }) = ["bold"] := by
        decide
      change " ".intercalate (Effect.all.flatMap
        (Style.effectWords { Style.plain with effects := [(.bold, true)] }) ++ ["red"]) = _
      rw [hEffects]
      rfl
    refine styleName_of_read rfl rfl hText ?_
    rw [hWords]
    exact hRead
  · apply check_of_read
    rw [hSpan, hWords]
    exact hRead

section

variable {tag : List Char} {style : String} {position start count : Nat}

theorem openedAfter_open (h : IsStyle tag style) :
    openedAfter [] tag position count = .ok ([⟨style, none, count⟩], []) := by
  unfold openedAfter
  rw [h.parts]
  split
  · rename_i hEq
    exact absurd (Prod.mk.inj hEq).1 (h.opens _)
  · rename_i hEq
    obtain ⟨rfl, rfl⟩ := Prod.mk.inj hEq
    rw [h.name]
    rfl

theorem openedAfter_close (h : IsStyle tag style) :
    openedAfter [⟨style, none, start⟩] ('/' :: tag) position count =
      .ok ([], [⟨style, start, count⟩]) := by
  have hName : (styleName tag).mapError MarkupError.component = .ok style := by
    rw [h.name]
    rfl
  have hClose : close ⟨style, none, start⟩ count = .ok [⟨style, start, count⟩] := by
    rw [close.eq_def]
    split
    · exact absurd ‹_› (h.noHandler _)
    · exact absurd ‹_› (h.noHandler _)
    · simp [OpenTag.spanTo]
  unfold openedAfter
  rw [h.closingParts]
  simp [h.named, hName, hClose, Except.map, bind, Except.bind]

theorem shown_nil : shown [] = [] := by
  simp [shown, dropBracketEscapes, Text.Emoji.replaceCodes]

/-- Plain text in a style with inert text behind it is shown. -/
theorem isOk_plain_styled {markup : String} {front back : List Char} (h : IsStyle tag style)
    (hFront : IsPlain front) (hBack : IsInert 0 back)
    (hMarkup : markup.toList =
      '[' :: (tag ++ ']' :: (front ++ '[' :: ('/' :: tag ++ ']' :: back)))) :
    (plain markup).isOk = true := by
  -- a step for each tag and for each character of the text in front, and some steps more
  have hFuel : markup.length + 1 =
      front.length + ((back.length + (2 * tag.length + 4)) + 1) + 1 := by
    rw [← String.length_toList, hMarkup]
    simp
    omega
  have hRead : ∃ rendered, renderedFrom [] [] [] [] (markup.length + 1) 0 markup.toList =
        .ok rendered ∧ ∀ span ∈ rendered.spans, span.style = style := by
    rw [hFuel, hMarkup, renderedFrom_tag (h.body _), openedAfter_open h]
    simp only [Except.bind]
    rw [renderedFrom_append hFront, renderedFrom_tag (h.closingBody _), openedAfter_close h]
    simp only [Except.bind]
    obtain ⟨before, text, hBackRead⟩ := exists_renderedFrom_of_isInert hBack
    rw [hBackRead]
    exact ⟨_, rfl, by simp [rendered]⟩
  obtain ⟨rendered, hRead, hStyle⟩ := hRead
  rw [plain_eq hRead fun span hSpan => h.check span (hStyle span hSpan)]
  rfl

end

theorem dropBracketEscapes_append {front : List Char} (hSlash : '\\' ∉ front) (rest : List Char) :
    dropBracketEscapes (front ++ rest) = front ++ dropBracketEscapes rest := by
  induction front with
  | nil => rfl
  | cons c front ih =>
    simp only [List.mem_cons, not_or] at hSlash
    rw [List.cons_append, dropBracketEscapes, ih hSlash.2, List.cons_append]
    exact fun _ hc _ => hSlash.1 hc.symm

/-- Text without backslashes and colons is shown as it is, but for its control characters. -/
theorem shown_append {front : List Char} (hSlash : '\\' ∉ front) (hColon : ':' ∉ front)
    (rest : List Char) : shown (front ++ rest) = front.filter Screen.isShown ++ shown rest := by
  rw [shown, dropBracketEscapes_append hSlash, Text.Emoji.replaceCodes_append hColon,
    List.filter_append, shown]

/-- Letters, digits and blanks, which mean themselves. -/
def isVerbatim (c : Char) : Bool := c.isAlphanum || c == ' '

theorem isShown_of_isVerbatim {c : Char} (h : isVerbatim c = true) : Screen.isShown c = true := by
  refine Decidable.byContradiction fun hHidden => ?_
  have hCode : c.toNat ∈ [7, 8, 11, 12, 13] := by
    rw [Screen.isShown, Bool.not_eq_true', Bool.not_eq_false, List.contains_iff_mem] at hHidden
    exact hHidden
  have hNone : ∀ code ∈ [7, 8, 11, 12, 13], isVerbatim (Char.ofNat code) = false := by decide
  have hControl := hNone c.toNat hCode
  rw [Char.ofNat_toNat, h] at hControl
  cases hControl

theorem isPlain_of_isVerbatim {cs : List Char} (h : ∀ c ∈ cs, isVerbatim c = true) :
    IsPlain cs := by
  intro c hc
  constructor
  · rintro rfl
    exact Text.notMem_of_forall h rfl hc
  · rintro rfl
    exact Text.notMem_of_forall h rfl hc

/-- The line that tells where a document was saved is shown, if its path is plain. -/
theorem isOk_plain_saved {text : String} (hText : IsPlain text.toList) :
    (plain ("[green]Markdown saved to:[/green] " ++ text)).isOk = true := by
  have hLine : ("[green]Markdown saved to:[/green] " ++ text).toList =
      '[' :: ("green".toList ++ ']' :: ("Markdown saved to:".toList ++
        '[' :: ('/' :: "green".toList ++ ']' :: (' ' :: text.toList)))) := by
    rw [String.toList_append]
    rfl
  have hPath : IsPlain (' ' :: text.toList) := List.forall_mem_cons.2 ⟨by decide, hText⟩
  exact isOk_plain_styled isStyle_green (by decide) hPath.isInert hLine

end ReportPress.Markup
