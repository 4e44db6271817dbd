import ReportPress.Proofs.Command.Render

/-!
Rendering an artifact that gives no report. Nothing is written, and the command tells that the
report is invalid, unless the artifact is no text in the first place or its path cannot be shown as
markup. Main statement: `run_render_refused`.
-/

namespace ReportPress

namespace Screen

theorem exists_expandTabs_append {front : List Char} (h : '\t' ∉ front) (part rest : List Char) :
    ∃ line, expandTabs part (front ++ rest) = front ++ line := by
  induction front generalizing part with
  | nil => exact ⟨_, rfl⟩
  | cons c front ih =>
    simp only [List.mem_cons, not_or] at h
    rw [List.cons_append, expandTabs, if_neg (Ne.symm h.1)]
    split
    · obtain ⟨line, hLine⟩ := ih h.2 []
      exact ⟨line, by rw [hLine, List.cons_append]⟩
    · obtain ⟨line, hLine⟩ := ih h.2 (c :: part)
      exact ⟨line, by rw [hLine, List.cons_append]⟩

end Screen

namespace Markup

section

variable {opened : List OpenTag} {spans : List Span} {before text front cs rest : List Char}
  {fuel position : Nat} {found : Rendered}

/-- What is certain to be shown in front, whatever else stands in the text. -/
def Leads (front before text : List Char) : Prop :=
  ∀ more, front <+: before.reverse ++ shown (text ++ more)

theorem Leads.append (h : Leads front before text) (cs : List Char) :
    Leads front before (text ++ cs) := by
  intro more
  rw [List.append_assoc]
  exact h (cs ++ more)

/-- The text in front of a tag is shown before what stands behind the tag. -/
theorem Leads.tag (h : Leads front before text) (cs : List Char) :
    Leads front (cs ++ (shown text).reverse ++ before) [] := by
  intro more
  have hText := h []
  rw [List.append_nil] at hText
  rw [List.append_assoc, List.reverse_append, List.reverse_append, List.reverse_reverse,
    List.append_assoc]
  exact hText.trans (List.prefix_append _ _)

theorem Leads.rendered (h : Leads front before text) :
    front <+: (Markup.rendered opened spans before text).text := by
  have hText := h []
  rwa [List.append_nil] at hText

/-- What is shown in front stays in front. -/
theorem Leads.renderedFrom (h : Leads front before text)
    (hRead : renderedFrom opened spans before text fuel position cs = .ok found) :
    front <+: found.text := by
  -- a tag takes away the text in front of it, so the invariant speaks of both it and what is shown
  induction fuel generalizing opened spans before text position cs with
  | zero =>
    rw [Markup.renderedFrom] at hRead
    rw [← Except.ok.inj hRead]
    exact h.rendered
  | succ fuel ih =>
    cases cs with
    | nil =>
      rw [renderedFrom_nil] at hRead
      rw [← Except.ok.inj hRead]
      exact h.rendered
    | cons c rest =>
      unfold Markup.renderedFrom at hRead
      dsimp only at hRead
      split at hRead
      · split at hRead
        · split at hRead
          · refine ih ?_ hRead
            rw [← List.append_assoc, ← List.append_assoc]
            exact h.tag _
          · obtain ⟨after, -, hRead⟩ := Except.bind_eq_ok_iff.1 hRead
            exact ih (h.tag _) hRead
        · refine ih ?_ hRead
          rw [List.append_assoc]
          exact h.append _
      · split at hRead
        · exact ih (h.append _) hRead
        · exact ih (h.append _) hRead

end

/-- A line starts with the first words of its style, whatever follows them. -/
theorem plain_leads {tag front rest : List Char} {style markup line : String}
    (hStyle : IsStyle tag style) (hFront : ∀ c ∈ front, isVerbatim c = true)
    (hMarkup : markup.toList = '[' :: (tag ++ ']' :: (front ++ rest)))
    (h : plain markup = .ok line) : ∃ left, line.toList = front ++ left := by
  obtain ⟨found, hRead, hLine⟩ := Except.bind_eq_ok_iff.1 h
  obtain ⟨-, -, hLine⟩ := Except.bind_eq_ok_iff.1 hLine
  have hLeads : Leads front [] front := by
    intro more
    rw [shown_append (Text.notMem_of_forall hFront rfl) (Text.notMem_of_forall hFront rfl)]
    have hShown : front.filter Screen.isShown = front :=
      List.filter_eq_self.2 fun c hc => isShown_of_isVerbatim (hFront c hc)
    rw [hShown]
    exact List.prefix_append _ _
  have hFuel : markup.length + 1 = front.length + (rest.length + tag.length + 2) + 1 := by
    rw [← String.length_toList, hMarkup]
    simp
    omega
  rw [hFuel, hMarkup, renderedFrom_tag (hStyle.body _), openedAfter_open hStyle] at hRead
  simp only [Except.bind] at hRead
  rw [renderedFrom_append (isPlain_of_isVerbatim hFront), shown_nil] at hRead
  obtain ⟨more, hText⟩ := hLeads.renderedFrom hRead
  obtain ⟨left, hLeft⟩ := Screen.exists_expandTabs_append (Text.notMem_of_forall hFront rfl) [] more
  refine ⟨left, ?_⟩
  rw [← Except.ok.inj hLine, String.toList_ofList, ← hText, hLeft]

/-- What tells of an invalid report is shown whatever the message is, if the path is plain. -/
theorem isOk_plain_refusal {path : String} (hPath : IsPlain path.toList) (message : String) :
    (plain ("[bold red]Invalid report " ++ path ++ ":[/bold red] " ++ escape message)).isOk =
      true := by
  have hWords : IsPlain "Invalid report ".toList := by decide
  have hColon : IsPlain [':'] := by decide
  have hFront : IsPlain ("Invalid report ".toList ++ (path.toList ++ [':'])) :=
    List.forall_mem_append.2 ⟨hWords, List.forall_mem_append.2 ⟨hPath, hColon⟩⟩
  have hBack : IsInert 0 (' ' :: (escape message).toList) := by
    rw [IsInert, if_neg (by decide)]
    exact ⟨fun hEq => absurd hEq (by decide), isInert_escape message⟩
  have hMarkup : ("[bold red]Invalid report " ++ path ++ ":[/bold red] " ++ escape message).toList =
      '[' :: ("bold red".toList ++ ']' :: (("Invalid report ".toList ++ (path.toList ++ [':'])) ++
        '[' :: ('/' :: "bold red".toList ++ ']' :: (' ' :: (escape message).toList)))) := by
    simp
  exact isOk_plain_styled isStyle_boldRed hFront hBack hMarkup

end Markup

namespace Artifact

variable {w : Workspace} {path : Path} {bytes : List UInt8} {rejection : Rejection}

theorem load_of_not_text {e : Text.Utf8.DecodeError} (hFile : w.readBytes path = .ok bytes)
    (hBytes : Text.Utf8.decode bytes = .error e) : load w path = .error (.decoding e) := by
  simp only [load, Workspace.readText, hFile, hBytes, Failure.ofRead]

theorem exists_rejection {text : String} (hFile : w.readBytes path = .ok bytes)
    (hBytes : Text.Utf8.decode bytes = .ok text) (hRefused : (load w path).isOk = false) :
    ∃ rejection, load w path = .error (.rejected rejection) := by
  simp only [load, Workspace.readText, hFile, hBytes] at hRefused ⊢
  cases hReport : Report.ofText (String.ofList (Text.unifyLineEnds text.toList)) with
  | error rejection => exact ⟨rejection, rfl⟩
  | ok report =>
    rw [hReport] at hRefused
    cases hRefused

end Artifact

namespace Command

open Artifact

section

variable {w : Workspace} {settings : Settings} {artifact : Path} {output : Option Path}
  {schemaName : String} {input tokens : Nat} {bytes : List UInt8}

theorem run_render_of_file (hFile : w.readBytes artifact = .ok bytes) :
    run w settings (.render artifact schemaName output input tokens) =
      renderArtifact w settings artifact schemaName output (.ofInputOutput input tokens) := by
  have hEntry := Workspace.entry_eq_ok_iff.2 (Workspace.readBytes_eq_ok_iff.1 hFile)
  rw [run, hEntry]

theorem run_render_of_not_text {e : Text.Utf8.DecodeError}
    (hFile : w.readBytes artifact = .ok bytes) (hBytes : Text.Utf8.decode bytes = .error e) :
    run w settings (.render artifact schemaName output input tokens) =
      ⟨w, [], .failed (.decoding e)⟩ := by
  rw [run_render_of_file hFile, renderArtifact, load_of_not_text hFile hBytes]

/-- Of a rejected artifact the command tells, if the line that tells of it can be shown. -/
theorem ending_of_rejected {rejection : Rejection} (hFile : w.readBytes artifact = .ok bytes)
    (hLoad : load w artifact = .error (.rejected rejection)) :
    (∃ line, (run w settings (.render artifact schemaName output input tokens)).ending =
        .exited 1 ("Invalid report " ++ line)) ∨
      ¬ Markup.IsPlain artifact.text.toList ∧
        ∃ e, (run w settings (.render artifact schemaName output input tokens)).ending =
          .failed (.markup e) := by
  rw [run_render_of_file hFile, renderArtifact, hLoad]
  simp only [exitWithLine]
  cases hShown : Markup.plain ("[bold red]Invalid report " ++ artifact.text ++ ":[/bold red] " ++
      Markup.escape rejection.message) with
  | error e =>
    refine .inr ⟨fun hPath => ?_, e, rfl⟩
    have hOk := Markup.isOk_plain_refusal hPath rejection.message
    rw [hShown] at hOk
    cases hOk
  | ok line =>
    have hMarkup : ("[bold red]Invalid report " ++ artifact.text ++ ":[/bold red] " ++
        Markup.escape rejection.message).toList =
        '[' :: ("bold red".toList ++ ']' :: ("Invalid report ".toList ++
          (artifact.text.toList ++ (":[/bold red] ".toList ++
            (Markup.escape rejection.message).toList)))) := by
      simp
    obtain ⟨left, hLine⟩ := Markup.plain_leads Markup.isStyle_boldRed
      (List.all_eq_true.1 (by decide)) hMarkup hShown
    have hStart : line = "Invalid report " ++ String.ofList left := by
      apply String.toList_inj.1
      simp [hLine]
    refine .inl ⟨String.ofList left ++ "\n", ?_⟩
    rw [← String.append_assoc, ← hStart]

theorem workspace_run_render_of_refused (hFile : w.readBytes artifact = .ok bytes)
    (hRefused : (load w artifact).isOk = false) :
    (run w settings (.render artifact schemaName output input tokens)).workspace = w := by
  rw [run_render_of_file hFile, renderArtifact]
  cases hLoad : load w artifact with
  | error failure =>
    cases failure with
    | rejected rejection => exact workspace_exitWithLine
    | _ => rfl
  | ok report =>
    rw [hLoad] at hRefused
    cases hRefused

/-- Rendering a file that gives no report leaves the workspace as it is. The command fails if the
file is no text in UTF-8; otherwise it tells of the invalid report, or fails to because a path with
brackets or backslashes is no good markup. -/
theorem run_render_refused (hFile : w.readBytes artifact = .ok bytes)
    (hRefused : (load w artifact).isOk = false) :
    (run w settings (.render artifact schemaName output input tokens)).workspace = w ∧
      ((∃ e, Text.Utf8.decode bytes = .error e ∧
          (run w settings (.render artifact schemaName output input tokens)).ending =
            .failed (.decoding e)) ∨
        (∃ text rejection, Text.Utf8.decode bytes = .ok text ∧
          load w artifact = .error (.rejected rejection) ∧
          ((∃ line, (run w settings (.render artifact schemaName output input tokens)).ending =
              .exited 1 ("Invalid report " ++ line)) ∨
            ¬ Markup.IsPlain artifact.text.toList ∧
              ∃ e, (run w settings (.render artifact schemaName output input tokens)).ending =
                .failed (.markup e)))) := by
  refine ⟨workspace_run_render_of_refused hFile hRefused, ?_⟩
  cases hBytes : Text.Utf8.decode bytes with
  | error e =>
    refine .inl ⟨e, rfl, ?_⟩
    rw [run_render_of_not_text hFile hBytes]
  | ok text =>
    obtain ⟨rejection, hLoad⟩ := exists_rejection hFile hBytes hRefused
    exact .inr ⟨text, rejection, rfl, hLoad, ending_of_rejected hFile hLoad⟩

end

/-- A workspace with one file, of the given bytes. -/
def holdingFile (bytes : List UInt8) : Workspace :=
  (Workspace.empty.writeBytes ⟨.here, ["bad.json"]⟩ bytes).toOption.getD .empty

theorem run_render_refused_list : ∃ line,
    (run (holdingFile (Text.Utf8.encode "[]")) .standard
        (.render ⟨.here, ["bad.json"]⟩ "default" (some ⟨.here, ["out", "BAD.md"]⟩) 1200 345)).ending =
      .exited 1 ("Invalid report " ++ line) := by
  have hFile : (holdingFile (Text.Utf8.encode "[]")).readBytes ⟨.here, ["bad.json"]⟩ =
      .ok (Text.Utf8.encode "[]") := by
    decide +kernel
  have hRefused :
      (load (holdingFile (Text.Utf8.encode "[]")) ⟨.here, ["bad.json"]⟩).isOk = false := by
    decide +kernel
  have hPath : Markup.IsPlain (Path.text ⟨.here, ["bad.json"]⟩).toList := by decide
  obtain ⟨-, ⟨e, hBytes, -⟩ | ⟨text, rejection, -, -, hTold | ⟨hNone, -⟩⟩⟩ :=
    run_render_refused hFile hRefused
  · rw [Text.Utf8.decode_encode] at hBytes
    cases hBytes
  · exact hTold
  · exact absurd hPath hNone

/-- A file that starts with a byte that no text starts with ends the command with a failure. -/
theorem not_exited_undecodable :
    (load (holdingFile [0xFF]) ⟨.here, ["bad.json"]⟩).isOk = false ∧
      ¬ ∃ line, (run (holdingFile [0xFF]) .standard
          (.render ⟨.here, ["bad.json"]⟩ "default" none 0 0)).ending =
        .exited 1 ("Invalid report " ++ line) := by
  have hFile : (holdingFile [0xFF]).readBytes ⟨.here, ["bad.json"]⟩ = .ok [0xFF] := by
    decide +kernel
  obtain ⟨e, hBytes⟩ : ∃ e, Text.Utf8.decode [0xFF] = .error e := ⟨_, rfl⟩
  refine ⟨by rw [load_of_not_text hFile hBytes]; rfl, ?_⟩
  rintro ⟨line, hEnding⟩
  rw [run_render_of_not_text hFile hBytes] at hEnding
  cases hEnding

end Command

end ReportPress
