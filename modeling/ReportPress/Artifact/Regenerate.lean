import ReportPress.Artifact.Save

/-!
Regeneration: the Markdown of every document below an output base, written anew from its JSON
artifact with the statistics of the Markdown that it replaces. A document without a JSON artifact,
or with one that cannot be read, is passed over; an error in recovering figures from a readable
Markdown file, or in writing the new one, ends the run, and so does a path that is too long to be
asked.
-/

namespace ReportPress.Artifact

/-- What a Markdown artifact tells of its run, zero where there is none or it cannot be read. -/
def previousFigures (w : Workspace) (markdown : Path) :
    List Notice × Except Failure (TokenUsage × Binary64) :=
  match w.exists? markdown with
  | .error e => ([], .error (.file e))
  | .ok false => ([], .ok (.zero, .zero))
  | .ok true =>
    match w.readText markdown with
    | .error e => ([.statisticsLost markdown (.ofRead e)], .ok (.zero, .zero))
    | .ok text => ([], (Statistics.recover text).mapError .figure)

/-- Writes the Markdown of a report over the one that is there. -/
def rewriteMarkdown (w : Workspace) (schemaName : LooseText) (markdown : Path) (report : Report) :
    Outcome (Option Path) :=
  match previousFigures w markdown with
  | (notices, .error e) => ⟨w, notices, .error e⟩
  | (notices, .ok (usage, cost)) =>
    match Markdown.document report schemaName usage (.exact cost) with
    | .error e => ⟨w, notices, .error (.figure e)⟩
    | .ok document =>
      match w.writeText markdown document with
      | (w, .error e) => ⟨w, notices, .error (.ofWrite e)⟩
      | (w, .ok ()) => ⟨w, notices ++ [.regenerated markdown], .ok (some markdown)⟩

/-- Regenerates one document, and tells its Markdown artifact unless the document is passed over. -/
def regenerateOne (w : Workspace) (schemaName : LooseText) (paths : ArtifactPaths) :
    Outcome (Option Path) :=
  match w.exists? paths.json with
  | .error e => ⟨w, [], .error (.file e)⟩
  | .ok false => ⟨w, [], .ok none⟩
  | .ok true =>
    match load w paths.json with
    | .error reason => ⟨w, [.skipped paths.json reason], .ok none⟩
    | .ok report => rewriteMarkdown w schemaName paths.markdown report

/-- Regenerates documents one after the other. -/
def regenerateAll (w : Workspace) (schemaName : LooseText) (base : Path) :
    List String → Outcome (List Path)
  | [] => ⟨w, [], .ok []⟩
  | name :: rest =>
    (regenerateOne w schemaName (.of base name)).bind fun w path? =>
      (regenerateAll w schemaName base rest).map (path?.toList ++ ·)

/-- The names of the directories directly below a path, in ascending order of code points. -/
def documentNames (w : Workspace) (base : Path) : Except FileError (List String) :=
  (w.subdirectories base).map fun names => names.mergeSort fun a b => decide (a ≤ b)

/-- Regenerates every document below an output base and tells the Markdown artifacts written. -/
def regenerate (w : Workspace) (schemaName : LooseText) (base : Path) : Outcome (List Path) :=
  match w.isDirectory? base with
  | .error e => ⟨w, [], .error (.file e)⟩
  | .ok false => ⟨w, [.baseMissing base], .ok []⟩
  | .ok true =>
    match documentNames w base with
    | .error e => ⟨w, [], .error (.file e)⟩
    | .ok names => regenerateAll w schemaName base names

end ReportPress.Artifact
