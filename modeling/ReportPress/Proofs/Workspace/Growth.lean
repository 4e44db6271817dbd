import ReportPress.Proofs.Workspace.Directories
import ReportPress.Proofs.Workspace.Listing

/-!
Workspaces that only grow. Directories stay directories and files stay files, so a path keeps
leading where it led unless it was cut short by a missing directory. Main statements:
`Reaches.read?_eq`, what a path reads hangs on the file at the place where it leads, and
`reaches_of_isRooted`, where every entry stands in a directory only a path with `..` is cut short in
front of a file.
-/

namespace ReportPress.Workspace

/-- Directories of the first workspace are directories of the second, and files are files. -/
structure Grows (w w' : Workspace) : Prop where
  directories : KeepsDirectories w w'
  files : ∀ location bytes, w.at? location = some (.file bytes) →
    ∃ found, w'.at? location = some (.file found)

/-- The bytes of the file at a location, if one stands there. -/
def file? (w : Workspace) (location : Location) : Option (List UInt8) :=
  match w.at? location with
  | some (.file bytes) => some bytes
  | _ => none

/-- The bytes that a path reads, if it leads to a file. -/
def read? (w : Workspace) (path : Path) : Option (List UInt8) := (w.readBytes path).toOption

/-- No directory is missing on the way to a file at the place where the path leads. -/
def Reaches (w : Workspace) (path : Path) : Prop :=
  w.file? path.target ≠ none → w.locate path ≠ .error .notFound

instance (w : Workspace) (path : Path) : Decidable (w.Reaches path) :=
  inferInstanceAs (Decidable (_ → _))

section

variable {w w' w'' : Workspace} {path : Path} {location : Location} {bytes : List UInt8}

theorem Grows.refl (w : Workspace) : Grows w w := ⟨fun _ => id, fun _ bytes h => ⟨bytes, h⟩⟩

theorem Grows.trans (h : Grows w w') (h' : Grows w' w'') : Grows w w'' := by
  constructor
  · exact fun location hAt => h'.directories location (h.directories location hAt)
  · intro location bytes hAt
    obtain ⟨found, hFound⟩ := h.files location bytes hAt
    exact h'.files location found hFound

theorem file?_eq_some_iff : w.file? location = some bytes ↔
    w.at? location = some (.file bytes) := by
  unfold file?
  cases hAt : w.at? location with
  | none => simp
  | some entry => cases entry <;> simp

theorem file?_congr (h : w'.at? location = w.at? location) :
    w'.file? location = w.file? location := by
  rw [file?, file?, h]

theorem read?_eq_some_iff : w.read? path = some bytes ↔
    ∃ location, w.locate path = .ok location ∧ w.at? location = some (.file bytes) := by
  rw [← readBytes_eq_ok_iff, read?]
  cases w.readBytes path <;> simp [Except.toOption]

theorem exists_entry_of_exists? (h : w.exists? path = .ok true) :
    ∃ entry, w.entry path = .ok entry := by
  rw [exists?, holds] at h
  cases hEntry : w.entry path with
  | ok entry => exact ⟨entry, rfl⟩
  | error obstacle =>
    rw [hEntry] at h
    cases obstacle <;> cases h

theorem file?_of_read? (h : w.read? path = some bytes) : w.file? path.target = some bytes := by
  obtain ⟨location, hLocate, hAt⟩ := read?_eq_some_iff.1 h
  rw [target_of_locate hLocate]
  exact file?_eq_some_iff.2 hAt

theorem reaches_of_read? (h : w.read? path = some bytes) : w.Reaches path := by
  obtain ⟨location, hLocate, -⟩ := read?_eq_some_iff.1 h
  intro _ hMissing
  rw [hLocate] at hMissing
  cases hMissing

/-- Whatever is in front of the place where a path leads is a directory. -/
theorem at?_front_of_locate (h : w.locate path = .ok location) {count : Nat}
    (hCount : count < path.names.length) :
    w.at? (path.front count).target = some .directory := by
  obtain ⟨-, -, hFollow⟩ := locate_eq_ok_iff.1 h
  rw [← List.take_append_drop count path.names, List.drop_eq_getElem_cons hCount] at hFollow
  obtain ⟨found, hFront, hAt⟩ := exists_front_of_follow hFollow
  rw [← hAt]
  exact congrArg w.at? (follow_eq_foldl hFront)

/-- A way that is not cut short by a missing directory stays as it is. -/
theorem Grows.follow_eq (hGrows : Grows w w') {names : List String}
    (h : w.follow location names ≠ .error .notFound) :
    w'.follow location names = w.follow location names := by
  induction names generalizing location with
  | nil => rfl
  | cons name rest ih =>
    rw [follow] at h ⊢
    rw [follow]
    cases hAt : w.at? location with
    | none => exact absurd (by rw [hAt]) h
    | some entry =>
      rw [hAt] at h
      cases entry with
      | file bytes =>
        obtain ⟨found, hFound⟩ := hGrows.files location bytes hAt
        rw [hFound]
      | directory =>
        rw [hGrows.directories location hAt]
        by_cases hLong : nameLimit < name.utf8ByteSize
        · simp only [hLong, if_true]
        · simp only [hLong, if_false] at h ⊢
          exact ih h

theorem Grows.locate_eq (hGrows : Grows w w') (h : w.locate path ≠ .error .notFound) :
    w'.locate path = w.locate path := by
  have hFollow (location : Location) (hMissing : w.follow location path.names ≠ .error .notFound) :=
    hGrows.follow_eq hMissing
  unfold locate at h ⊢
  split
  · rfl
  · split
    · rfl
    · simp only [*, if_false] at h
      cases hAnchor : path.anchor <;> simp only [hAnchor] at h ⊢ <;> exact hFollow _ h

/-- While a workspace grows, a path to a file that stays as it is reads the same. -/
theorem Reaches.read?_eq (hReaches : w.Reaches path) (hGrows : Grows w w')
    (hSame : w'.file? path.target = w.file? path.target) : w'.read? path = w.read? path := by
  by_cases hFile : w.file? path.target = none
  · have hNone (v : Workspace) (h : v.file? path.target = none) : v.read? path = none := by
      cases hRead : v.read? path with
      | none => rfl
      | some bytes =>
        rw [file?_of_read? hRead] at h
        cases h
    rw [hNone w hFile, hNone w' (hSame.trans hFile)]
  · have hLocate := hGrows.locate_eq (hReaches hFile)
    apply Option.ext
    intro bytes
    rw [read?_eq_some_iff, read?_eq_some_iff, hLocate]
    refine exists_congr fun location => and_congr_right fun hLead => ?_
    rw [← file?_eq_some_iff, ← file?_eq_some_iff, ← target_of_locate hLead, hSame]

/-- Between workspaces with the same directories, the same file reads the same. -/
theorem read?_eq_of_keepsDirectories (hKeeps : KeepsDirectories w w')
    (hKeeps' : KeepsDirectories w' w) (hSame : w'.file? path.target = w.file? path.target) :
    w'.read? path = w.read? path := by
  have hRead {v v' : Workspace} {bytes : List UInt8} (hKeeps : KeepsDirectories v v')
      (hSame : v'.file? path.target = v.file? path.target) (h : v.read? path = some bytes) :
      v'.read? path = some bytes := by
    rw [file?_of_read? h, file?_eq_some_iff] at hSame
    obtain ⟨location, hLocate, -⟩ := read?_eq_some_iff.1 h
    rw [target_of_locate hLocate] at hSame
    exact read?_eq_some_iff.2 ⟨location, locate_of_keepsDirectories hKeeps hLocate, hSame⟩
  apply Option.ext
  intro bytes
  exact ⟨hRead hKeeps' hSame.symm, hRead hKeeps hSame⟩

theorem Reaches.of_grows (hReaches : w.Reaches path) (hGrows : Grows w w')
    (hSame : w'.file? path.target = w.file? path.target) : w'.Reaches path := by
  intro hFile
  rw [hSame] at hFile
  rw [hGrows.locate_eq (hReaches hFile)]
  exact hReaches hFile

theorem grows_writeBytes (h : w.writeBytes path bytes = .ok w') : Grows w w' := by
  obtain ⟨place, -, hAt, rfl⟩ := writeBytes_eq_ok_iff.1 h
  refine ⟨keepsDirectories_put hAt, fun location old hOld => ?_⟩
  by_cases hSame : location = place
  · subst hSame
    exact ⟨bytes, at?_put_self w _ (isProper_of_file hOld)⟩
  · exact ⟨old, by rw [at?_put_of_ne w _ hSame, hOld]⟩

theorem at?_writeBytes_of_ne (h : w.writeBytes path bytes = .ok w') (hNe : location ≠ path.target) :
    w'.at? location = w.at? location := by
  obtain ⟨place, hPlace, -, rfl⟩ := writeBytes_eq_ok_iff.1 h
  rw [target_of_locate hPlace] at hNe
  exact at?_put_of_ne w _ hNe

theorem MakesDirectories.grows (h : MakesDirectories w w' path) : Grows w w' := by
  refine ⟨h.keepsDirectories, fun location bytes hAt => ⟨bytes, ?_⟩⟩
  rcases h location with hSame | ⟨hNone, -⟩
  · rw [hSame, hAt]
  · rw [hAt] at hNone
    cases hNone

theorem file?_of_made {P : Prop} (h : w'.at? location = w.at? location ∨
    w.at? location = none ∧ w'.at? location = some .directory ∧ P) :
    w'.file? location = w.file? location := by
  rcases h with hSame | ⟨hNone, hMade, -⟩
  · exact file?_congr hSame
  · simp only [file?, hNone, hMade]

end

theorem foldl_child (location : Location) {names : List String} (hUp : ".." ∉ names) :
    names.foldl child location = location ++ names := by
  induction names generalizing location with
  | nil => simp
  | cons name rest ih =>
    obtain ⟨hName, hRest⟩ := not_or.1 (List.mem_cons.not.1 hUp)
    rw [List.foldl_cons, child_of_ne location (Ne.symm hName), ih _ hRest, List.append_assoc,
      List.singleton_append]

/-- Every entry stands in a directory. -/
def IsRooted (w : Workspace) : Prop :=
  ∀ location name, w.at? (location ++ [name]) ≠ none → w.at? location = some .directory

theorem isRooted_empty : IsRooted .empty := by
  intro location name hAt
  have hFixed : isFixed (location ++ [name]) = true := by
    by_contra hNot
    exact hAt (by simp [at?, hNot, empty])
  rw [at?, if_pos]
  simp only [isFixed, Bool.or_eq_true, beq_iff_eq] at hFixed ⊢
  left
  rcases hFixed with hUp | hRoot
  · rw [List.all_append, Bool.and_eq_true] at hUp
    exact hUp.1
  · cases location with
    | nil => rfl
    | cons first rest => simp at hRoot

section

variable {w : Workspace} (hRooted : w.IsRooted)

include hRooted

/-- All that is on the way to an entry is a directory. -/
theorem at?_of_isRooted {location : Location} {names : List String} (hNames : names ≠ [])
    (h : w.at? (location ++ names) ≠ none) : w.at? location = some .directory := by
  induction names generalizing location with
  | nil => exact absurd rfl hNames
  | cons name rest ih =>
    apply hRooted location name
    by_cases hRest : rest = []
    · rwa [hRest] at h
    · rw [← List.singleton_append, ← List.append_assoc] at h
      rw [ih hRest h]
      simp

theorem follow_of_isRooted {location : Location} {names : List String} (hUp : ".." ∉ names)
    (h : w.at? (location ++ names) ≠ none) : w.follow location names ≠ .error .notFound := by
  induction names generalizing location with
  | nil => simp [follow]
  | cons name rest ih =>
    obtain ⟨hName, hRest⟩ := not_or.1 (List.mem_cons.not.1 hUp)
    rw [follow, at?_of_isRooted hRooted (by simp) h]
    dsimp only
    split
    · simp
    · rw [child_of_ne location (Ne.symm hName)]
      refine ih hRest ?_
      rwa [List.append_assoc, List.singleton_append]

/-- Only a path with `..` can be cut short in front of a file. -/
theorem reaches_of_isRooted {path : Path} (hUp : ".." ∉ path.names) : w.Reaches path := by
  have hTarget : path.target = path.anchor.location ++ path.names := foldl_child _ hUp
  intro hFile hMissing
  have hAt : w.at? (path.anchor.location ++ path.names) ≠ none := by
    rw [← hTarget]
    intro hNone
    exact hFile (by rw [file?, hNone])
  by_cases hNull : '\x00' ∈ path.text.toList
  · simp [locate, hNull] at hMissing
  · rw [locate_eq_follow w hNull] at hMissing
    split at hMissing
    · cases hMissing
    · exact follow_of_isRooted hRooted hUp hAt hMissing

end

end ReportPress.Workspace
