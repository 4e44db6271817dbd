import ReportPress.Proofs.Text.LooseText
import ReportPress.Workspace.Files

/-!
What writing a file leaves alone. Following a path only asks for directories, writing never replaces
one, and so paths keep leading where they led. Main statements: `readBytes_of_writeBytes`, what was
written is read, and `readBytes_of_writeBytes_of_ne`, all other files stay as they were.
-/

namespace ReportPress

/-- Where a path starts. -/
def Anchor.location : Anchor → Location
  | .here => []
  | _ => ["/"]

/-- Where a path leads if all directories on it are there. -/
def Path.target (path : Path) : Location :=
  path.names.foldl Workspace.child path.anchor.location

namespace Workspace

/-- Every directory of the first workspace is one of the second. -/
def KeepsDirectories (w w' : Workspace) : Prop :=
  ∀ location, w.at? location = some .directory → w'.at? location = some .directory

section

variable {w w' : Workspace} {location found : Location} {names : List String}

/-- A path leads where its names lead, whatever else is there. -/
theorem follow_eq_foldl (h : w.follow location names = .ok found) :
    names.foldl child location = found := by
  induction names generalizing location with
  | nil => exact Except.ok.inj h
  | cons name rest ih =>
    rw [follow] at h
    split at h
    · cases h
    · cases h
    · split at h
      · cases h
      · exact ih h

theorem size_le_of_follow (h : w.follow location names = .ok found) {name : String}
    (hName : name ∈ names) : name.utf8ByteSize ≤ nameLimit := by
  induction names generalizing location with
  | nil => cases hName
  | cons first rest ih =>
    rw [follow] at h
    split at h
    · cases h
    · cases h
    · split at h
      · cases h
      · rename_i hShort
        rcases List.mem_cons.1 hName with rfl | hRest
        · exact Nat.le_of_not_lt hShort
        · exact ih h hRest

theorem follow_of_keepsDirectories (hKeeps : KeepsDirectories w w')
    (h : w.follow location names = .ok found) : w'.follow location names = .ok found := by
  induction names generalizing location with
  | nil => exact h
  | cons name rest ih =>
    rw [follow] at h
    split at h
    · cases h
    · cases h
    · rename_i hDirectory
      split at h
      · cases h
      · rename_i hShort
        rw [follow]
        simp only [hKeeps _ hDirectory, hShort, if_false]
        exact ih h

end

section

variable {w w' : Workspace} {path : Path} {location : Location}

theorem locate_eq_ok_iff : w.locate path = .ok location ↔ '\x00' ∉ path.text.toList ∧
    path.text.utf8ByteSize < pathLimit ∧
      w.follow path.anchor.location path.names = .ok location := by
  have hShort : ¬ pathLimit ≤ path.text.utf8ByteSize ↔ path.text.utf8ByteSize < pathLimit :=
    Nat.not_le
  rw [locate]
  split
  · rename_i hNull
    simp only [List.contains_iff_mem] at hNull
    simp [hNull]
  · rename_i hNull
    simp only [List.contains_iff_mem] at hNull
    split
    · rename_i hLong
      simp [Nat.not_lt_of_le hLong]
    · rename_i hFits
      cases hAnchor : path.anchor <;> simp [hNull, hShort.1 hFits, Anchor.location]

theorem target_of_locate (h : w.locate path = .ok location) : path.target = location :=
  follow_eq_foldl (locate_eq_ok_iff.1 h).2.2

theorem locate_of_keepsDirectories (hKeeps : KeepsDirectories w w')
    (h : w.locate path = .ok location) : w'.locate path = .ok location := by
  obtain ⟨hNull, hShort, hFollow⟩ := locate_eq_ok_iff.1 h
  exact locate_eq_ok_iff.2 ⟨hNull, hShort, follow_of_keepsDirectories hKeeps hFollow⟩

theorem entry_eq_ok_iff {entry : Entry} : w.entry path = .ok entry ↔
    ∃ location, w.locate path = .ok location ∧ w.at? location = some entry := by
  rw [Workspace.entry]
  cases hLocate : w.locate path with
  | error e => simp
  | ok location => cases hAt : w.at? location <;> simp [hAt]

theorem readBytes_eq_ok_iff {bytes : List UInt8} : w.readBytes path = .ok bytes ↔
    ∃ location, w.locate path = .ok location ∧ w.at? location = some (.file bytes) := by
  rw [← entry_eq_ok_iff, readBytes]
  cases hEntry : w.entry path with
  | error e => simp
  | ok entry => cases entry <;> simp

theorem writeBytes_eq_ok_iff {bytes : List UInt8} : w.writeBytes path bytes = .ok w' ↔
    ∃ location, w.locate path = .ok location ∧ w.at? location ≠ some .directory ∧
      w.put location (.file bytes) = w' := by
  rw [writeBytes]
  cases hLocate : w.locate path with
  | error e => simp
  | ok location =>
    cases hAt : w.at? location with
    | none => simp [hAt]
    | some entry => cases entry <;> simp [hAt]

/-- A file can be written unless its path leads nowhere or to a directory. -/
theorem exists_writeBytes_iff {bytes : List UInt8} : (∃ w', w.writeBytes path bytes = .ok w') ↔
    (∃ location, w.locate path = .ok location) ∧ w.entry path ≠ .ok .directory := by
  simp only [writeBytes_eq_ok_iff, ne_eq, entry_eq_ok_iff]
  constructor
  · rintro ⟨w', location, hLocate, hAt, -⟩
    refine ⟨⟨location, hLocate⟩, ?_⟩
    rintro ⟨found, hFound, hDirectory⟩
    obtain rfl : location = found := Except.ok.inj (hLocate.symm.trans hFound)
    exact hAt hDirectory
  · rintro ⟨⟨location, hLocate⟩, hNone⟩
    exact ⟨_, location, hLocate, fun hAt => hNone ⟨location, hLocate, hAt⟩, rfl⟩

theorem keepsDirectories_put {entry : Entry} (h : w.at? location ≠ some .directory) :
    KeepsDirectories w (w.put location entry) := by
  intro other hOther
  have hNe : other ≠ location := by
    rintro rfl
    exact h hOther
  rw [at?_put_of_ne w entry hNe, hOther]

theorem keepsDirectories_of_writeBytes {bytes : List UInt8} (h : w.writeBytes path bytes = .ok w') :
    KeepsDirectories w w' := by
  obtain ⟨_, -, hAt, rfl⟩ := writeBytes_eq_ok_iff.1 h
  exact keepsDirectories_put hAt

theorem isProper_of_file {bytes : List UInt8} (h : w.at? location = some (.file bytes)) :
    isProper location = true := by
  rw [at?] at h
  split at h
  · cases h
  · obtain ⟨front, back, hEntries, -⟩ := List.lookup_eq_some_iff.1 h
    exact w.proper (location, .file bytes) (by simp [hEntries])

end

section

variable {w w' : Workspace} {path other : Path} {bytes : List UInt8}

theorem exists?_of_readBytes (h : w.readBytes path = .ok bytes) : w.exists? path = .ok true := by
  rw [exists?, holds, entry_eq_ok_iff.2 (readBytes_eq_ok_iff.1 h)]

theorem readBytes_of_writeBytes (h : w.writeBytes path bytes = .ok w')
    (hProper : ∀ location, w.locate path = .ok location → isProper location = true) :
    w'.readBytes path = .ok bytes := by
  obtain ⟨location, hLocate, hAt, rfl⟩ := writeBytes_eq_ok_iff.1 h
  exact readBytes_eq_ok_iff.2 ⟨location,
    locate_of_keepsDirectories (keepsDirectories_put hAt) hLocate,
    at?_put_self w _ (hProper location hLocate)⟩

theorem readBytes_of_overwritten {old : List UInt8} (hOld : w.readBytes path = .ok old)
    (h : w.writeBytes path bytes = .ok w') : w'.readBytes path = .ok bytes := by
  obtain ⟨location, hLocate, hAt⟩ := readBytes_eq_ok_iff.1 hOld
  refine readBytes_of_writeBytes h fun found hFound => ?_
  obtain rfl : location = found := Except.ok.inj (hLocate.symm.trans hFound)
  exact isProper_of_file hAt

theorem readBytes_of_writeBytes_of_ne {old : List UInt8} (hOld : w.readBytes other = .ok old)
    (h : w.writeBytes path bytes = .ok w')
    (hNe : path.target ≠ other.target) : w'.readBytes other = .ok old := by
  obtain ⟨location, hLocate, hAt, rfl⟩ := writeBytes_eq_ok_iff.1 h
  obtain ⟨place, hPlace, hFile⟩ := readBytes_eq_ok_iff.1 hOld
  have hApart : place ≠ location := by
    rw [← target_of_locate hPlace, ← target_of_locate hLocate]
    exact hNe.symm
  refine readBytes_eq_ok_iff.2 ⟨place,
    locate_of_keepsDirectories (keepsDirectories_put hAt) hPlace, ?_⟩
  rw [at?_put_of_ne w _ hApart, hFile]

end

/-- What can come of writing a text to a file. -/
inductive WritesText (w : Workspace) (path : Path) (text : LooseText) :
    Workspace × Except WriteError Unit → Prop
  | refused {e : FileError} (h : w.writeBytes path text.written = .error e) :
    WritesText w path text (w, .error (.file e))
  | emptied {w' : Workspace} {e : Text.Utf8.EncodeError} (hNotPlain : ¬ text.IsPlain)
      (h : w.writeBytes path [] = .ok w') : WritesText w path text (w', .error (.encoding e))
  | written {w' : Workspace} {s : String} (hPlain : text = .ofString s)
      (h : w.writeBytes path (Text.Utf8.encode s) = .ok w') : WritesText w path text (w', .ok ())

theorem writesText_writeText (w : Workspace) (path : Path) (text : LooseText) :
    WritesText w path text (w.writeText path text) := by
  rw [writeText]
  cases hWrite : w.writeBytes path text.written with
  | error e => exact .refused hWrite
  | ok w' =>
    by_cases hPlain : text.IsPlain
    · obtain ⟨s, rfl⟩ := LooseText.isPlain_iff.1 hPlain
      rw [LooseText.written_ofString] at hWrite
      rw [LooseText.encode_ofString]
      exact .written rfl hWrite
    · obtain ⟨e, hEncode⟩ := LooseText.encode_of_not_isPlain hPlain
      rw [LooseText.written_of_not_isPlain hPlain] at hWrite
      rw [hEncode]
      exact .emptied hPlain hWrite

theorem writeText_ofString_eq_ok_iff {w w' : Workspace} {path : Path} {s : String} :
    w.writeText path s = (w', .ok ()) ↔ w.writeBytes path (Text.Utf8.encode s) = .ok w' := by
  rw [writeText, LooseText.written_ofString, LooseText.encode_ofString]
  cases w.writeBytes path (Text.Utf8.encode s) with
  | error e => simp
  | ok written =>
    have hEncoded : ((Except.ok (Text.Utf8.encode s)).map fun _ => ()).mapError
        WriteError.encoding = .ok () := rfl
    simp [hEncoded]

end Workspace

end ReportPress
