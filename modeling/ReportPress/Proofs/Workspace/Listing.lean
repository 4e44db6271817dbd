import Mathlib.Data.List.Nodup
import ReportPress.Proofs.Workspace.Path

/-!
What stands directly in a directory. A path to an entry of a directory leads there unless it is too
long, and writing a file leaves what stands at such paths alone. Main statements:
`mem_subdirectories_iff`, listing gives the directories that stand there, and
`entry_of_writeBytes_of_ne`.
-/

namespace ReportPress

/-- The path and its names are short enough to be asked. -/
def Path.IsShort (path : Path) : Prop :=
  path.text.utf8ByteSize < Workspace.pathLimit ∧
    ∀ name ∈ path.names, name.utf8ByteSize ≤ Workspace.nameLimit

instance (path : Path) : Decidable path.IsShort := inferInstanceAs (Decidable (_ ∧ _))

namespace Workspace

/-- A directory of the name stands directly in the directory at the path. -/
structure HoldsDirectory (w : Workspace) (path : Path) (name : String) : Prop where
  isName : isEntryName name = true
  isDirectory : w.entry (path.append name) = .ok .directory

section

variable {w w' : Workspace} {path other : Path} {location place : Location} {name : String}

/-- A path leads as far as its first names, and from there on by the others. -/
theorem follow_append (w : Workspace) (location : Location) (names rest : List String) :
    w.follow location (names ++ rest) =
      (w.follow location names).bind fun found => w.follow found rest := by
  induction names generalizing location with
  | nil => rfl
  | cons name names ih =>
    rw [List.cons_append, follow, follow]
    split
    · rfl
    · rfl
    · split
      · rfl
      · exact ih _

/-- Names followed by others lead to a directory. -/
theorem exists_front_of_follow {names rest : List String} {last : String}
    (h : w.follow location (names ++ last :: rest) = .ok place) :
    ∃ found, w.follow location names = .ok found ∧ w.at? found = some .directory := by
  rw [follow_append] at h
  cases hFront : w.follow location names with
  | error obstacle =>
    rw [hFront] at h
    cases h
  | ok found =>
    refine ⟨found, rfl, ?_⟩
    rw [hFront, Except.bind, follow] at h
    cases hAt : w.at? found with
    | none =>
      rw [hAt] at h
      cases h
    | some entry =>
      rw [hAt] at h
      cases entry with
      | file bytes => cases h
      | directory => rfl

theorem entry_directory_of_keepsDirectories (hKeeps : KeepsDirectories w w')
    (h : w.entry path = .ok .directory) : w'.entry path = .ok .directory := by
  obtain ⟨location, hLocate, hAt⟩ := entry_eq_ok_iff.1 h
  exact entry_eq_ok_iff.2 ⟨location, locate_of_keepsDirectories hKeeps hLocate, hKeeps _ hAt⟩

/-- A path without null characters is followed unless its text is too long. -/
theorem locate_eq_follow (w : Workspace) (hNull : '\x00' ∉ path.text.toList) :
    w.locate path = if pathLimit ≤ path.text.utf8ByteSize then .error .nameTooLong
      else w.follow path.anchor.location path.names := by
  have hContains : ¬ path.text.toList.contains '\x00' := by simpa using hNull
  rw [locate, if_neg hContains]
  cases path.anchor <;> rfl

theorem follow_concat {names : List String} {found : Location}
    (hFollow : w.follow location names = .ok found) (hAt : w.at? found = some .directory)
    (last : String) : w.follow location (names ++ [last]) =
      if nameLimit < last.utf8ByteSize then .error .nameTooLong else .ok (child found last) := by
  rw [follow_append, hFollow]
  simp only [Except.bind, follow, hAt]

/-- A path to an entry of a directory leads there, unless it is too long. -/
theorem locate_of_parent (hParent : w.entry path.parent = .ok .directory)
    (hNull : '\x00' ∉ path.text.toList) :
    w.locate path = if path.IsShort then .ok path.target else .error .nameTooLong := by
  obtain ⟨found, hFound, hAt⟩ := entry_eq_ok_iff.1 hParent
  obtain ⟨-, hText, hFollow⟩ := locate_eq_ok_iff.1 hFound
  obtain ⟨anchor, names⟩ := path
  -- the names in front led to a directory, so of all names only the last can be too long
  rcases names.eq_nil_or_concat with rfl | ⟨front, last, hNames⟩
  · have hShort : Path.IsShort ⟨anchor, []⟩ := ⟨hText, by simp⟩
    rw [if_pos hShort]
    exact hFound.trans (congrArg Except.ok (target_of_locate hFound).symm)
  · rw [List.concat_eq_append] at hNames
    subst hNames
    simp only [Path.parent, List.dropLast_concat] at hFollow
    have hTarget : Path.target ⟨anchor, front ++ [last]⟩ = child found last := by
      rw [Path.target, List.foldl_append, follow_eq_foldl hFollow]
      rfl
    have hShort : Path.IsShort ⟨anchor, front ++ [last]⟩ ↔
        ¬ pathLimit ≤ (Path.text ⟨anchor, front ++ [last]⟩).utf8ByteSize ∧
          ¬ nameLimit < last.utf8ByteSize := by
      rw [Nat.not_le, Nat.not_lt, Path.IsShort, and_congr_right_iff]
      refine fun _ => ⟨fun h => h last (by simp), fun hLast name hName => ?_⟩
      rcases List.mem_append.1 hName with hMem | hMem
      · exact size_le_of_follow hFollow hMem
      · rwa [List.mem_singleton.1 hMem]
    rw [locate_eq_follow w hNull, follow_concat hFollow hAt, hTarget]
    simp only [hShort]
    split
    · simp [*]
    · split <;> simp [*]

/-- Which entry of a directory a path leads to does not hang on what else is there. -/
theorem locate_eq_of_keepsDirectories (hKeeps : KeepsDirectories w w')
    (hParent : w.entry path.parent = .ok .directory) : w'.locate path = w.locate path := by
  by_cases hNull : '\x00' ∈ path.text.toList
  · simp [locate, hNull]
  · rw [locate_of_parent hParent hNull,
      locate_of_parent (entry_directory_of_keepsDirectories hKeeps hParent) hNull]

theorem holds_eq_ok_iff (hParent : w.entry path.parent = .ok .directory)
    (hNull : '\x00' ∉ path.text.toList) (isKind : Entry → Bool) :
    (∃ answer, w.holds path isKind = .ok answer) ↔ path.IsShort := by
  rw [holds, entry, locate_of_parent hParent hNull]
  by_cases hShort : path.IsShort
  · simp only [hShort, if_true, iff_true]
    cases w.at? path.target <;> simp
  · simp [hShort]

theorem isDirectory?_eq_true_iff :
    w.isDirectory? path = .ok true ↔ w.entry path = .ok .directory := by
  rw [isDirectory?, holds]
  split <;> simp_all

/-- Writing a file leaves the other entries of directories as they were. -/
theorem entry_of_writeBytes_of_ne {bytes : List UInt8} (hWritten : w.writeBytes path bytes = .ok w')
    (hParent : w.entry other.parent = .ok .directory) (hNe : path.target ≠ other.target) :
    w'.entry other = w.entry other := by
  obtain ⟨location, hLocate, hAt, rfl⟩ := writeBytes_eq_ok_iff.1 hWritten
  rw [entry, entry, locate_eq_of_keepsDirectories (keepsDirectories_put hAt) hParent]
  cases hOther : w.locate other with
  | error e => rfl
  | ok found =>
    have hApart : found ≠ location := by
      rw [← target_of_locate hOther, ← target_of_locate hLocate]
      exact hNe.symm
    simp only [at?_put_of_ne w _ hApart]

end

theorem null_notMem_text_iff {path : Path} : '\x00' ∉ path.text.toList ↔
    ∀ name ∈ path.names, '\x00' ∉ name.toList := by
  rw [Path.mem_text_iff (by decide) (by decide)]
  simp

/-- In front of where a path leads there is a directory. -/
theorem entry_front_of_locate {w : Workspace} {anchor : Anchor} {names : List String}
    {last : String} {location : Location} (hNames : names ≠ [])
    (h : w.locate ⟨anchor, names ++ [last]⟩ = .ok location) :
    w.entry ⟨anchor, names⟩ = .ok .directory := by
  obtain ⟨hNull, hShort, hFollow⟩ := locate_eq_ok_iff.1 h
  obtain ⟨found, hFront, hAt⟩ := exists_front_of_follow hFollow
  refine entry_eq_ok_iff.2 ⟨found, locate_eq_ok_iff.2 ⟨?_, ?_, hFront⟩, hAt⟩
  · rw [null_notMem_text_iff] at hNull ⊢
    exact fun name hName => hNull name (List.mem_append_left _ hName)
  · exact Nat.lt_of_le_of_lt (Path.utf8ByteSize_text_le anchor hNames last) hShort

section

variable {w : Workspace} {path : Path} {directory location : Location} {name : String}

theorem append_of_isEntryName (path : Path) (h : isEntryName name = true) :
    path.append name = ⟨path.anchor, path.names ++ [name]⟩ :=
  Path.append_of_isComponent (isComponent_of_isEntryName h) path

theorem parent_append (path : Path) (h : isEntryName name = true) :
    (path.append name).parent = path := by
  simp [append_of_isEntryName path h, Path.parent]

theorem null_notMem_append (hPath : '\x00' ∉ path.text.toList) (h : Path.IsComponent name)
    (hName : '\x00' ∉ name.toList) : '\x00' ∉ (path.append name).text.toList := by
  rw [Path.append_of_isComponent h, null_notMem_text_iff]
  rw [null_notMem_text_iff] at hPath
  intro other hOther
  rcases List.mem_append.1 hOther with hMem | hMem
  · exact hPath other hMem
  · rwa [List.mem_singleton.1 hMem]

theorem target_append (path : Path) (h : isEntryName name = true) :
    (path.append name).target = path.target ++ [name] := by
  obtain ⟨-, -, hUp, -⟩ := isEntryName_iff.1 h
  rw [append_of_isEntryName path h, Path.target, List.foldl_append, List.foldl_cons,
    List.foldl_nil, child_of_ne _ hUp]
  rfl

theorem HoldsDirectory.isDirectory?_ne (h : w.HoldsDirectory path name) :
    w.isDirectory? path ≠ .ok false := by
  obtain ⟨location, hLocate, -⟩ := entry_eq_ok_iff.1 h.isDirectory
  rw [append_of_isEntryName path h.isName] at hLocate
  obtain ⟨hNull, -, hFollow⟩ := locate_eq_ok_iff.1 hLocate
  have hPath : '\x00' ∉ path.text.toList := by
    rw [null_notMem_text_iff] at hNull ⊢
    exact fun other hOther => hNull other (List.mem_append_left _ hOther)
  obtain ⟨found, hFound, hAt⟩ := exists_front_of_follow hFollow
  rw [isDirectory?, holds, entry, locate_eq_follow w hPath, hFound]
  by_cases hLong : pathLimit ≤ path.text.utf8ByteSize
  · simp [hLong]
  · simp [hLong, hAt]

theorem childName?_eq_some_iff :
    childName? directory location = some name ↔ location = directory ++ [name] := by
  rw [childName?]
  split
  · rename_i hFront
    rw [List.getLast?_eq_some_iff]
    constructor
    · rintro ⟨front, rfl⟩
      rw [List.dropLast_concat] at hFront
      rw [hFront]
    · rintro rfl
      exact ⟨directory, rfl⟩
  · rename_i hFront
    constructor
    · intro h
      cases h
    · rintro rfl
      exact absurd List.dropLast_concat hFront

/-- The entries of a directory are what stands there under names that an entry can have. -/
theorem mem_children_iff : name ∈ w.children directory ↔
    isEntryName name = true ∧ w.at? (directory ++ [name]) ≠ none := by
  have hProper : isProper (directory ++ [name]) = isEntryName name := by simp [isProper]
  simp only [children, List.mem_filterMap, childName?_eq_some_iff]
  constructor
  · rintro ⟨⟨location, entry⟩, hEntry, rfl⟩
    have hName := w.proper _ hEntry
    refine ⟨hProper ▸ hName, ?_⟩
    rw [at?, isFixed_of_isProper hName, if_neg (by simp)]
    intro hNone
    simpa using List.lookup_eq_none_iff.1 hNone _ hEntry
  · rintro ⟨hName, hAt⟩
    rw [at?, isFixed_of_isProper (hProper.trans hName), if_neg (by simp)] at hAt
    obtain ⟨entry, hLookup⟩ := Option.ne_none_iff_exists'.1 hAt
    obtain ⟨front, back, hEntries, -⟩ := List.lookup_eq_some_iff.1 hLookup
    exact ⟨(directory ++ [name], entry), by simp [hEntries], rfl⟩

theorem nodup_children (w : Workspace) (directory : Location) : (w.children directory).Nodup := by
  have hChildren : w.children directory =
      (w.entries.map (·.1)).filterMap (childName? directory) := by
    rw [children, List.filterMap_map]
    rfl
  rw [hChildren]
  refine List.Nodup.filterMap ?_ w.distinct
  intro location other name hName hOther
  rw [Option.mem_def, childName?_eq_some_iff] at hName hOther
  rw [hName, hOther]

theorem directoriesAmong_cons_eq_ok_iff {rest found : List String} :
    w.directoriesAmong path (name :: rest) = .ok found ↔
      ∃ answer others, w.isDirectory? (path.append name) = .ok answer ∧
        w.directoriesAmong path rest = .ok others ∧
          (if answer then name :: others else others) = found := by
  rw [directoriesAmong]
  cases w.isDirectory? (path.append name) with
  | error e => simp [Except.bind]
  | ok answer => cases w.directoriesAmong path rest <;> simp [Except.bind, Except.map]

theorem exists_directoriesAmong_iff {names : List String} :
    (∃ found, w.directoriesAmong path names = .ok found) ↔
      ∀ name ∈ names, ∃ answer, w.isDirectory? (path.append name) = .ok answer := by
  induction names with
  | nil => simp [directoriesAmong]
  | cons name rest ih =>
    rw [List.forall_mem_cons, ← ih]
    simp only [directoriesAmong_cons_eq_ok_iff]
    constructor
    · rintro ⟨found, answer, others, hAnswer, hOthers, -⟩
      exact ⟨⟨answer, hAnswer⟩, ⟨others, hOthers⟩⟩
    · rintro ⟨⟨answer, hAnswer⟩, ⟨others, hOthers⟩⟩
      exact ⟨_, answer, others, hAnswer, hOthers, rfl⟩

/-- The names of directories are told, in their order. -/
theorem directoriesAmong_eq_filter {names found : List String}
    (h : w.directoriesAmong path names = .ok found) :
    found = names.filter fun name => decide (w.isDirectory? (path.append name) = .ok true) := by
  induction names generalizing found with
  | nil =>
    rw [directoriesAmong] at h
    exact (Except.ok.inj h).symm
  | cons name rest ih =>
    obtain ⟨answer, others, hAnswer, hOthers, rfl⟩ := directoriesAmong_cons_eq_ok_iff.1 h
    cases answer <;> simp [hAnswer, ih hOthers]

/-- The directories in a directory are listed unless the path to one of its entries is too long. -/
theorem exists_subdirectories_iff (hDirectory : w.entry path = .ok .directory) :
    (∃ names, w.subdirectories path = .ok names) ↔
      ∀ name ∈ w.children path.target, (path.append name).IsShort := by
  obtain ⟨location, hLocate, -⟩ := entry_eq_ok_iff.1 hDirectory
  obtain ⟨hNull, -⟩ := locate_eq_ok_iff.1 hLocate
  rw [subdirectories, hLocate, target_of_locate hLocate]
  simp only [exists_directoriesAmong_iff]
  refine forall₂_congr fun name hName => ?_
  obtain ⟨hName, -⟩ := mem_children_iff.1 hName
  obtain ⟨-, -, -, -, hNameNull, -⟩ := isEntryName_iff.1 hName
  have hComponent := isComponent_of_isEntryName hName
  refine holds_eq_ok_iff ?_ (null_notMem_append hNull hComponent hNameNull) _
  rw [parent_append path hName, hDirectory]

theorem nodup_subdirectories {names : List String} (h : w.subdirectories path = .ok names) :
    names.Nodup := by
  rw [subdirectories] at h
  split at h
  · cases h
  · obtain rfl := directoriesAmong_eq_filter h
    exact (nodup_children w _).filter _

theorem mem_subdirectories_iff {names : List String} (h : w.subdirectories path = .ok names) :
    name ∈ names ↔ w.HoldsDirectory path name := by
  rw [subdirectories] at h
  split at h
  · cases h
  · rename_i location hLocate
    obtain rfl := directoriesAmong_eq_filter h
    rw [List.mem_filter, decide_eq_true_iff, isDirectory?_eq_true_iff, mem_children_iff]
    constructor
    · rintro ⟨⟨hName, -⟩, hEntry⟩
      exact ⟨hName, hEntry⟩
    · rintro ⟨hName, hEntry⟩
      obtain ⟨found, hFound, hAt⟩ := entry_eq_ok_iff.1 hEntry
      have hPlace : location ++ [name] = found := by
        rw [← target_of_locate hLocate, ← target_of_locate hFound, target_append path hName]
      refine ⟨⟨hName, ?_⟩, hEntry⟩
      rw [hPlace, hAt]
      simp

end

end Workspace

end ReportPress
