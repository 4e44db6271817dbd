/-!
Workspaces: the files and directories below a working directory. A location is the list of names
that lead to it; a location in front of the working directory starts with `..`, and an absolute one
with `/`. The working directory, the directories that hold it and the root are always there.
-/

namespace ReportPress

/-- The names that lead to a file or directory. -/
abbrev Location := List String

/-- What stands at a location. -/
inductive Entry
  | file (bytes : List UInt8)
  | directory
  deriving DecidableEq

namespace Workspace

/-- The most bytes of a name. -/
def nameLimit : Nat := 255

/-- A name that a file or directory can have. -/
def isEntryName (name : String) : Bool :=
  name != "" && name != "." && name != ".." && !name.toList.contains '/' &&
    !name.toList.contains '\x00' && decide (name.utf8ByteSize ≤ nameLimit)

/-- A location that ends in a name that a file or directory can have. -/
def isProper (location : Location) : Bool := location.getLast?.any isEntryName

/-- A location that is a directory in every workspace. -/
def isFixed (location : Location) : Bool :=
  location.all (· == "..") || location == ["/"]

/-- The entries with one put at a location, in the place of the one that stood there. -/
def putEntry (location : Location) (entry : Entry) :
    List (Location × Entry) → List (Location × Entry)
  | [] => [(location, entry)]
  | (other, old) :: rest =>
    if other = location then (location, entry) :: rest
    else (other, old) :: putEntry location entry rest

theorem mem_of_mem_putEntry {location : Location} {entry : Entry}
    {entries : List (Location × Entry)} {found : Location × Entry}
    (h : found ∈ putEntry location entry entries) :
    found = (location, entry) ∨ found ∈ entries := by
  induction entries with
  | nil => exact .inl (by simpa [putEntry] using h)
  | cons first rest ih =>
    obtain ⟨other, old⟩ := first
    simp only [putEntry] at h
    split at h
    · rcases List.mem_cons.1 h with hHead | hRest
      · exact .inl hHead
      · exact .inr (List.mem_cons_of_mem _ hRest)
    · rcases List.mem_cons.1 h with hHead | hRest
      · exact .inr (hHead ▸ List.mem_cons_self)
      · exact (ih hRest).imp id (List.mem_cons_of_mem _)

theorem nodup_putEntry {location : Location} {entry : Entry} {entries : List (Location × Entry)}
    (h : (entries.map (·.1)).Nodup) : ((putEntry location entry entries).map (·.1)).Nodup := by
  induction entries with
  | nil => simp [putEntry]
  | cons first rest ih =>
    obtain ⟨other, old⟩ := first
    rw [List.map_cons, List.nodup_cons] at h
    simp only [putEntry]
    split
    · rename_i hOther
      subst hOther
      rw [List.map_cons, List.nodup_cons]
      exact h
    · rename_i hOther
      rw [List.map_cons, List.nodup_cons]
      refine ⟨fun hMem => ?_, ih h.2⟩
      obtain ⟨found, hFound, hEq⟩ := List.mem_map.1 hMem
      rcases mem_of_mem_putEntry hFound with rfl | hRest
      · exact hOther hEq.symm
      · exact h.1 (List.mem_map.2 ⟨found, hRest, hEq⟩)

end Workspace

/-- The files and directories of a working directory, in the order in which they were made. No
location has two entries, and each ends in a name that its entry can have. -/
structure Workspace where
  entries : List (Location × Entry)
  distinct : (entries.map (·.1)).Nodup
  proper : ∀ entry ∈ entries, Workspace.isProper entry.1 = true

namespace Workspace

def empty : Workspace := ⟨[], by simp, by simp⟩

/-- What stands at a location, if anything does. -/
def at? (w : Workspace) (location : Location) : Option Entry :=
  if isFixed location then some .directory else w.entries.lookup location

/-- The workspace with an entry at a location; nothing can be put where no entry can stand. -/
def put (w : Workspace) (location : Location) (entry : Entry) : Workspace :=
  if h : isProper location then
    ⟨putEntry location entry w.entries, nodup_putEntry w.distinct, fun _ hMem =>
      (mem_of_mem_putEntry hMem).elim (fun hEq => hEq ▸ h) (w.proper _)⟩
  else w

/-- The workspace without a location and all that is below it. -/
def remove (w : Workspace) (location : Location) : Workspace :=
  ⟨w.entries.filter fun entry => !location.isPrefixOf entry.1,
    (List.filter_sublist.map _).nodup w.distinct,
    fun _ hMem => w.proper _ (List.mem_filter.1 hMem).1⟩

/-- The name of an entry that stands directly in a directory. -/
def childName? (directory location : Location) : Option String :=
  if location.dropLast = directory then location.getLast? else none

/-- The names of the entries that stand directly in a directory, in the order in which they were
made. -/
def children (w : Workspace) (directory : Location) : List String :=
  w.entries.filterMap fun entry => childName? directory entry.1

theorem lookup_putEntry_self (entries : List (Location × Entry)) (location : Location)
    (entry : Entry) : (putEntry location entry entries).lookup location = some entry := by
  induction entries with
  | nil => simp [putEntry]
  | cons first rest ih =>
    obtain ⟨other, old⟩ := first
    simp only [putEntry]
    split
    · simp
    · rename_i h
      have h' : (location == other) = false := by simpa using fun e => h e.symm
      simpa [List.lookup_cons, h'] using ih

theorem lookup_putEntry_of_ne (entries : List (Location × Entry)) {location other : Location}
    (entry : Entry) (h : other ≠ location) :
    (putEntry location entry entries).lookup other = entries.lookup other := by
  have hOther : (other == location) = false := by simpa using h
  induction entries with
  | nil => simp [putEntry, List.lookup_cons, hOther]
  | cons first rest ih =>
    obtain ⟨key, old⟩ := first
    simp only [putEntry]
    split
    · rename_i hk
      subst hk
      simp [List.lookup_cons, hOther]
    · simp only [List.lookup_cons]
      split
      · rfl
      · exact ih

theorem isFixed_of_isProper {location : Location} (h : isProper location = true) :
    isFixed location = false := by
  cases hLast : location.getLast? with
  | none => simp [isProper, hLast] at h
  | some name =>
    have hName : isEntryName name = true := by simpa [isProper, hLast] using h
    have hMem : name ∈ location := List.mem_of_getLast? hLast
    have hUp : name ≠ ".." := by
      rintro rfl
      exact absurd hName (by decide)
    have hRoot : location ≠ ["/"] := by
      rintro rfl
      obtain rfl : "/" = name := by simpa using hLast
      exact absurd hName (by decide)
    simp only [isFixed, Bool.or_eq_false_iff, List.all_eq_false, beq_eq_false_iff_ne]
    exact ⟨⟨name, hMem, by simpa using hUp⟩, hRoot⟩

/-- What was put at a location stands there. -/
theorem at?_put_self (w : Workspace) {location : Location} (entry : Entry)
    (h : isProper location = true) : (w.put location entry).at? location = some entry := by
  simp [at?, put, h, isFixed_of_isProper h, lookup_putEntry_self]

/-- Putting an entry changes nothing at other locations. -/
theorem at?_put_of_ne (w : Workspace) {location other : Location} (entry : Entry)
    (h : other ≠ location) : (w.put location entry).at? other = w.at? other := by
  by_cases hProper : isProper location = true
  · simp only [at?, put, hProper]
    split
    · rfl
    · exact lookup_putEntry_of_ne _ entry h
  · simp [put, hProper]

end Workspace

end ReportPress
