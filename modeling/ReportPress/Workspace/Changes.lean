import ReportPress.Workspace

/-!
What work changed in a workspace: every location where something else stands than before, with what
stands there now, if anything.
-/

namespace ReportPress.Workspace

/-- The entries of the second workspace that are new or altered, and then what is gone. -/
def changes (before after : Workspace) : List (Location × Option Entry) :=
  let put := after.entries.filter fun entry => before.at? entry.1 != some entry.2
  let gone := before.entries.filter fun entry => (after.at? entry.1).isNone
  put.map (fun entry => (entry.1, some entry.2)) ++ gone.map fun entry => (entry.1, none)

theorem mem_changes_some_iff {before after : Workspace} {location : Location} {entry : Entry} :
    (location, some entry) ∈ changes before after ↔
      (location, entry) ∈ after.entries ∧ before.at? location ≠ some entry := by
  simp [changes]

theorem mem_changes_none_iff {before after : Workspace} {location : Location} :
    (location, none) ∈ changes before after ↔
      (∃ entry, (location, entry) ∈ before.entries) ∧ after.at? location = none := by
  simp [changes]

end ReportPress.Workspace
