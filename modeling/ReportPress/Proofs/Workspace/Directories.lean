import ReportPress.Proofs.Workspace.Files

/-!
What making a directory changes. Directories are made on the way to the path where nothing stood
before, whether or not the last is reached, and everything else stays as it was. Main statement:
`makesDirectories_makeDirectories`.
-/

namespace ReportPress

/-- The path of the first names of a path. -/
def Path.front (path : Path) (count : Nat) : Path := ⟨path.anchor, path.names.take count⟩

namespace Workspace

/-- The second workspace is the first with directories on the way to a path, made where nothing
stood. -/
def MakesDirectories (w w' : Workspace) (path : Path) : Prop :=
  ∀ location, w'.at? location = w.at? location ∨
    w.at? location = none ∧ w'.at? location = some .directory ∧
      ∃ count, (path.front count).target = location

section

variable {w w' w'' : Workspace} {path : Path}

theorem MakesDirectories.refl (w : Workspace) (path : Path) : MakesDirectories w w path :=
  fun _ => .inl rfl

theorem MakesDirectories.trans (h : MakesDirectories w w' path)
    (h' : MakesDirectories w' w'' path) : MakesDirectories w w'' path := by
  intro location
  rcases h location with hSame | ⟨hNone, hMade, hOnWay⟩
  · rw [← hSame]
    exact h' location
  · rcases h' location with hSame | ⟨hNone', -⟩
    · exact .inr ⟨hNone, hSame.trans hMade, hOnWay⟩
    · rw [hMade] at hNone'
      cases hNone'

theorem MakesDirectories.keepsDirectories (h : MakesDirectories w w' path) :
    KeepsDirectories w w' := by
  intro location hAt
  rcases h location with hSame | ⟨hNone, -⟩
  · rw [hSame, hAt]
  · rw [hAt] at hNone
    cases hNone

theorem MakesDirectories.readBytes (h : MakesDirectories w w' path) {file : Path}
    {bytes : List UInt8} (hBytes : w.readBytes file = .ok bytes) :
    w'.readBytes file = .ok bytes := by
  obtain ⟨location, hLocate, hAt⟩ := readBytes_eq_ok_iff.1 hBytes
  refine readBytes_eq_ok_iff.2
    ⟨location, locate_of_keepsDirectories h.keepsDirectories hLocate, ?_⟩
  rcases h location with hSame | ⟨hNone, -⟩
  · rw [hSame, hAt]
  · rw [hAt] at hNone
    cases hNone

theorem makeDirectory_eq_ok_iff : w.makeDirectory path = .ok w' ↔
    ∃ location, w.locate path = .ok location ∧ w.at? location = none ∧
      w.put location .directory = w' := by
  unfold makeDirectory
  cases hLocate : w.locate path with
  | error obstacle => simp
  | ok location => cases hAt : w.at? location <;> simp [hAt]

theorem makesDirectories_makeDirectory {count : Nat}
    (h : w.makeDirectory (path.front count) = .ok w') : MakesDirectories w w' path := by
  obtain ⟨place, hLocate, hAt, rfl⟩ := makeDirectory_eq_ok_iff.1 h
  intro location
  by_cases hSame : location = place
  · subst hSame
    by_cases hProper : isProper location = true
    · exact .inr ⟨hAt, at?_put_self w _ hProper, count, target_of_locate hLocate⟩
    · exact .inl (by simp [put, hProper])
  · exact .inl (at?_put_of_ne w _ hSame)

theorem makesDirectories_ensureDirectory (w : Workspace) (path : Path) (count : Nat) :
    MakesDirectories w (w.ensureDirectory (path.front count)).1 path := by
  unfold ensureDirectory
  cases hMade : w.makeDirectory (path.front count) with
  | ok made => exact makesDirectories_makeDirectory hMade
  | error e =>
    dsimp only
    split
    · exact .refl w path
    · exact .refl w path
    · split <;> exact .refl w path

theorem makesDirectories_makeDirectoriesTo (w : Workspace) (path : Path) (count : Nat) :
    MakesDirectories w (w.makeDirectoriesTo path count).1 path := by
  induction count with
  | zero => exact makesDirectories_ensureDirectory w path 0
  | succ count ih =>
    have hLast (w : Workspace) := makesDirectories_ensureDirectory w path (count + 1)
    unfold makeDirectoriesTo
    dsimp only
    -- only where the directory in front is missing are those that hold it made first
    split
    · split
      · rename_i made hHolding
        rw [hHolding] at ih
        exact ih.trans (hLast made)
      · exact ih
    · exact hLast w

/-- Making a directory and those that hold it makes directories on the way to it. -/
theorem makesDirectories_makeDirectories (w : Workspace) (path : Path) :
    MakesDirectories w (w.makeDirectories path).1 path :=
  makesDirectories_makeDirectoriesTo w path path.names.length

end

end Workspace

end ReportPress
