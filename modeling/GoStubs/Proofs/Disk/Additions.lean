import GoStubs.Proofs.Disk.Growth

/-!
# Directories that are added

A directory that was not there before has been made for one of the paths that
were asked for, and that path leads to it from then on.  Files that are put on
the disk add no directory.
-/

namespace GoStubs.Disk

variable {written : Location → Prop} {before after disk made : Disk} {location : Location}
  {path : Path} {spot : Spot} {making : Bool}

/-- Whether there is a directory at a location where there was none. -/
def Adds (before after : Disk) (location : Location) : Prop :=
  after.find? location = some .directory ∧ before.find? location ≠ some .directory

theorem not_adds_self (disk : Disk) (location : Location) : ¬ Adds disk disk location :=
  fun h => h.2 h.1

/-- Growth in which no directory is added. -/
structure GrowsByFiles (before after : Disk) : Prop where
  grows : Grows (fun _ => True) before after
  directory : ∀ location, after.find? location = some .directory →
    before.find? location = some .directory

namespace GrowsByFiles

theorem refl (disk : Disk) : GrowsByFiles disk disk := ⟨Grows.refl disk, fun _ h => h⟩

theorem trans {middle : Disk} (first : GrowsByFiles before middle)
    (last : GrowsByFiles middle after) : GrowsByFiles before after where
  grows := first.grows.trans last.grows
  directory location h := first.directory location (last.directory location h)

/-- A file that is put on a disk adds no directory. -/
theorem put (disk : Disk) (there : Location) (content : Text.Bytes) :
    GrowsByFiles disk (disk.put there (.file content)) := by
  by_cases ha : disk.Accepts there
  · refine ⟨(ha.grows_put_file content).mono fun _ _ => trivial, fun location h => ?_⟩
    rw [find?_put ha] at h
    split at h
    · cases h
    · exact h
  · rw [Disk.put, dif_neg ha]
    exact refl disk

theorem write {content : Text.Bytes} (h : disk.write path content = .ok after) :
    GrowsByFiles disk after := by
  obtain ⟨there, -, -, rfl⟩ := write_eq_ok_iff.1 h
  exact put disk there content

theorem append {content : Text.Bytes} (h : disk.append path content = .ok after) :
    GrowsByFiles disk after := by
  obtain ⟨there, kept, -, -, rfl⟩ := append_eq_ok_iff.1 h
  exact put disk there (kept ++ content)

end GrowsByFiles

/-- A walk that ended at a location ends there too once that is a directory. -/
theorem Grows.walkFrom_directory (h : Grows written before after) {here : Location}
    {segments : List Text} (hw : before.walkFrom making here segments = .ok spot)
    (hd : after.find? spot.location = some .directory) :
    after.walkFrom making here segments = .ok ⟨spot.location, false⟩ := by
  induction segments generalizing here with
  | nil =>
      cases hw
      rfl
  | cons segment rest ih =>
      rw [walkFrom_cons_eq_ok_iff] at hw ⊢
      rcases hw with ⟨hi, hw⟩ | ⟨hu, hw⟩ | ⟨hn, ⟨hf, hw⟩ | ⟨-, hempty, rfl⟩⟩
      · exact .inl ⟨hi, ih hw⟩
      · exact .inr (.inl ⟨hu, ih hw⟩)
      · exact .inr (.inr ⟨hn, .inl ⟨h.directory _ hf, ih hw⟩⟩)
      · -- What was a free name with slashes behind it is a directory with empty segments behind it.
        have hrest : after.walkFrom making (here ++ [segment]) rest =
            .ok ⟨here ++ [segment], false⟩ := by
          clear ih hd
          induction rest with
          | nil => rfl
          | cons next rest ih =>
              rw [List.all_cons, Bool.and_eq_true, List.isEmpty_iff] at hempty
              rw [hempty.1, Disk.walkFrom, if_pos (by decide)]
              exact ih hempty.2
        exact .inr (.inr ⟨hn, .inl ⟨hd, hrest⟩⟩)

theorem Grows.walk_directory (h : Grows written before after)
    (hw : before.walk path making = .ok spot)
    (hd : after.find? spot.location = some .directory) :
    after.walk path making = .ok ⟨spot.location, false⟩ := by
  rw [walk_eq_ok_iff] at hw ⊢
  rw [h.workingDirectory]
  exact ⟨hw.1, h.walkFrom_directory hw.2 hd⟩

/-! ### Directories that are made -/

theorem walk_of_makeDirectory (h : disk.makeDirectory path = .ok made)
    (ha : Adds disk made location) : made.walk path = .ok ⟨location, false⟩ := by
  obtain ⟨spot, hw, hn, rfl⟩ := makeDirectory_eq_ok_iff.1 h
  have haccepts := (accepts_of_walk hw).resolve_left (by simp [hn])
  by_cases hl : location = spot.location
  · subst hl
    exact (haccepts.grows_put_directory hn).walk_directory hw ha.1
  · have hkept := ha.1
    rw [find?_put haccepts, if_neg hl] at hkept
    exact absurd hkept ha.2

theorem walk_of_ensureDirectory (h : disk.ensureDirectory path = .ok made)
    (ha : Adds disk made location) : made.walk path = .ok ⟨location, false⟩ := by
  unfold ensureDirectory at h
  split at h
  · next hm =>
      cases h
      exact walk_of_makeDirectory hm ha
  · split at h
    · cases h
      exact absurd ha (not_adds_self disk location)
    · cases h

/-- Each directory that is added is one of those that were asked for, also before an error. -/
theorem exists_walk_of_ensureDirectories {paths : List Path}
    (h : Adds disk (disk.ensureDirectories paths).2 location) :
    ∃ path ∈ paths, (disk.ensureDirectories paths).2.walk path = .ok ⟨location, false⟩ := by
  induction paths with
  | nil => exact absurd h (not_adds_self disk location)
  | cons path parents ih =>
      rw [ensureDirectories] at h ⊢
      by_cases hp : path.text.isEmpty
      · rw [if_pos hp] at h
        exact absurd h (not_adds_self disk location)
      rw [if_neg hp] at h ⊢
      cases hd : disk.ensureDirectory path with
      | ok made =>
          rw [hd] at h
          exact ⟨path, List.mem_cons_self, walk_of_ensureDirectory hd h⟩
      | error error =>
          rw [hd] at h
          cases error with
          | notFound =>
              have hparent {middle : Disk} (hm : (disk.ensureDirectories parents).2 = middle)
                  (ha : Adds disk middle location) :
                  ∃ path ∈ parents, middle.walk path = .ok ⟨location, false⟩ := by
                subst hm
                exact ih ha
              rcases hr : disk.ensureDirectories parents with ⟨_ | _, middle⟩
              · simp only [hr] at h ⊢
                obtain ⟨other, ho, hw⟩ := hparent (by rw [hr]) h
                exact ⟨other, List.mem_cons_of_mem path ho, hw⟩
              · cases hm : middle.ensureDirectory path with
                | error error =>
                    simp only [hr, hm] at h ⊢
                    obtain ⟨other, ho, hw⟩ := hparent (by rw [hr]) h
                    exact ⟨other, List.mem_cons_of_mem path ho, hw⟩
                | ok last =>
                    simp only [hr, hm] at h ⊢
                    -- The directory is either one of the parents, or the one that came last.
                    by_cases hmiddle : middle.find? location = some .directory
                    · obtain ⟨other, ho, hw⟩ := hparent (by rw [hr]) ⟨hmiddle, h.2⟩
                      have hgrows := grows_ensureDirectory hm
                      exact ⟨other, List.mem_cons_of_mem path ho, hgrows.walk hw (.inl hmiddle)⟩
                    · exact ⟨path, List.mem_cons_self, walk_of_ensureDirectory hm ⟨h.1, hmiddle⟩⟩
          | _ => exact absurd h (not_adds_self disk location)

theorem exists_ancestor_of_makeDirectories
    (h : Adds disk (disk.makeDirectories path).2 location) :
    ∃ ancestor ∈ path.ancestors,
      (disk.makeDirectories path).2.walk ancestor = .ok ⟨location, false⟩ :=
  exists_walk_of_ensureDirectories h

end GoStubs.Disk
