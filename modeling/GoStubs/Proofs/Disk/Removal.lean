import GoStubs.Disk.Directory
import GoStubs.Disk.File
import GoStubs.Proofs.Disk.Walking
import GoStubs.Proofs.Project.Scan

/-!
# Removing a file

Taking a file away changes nothing else, since nothing lies below a file.  The directories are the
same, and so the paths that can be walked are, with the same ends.
-/

namespace GoStubs

theorem Entries.getElem?_without (entries : Entries) (location other : Location) :
    (entries.without location)[other]? = if location <+: other then none else entries[other]? := by
  rw [Entries.without, Std.ExtTreeMap.getElem?_filter']
  by_cases hp : location <+: other
  · have hprefix : location.isPrefixOf other := List.isPrefixOf_iff_prefix.2 hp
    cases entries[other]? <;> simp [hp, hprefix]
  · have hprefix : location.isPrefixOf other = false := by
      rw [← Bool.not_eq_true, List.isPrefixOf_iff_prefix]
      exact hp
    cases entries[other]? <;> simp [hp, hprefix]

namespace Disk

variable {disk other : Disk} {location : Location} {content : Text.Bytes} {path : Path}
  {making : Bool} {spot : Spot}

theorem not_prefix_of_file (h : disk.find? location = some (.file content)) {place : Location}
    {entry : Entry} (he : disk.find? place = some entry) (hne : place ≠ location) :
    ¬ location <+: place := by
  rintro ⟨names, rfl⟩
  have hnames : names ≠ [] := by
    rintro rfl
    exact hne (List.append_nil _)
  rw [find?_of_append he hnames] at h
  cases h

theorem remove_eq_of_file (h : disk.find? location = some (.file content)) :
    (disk.remove location).entries = disk.entries.without location ∧
      (disk.remove location).workingDirectory = disk.workingDirectory := by
  have hhome : ¬ location <+: disk.workingDirectory := by
    refine not_prefix_of_file h disk.home ?_
    rintro rfl
    cases h.symm.trans disk.home
  simp [remove, hhome]

@[simp] theorem workingDirectory_remove (disk : Disk) (location : Location) :
    (disk.remove location).workingDirectory = disk.workingDirectory := by
  unfold remove
  split <;> rfl

/-- When a file is removed, all other entries stay. -/
theorem find?_remove (h : disk.find? location = some (.file content)) (place : Location) :
    (disk.remove location).find? place = if place = location then none else disk.find? place := by
  have hroot : location ≠ [] := by
    rintro rfl
    cases h
  rw [find?, Entries.find?, (remove_eq_of_file h).1, Entries.getElem?_without]
  by_cases hp : place = []
  · subst hp
    rw [if_pos rfl, if_neg (Ne.symm hroot)]
    rfl
  · rw [if_neg hp]
    by_cases hl : place = location
    · rw [if_pos hl, hl, if_pos List.prefix_rfl]
    · have hplace : disk.find? place = disk.entries[place]? := by
        rw [find?, Entries.find?, if_neg hp]
      rw [if_neg hl, hplace, ite_eq_right_iff]
      intro hprefix
      cases he : disk.entries[place]? with
      | none => rfl
      | some entry => exact absurd hprefix (not_prefix_of_file h (hplace.trans he) hl)

theorem find?_remove_eq_directory_iff (h : disk.find? location = some (.file content))
    (place : Location) : (disk.remove location).find? place = some .directory ↔
      disk.find? place = some .directory := by
  rw [find?_remove h]
  split
  · next heq => simp [heq, h]
  · rfl

/-- Where walks end is settled by the directories. -/
theorem walkFrom_congr
    (h : ∀ place, disk.find? place = some .directory ↔ other.find? place = some .directory)
    {here : Location} {segments : List Text} :
    disk.walkFrom making here segments = .ok spot ↔
      other.walkFrom making here segments = .ok spot := by
  induction segments generalizing here with
  | nil => rfl
  | cons segment rest ih => simp only [walkFrom_cons_eq_ok_iff, ih, h, ne_eq]

theorem walk_remove_iff (h : disk.find? location = some (.file content)) :
    (disk.remove location).walk path making = .ok spot ↔ disk.walk path making = .ok spot := by
  rw [walk_eq_ok_iff, walk_eq_ok_iff, workingDirectory_remove,
    walkFrom_congr (find?_remove_eq_directory_iff h)]

theorem removeAll_of_file (hw : disk.walk path = .ok ⟨location, false⟩)
    (h : disk.find? location = some (.file content)) :
    disk.removeAll path = (true, disk.remove location) := by
  simp [removeAll, hw, h]

/-- A path that a file has been removed from leads to nothing. -/
theorem read_remove (hw : disk.walk path = .ok ⟨location, false⟩)
    (h : disk.find? location = some (.file content)) :
    (disk.remove location).read path = .error .notFound := by
  have hnone : (disk.remove location).find? location = none := by rw [find?_remove h, if_pos rfl]
  rw [read, (walk_remove_iff h).2 hw]
  simp [bind, Except.bind, contentAt, hnone]

end Disk

end GoStubs
