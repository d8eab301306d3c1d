import GoStubs.Project.Scan
import GoStubs.Proofs.Disk.Growth

/-!
# Where interface files lie

The path of a scanned file leads to it.  The walk that finds the file joins the
names of its location to the path of the scan directory, and these names lead
through the directories that the location runs through.
-/

namespace GoStubs

namespace Disk

/-- What an entry lies in, at any distance, is a directory. -/
theorem find?_of_append {disk : Disk} {location names : Location} {entry : Entry}
    (h : disk.find? (location ++ names) = some entry) (hn : names ≠ []) :
    disk.find? location = some .directory := by
  induction names generalizing location with
  | nil => exact absurd rfl hn
  | cons name rest ih =>
      rw [List.append_cons] at h
      have hd : ∃ other, disk.find? (location ++ [name]) = some other := by
        by_cases hr : rest = []
        · exact ⟨entry, by simpa [hr] using h⟩
        · exact ⟨.directory, ih h hr⟩
      obtain ⟨other, ho⟩ := hd
      simpa using find?_dropLast ho

/-- The entries below a location are the ones whose locations have more names. -/
theorem find?_of_mem_below {disk : Disk} {location names : Location} {entry : Entry}
    (h : (names, entry) ∈ disk.below location) :
    disk.find? (location ++ names) = some entry ∧ names ≠ [] := by
  obtain ⟨⟨other, found⟩, hm, hmatch⟩ := List.mem_filterMap.1 h
  have hfound := Std.ExtTreeMap.mem_toList_iff_getElem?_eq_some.1 hm
  cases hp : Text.dropPrefix? location other with
  | none => simp [hp] at hmatch
  | some rest =>
      cases rest with
      | nil => simp [hp] at hmatch
      | cons name rest =>
          simp only [hp, Option.some.injEq, Prod.mk.injEq] at hmatch
          obtain ⟨rfl, rfl⟩ := hmatch
          rw [Text.dropPrefix?_eq_some_iff] at hp
          subst hp
          refine ⟨?_, by simp⟩
          rw [find?, Entries.find?, if_neg (by simp)]
          exact hfound

theorem utf8Size_le_pathBelow (start : Path) {names : Location}
    (hn : ∀ name ∈ names, '/' ∉ name) :
    Text.utf8Size start.text ≤ Text.utf8Size (InterfaceFile.pathBelow start names).text := by
  induction names generalizing start with
  | nil => exact Nat.le_refl _
  | cons name rest ih =>
      obtain ⟨gap, htext, -⟩ := exists_text_join start (hn name List.mem_cons_self)
      calc
        Text.utf8Size start.text ≤ Text.utf8Size (start.join name).text := by
          simp only [htext, Text.utf8Size_append]
          omega
        _ ≤ Text.utf8Size (InterfaceFile.pathBelow (start.join name) rest).text :=
          ih (start.join name) fun other ho => hn other (List.mem_cons_of_mem _ ho)

/-- The path of a directory with the names of an entry below it leads there, if it is not too
long. -/
theorem walk_pathBelow {disk : Disk} {start : Path} {here names : Location} {slash : Bool}
    {entry : Entry} (hw : disk.walk start = .ok ⟨here, slash⟩)
    (hf : disk.find? (here ++ names) = some entry) (hn : names ≠ [])
    (hl : Text.utf8Size (InterfaceFile.pathBelow start names).text ≤ longestPath) :
    disk.walk (InterfaceFile.pathBelow start names) = .ok ⟨here ++ names, false⟩ := by
  induction names generalizing start here slash with
  | nil => exact absurd rfl hn
  | cons name rest ih =>
      have hall := isFileName_of_find? hf
      rw [List.append_cons] at hf ⊢
      have hname : ∃ other, disk.find? (here ++ [name]) = some other := by
        by_cases hr : rest = []
        · exact ⟨entry, by simpa [hr] using hf⟩
        · exact ⟨.directory, find?_of_append hf hr⟩
      obtain ⟨other, ho⟩ := hname
      have hrest : ∀ next ∈ rest, '/' ∉ next := by
        intro next hm
        exact (isFileName_iff.1 (List.all_eq_true.1 hall next (by simp [hm]))).2.1
      have hjoin := walk_join hw ho (Nat.le_trans (utf8Size_le_pathBelow _ hrest) hl)
      by_cases hr : rest = []
      · simpa [hr, InterfaceFile.pathBelow] using hjoin
      · exact ih hjoin hf hr hl

end Disk

namespace InterfaceFile

variable {disk : Disk} {root : Path} {settings : Settings} {files : List InterfaceFile}

/-- What the scan makes of the items below the scan directory. -/
theorem exists_item_of_mem_scan (h : scan disk root settings = .ok files) {file : InterfaceFile}
    (hf : file ∈ files) :
    ∃ spot item, disk.walk (root.join settings.scanDir) = .ok spot ∧
      item ∈ disk.below spot.location ∧
      ofItem? (root.join settings.scanDir) settings.targetFile item = some file := by
  simp only [scan, below] at h
  by_cases hd : disk.isDirectory (root.join settings.scanDir)
  · rw [if_pos hd] at h
    cases hw : disk.walk (root.join settings.scanDir) with
    | error error =>
        rw [hw] at h
        cases h
        simp at hf
    | ok spot =>
        rw [hw] at h
        dsimp only at h
        split at h
        · simp at h
        · cases h
          obtain ⟨item, hm, hfile⟩ := List.mem_filterMap.1 hf
          exact ⟨spot, item, rfl, hm, hfile⟩
  · rw [if_neg hd] at h
    cases h
    simp at hf

theorem ofItem?_eq_some {start : Path} {target : Text} {item : Location × Entry}
    {file : InterfaceFile} (h : ofItem? start target item = some file) :
    ∃ group name names content, item = (group :: name :: names, .file content) ∧
      (name :: names).getLast? = some target ∧
      file = ⟨group, pathBelow start (group :: name :: names)⟩ := by
  unfold ofItem? at h
  split at h
  · next group name names content =>
      split at h
      · next ht =>
          cases h
          exact ⟨group, name, names, content, rfl, ht, rfl⟩
      · simp at h
  · simp at h

/-- A scanned file is a file of the disk, and its path leads to it if it is not too long. -/
theorem exists_location_of_mem_scan (h : scan disk root settings = .ok files)
    {file : InterfaceFile} (hf : file ∈ files) :
    ∃ location content, disk.find? location = some (.file content) ∧
      (Text.utf8Size file.path.text ≤ Disk.longestPath →
        disk.walk file.path = .ok ⟨location, false⟩) := by
  obtain ⟨spot, item, hw, hm, hfile⟩ := exists_item_of_mem_scan h hf
  obtain ⟨group, name, names, content, rfl, -, rfl⟩ := ofItem?_eq_some hfile
  obtain ⟨hentry, hn⟩ := Disk.find?_of_mem_below hm
  exact ⟨_, content, hentry, fun hl => Disk.walk_pathBelow hw hentry hn hl⟩

end InterfaceFile

end GoStubs
