import GoStubs.Disk.File
import GoStubs.Disk.Directory
import GoStubs.Proofs.Disk.Walking

/-!
# Disks that grow

Making directories and writing files never takes an entry away.  A disk has
grown if directories and files are still what they were, and what changed apart
from the written files is that directories came where nothing was.  A walk that
ended at a file or a directory ends there on the grown disk as well.
-/

namespace GoStubs.Disk

open Text (Bytes)

/-- Growth from one disk to another, where files may have been written at some locations. -/
structure Grows (written : Location → Prop) (before after : Disk) : Prop where
  workingDirectory : after.workingDirectory = before.workingDirectory
  directory : ∀ location, before.find? location = some .directory →
    after.find? location = some .directory
  file : ∀ location content, before.find? location = some (.file content) →
    ∃ changed, after.find? location = some (.file changed)
  frame : ∀ location, ¬ written location → after.find? location = before.find? location ∨
    before.find? location = none ∧ after.find? location = some .directory

namespace Grows

variable {written : Location → Prop} {before middle after : Disk}

theorem refl (disk : Disk) : Grows written disk disk :=
  ⟨rfl, fun _ h => h, fun _ content h => ⟨content, h⟩, fun _ _ => .inl rfl⟩

theorem trans (first : Grows written before middle) (last : Grows written middle after) :
    Grows written before after where
  workingDirectory := last.workingDirectory.trans first.workingDirectory
  directory location h := last.directory location (first.directory location h)
  file location content h := by
    obtain ⟨changed, hm⟩ := first.file location content h
    exact last.file location changed hm
  frame location h := by
    rcases first.frame location h with hf | ⟨hn, hd⟩
    · rw [← hf]
      exact last.frame location h
    · exact .inr ⟨hn, last.directory location hd⟩

theorem mono {more : Location → Prop} (h : Grows written before after)
    (hm : ∀ location, written location → more location) : Grows more before after :=
  { h with frame := fun location hn => h.frame location fun hw => hn (hm location hw) }

/-- A file that was not written has the content that it had. -/
theorem file_eq (h : Grows written before after) {location : Location} (hn : ¬ written location)
    {content : Bytes} :
    after.find? location = some (.file content) ↔ before.find? location = some (.file content) := by
  rcases h.frame location hn with hf | ⟨hb, ha⟩
  · rw [hf]
  · simp [hb, ha]

end Grows

/-- A file that is put where the disk accepts one makes it grow. -/
theorem Accepts.grows_put_file {disk : Disk} {location : Location} (h : disk.Accepts location)
    (content : Bytes) : Grows (· = location) disk (disk.put location (.file content)) := by
  refine ⟨workingDirectory_put disk location _, ?_, ?_, ?_⟩
  · intro other ho
    rw [find?_put h, if_neg, ho]
    rintro rfl
    exact h.2.2.2 ho
  · intro other kept ho
    rw [find?_put h]
    by_cases hl : other = location
    · exact ⟨content, if_pos hl⟩
    · exact ⟨kept, by rw [if_neg hl, ho]⟩
  · intro other hl
    exact .inl (by rw [find?_put h, if_neg hl])

theorem Accepts.grows_put_directory {disk : Disk} {location : Location}
    (h : disk.Accepts location) (hn : disk.find? location = none) :
    Grows (fun _ => False) disk (disk.put location .directory) := by
  refine ⟨workingDirectory_put disk location _, ?_, ?_, ?_⟩
  · intro other ho
    rw [find?_put h, if_neg, ho]
    rintro rfl
    exact h.2.2.2 ho
  · intro other kept ho
    refine ⟨kept, ?_⟩
    rw [find?_put h, if_neg, ho]
    rintro rfl
    simp [hn] at ho
  · intro other _
    rw [find?_put h]
    by_cases hl : other = location
    · subst hl
      exact .inr ⟨hn, if_pos rfl⟩
    · exact .inl (if_neg hl)

/-! ## Making directories -/

section Directories

variable {disk after : Disk} {path : Path}

theorem grows_makeDirectory (h : disk.makeDirectory path = .ok after) :
    Grows (fun _ => False) disk after := by
  obtain ⟨spot, hw, hn, rfl⟩ := makeDirectory_eq_ok_iff.1 h
  have ha := (accepts_of_walk hw).resolve_left (by simp [hn])
  exact ha.grows_put_directory hn

theorem grows_ensureDirectory (h : disk.ensureDirectory path = .ok after) :
    Grows (fun _ => False) disk after := by
  unfold ensureDirectory at h
  split at h
  · next made hm =>
      cases h
      exact grows_makeDirectory hm
  · split at h
    · cases h
      exact Grows.refl disk
    · simp at h

/-- Also the directories that are made before an error only add to the disk. -/
theorem grows_ensureDirectories (disk : Disk) (paths : List Path) :
    Grows (fun _ => False) disk (disk.ensureDirectories paths).2 := by
  induction paths with
  | nil => exact Grows.refl disk
  | cons path parents ih =>
      rw [ensureDirectories]
      by_cases hp : path.text.isEmpty
      · rw [if_pos hp]
        exact Grows.refl disk
      rw [if_neg hp]
      cases hd : disk.ensureDirectory path with
      | ok made => exact grows_ensureDirectory hd
      | error error =>
          cases error with
          | notFound =>
              rcases hr : disk.ensureDirectories parents with ⟨_ | _, made⟩
              · rw [hr] at ih
                exact ih
              · rw [hr] at ih
                cases hm : made.ensureDirectory path with
                | ok last => simpa [hm] using ih.trans (grows_ensureDirectory hm)
                | error error => simpa [hm] using ih
          | _ => exact Grows.refl disk

theorem grows_makeDirectories (disk : Disk) (path : Path) :
    Grows (fun _ => False) disk (disk.makeDirectories path).2 :=
  grows_ensureDirectories disk path.ancestors

end Directories

/-! ## Walking a grown disk -/

namespace Grows

variable {written : Location → Prop} {before after : Disk} {making again : Bool} {spot : Spot}

/-- What a walk ended at is still its end if it was a directory or is a file now. -/
theorem walkFrom (h : Grows written before after) {here : Location} {segments : List Text}
    (hw : before.walkFrom making here segments = .ok spot)
    (hs : before.find? spot.location = some .directory ∨
      ∃ content, after.find? spot.location = some (.file content)) :
    after.walkFrom making here segments = .ok spot := by
  induction segments generalizing here with
  | nil => exact hw
  | cons segment rest ih =>
      rw [walkFrom_cons_eq_ok_iff] at hw ⊢
      rcases hw with ⟨hi, hw⟩ | ⟨hu, hw⟩ | ⟨hn, ⟨hd, hw⟩ | ⟨hd, hr, rfl⟩⟩
      · exact .inl ⟨hi, ih hw⟩
      · exact .inr (.inl ⟨hu, ih hw⟩)
      · exact .inr (.inr ⟨hn, .inl ⟨h.directory _ hd, ih hw⟩⟩)
      · refine .inr (.inr ⟨hn, .inr ⟨?_, hr, rfl⟩⟩)
        obtain ⟨content, hf⟩ := hs.resolve_left hd
        simp [hf]

theorem walk (h : Grows written before after) {path : Path}
    (hw : before.walk path making = .ok spot)
    (hs : before.find? spot.location = some .directory ∨
      ∃ content, after.find? spot.location = some (.file content)) :
    after.walk path again = .ok spot := by
  apply walk_again
  rw [walk_eq_ok_iff] at hw ⊢
  rw [h.workingDirectory]
  exact ⟨hw.1, h.walkFrom hw.2 hs⟩

end Grows

end GoStubs.Disk
