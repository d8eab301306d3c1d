import Std.Data.ExtTreeMap
import GoStubs.Text.Utf8
import GoStubs.Path

/-!
# Disks

A disk maps locations to directories and files; a location is the list of names
from the root. Every entry lies in a directory and every name on the way to it
is a file name. Operations keep this, because an entry is only put where a
directory accepts it. Paths are read from a working directory.

So what holds of all disks holds of trees of directories and regular files that
may all be read and written. There are no links, no permissions and no devices,
and names are texts: a name whose bytes are not UTF-8 is on no disk.
-/

namespace GoStubs

open Text (Bytes)

abbrev Location := List Text

inductive Entry
  | directory
  | file (content : Bytes)
  deriving DecidableEq, Repr

abbrev Entries := Std.ExtTreeMap Location Entry compare

namespace Entries

/-- The entry at a location; the root is a directory. -/
def find? (entries : Entries) (location : Location) : Option Entry :=
  if location = [] then some .directory else entries[location]?

@[simp] theorem find?_nil (entries : Entries) : entries.find? [] = some .directory := rfl

theorem find?_insert (entries : Entries) {location : Location} (h : location ≠ []) (entry : Entry)
    (other : Location) :
    find? (entries.insert location entry) other =
      if other = location then some entry else entries.find? other := by
  unfold find?
  by_cases ho : other = []
  · simp [ho, Ne.symm h]
  · by_cases hl : other = location
    · simp [hl, h]
    · simp [ho, hl, Std.ExtTreeMap.getElem?_insert, Ne.symm hl]

theorem mem_of_find? {entries : Entries} {location : Location} {entry : Entry}
    (hl : location ≠ []) (h : entries.find? location = some entry) : location ∈ entries := by
  rw [find?, if_neg hl] at h
  rw [Std.ExtTreeMap.mem_iff_isSome_getElem?, h]
  rfl

/-- The entries that lie neither at a location nor below it. -/
def without (entries : Entries) (location : Location) : Entries :=
  entries.filter fun other _ => !location.isPrefixOf other

theorem find?_without (entries : Entries) {location other : Location} (h : ¬ location <+: other) :
    (entries.without location).find? other = entries.find? other := by
  unfold find? without
  by_cases ho : other = []
  · simp [ho]
  · have hp : location.isPrefixOf other = false := by
      rw [← Bool.not_eq_true, List.isPrefixOf_iff_prefix]
      exact h
    have hf (found : Option Entry) : found.filter (fun _ => true) = found := by
      cases found <;> simp
    simp [ho, hp, hf]

theorem mem_of_mem_without {entries : Entries} {location other : Location}
    (h : other ∈ entries.without location) : other ∈ entries ∧ ¬ location <+: other := by
  unfold without at h
  obtain ⟨hm, hp⟩ := Std.ExtTreeMap.mem_filter.1 h
  rw [Bool.not_eq_true', ← Bool.not_eq_true, List.isPrefixOf_iff_prefix] at hp
  exact ⟨hm, by simpa using hp⟩

end Entries

/-- A name that a directory can give to an entry. -/
def isFileName (name : Text) : Bool :=
  name != [] && name != ['.'] && name != ['.', '.'] && !name.contains '/' &&
    !name.contains '\x00' && Text.utf8Size name ≤ 255

theorem isFileName_iff {name : Text} :
    isFileName name ↔ (Path.isIdle name = false ∧ name ≠ ['.', '.'] ∧ Text.utf8Size name ≤ 255) ∧
      '/' ∉ name ∧ '\x00' ∉ name := by
  simp only [isFileName, Path.isIdle, Bool.and_eq_true, bne_iff_ne, Bool.not_eq_true',
    Bool.or_eq_false_iff, beq_eq_false_iff_ne, List.contains_eq_mem, decide_eq_false_iff_not,
    decide_eq_true_eq]
  constructor
  · rintro ⟨⟨⟨⟨hi, hu⟩, hs⟩, hz⟩, hl⟩
    exact ⟨⟨hi, hu, hl⟩, hs, hz⟩
  · rintro ⟨⟨hi, hu, hl⟩, hs, hz⟩
    exact ⟨⟨⟨⟨hi, hu⟩, hs⟩, hz⟩, hl⟩

structure Disk where
  entries : Entries
  workingDirectory : Location
  /-- The parent of every entry is a directory. -/
  rooted : ∀ location name, (location ++ [name]) ∈ entries →
    entries.find? location = some .directory
  named : ∀ location ∈ entries, location.all isFileName
  home : entries.find? workingDirectory = some .directory

namespace Disk

def blank : Disk where
  entries := ∅
  workingDirectory := []
  rooted := by simp
  named := by simp
  home := rfl

def find? (disk : Disk) (location : Location) : Option Entry := disk.entries.find? location

/-- What an entry lies in is a directory. -/
theorem find?_dropLast {disk : Disk} {location : Location} {entry : Entry}
    (h : disk.find? location = some entry) :
    disk.find? location.dropLast = some .directory := by
  by_cases hl : location = []
  · subst hl
    rfl
  · apply disk.rooted _ (location.getLast hl)
    rw [List.dropLast_concat_getLast]
    exact Entries.mem_of_find? hl h

theorem isFileName_of_find? {disk : Disk} {location : Location} {entry : Entry}
    (h : disk.find? location = some entry) : location.all isFileName := by
  by_cases hl : location = []
  · subst hl
    rfl
  · exact disk.named _ (Entries.mem_of_find? hl h)

/-- Whether an entry can be put at a location: its parent is a directory, and what is there
already is no directory. -/
def Accepts (disk : Disk) (location : Location) : Prop :=
  location ≠ [] ∧ location.all isFileName ∧
    disk.find? location.dropLast = some .directory ∧ disk.find? location ≠ some .directory

instance (disk : Disk) (location : Location) : Decidable (disk.Accepts location) :=
  inferInstanceAs (Decidable (_ ∧ _ ∧ _ ∧ _))

/-- A directory keeps being one when an entry is put where the disk accepts it. -/
theorem Accepts.find?_insert {disk : Disk} {location : Location} (h : disk.Accepts location)
    (entry : Entry) {other : Location} (ho : disk.find? other = some .directory) :
    Entries.find? (disk.entries.insert location entry) other = some .directory := by
  rw [Entries.find?_insert _ h.1]
  have hne : other ≠ location := fun he => h.2.2.2 (he ▸ ho)
  rw [if_neg hne]
  exact ho

/-- Puts an entry at a location, if the disk accepts one there. -/
def put (disk : Disk) (location : Location) (entry : Entry) : Disk :=
  if h : disk.Accepts location then
    { entries := disk.entries.insert location entry
      workingDirectory := disk.workingDirectory
      rooted := by
        intro parent name hm
        rcases Std.ExtTreeMap.mem_insert.1 hm with he | hm
        · have he := Std.LawfulEqCmp.eq_of_compare he
          apply h.find?_insert entry
          simpa [he] using h.2.2.1
        · exact h.find?_insert entry (disk.rooted parent name hm)
      named := by
        intro other hm
        rcases Std.ExtTreeMap.mem_insert.1 hm with he | hm
        · exact Std.LawfulEqCmp.eq_of_compare he ▸ h.2.1
        · exact disk.named other hm
      home := h.find?_insert entry disk.home }
  else disk

theorem find?_put {disk : Disk} {location : Location} (h : disk.Accepts location) (entry : Entry)
    (other : Location) :
    (disk.put location entry).find? other =
      if other = location then some entry else disk.find? other := by
  simp only [put, h, dif_pos, find?]
  exact Entries.find?_insert _ h.1 _ _

@[simp] theorem workingDirectory_put (disk : Disk) (location : Location) (entry : Entry) :
    (disk.put location entry).workingDirectory = disk.workingDirectory := by
  unfold put
  split <;> rfl

/-- Takes away the entry at a location and all entries below it, unless the working directory is
among them. -/
def remove (disk : Disk) (location : Location) : Disk :=
  if h : location <+: disk.workingDirectory then disk
  else
    { entries := disk.entries.without location
      workingDirectory := disk.workingDirectory
      rooted := by
        intro parent name hm
        obtain ⟨hm, hp⟩ := Entries.mem_of_mem_without hm
        rw [Entries.find?_without _ fun hq => hp (hq.trans (List.prefix_append _ _))]
        exact disk.rooted parent name hm
      named := fun other hm => disk.named other (Entries.mem_of_mem_without hm).1
      home := by
        rw [Entries.find?_without _ h]
        exact disk.home }

/-- Takes another working directory, if it is a directory. -/
def enter (disk : Disk) (location : Location) : Disk :=
  if h : disk.find? location = some .directory then
    { disk with workingDirectory := location, home := h }
  else disk

/-- Two disks with the same working directory and the same entries are the same. -/
theorem ext_find? {a b : Disk} (hw : a.workingDirectory = b.workingDirectory)
    (h : ∀ location, a.find? location = b.find? location)
    (hr : a.entries[([] : Location)]? = b.entries[([] : Location)]?) : a = b := by
  have he : a.entries = b.entries := by
    apply Std.ExtTreeMap.ext_getElem?
    intro location
    by_cases hl : location = []
    · subst hl; exact hr
    · simpa [find?, Entries.find?, hl] using h location
  cases a
  cases b
  cases he
  cases hw
  rfl

/-- The entries below a location, by what their locations have more, in the order of names. -/
def below (disk : Disk) (location : Location) : List (Location × Entry) :=
  disk.entries.toList.filterMap fun (other, entry) =>
    match Text.dropPrefix? location other with
    | some [] | none => none
    | some names => some (names, entry)

end Disk

end GoStubs
