import Mathlib.Data.List.Basic
import GoStubs.Proofs.Project.Scan

/-!
# What a scan depends on

A scan looks at the entries below its directory, in the order of their names, and at nothing else.
Whether it can go into a directory is settled by the length of the path there.
-/

namespace GoStubs

namespace Disk

variable {a b : Disk} {here : Location}

/-- Whether a location is below another one. -/
def isBelow (here other : Location) : Bool :=
  match Text.dropPrefix? here other with
  | some [] | none => false
  | some _ => true

theorem exists_of_isBelow {other : Location} (h : isBelow here other) :
    ∃ names, names ≠ [] ∧ other = here ++ names := by
  rcases hp : Text.dropPrefix? here other with _ | _ | ⟨name, names⟩
  · simp [isBelow, hp] at h
  · simp [isBelow, hp] at h
  · exact ⟨name :: names, by simp, Text.dropPrefix?_eq_some_iff.1 hp⟩

/-- Disks with the same entries below a location list them in the same order. -/
theorem below_congr (h : ∀ names, a.find? (here ++ names) = b.find? (here ++ names)) :
    a.below here = b.below here := by
  have hfilter (disk : Disk) : disk.below here =
      (disk.entries.filter fun other _ => isBelow here other).toList.filterMap
        fun item => match Text.dropPrefix? here item.1 with
        | some [] | none => none
        | some names => some (names, item.2) := by
    rw [Std.ExtTreeMap.toList_filter, List.filterMap_filter, below]
    apply List.filterMap_congr
    rintro ⟨other, entry⟩ _
    rcases hp : Text.dropPrefix? here other with _ | _ | ⟨name, names⟩ <;> simp [isBelow, hp]
  have hentries : (a.entries.filter fun other _ => isBelow here other) =
      b.entries.filter fun other _ => isBelow here other := by
    apply Std.ExtTreeMap.ext_getElem?
    intro other
    rw [Std.ExtTreeMap.getElem?_filter', Std.ExtTreeMap.getElem?_filter']
    by_cases hb : isBelow here other
    · obtain ⟨names, hne, rfl⟩ := exists_of_isBelow hb
      have hnames := h names
      rw [find?, find?, Entries.find?, Entries.find?, if_neg (by simp [hne]),
        if_neg (by simp [hne])] at hnames
      rw [hnames]
    · have hnone (found : Option Entry) : found.filter (fun _ => isBelow here other) = none := by
        cases found <;> simp [hb]
      rw [hnone, hnone]
  rw [hfilter, hfilter, hentries]

end Disk

namespace InterfaceFile

variable {a b : Disk} {root : Path} {settings : Settings} {start : Path} {spot : Spot}

/-- Whether a walk can go into a directory is settled by the length of its path. -/
theorem obstacle?_congr (ha : a.walk start = .ok spot) (hb : b.walk start = .ok spot)
    {item : Location × Entry} (hi : item ∈ a.below spot.location)
    (h : a.find? (spot.location ++ item.1) = b.find? (spot.location ++ item.1)) :
    obstacle? a start item = obstacle? b start item := by
  obtain ⟨names, entry⟩ := item
  obtain ⟨hentry, hne⟩ := Disk.find?_of_mem_below hi
  cases entry with
  | file content => rfl
  | directory =>
      have hwalk : a.walk (pathBelow start names) = b.walk (pathBelow start names) := by
        by_cases hl : Text.utf8Size (pathBelow start names).text ≤ Disk.longestPath
        · rw [Disk.walk_pathBelow ha hentry hne hl, Disk.walk_pathBelow hb (h ▸ hentry) hne hl]
        · obtain ⟨error, hlong⟩ := Disk.exists_walk_of_long (Nat.lt_of_not_le hl)
          rw [hlong, hlong]
      rw [obstacle?, obstacle?, hwalk]

/-- Disks with the same entries in the scan directory have the same scan. -/
theorem scan_congr (ha : a.walk (root.join settings.scanDir) = .ok spot)
    (hb : b.walk (root.join settings.scanDir) = .ok spot)
    (h : ∀ names, a.find? (spot.location ++ names) = b.find? (spot.location ++ names)) :
    scan a root settings = scan b root settings := by
  have hdirectory : a.isDirectory (root.join settings.scanDir) =
      b.isDirectory (root.join settings.scanDir) := by
    have hspot := h []
    rw [List.append_nil] at hspot
    rw [Disk.isDirectory, Disk.isDirectory, ha, hb]
    exact congrArg (· == some .directory) hspot
  have hitems := Disk.below_congr h
  have hobstacle : (b.below spot.location).findSome? (obstacle? a (root.join settings.scanDir)) =
      (b.below spot.location).findSome? (obstacle? b (root.join settings.scanDir)) := by
    rw [← hitems, ← List.head?_filterMap, ← List.head?_filterMap]
    congr 1
    apply List.filterMap_congr
    intro item hi
    exact obstacle?_congr ha hb hi (h item.1)
  simp only [scan, below, hdirectory, ha, hb, hobstacle, hitems]

end InterfaceFile

end GoStubs
