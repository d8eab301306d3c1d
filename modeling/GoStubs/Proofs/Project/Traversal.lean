import GoStubs.Proofs.Disk.Listing
import GoStubs.Proofs.Project.Sources

/-!
# Which files a scan lists

A scan lists the files named like the target in the groups of the scan
directory, in the order of the names on the way to them. Two disks with the same
targets in the same places have the same scan, whatever else is on them.
-/

namespace GoStubs

namespace InterfaceFile

open Disk (Lists Traverses)

variable {disk other : Disk} {start root : Path} {settings : Settings} {here names : Location}
  {target : Text} {slash : Bool} {places : List Location}

/-- A walk can go into each directory below the path. -/
def OpenBelow (disk : Disk) (start : Path) : Prop :=
  ∀ here slash names, disk.walk start = .ok ⟨here, slash⟩ →
    disk.find? (here ++ names) = some .directory →
      ∃ spot, disk.walk (pathBelow start names) = .ok spot

/-- From the path, the names lead to a file that is named `target` and lies in a group. -/
def LeadsToTarget (disk : Disk) (start : Path) (target : Text) (names : Location) : Prop :=
  2 ≤ names.length ∧ names.getLast? = some target ∧
    ∃ here slash content, disk.walk start = .ok ⟨here, slash⟩ ∧
      disk.find? (here ++ names) = some (.file content)

/-- The targets below a path, in the order of the bytes of their names. -/
structure ListsTargets (disk : Disk) (start : Path) (target : Text) (places : List Location) :
    Prop where
  mem_iff : ∀ names, names ∈ places ↔ LeadsToTarget disk start target names
  sorted : places.Pairwise fun a b => Location.bytes a < Location.bytes b

/-- The interface file to which names lead from a path. Its group is the first of them. -/
def ofNames (start : Path) (names : Location) : InterfaceFile :=
  ⟨names.head?.getD [], pathBelow start names⟩

/-- The names that lead to an item, if that is a file named `target` in a group. -/
def target? (target : Text) : Location × Entry → Option Location
  | (names, .file _) => if 2 ≤ names.length ∧ names.getLast? = some target then some names else none
  | (_, .directory) => none

theorem target?_eq_some_iff {item : Location × Entry} :
    target? target item = some names ↔
      2 ≤ names.length ∧ names.getLast? = some target ∧ ∃ content, item = (names, .file content) := by
  obtain ⟨location, _ | content⟩ := item
  · simp [target?]
  · simp only [target?, Option.ite_none_right_eq_some, Option.some.injEq, Prod.mk.injEq,
      Entry.file.injEq]
    constructor
    · rintro ⟨⟨hl, ht⟩, rfl⟩
      exact ⟨hl, ht, content, rfl, rfl⟩
    · rintro ⟨hl, ht, -, rfl, -⟩
      exact ⟨⟨hl, ht⟩, rfl⟩

theorem ofItem?_eq_map_target? (item : Location × Entry) :
    ofItem? start target item = (target? target item).map (ofNames start) := by
  obtain ⟨_ | ⟨group, _ | ⟨name, names⟩⟩, _ | content⟩ := item
  · rfl
  · rfl
  · rfl
  · rfl
  · rfl
  · simp only [ofItem?, target?, List.getLast?_cons_cons, List.length_cons, Nat.le_add_left,
      true_and]
    split <;> rfl

theorem filterMap_ofItem? (items : List (Location × Entry)) :
    items.filterMap (ofItem? start target) =
      (items.filterMap (target? target)).map (ofNames start) := by
  rw [List.map_filterMap, funext ofItem?_eq_map_target?]

/-- The targets among the items below a directory. -/
theorem listsTargets_below (hw : disk.walk start = .ok ⟨here, slash⟩) :
    ListsTargets disk start target ((disk.below here).filterMap (target? target)) where
  mem_iff names := by
    rw [List.mem_filterMap]
    constructor
    · rintro ⟨item, hm, ht⟩
      obtain ⟨hl, hn, content, rfl⟩ := target?_eq_some_iff.1 ht
      exact ⟨hl, hn, here, slash, content, hw, (Disk.mem_below_iff.1 hm).2⟩
    · rintro ⟨hl, hn, there, last, content, hwalk, hf⟩
      rw [hw] at hwalk
      cases hwalk
      have hne : names ≠ [] := by
        rintro rfl
        cases hn
      exact ⟨(names, .file content), Disk.mem_below_iff.2 ⟨hne, hf⟩,
        target?_eq_some_iff.2 ⟨hl, hn, content, rfl⟩⟩
  sorted := by
    refine (Disk.sorted_below disk here).filterMap _ ?_
    intro first last hlt a ha b hb
    obtain ⟨-, -, _, rfl⟩ := target?_eq_some_iff.1 ha
    obtain ⟨-, -, _, rfl⟩ := target?_eq_some_iff.1 hb
    exact hlt

theorem ListsTargets.eq {others : List Location} (h : ListsTargets disk start target places)
    (ho : ListsTargets other start target others)
    (hsame : ∀ names, LeadsToTarget other start target names ↔
      LeadsToTarget disk start target names) : others = places := by
  have : Std.Irrefl fun a b : Location => Location.bytes a < Location.bytes b :=
    ⟨fun _ => List.lt_irrefl _⟩
  have : Std.Antisymm fun a b : Location => Location.bytes a < Location.bytes b :=
    ⟨fun _ _ hab hba => absurd hba (List.lt_asymm hab)⟩
  refine ho.sorted.eq_of_mem_iff h.sorted ?_
  intro names
  rw [ho.mem_iff, h.mem_iff, hsame]

/-! ### The scan -/

theorem openBelow_iff (hw : disk.walk start = .ok ⟨here, slash⟩) :
    OpenBelow disk start ↔ (disk.below here).findSome? (obstacle? disk start) = none := by
  rw [List.findSome?_eq_none_iff]
  constructor
  · rintro h ⟨names, _ | content⟩ hm
    · obtain ⟨spot, hspot⟩ := h here slash names hw (Disk.mem_below_iff.1 hm).2
      simp only [obstacle?, hspot]
    · rfl
  · intro h there last names hwalk hd
    rw [hw] at hwalk
    cases hwalk
    by_cases hn : names = []
    · subst hn
      exact ⟨_, hw⟩
    · have hitem := h (names, .directory) (Disk.mem_below_iff.2 ⟨hn, hd⟩)
      cases hspot : disk.walk (pathBelow start names) with
      | error error => simp [obstacle?, hspot] at hitem
      | ok spot => exact ⟨spot, rfl⟩

theorem below_eq_nil (h : disk.find? here ≠ some .directory) : disk.below here = [] := by
  apply List.eq_nil_iff_forall_not_mem.2
  rintro ⟨names, entry⟩ hm
  obtain ⟨hn, he⟩ := Disk.mem_below_iff.1 hm
  exact h (Disk.find?_of_append he hn)

theorem scan_of_walk (h : OpenBelow disk (root.join settings.scanDir))
    (hw : disk.walk (root.join settings.scanDir) = .ok ⟨here, slash⟩) :
    scan disk root settings = .ok ((disk.below here).filterMap
      (ofItem? (root.join settings.scanDir) settings.targetFile)) := by
  rw [scan]
  by_cases hd : disk.find? here = some .directory
  · have hdirectory : disk.isDirectory (root.join settings.scanDir) := by
      rw [Disk.isDirectory, hw]
      exact beq_iff_eq.2 hd
    rw [if_pos hdirectory, below, hw]
    dsimp only
    rw [(openBelow_iff hw).1 h]
  · have hdirectory : ¬ disk.isDirectory (root.join settings.scanDir) := by
      rw [Disk.isDirectory, hw]
      exact fun hb => hd (beq_iff_eq.1 hb)
    rw [if_neg hdirectory, below_eq_nil hd]
    rfl

theorem scan_of_walk_error {error : DiskError}
    (hw : disk.walk (root.join settings.scanDir) = .error error) :
    scan disk root settings = .ok [] := by
  rw [scan, if_neg]
  rw [Disk.isDirectory, hw]
  exact Bool.false_ne_true

theorem exists_places_of_openBelow (h : OpenBelow disk (root.join settings.scanDir)) :
    ∃ places, scan disk root settings = .ok (places.map (ofNames (root.join settings.scanDir))) ∧
      ListsTargets disk (root.join settings.scanDir) settings.targetFile places := by
  cases hw : disk.walk (root.join settings.scanDir) with
  | error error =>
      refine ⟨[], scan_of_walk_error hw, ?_, List.Pairwise.nil⟩
      intro names
      constructor
      · intro hm
        cases hm
      · rintro ⟨-, -, here, slash, content, hwalk, -⟩
        rw [hw] at hwalk
        cases hwalk
  | ok spot =>
      refine ⟨_, ?_, listsTargets_below hw⟩
      rw [scan_of_walk h hw, filterMap_ofItem?]

/-- Each target is listed once, because the paths to different ones lead to different places. -/
theorem ListsTargets.nodup_map (h : ListsTargets disk start target places) :
    (places.map (ofNames start)).Nodup := by
  have hnames {names : Location} (hm : names ∈ places) : names.all isFileName := by
    obtain ⟨-, -, here, slash, content, -, hf⟩ := (h.mem_iff names).1 hm
    have hall := Disk.isFileName_of_find? hf
    rw [List.all_append, Bool.and_eq_true] at hall
    exact hall.2
  refine List.pairwise_map.2 (h.sorted.imp_of_mem ?_)
  intro a b ha hb hlt heq
  -- Equal paths lead to one place, so they come from the same names.
  have hpath : pathBelow start a = pathBelow start b := (InterfaceFile.mk.inj heq).2
  have hresolve : start.resolve [] ++ a = start.resolve [] ++ b := by
    rw [← resolve_pathBelow start (hnames ha), ← resolve_pathBelow start (hnames hb), hpath]
  rw [List.append_cancel_left hresolve] at hlt
  exact List.lt_irrefl _ hlt

/-- A scan is what a traversal of the scan directory makes of the entries it comes by. It lists
the targets in the groups of the scan directory, each once and in the order of their names, and it
depends on nothing but where they are. -/
theorem scan_of_openBelow (h : OpenBelow disk (root.join settings.scanDir)) :
    (∃ places, scan disk root settings =
        .ok (places.map (ofNames (root.join settings.scanDir))) ∧
      ListsTargets disk (root.join settings.scanDir) settings.targetFile places ∧
      (places.map (ofNames (root.join settings.scanDir))).Nodup) ∧
    (∀ other, OpenBelow other (root.join settings.scanDir) →
      (∀ names, LeadsToTarget other (root.join settings.scanDir) settings.targetFile names ↔
        LeadsToTarget disk (root.join settings.scanDir) settings.targetFile names) →
      scan other root settings = scan disk root settings) ∧
    ∀ here slash, disk.walk (root.join settings.scanDir) = .ok ⟨here, slash⟩ →
      ∃ names items, Lists disk here names ∧ Traverses disk here names items ∧
        scan disk root settings = .ok (items.filterMap
          (ofItem? (root.join settings.scanDir) settings.targetFile)) := by
  obtain ⟨places, hscan, hplaces⟩ := exists_places_of_openBelow h
  refine ⟨⟨places, hscan, hplaces, hplaces.nodup_map⟩, ?_, ?_⟩
  · intro other ho hsame
    obtain ⟨others, hother, hothers⟩ := exists_places_of_openBelow ho
    rw [hscan, hother, hplaces.eq hothers hsame]
  · intro here slash hw
    obtain ⟨names, hn, ht⟩ := Disk.exists_traverses_below disk here
    exact ⟨names, _, hn, ht, scan_of_walk h hw⟩

/-- A target in the scan directory itself, a directory with the name of a target, and two groups
whose targets come in another order than their paths do as texts. -/
def scatteredDisk : Disk :=
  .ofFiles [("pkg/model/client.go", ""), ("pkg/model/a!/client.go", ""),
    ("pkg/model/a/x/client.go", ""), ("pkg/model/a/x/other.go", ""),
    ("pkg/model/a/client.go/other.go", "")]

/-- The same targets in their groups, and nothing else but a file outside the scan directory. -/
def tidyDisk : Disk :=
  .ofFiles [("client.go", ""), ("pkg/model/a!/client.go", "a"), ("pkg/model/a/x/client.go", "x")]

theorem scan_scatteredDisk :
    ∃ files, scan scatteredDisk ⟨['.']⟩ .standard = .ok files ∧ files.Nodup ∧
      files.map (fun file => (file.group, file.path.text)) =
        [("a".toList, "./pkg/model/a/x/client.go".toList),
          ("a!".toList, "./pkg/model/a!/client.go".toList)] ∧
      scan tidyDisk ⟨['.']⟩ .standard = .ok files := by
  let start : Path := (Path.mk ['.']).join Settings.standard.scanDir
  have hscattered : scatteredDisk.walk start = .ok ⟨["pkg", "model"].map String.toList, false⟩ := by
    decide +kernel
  have htidy : tidyDisk.walk start = .ok ⟨["pkg", "model"].map String.toList, false⟩ := by
    decide +kernel
  have hopen : OpenBelow scatteredDisk start := (openBelow_iff hscattered).2 (by decide +kernel)
  have hopenTidy : OpenBelow tidyDisk start := (openBelow_iff htidy).2 (by decide +kernel)
  have htargets (names : Location) :
      LeadsToTarget tidyDisk start Settings.standard.targetFile names ↔
        LeadsToTarget scatteredDisk start Settings.standard.targetFile names := by
    rw [← (listsTargets_below htidy).mem_iff, ← (listsTargets_below hscattered).mem_iff]
    refine iff_of_eq (congrArg (names ∈ ·) ?_)
    decide +kernel
  obtain ⟨⟨places, hscan, -, hnodup⟩, hsame, -⟩ := scan_of_openBelow hopen
  have hfiles : (scan scatteredDisk ⟨['.']⟩ .standard).map
      (List.map fun file => (file.group, file.path.text)) =
        .ok [("a".toList, "./pkg/model/a/x/client.go".toList),
          ("a!".toList, "./pkg/model/a!/client.go".toList)] := by decide +kernel
  rw [hscan] at hfiles
  exact ⟨_, hscan, hnodup, Except.ok.inj hfiles,
    (hsame tidyDisk hopenTidy htargets).trans hscan⟩

end InterfaceFile

end GoStubs
