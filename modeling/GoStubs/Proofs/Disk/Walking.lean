import GoStubs.Disk.Walk

/-!
# Walks that succeed

What each segment of a path does to a walk that succeeds: it stays, goes up,
goes into a directory, or names the end of the walk.  From this it follows that
the two kinds of walks agree when they succeed, and that a walk goes on from the
directory at which its first part ends.  So names that are joined to the path of
a directory lead to what lies below it.
-/

namespace GoStubs.Disk

variable {disk : Disk} {making again : Bool} {here : Location} {spot : Spot}

theorem walkFrom_cons_eq_ok_iff {segment : Text} {rest : List Text} :
    disk.walkFrom making here (segment :: rest) = .ok spot ↔
      Path.isIdle segment ∧ disk.walkFrom making here rest = .ok spot ∨
      segment = ['.', '.'] ∧ disk.walkFrom making here.dropLast rest = .ok spot ∨
      (Path.isIdle segment = false ∧ segment ≠ ['.', '.'] ∧ Text.utf8Size segment ≤ 255) ∧
        (disk.find? (here ++ [segment]) = some .directory ∧
            disk.walkFrom making (here ++ [segment]) rest = .ok spot ∨
          disk.find? (here ++ [segment]) ≠ some .directory ∧ rest.all (·.isEmpty) ∧
            spot = ⟨here ++ [segment], !rest.isEmpty⟩) := by
  have hup : Path.isIdle ['.', '.'] = false := by decide
  rw [walkFrom]
  by_cases hi : Path.isIdle segment
  · have hne : segment ≠ ['.', '.'] := by
      rintro rfl
      simp [hup] at hi
    simp [hi, hne]
  by_cases hu : segment = ['.', '.']
  · simp [hu, hup]
  by_cases hl : 255 < Text.utf8Size segment
  · have hn : ¬ Text.utf8Size segment ≤ 255 := Nat.not_le_of_lt hl
    simp only [hi, hu, hl, hn, if_false, if_true, Bool.false_eq_true, false_and, and_false,
      or_false, iff_false]
    split <;> simp
  simp only [hi, hu, hl, if_false, Bool.false_eq_true, false_and, false_or, ne_eq,
    not_false_eq_true, Nat.le_of_not_lt hl, and_self, true_and]
  cases hf : disk.find? (here ++ [segment]) with
  | none =>
      by_cases hr : rest.all (·.isEmpty)
      · simp [hr, eq_comm]
      · simp [hr]
  | some entry =>
      cases entry with
      | directory => simp
      | file content =>
          by_cases hr : rest.all (·.isEmpty)
          · simp [hr, eq_comm]
          · simp [hr]

/-- Walks for making a file and other walks only differ in the errors that they end with. -/
theorem walkFrom_again {segments : List Text} (h : disk.walkFrom making here segments = .ok spot) :
    disk.walkFrom again here segments = .ok spot := by
  induction segments generalizing here with
  | nil => exact h
  | cons segment rest ih =>
      rw [walkFrom_cons_eq_ok_iff] at h ⊢
      rcases h with ⟨hi, hw⟩ | ⟨hu, hw⟩ | ⟨hn, ⟨hd, hw⟩ | hend⟩
      · exact .inl ⟨hi, ih hw⟩
      · exact .inr (.inl ⟨hu, ih hw⟩)
      · exact .inr (.inr ⟨hn, .inl ⟨hd, ih hw⟩⟩)
      · exact .inr (.inr ⟨hn, .inr hend⟩)

/-- A path is walked from the root or from the working directory, if it may be walked at all. -/
theorem walk_eq_ok_iff {path : Path} :
    disk.walk path making = .ok spot ↔
      ('\x00' ∉ path.text ∧ path.text ≠ [] ∧ Text.utf8Size path.text ≤ longestPath) ∧
        disk.walkFrom making (if path.isAbsolute then [] else disk.workingDirectory)
          path.segments = .ok spot := by
  unfold walk
  by_cases hz : '\x00' ∈ path.text
  · simp [hz]
  by_cases he : path.text = []
  · simp [he]
  by_cases hl : longestPath < Text.utf8Size path.text
  · simp [hz, he, hl, Nat.not_le_of_lt hl]
  · simp [hz, he, hl, Nat.le_of_not_lt hl]

/-- A path is walked from a directory. -/
theorem find?_start (disk : Disk) (path : Path) :
    disk.find? (if path.isAbsolute then [] else disk.workingDirectory) = some .directory := by
  split
  · rfl
  · exact disk.home

theorem walk_again {path : Path} (h : disk.walk path making = .ok spot) :
    disk.walk path again = .ok spot := by
  rw [walk_eq_ok_iff] at h ⊢
  exact ⟨h.1, walkFrom_again h.2⟩

/-- A path that is too long is refused on every disk for the same reason. -/
theorem exists_walk_of_long {path : Path} (h : longestPath < Text.utf8Size path.text) :
    ∃ error, ∀ (disk : Disk) (making : Bool), disk.walk path making = .error error := by
  by_cases hz : path.text.contains '\x00'
  · exact ⟨.nulInPath, fun disk making => by rw [walk, if_pos hz]⟩
  by_cases he : path.text.isEmpty
  · exact ⟨.notFound, fun disk making => by rw [walk, if_neg hz, if_pos he]⟩
  · exact ⟨.nameTooLong, fun disk making => by rw [walk, if_neg hz, if_neg he, if_pos h]⟩

/-- Segments that end at a directory may be walked before others. -/
theorem walkFrom_append {first rest : List Text} {slash : Bool} {there : Location}
    (h : disk.walkFrom making here first = .ok ⟨there, slash⟩)
    (hd : disk.find? there = some .directory) :
    disk.walkFrom making here (first ++ rest) = disk.walkFrom making there rest := by
  induction first generalizing here with
  | nil =>
      cases h
      rfl
  | cons segment first ih =>
      rw [walkFrom_cons_eq_ok_iff] at h
      rcases h with ⟨hi, hw⟩ | ⟨rfl, hw⟩ | ⟨⟨hi, hu, hl⟩, ⟨hf, hw⟩ | ⟨hn, -, hs⟩⟩
      · rw [List.cons_append, walkFrom, if_pos hi, ih hw]
      · rw [List.cons_append, walkFrom, if_neg (by decide), if_pos rfl, ih hw]
      · rw [List.cons_append, walkFrom, if_neg (by simp [hi]), if_neg hu,
          if_neg (Nat.not_lt_of_le hl), hf]
        exact ih hw
      · cases hs
        exact absurd hd hn

/-- An empty segment makes no difference if others follow it. -/
theorem walkFrom_append_nil_cons (first : List Text) {rest : List Text} (hr : rest ≠ []) :
    disk.walkFrom making here (first ++ [] :: rest) =
      disk.walkFrom making here (first ++ rest) := by
  induction first generalizing here with
  | nil => simp [walkFrom, Path.isIdle]
  | cons segment first ih =>
      have hall : (first ++ [] :: rest).all (·.isEmpty) = (first ++ rest).all (·.isEmpty) := by
        simp only [List.all_append, List.all_cons, List.isEmpty_nil, Bool.true_and]
      have hsome : (first ++ [] :: rest).isEmpty = (first ++ rest).isEmpty := by
        rw [Bool.eq_iff_iff]
        simp [hr]
      simp only [List.cons_append, walkFrom, ih, hall, hsome]

/-- Between a path and a name that is joined to it comes at most a slash. -/
theorem exists_text_join (path : Path) {name : Text} (hs : '/' ∉ name) :
    ∃ gap, (path.join name).text = path.text ++ gap ++ name ∧
      (gap = [] ∧ (path.text = [] ∨ path.text.getLast? = some '/') ∨ gap = ['/']) := by
  have hhead : name.head? ≠ some '/' := fun hh => hs (List.mem_of_mem_head? hh)
  unfold Path.join
  rw [if_neg hhead]
  split
  · next hp => exact ⟨[], by simp, .inl ⟨rfl, hp⟩⟩
  · exact ⟨['/'], by simp, .inr rfl⟩

/-- Joining a name adds a segment, in place of an empty one that may be at the end. -/
theorem exists_segments_join {path : Path} {name : Text} (hp : path.text ≠ []) (hs : '/' ∉ name) :
    ∃ first, (path.join name).segments = first ++ [name] ∧
      (path.segments = first ∨ path.segments = first ++ [[]]) := by
  have hname : Text.split (· == '/') name = [name] := by
    apply Text.split_of_not_cut
    intro c hc
    simpa using fun he : c = '/' => hs (he ▸ hc)
  obtain ⟨gap, htext, ⟨rfl, hlast⟩ | rfl⟩ := exists_text_join path hs
  · obtain ⟨before, hbefore⟩ := List.getLast?_eq_some_iff.1 (hlast.resolve_left hp)
    refine ⟨Text.split (· == '/') before, ?_, .inr ?_⟩
    · rw [Path.segments, htext, hbefore, List.append_nil, List.append_assoc, List.singleton_append,
        Text.split_append_cons (by simp), hname]
    · rw [Path.segments, hbefore, Text.split_append_cons (by simp), Text.split_nil]
  · refine ⟨path.segments, ?_, .inl rfl⟩
    rw [Path.segments, htext, List.append_assoc, List.singleton_append,
      Text.split_append_cons (by simp), hname, Path.segments]

/-- A name that is joined to the path of a directory is looked up in it. -/
theorem walk_join {path : Path} {name : Text} {slash : Bool} {entry : Entry}
    (hw : disk.walk path = .ok ⟨here, slash⟩) (hf : disk.find? (here ++ [name]) = some entry)
    (hl : Text.utf8Size (path.join name).text ≤ longestPath) :
    disk.walk (path.join name) = .ok ⟨here ++ [name], false⟩ := by
  have hd : disk.find? here = some .directory := by simpa using find?_dropLast hf
  have hn : isFileName name := by
    have hall := isFileName_of_find? hf
    simp only [List.all_append, List.all_cons, List.all_nil, Bool.and_true,
      Bool.and_eq_true] at hall
    exact hall.2
  obtain ⟨hseg, hs, hzn⟩ := isFileName_iff.1 hn
  have hname : disk.walkFrom false here [name] = .ok ⟨here ++ [name], false⟩ := by
    refine walkFrom_cons_eq_ok_iff.2 (.inr (.inr ⟨hseg, ?_⟩))
    by_cases he : disk.find? (here ++ [name]) = some .directory
    · exact .inl ⟨he, rfl⟩
    · exact .inr ⟨he, rfl, rfl⟩
  obtain ⟨⟨hz, hp, -⟩, hw⟩ := walk_eq_ok_iff.1 hw
  obtain ⟨gap, htext, hgap⟩ := exists_text_join path hs
  have habs : (path.join name).isAbsolute = path.isAbsolute := by
    cases ht : path.text with
    | nil => exact absurd ht hp
    | cons c text => simp [Path.isAbsolute, htext, ht]
  have hzero : '\x00' ∉ (path.join name).text := by
    rcases hgap with ⟨rfl, -⟩ | rfl <;> simp [htext, hz, hzn]
  refine walk_eq_ok_iff.2 ⟨⟨hzero, by simp [htext, hp], hl⟩, ?_⟩
  obtain ⟨first, hsegments, hfirst | hfirst⟩ := exists_segments_join hp hs
  · rw [hsegments, habs, ← hfirst, walkFrom_append hw hd, hname]
  · rw [hsegments, habs, ← walkFrom_append_nil_cons first (by simp), ← List.singleton_append,
      ← List.append_assoc, ← hfirst, walkFrom_append hw hd, hname]

end GoStubs.Disk
