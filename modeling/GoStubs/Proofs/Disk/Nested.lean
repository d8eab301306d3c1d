import GoStubs.Proofs.Disk.Names

/-!
# Making a directory in a directory

A directory is made together with the one that it lies in, unless a file has one of the two names.
Below a path that leads to a directory it is settled by the entries at the two locations what
becomes of them, and nothing else changes.
-/

namespace GoStubs.Disk

variable {disk before middle after : Disk} {entry : Entry} {locations : List Location} {path : Path}
  {here : Location} {name last : Text}

theorem find?_append_of_none (h : disk.find? here = none) (name : Text) :
    disk.find? (here ++ [name]) = none := by
  rw [Option.eq_none_iff_forall_ne_some]
  intro entry he
  have hd := find?_dropLast he
  simp [h] at hd

def isFile (disk : Disk) (location : Location) : Bool :=
  match disk.find? location with
  | some (.file _) => true
  | _ => false

theorem isFile_iff : disk.isFile here ↔ ∃ content, disk.find? here = some (.file content) := by
  unfold isFile
  split <;> simp_all

/-- What is in the way of a directory with a name in the directory `there`, which may both be
missing. -/
def blockade? (disk : Disk) (there : Location) (name : Text) : Option DiskError :=
  if disk.isFile there then some .notADirectory
  else if disk.isFile (there ++ [name]) then some .alreadyExists
  else none

theorem blockade?_eq_none_iff :
    disk.blockade? here name = none ↔
      disk.isFile here = false ∧ disk.isFile (here ++ [name]) = false := by
  unfold blockade?
  split
  · simp [*]
  · split <;> simp [*]

/-- An entry is at some locations now, and nothing else has changed.  A lookup does not see what is
kept for the root, so that is said of the root by itself. -/
structure Sets (entry : Entry) (locations : List Location) (before after : Disk) : Prop where
  workingDirectory : after.workingDirectory = before.workingDirectory
  find? : ∀ location, after.find? location =
    if location ∈ locations then some entry else before.find? location
  root : after.entries[([] : Location)]? = before.entries[([] : Location)]?

theorem Accepts.sets (h : disk.Accepts here) (entry : Entry) :
    Sets entry [here] disk (disk.put here entry) where
  workingDirectory := workingDirectory_put disk here entry
  find? location := by simp [find?_put h]
  root := by simp [put, h, Std.ExtTreeMap.getElem?_insert, h.1]

theorem Sets.cons (h : Sets entry locations before after) (hf : before.find? here = some entry) :
    Sets entry (here :: locations) before after where
  workingDirectory := h.workingDirectory
  find? location := by
    rw [h.find?]
    by_cases hl : location = here
    · subst hl
      simp [hf]
    · simp [hl]
  root := h.root

theorem Sets.trans {more : List Location} (hf : Sets entry locations before middle)
    (hm : Sets entry more middle after) : Sets entry (locations ++ more) before after where
  workingDirectory := hm.workingDirectory.trans hf.workingDirectory
  find? location := by
    rw [hm.find?, hf.find?]
    by_cases hl : location ∈ more <;> simp [hl]
  root := hm.root.trans hf.root

theorem Sets.overwrite {other : Entry} (hf : Sets other locations before middle)
    (hm : Sets entry locations middle after) : Sets entry locations before after where
  workingDirectory := hm.workingDirectory.trans hf.workingDirectory
  find? location := by
    rw [hm.find?, hf.find?]
    by_cases hl : location ∈ locations <;> simp [hl]
  root := hm.root.trans hf.root

theorem sets_nil (entry : Entry) (disk : Disk) : Sets entry [] disk disk :=
  ⟨rfl, fun _ => by simp, rfl⟩

/-! ### One directory -/

theorem ensureDirectory_of_error {error : DiskError} (hw : disk.walk path = .error error) :
    disk.ensureDirectory path = .error error := by
  simp [ensureDirectory, makeDirectory, isDirectory, hw, bind, Except.bind]

theorem ensureDirectory_cases (hw : disk.walk path = .ok ⟨here, false⟩) :
    disk.isFile here ∧ disk.ensureDirectory path = .error .alreadyExists ∨
      disk.isFile here = false ∧
        ∃ made, disk.ensureDirectory path = .ok made ∧ Sets .directory [here] disk made := by
  rcases hf : disk.find? here with _ | _ | content
  · right
    have ha : disk.Accepts here := (accepts_of_walk hw).resolve_left (by simp [hf])
    have hmade : disk.makeDirectory path = .ok (disk.put here .directory) :=
      makeDirectory_eq_ok_iff.2 ⟨_, hw, hf, rfl⟩
    exact ⟨by simp [isFile, hf], _, by rw [ensureDirectory, hmade], ha.sets .directory⟩
  · right
    refine ⟨by simp [isFile, hf], disk, ?_, (sets_nil .directory disk).cons hf⟩
    simp [ensureDirectory, makeDirectory, isDirectory, hw, hf, bind, Except.bind, throw, throwThe,
      MonadExceptOf.throw]
  · left
    refine ⟨by simp [isFile, hf], ?_⟩
    simp [ensureDirectory, makeDirectory, isDirectory, hw, hf, bind, Except.bind, throw, throwThe,
      MonadExceptOf.throw]

/-! ### Two directories -/

/-- A directory is made together with the one that it lies in, unless a file is in the way. -/
theorem Leads.makeDirectories_cases (h : Leads disk path here) (hn : isFileName name)
    (hl : isFileName last)
    (hs : Text.utf8Size ((path.join name).join last).text ≤ longestPath) :
    (∃ error, disk.blockade? (here ++ [name]) last = some error ∧
      disk.makeDirectories ((path.join name).join last) = (.error error, disk)) ∨
    disk.blockade? (here ++ [name]) last = none ∧
      ∃ made, disk.makeDirectories ((path.join name).join last) = (.ok (), made) ∧
        Sets .directory [here ++ [name], here ++ [name] ++ [last]] disk made := by
  rw [List.append_assoc here, List.singleton_append]
  have hname := Path.isName_of_isFileName hn
  have hlast := Path.isName_of_isFileName hl
  have houter := Path.endsInName_join path hname
  have hpath : (path.join name).text.isEmpty = false := by simpa using houter.text_ne_nil
  have hpaths : ((path.join name).join last).text.isEmpty = false := by
    simpa using (Path.endsInName_join (path.join name) hlast).text_ne_nil
  have hshort : Text.utf8Size (path.join name).text ≤ longestPath := by
    rw [houter.text_join hlast, Text.utf8Size_append] at hs
    omega
  obtain ⟨more, hmore⟩ : ∃ more, ((path.join name).join last).ancestors =
      (path.join name).join last :: path.join name :: more := Path.ancestors_join hname hlast
  have hwalk {other : Disk} (ho : Leads other path here) :
      other.walk ((path.join name).join last) = other.walkFrom false here [name, last] :=
    ho.walk_pathBelow [name, last] (by simp [hname, hlast]) hs false
  rcases hf : disk.find? (here ++ [name]) with _ | _ | content
  · -- Both directories are missing, and the outer one is made first.
    right
    have hw : disk.walk ((path.join name).join last) = .error .notFound := by
      rw [hwalk h, walkFrom_name_name hn hl, hf]
    have hfirst : disk.walk (path.join name) = .ok ⟨here ++ [name], false⟩ := by
      rw [← walkFrom_name hn]
      exact h.walk_pathBelow [name] (by simp [hname]) hshort false
    obtain ⟨hfile, -⟩ | ⟨houterFile, made, hmade, hsets⟩ := ensureDirectory_cases hfirst
    · simp [isFile, hf] at hfile
    have hinner : disk.find? (here ++ [name, last]) = none := by
      rw [List.append_cons]
      exact find?_append_of_none hf last
    have hinnerFile : disk.isFile (here ++ [name, last]) = false := by simp [isFile, hinner]
    have hagain : made.walk ((path.join name).join last) = .ok ⟨here ++ [name, last], false⟩ := by
      rw [hwalk (h.of_grows (grows_ensureDirectory hmade)), walkFrom_name_name hn hl, hsets.find?,
        if_pos (by simp)]
    obtain ⟨hfile, -⟩ | ⟨-, built, hbuilt, hagainSets⟩ := ensureDirectory_cases hagain
    · simp [isFile, hsets.find?, hinner] at hfile
    refine ⟨by simp [blockade?, houterFile, hinnerFile], built, ?_, hsets.trans hagainSets⟩
    simp [makeDirectories, hmore, ensureDirectories, hpaths, hpath, ensureDirectory_of_error hw,
      hmade, hbuilt]
  · -- The outer directory is there.
    have hw : disk.walk ((path.join name).join last) = .ok ⟨here ++ [name, last], false⟩ := by
      rw [hwalk h, walkFrom_name_name hn hl, hf]
    have houterFile : disk.isFile (here ++ [name]) = false := by simp [isFile, hf]
    obtain ⟨hfile, hmade⟩ | ⟨hfile, made, hmade, hsets⟩ := ensureDirectory_cases hw
    · left
      refine ⟨.alreadyExists, by simp [blockade?, houterFile, hfile], ?_⟩
      simp [makeDirectories, hmore, ensureDirectories, hpaths, hmade]
    · right
      refine ⟨by simp [blockade?, houterFile, hfile], made, ?_, hsets.cons hf⟩
      simp [makeDirectories, hmore, ensureDirectories, hpaths, hmade]
  · left
    have hw : disk.walk ((path.join name).join last) = .error .notADirectory := by
      rw [hwalk h, walkFrom_name_name hn hl, hf]
    refine ⟨.notADirectory, by simp [blockade?, isFile, hf], ?_⟩
    simp [makeDirectories, hmore, ensureDirectories, hpaths, ensureDirectory_of_error hw]

/-! ### Files in them -/

/-- What is in the way of a file with a name at a path in the directory `there`. -/
def obstruction? (disk : Disk) (there : Location) (path : Path) (name : Text) : Option DiskError :=
  if longestPath < Text.utf8Size path.text ∨ 255 < Text.utf8Size name then some .nameTooLong
  else if disk.find? (there ++ [name]) = some .directory then some .isADirectory
  else none

theorem not_directory_of_obstruction? (h : disk.obstruction? here path name = none) :
    disk.find? (here ++ [name]) ≠ some .directory := by
  intro hd
  rw [obstruction?, if_pos hd] at h
  split at h <;> cases h

/-- A file is written unless a directory has its name or a name is too long. -/
theorem Leads.write_cases (h : Leads disk path here) (hn : Path.IsName name)
    (content : Text.Bytes) :
    (∃ error, disk.obstruction? here (path.join name) name = some error ∧
      disk.write (path.join name) content = .error error) ∨
    disk.obstruction? here (path.join name) name = none ∧
      disk.walk (path.join name) = .ok ⟨here ++ [name], false⟩ ∧
      disk.write (path.join name) content = .ok (disk.put (here ++ [name]) (.file content)) ∧
      Sets (.file content) [here ++ [name]] disk (disk.put (here ++ [name]) (.file content)) := by
  by_cases hp : longestPath < Text.utf8Size (path.join name).text
  · left
    have hw : disk.walk (path.join name) true = .error .nameTooLong :=
      h.walk_pathBelow_of_long [name] (by simp [hn]) hp true
    exact ⟨.nameTooLong, by simp [obstruction?, hp], by simp [write, hw, bind, Except.bind]⟩
  have hwalk := h.walk_pathBelow [name] (by simp [hn]) (Nat.le_of_not_lt hp)
  by_cases hl : 255 < Text.utf8Size name
  · left
    have hw : disk.walk (path.join name) true = .error .nameTooLong := by
      rw [← walkFrom_long_name hn hl]
      exact hwalk true
    exact ⟨.nameTooLong, by simp [obstruction?, hl], by simp [write, hw, bind, Except.bind]⟩
  have hname : isFileName name := Path.isFileName_of_isName hn (Nat.le_of_not_lt hl)
  have hw (making : Bool) : disk.walk (path.join name) making = .ok ⟨here ++ [name], false⟩ := by
    rw [← walkFrom_name hname]
    exact hwalk making
  by_cases hd : disk.find? (here ++ [name]) = some .directory
  · left
    refine ⟨.isADirectory, by simp [obstruction?, hp, hl, hd], ?_⟩
    simp [write, hw, hd, bind, Except.bind, throw, throwThe, MonadExceptOf.throw]
  · right
    have ha : disk.Accepts (here ++ [name]) := (accepts_of_walk (hw true)).resolve_left hd
    exact ⟨by simp [obstruction?, hp, hl, hd], hw false,
      write_eq_ok_iff.2 ⟨_, hw true, hd, rfl⟩, ha.sets (.file content)⟩

end GoStubs.Disk
