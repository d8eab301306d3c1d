import GoStubs.Proofs.Disk.Overlay
import GoStubs.Proofs.Project.Generate

/-!
# Stubs in a directory of groups

A stub lies in the directory of its group, and the groups lie in one directory.  What becomes of a
stub that is written there is settled by a few facts: whether the two directories can be made,
whether the file can be, and how long the names are.  Writing other stubs does not change these
facts, since all that it adds is the directory, its groups and the stubs in them.
-/

namespace GoStubs

open Disk (Leads Sets longestPath)

/-! ### Growth by stubs -/

namespace Disk

variable {there : Location} {group name : Text} {before middle after : Disk}

/-- Whether a location is one for stubs, where groups lie in the directory at `there`. -/
def IsStubPlace (there location : Location) : Prop :=
  ∃ group name, location = there ++ [group] ++ [name]

/-- Growth in which files are only written at such locations, no directory there is new, and nothing
changes outside the directory at `there`. -/
structure GrowsByStubs (there : Location) (before after : Disk) : Prop where
  grows : Grows (IsStubPlace there) before after
  directory : ∀ location, IsStubPlace there location →
    after.find? location = some .directory → before.find? location = some .directory
  outside : ∀ location, ¬ there <+: location → after.find? location = before.find? location

theorem Sets.grows_of_directory {locations : List Location}
    (h : Sets .directory locations before after)
    (hf : ∀ location ∈ locations, before.isFile location = false) :
    Grows (fun _ => False) before after where
  workingDirectory := h.workingDirectory
  directory location hd := by
    rw [h.find?, hd, ite_self]
  file location content hc := by
    refine ⟨content, ?_⟩
    rw [h.find?, if_neg, hc]
    intro hm
    simpa [isFile, hc] using hf location hm
  frame location _ := by
    rw [h.find?]
    by_cases hm : location ∈ locations
    · rcases hb : before.find? location with _ | _ | content
      · exact .inr ⟨rfl, if_pos hm⟩
      · exact .inl (if_pos hm)
      · simpa [isFile, hb] using hf location hm
    · exact .inl (if_neg hm)

namespace GrowsByStubs

theorem refl (disk : Disk) : GrowsByStubs there disk disk :=
  ⟨Grows.refl disk, fun _ _ hd => hd, fun _ _ => rfl⟩

theorem trans (first : GrowsByStubs there before middle) (last : GrowsByStubs there middle after) :
    GrowsByStubs there before after where
  grows := first.grows.trans last.grows
  directory location hs hd := first.directory location hs (last.directory location hs hd)
  outside location hl := (last.outside location hl).trans (first.outside location hl)

theorem of_directories (h : Sets .directory [there, there ++ [group]] before after)
    (hb : before.blockade? there group = none) : GrowsByStubs there before after where
  grows := by
    refine (h.grows_of_directory ?_).mono fun _ hn => hn.elim
    simpa using blockade?_eq_none_iff.1 hb
  directory := by
    rintro location ⟨group, name, rfl⟩ hd
    simpa [h.find?] using hd
  outside location hl := by
    rw [h.find?, if_neg]
    rw [List.mem_cons, List.mem_singleton]
    rintro (rfl | rfl)
    · exact hl List.prefix_rfl
    · exact hl (List.prefix_append _ _)

theorem of_stub {content : Text.Bytes}
    (h : Sets (.file content) [there ++ [group] ++ [name]] before after)
    (hd : before.find? (there ++ [group] ++ [name]) ≠ some .directory) :
    GrowsByStubs there before after := by
  have hother {location : Location} (hl : location ≠ there ++ [group] ++ [name]) :
      after.find? location = before.find? location := by
    rw [h.find?, if_neg (by simpa using hl)]
  refine ⟨⟨h.workingDirectory, ?_, ?_, ?_⟩, ?_, ?_⟩
  · intro location hl
    rw [hother, hl]
    rintro rfl
    exact hd hl
  · intro location kept hk
    by_cases hl : location = there ++ [group] ++ [name]
    · exact ⟨content, by rw [h.find?, if_pos (by simp [hl])]⟩
    · exact ⟨kept, by rw [hother hl, hk]⟩
  · intro location hs
    refine .inl (hother ?_)
    rintro rfl
    exact hs ⟨group, name, rfl⟩
  · intro location hs hl
    rw [hother] at hl
    · exact hl
    · rintro rfl
      simp [h.find?] at hl
  · intro location hl
    apply hother
    rintro rfl
    rw [List.append_assoc] at hl
    exact hl (List.prefix_append _ _)

variable (h : GrowsByStubs there before after)

include h

theorem isFile_eq {location : Location} (hs : ¬ IsStubPlace there location) :
    after.isFile location = before.isFile location := by
  rw [Bool.eq_iff_iff, isFile_iff, isFile_iff]
  exact exists_congr fun content => h.grows.file_eq hs

theorem blockade?_eq (group : Text) :
    after.blockade? there group = before.blockade? there group := by
  rw [blockade?, blockade?, h.isFile_eq, h.isFile_eq]
  -- A place for stubs is deeper than a group and the directory of groups.
  · rintro ⟨group, name, hl⟩
    simpa using congrArg List.length hl
  · rintro ⟨group, name, hl⟩
    simpa using congrArg List.length hl

theorem obstruction?_eq (path : Path) (group name : Text) :
    after.obstruction? (there ++ [group]) path name =
      before.obstruction? (there ++ [group]) path name := by
  have hplace : IsStubPlace there (there ++ [group] ++ [name]) := ⟨group, name, rfl⟩
  have hiff : after.find? (there ++ [group] ++ [name]) = some .directory ↔
      before.find? (there ++ [group] ++ [name]) = some .directory :=
    ⟨h.directory _ hplace, h.grows.directory _⟩
  simp only [obstruction?, hiff]

end GrowsByStubs

end Disk

/-! ### Writing a stub -/

/-- Wrappers are added to a file that is there, and nothing else changes. -/
theorem Stub.exists_append {disk : Disk} {path : Path} {place : Location} {before : Text.Bytes}
    (wrappers : Text) (hw : disk.walk path = .ok ⟨place, false⟩)
    (hf : disk.find? place = some (.file before)) :
    ∃ after, append disk path wrappers = (.ok (), after) ∧
      Sets (.file (before ++ Text.encode wrappers)) [place] disk after := by
  have happend : disk.append path (Text.encode wrappers) =
      .ok (disk.put place (.file (before ++ Text.encode wrappers))) :=
    Disk.append_eq_ok_iff.2 ⟨place, before, hw, hf, rfl⟩
  have ha : disk.Accepts place := (Disk.accepts_of_walk hw).resolve_left (by simp [hf])
  exact ⟨_, by rw [append, happend], ha.sets _⟩

namespace Plan

variable {plan : Plan} {settings : Settings} {disk other : Disk} {path : Path}
  {here there : Location} {folder group name : Text}

/-- What comes of writing a stub with a name in a group of the directory at `there`, where the
parent is the path of the group. -/
inductive Written (plan : Plan) (settings : Settings) (parent : Path) (there : Location)
    (group name : Text) (disk : Disk) : Except Fault Unit × Disk → Prop where
  | blocked {error : DiskError} (blockade : disk.blockade? there group = some error) :
      Written plan settings parent there group name disk (.error (.io parent (.disk error)), disk)
  | obstructed {error : DiskError} {made : Disk} (free : disk.blockade? there group = none)
      (obstruction : disk.obstruction? (there ++ [group]) plan.output name = some error)
      (directories : Sets .directory [there, there ++ [group]] disk made) :
      Written plan settings parent there group name disk
        (.error (.io plan.output (.disk error)), made)
  | stub {content : Text} {made after : Disk} (free : disk.blockade? there group = none)
      (clear : disk.obstruction? (there ++ [group]) plan.output name = none)
      (rendered : plan.content settings = .ok content)
      (directories : Sets .directory [there, there ++ [group]] disk made)
      (file : Sets (.file (Text.encode content)) [there ++ [group] ++ [name]] made after) :
      Written plan settings parent there group name disk (.ok (), after)

theorem written (plan : Plan) (settings : Settings) (h : Leads disk path here)
    (hf : isFileName folder) (hg : isFileName group) (hn : Path.IsName name)
    (hs : Text.utf8Size ((path.join folder).join group).text ≤ longestPath)
    (ho : plan.output = ((path.join folder).join group).join name) :
    Written plan settings ((path.join folder).join group) (here ++ [folder]) group name disk
      (plan.write settings disk) := by
  have hfolder := Path.isName_of_isFileName hf
  have hgroup := Path.isName_of_isFileName hg
  have houter := Path.endsInName_join path hfolder
  have hparent : plan.output.parent? = some ((path.join folder).join group) := by
    rw [ho]
    exact (Path.endsInName_join _ hgroup).parent?_join hn
  obtain ⟨base, wrappers, hb, hw, hc⟩ := plan.exists_content settings
  obtain ⟨error, hblock, hmade⟩ | ⟨hfree, made, hmade, hsets⟩ := h.makeDirectories_cases hf hg hs
  · have hwrite : plan.write settings disk =
        (.error (.io ((path.join folder).join group) (.disk error)), disk) := by
      simp [write, hb, Stub.writeBase, Stub.makeParent, hparent, hmade, Except.mapError]
    rw [hwrite]
    exact .blocked hblock
  have hgrowth : Disk.GrowsByStubs (here ++ [folder]) disk made := .of_directories hsets hfree
  have hshort : Text.utf8Size (path.join folder).text ≤ longestPath := by
    rw [houter.text_join hgroup, Text.utf8Size_append] at hs
    omega
  have hleads : Leads made ((path.join folder).join group) (here ++ [folder] ++ [group]) := by
    refine ((h.of_grows hgrowth.grows).join ?_ hshort).join ?_ hs
    · simp [hsets.find?]
    · simp [hsets.find?]
  have hobstruction := hgrowth.obstruction?_eq plan.output group name
  obtain ⟨error, hobstructed, hwritten⟩ | ⟨hclear, hwalk, hwritten, hbase⟩ :=
    hleads.write_cases hn (Text.encode base)
  · rw [← ho, hobstruction] at hobstructed
    rw [← ho] at hwritten
    have hwrite : plan.write settings disk = (.error (.io plan.output (.disk error)), made) := by
      simp [write, hb, Stub.writeBase, Stub.makeParent, hparent, hmade, Except.mapError, hwritten]
    rw [hwrite]
    exact .obstructed hfree hobstructed hsets
  rw [← ho] at hclear hwalk hwritten
  -- The base is written first, and the wrappers are added to it.
  have hdirectory := Disk.not_directory_of_obstruction? hclear
  have hplace := hbase.find? (here ++ [folder] ++ [group] ++ [name])
  rw [if_pos List.mem_cons_self] at hplace
  have hgrown := (Disk.GrowsByStubs.of_stub hbase hdirectory).grows
  obtain ⟨after, happend, hlast⟩ :=
    Stub.exists_append wrappers (hgrown.walk hwalk (.inr ⟨_, hplace⟩)) hplace
  have hwrite : plan.write settings disk = (.ok (), after) := by
    simp only [write, hb, hw, Stub.writeBase, Stub.makeParent, hparent, hmade, Except.mapError,
      hwritten, happend]
  rw [hwrite]
  rw [← Text.encode_append] at hlast
  exact .stub hfree (hobstruction ▸ hclear) hc hsets (hbase.overwrite hlast)

/-- What writing a stub puts over the disk. -/
def cover (plan : Plan) (settings : Settings) (there : Location) (group name : Text) (disk : Disk) :
    Location → Option Entry :=
  let directories (location : Location) : Option Entry :=
    if location ∈ [there, there ++ [group]] then some .directory else none
  match disk.blockade? there group, disk.obstruction? (there ++ [group]) plan.output name,
    plan.content settings with
  | some _, _, _ => fun _ => none
  | none, none, .ok content => fun location =>
    (if location ∈ [there ++ [group] ++ [name]] then some (.file (Text.encode content))
      else none).or (directories location)
  | none, _, _ => directories

namespace Written

variable {parent : Path} {a b : Except Fault Unit × Disk}

theorem covers (h : Written plan settings parent there group name disk a) :
    Disk.Covers (plan.cover settings there group name disk) disk a.2 := by
  cases h with
  | blocked blockade =>
      simp only [cover, blockade]
      exact Disk.covers_none disk
  | obstructed free obstruction directories =>
      simp only [cover, free, obstruction]
      exact directories.covers
  | stub free clear rendered directories file =>
      simp only [cover, free, clear, rendered]
      exact directories.covers.trans file.covers

theorem growsByStubs (h : Written plan settings parent there group name disk a) :
    Disk.GrowsByStubs there disk a.2 := by
  cases h with
  | blocked _ => exact .refl disk
  | obstructed free _ directories => exact .of_directories directories free
  | stub free clear _ directories file =>
      have hgrowth := Disk.GrowsByStubs.of_directories directories free
      have hclear := (hgrowth.obstruction?_eq plan.output group name).trans clear
      exact hgrowth.trans (.of_stub file (Disk.not_directory_of_obstruction? hclear))

theorem fst_eq (ha : Written plan settings parent there group name disk a)
    (hb : Written plan settings parent there group name other b)
    (h : Disk.GrowsByStubs there disk other) : b.1 = a.1 := by
  have hblockade := h.blockade?_eq group
  have hobstruction := h.obstruction?_eq plan.output group name
  -- The facts that tell the cases apart are the same on both disks.
  cases ha <;> cases hb <;> simp_all

end Written

theorem cover_eq (plan : Plan) (settings : Settings) (group name : Text)
    (h : Disk.GrowsByStubs there disk other) :
    plan.cover settings there group name other = plan.cover settings there group name disk := by
  rw [cover, cover, h.blockade?_eq, h.obstruction?_eq]

end Plan

end GoStubs
