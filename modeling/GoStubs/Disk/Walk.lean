import GoStubs.Disk.Basic
import GoStubs.Path
import GoStubs.Fault

/-!
# Walking paths

A path is walked segment by segment, from the working directory or from the
root. The walk ends at a spot: a location where an entry is, or one where a
name is free in an existing directory.
-/

namespace GoStubs

/-- Where a walk ends. -/
structure Spot where
  location : Location
  /-- Whether slashes follow the last name of the path. -/
  slash : Bool
  deriving DecidableEq, Repr

namespace Disk

/-- Walks on from a directory. Only slashes may follow a file or a free name. A walk that is for
`making` a file takes slashes after the last name for a directory before it looks at the name. -/
def walkFrom (disk : Disk) (making : Bool) (here : Location) : List Text → Except DiskError Spot
  | [] => .ok ⟨here, false⟩
  | segment :: rest =>
    if Path.isIdle segment then walkFrom disk making here rest
    else if segment = ['.', '.'] then walkFrom disk making here.dropLast rest
    else if 255 < Text.utf8Size segment then
      if making && !rest.isEmpty && rest.all (·.isEmpty) then .error .isADirectory
      else .error .nameTooLong
    else match disk.find? (here ++ [segment]) with
      | some .directory => walkFrom disk making (here ++ [segment]) rest
      | some (.file _) =>
        if rest.all (·.isEmpty) then .ok ⟨here ++ [segment], !rest.isEmpty⟩
        else .error .notADirectory
      | none =>
        if rest.all (·.isEmpty) then .ok ⟨here ++ [segment], !rest.isEmpty⟩
        else .error .notFound

/-- A walk ends at a directory, or where an entry can be put. -/
theorem accepts_of_walkFrom {disk : Disk} {making : Bool} {here : Location}
    {segments : List Text} {spot : Spot}
    (hn : ∀ segment ∈ segments, '/' ∉ segment ∧ '\x00' ∉ segment)
    (hh : disk.find? here = some .directory) (h : disk.walkFrom making here segments = .ok spot) :
    disk.find? spot.location = some .directory ∨ disk.Accepts spot.location := by
  induction segments generalizing here with
  | nil =>
    cases h
    exact .inl hh
  | cons segment rest ih =>
    have hr := fun other ho => hn other (List.mem_cons_of_mem segment ho)
    have hs := hn segment List.mem_cons_self
    simp only [walkFrom] at h
    split at h
    · exact ih hr hh h
    rename_i hi
    split at h
    · exact ih hr (find?_dropLast hh) h
    rename_i hu
    split at h
    · split at h <;> simp at h
    rename_i hl
    have hname : (here ++ [segment]).all isFileName := by
      have := isFileName_of_find? hh
      simp only [Path.isIdle, Bool.or_eq_true, beq_iff_eq, not_or] at hi
      simp_all [isFileName]
    split at h
    · exact ih hr (by assumption) h
    all_goals
      split at h
      · cases h
        exact .inr ⟨by simp, hname, by simpa using hh, by simp_all⟩
      · simp at h

/-- The longest path that is walked, in bytes. -/
def longestPath : Nat := 4095

/-- Walks a path, to what is there or for making a file. -/
def walk (disk : Disk) (path : Path) (making : Bool := false) : Except DiskError Spot :=
  if path.text.contains '\x00' then .error .nulInPath
  else if path.text.isEmpty then .error .notFound
  else if longestPath < Text.utf8Size path.text then .error .nameTooLong
  else disk.walkFrom making (if path.isAbsolute then [] else disk.workingDirectory) path.segments

/-- A walk ends at a directory, or where an entry can be put. -/
theorem accepts_of_walk {disk : Disk} {path : Path} {making : Bool} {spot : Spot}
    (h : disk.walk path making = .ok spot) :
    disk.find? spot.location = some .directory ∨ disk.Accepts spot.location := by
  unfold walk at h
  split at h
  · simp at h
  rename_i hz
  split at h
  · simp at h
  split at h
  · simp at h
  apply accepts_of_walkFrom _ _ h
  · intro segment hs
    refine ⟨fun hc => by simpa using Text.not_cut_of_mem_split hs hc, fun hc => hz ?_⟩
    simpa using Text.mem_of_mem_split hs hc
  · split
    · rfl
    · exact disk.home

def isDirectory (disk : Disk) (path : Path) : Bool :=
  match disk.walk path with
  | .ok spot => disk.find? spot.location == some .directory
  | .error _ => false

end Disk

end GoStubs
