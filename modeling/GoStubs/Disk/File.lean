import GoStubs.Disk.Walk
import GoStubs.Text.Utf8

/-!
# Files on a disk

Reading takes the bytes or the text of a file, writing makes a file or replaces
what is in it, appending needs a file that is there.
-/

namespace GoStubs.Disk

open Text (Bytes)

def contentAt (disk : Disk) (spot : Spot) : Except DiskError Bytes :=
  match disk.find? spot.location with
  | some (.file content) => if spot.slash then .error .notADirectory else .ok content
  | some .directory => .error .isADirectory
  | none => .error .notFound

def read (disk : Disk) (path : Path) : Except DiskError Bytes :=
  disk.walk path >>= disk.contentAt

def readText (disk : Disk) (path : Path) : Except DiskError Text := do
  match Text.decode? (← disk.read path) with
  | some text => return text
  | none => throw .invalidUtf8

/-- Makes a file with the given content, or gives it to the file that is there. -/
def write (disk : Disk) (path : Path) (content : Bytes) : Except DiskError Disk := do
  let spot ← disk.walk path true
  if spot.slash ∨ disk.find? spot.location = some .directory then throw .isADirectory
  return disk.put spot.location (.file content)

/-- Writing puts a file at the end of the path, where no directory is and no slash follows. -/
theorem write_eq_ok_iff {disk after : Disk} {path : Path} {content : Bytes} :
    disk.write path content = .ok after ↔
      ∃ location, disk.walk path true = .ok ⟨location, false⟩ ∧
        disk.find? location ≠ some .directory ∧ disk.put location (.file content) = after := by
  unfold write
  cases hw : disk.walk path true with
  | error error => simp [bind, Except.bind]
  | ok spot =>
    obtain ⟨location, slash⟩ := spot
    by_cases hd : slash ∨ disk.find? location = some .directory
    · simp only [bind, Except.bind, if_pos hd, throw, throwThe, MonadExceptOf.throw, reduceCtorEq,
        false_iff, not_exists, not_and]
      intro other ho hn
      cases ho
      exact absurd hd (by simpa using hn)
    · obtain ⟨hs, hn⟩ := not_or.1 hd
      rw [Bool.not_eq_true] at hs
      subst hs
      simp [bind, Except.bind, pure, Except.pure, hn]

/-- Adds to the end of the file that is there. -/
def append (disk : Disk) (path : Path) (content : Bytes) : Except DiskError Disk := do
  let spot ← disk.walk path
  let before ← disk.contentAt spot
  return disk.put spot.location (.file (before ++ content))

theorem contentAt_eq_ok_iff {disk : Disk} {spot : Spot} {content : Bytes} :
    disk.contentAt spot = .ok content ↔
      disk.find? spot.location = some (.file content) ∧ spot.slash = false := by
  unfold contentAt
  split
  · split <;> simp_all
  all_goals simp_all

/-- Reading needs a file at the end of the path, and no slash after it. -/
theorem read_eq_ok_iff {disk : Disk} {path : Path} {content : Bytes} :
    disk.read path = .ok content ↔
      ∃ location, disk.walk path = .ok ⟨location, false⟩ ∧
        disk.find? location = some (.file content) := by
  unfold read
  cases hw : disk.walk path with
  | error error => simp [bind, Except.bind]
  | ok spot =>
    obtain ⟨location, slash⟩ := spot
    simp only [bind, Except.bind, contentAt_eq_ok_iff, Except.ok.injEq, Spot.mk.injEq]
    constructor
    · rintro ⟨hf, rfl⟩
      exact ⟨location, ⟨rfl, rfl⟩, hf⟩
    · rintro ⟨other, ⟨rfl, rfl⟩, hf⟩
      exact ⟨hf, rfl⟩

/-- Appending keeps what was in the file and puts the rest behind it. -/
theorem append_eq_ok_iff {disk after : Disk} {path : Path} {content : Bytes} :
    disk.append path content = .ok after ↔
      ∃ location before, disk.walk path = .ok ⟨location, false⟩ ∧
        disk.find? location = some (.file before) ∧
        disk.put location (.file (before ++ content)) = after := by
  unfold append
  cases hw : disk.walk path with
  | error error => simp [bind, Except.bind]
  | ok spot =>
    cases hc : disk.contentAt spot with
    | error error =>
      simp only [bind, Except.bind, hc, reduceCtorEq, false_iff, not_exists, not_and]
      intro location before ho hf
      cases ho
      have hr : disk.contentAt ⟨location, false⟩ = .ok before := contentAt_eq_ok_iff.2 ⟨hf, rfl⟩
      rw [hr] at hc
      cases hc
    | ok before =>
      obtain ⟨location, slash⟩ := spot
      obtain ⟨hf, rfl⟩ := contentAt_eq_ok_iff.1 hc
      simp [bind, Except.bind, pure, Except.pure, hc, hf]

end GoStubs.Disk
