import GoStubs.Proofs.Disk.Nested

/-!
# Actions that can be repeated

What an action puts on a disk lies over what was there.  If neither that nor the result of the
action depends on the disk, as long as the disk is of some kind that the action keeps, then the
action comes to the same a second time, and leaves the disk as it is then.
-/

namespace GoStubs

namespace Disk

variable {cover more : Location → Option Entry} {before middle after : Disk}

/-- What is at a location now is what covers it, and what was there if nothing does. -/
structure Covers (cover : Location → Option Entry) (before after : Disk) : Prop where
  workingDirectory : after.workingDirectory = before.workingDirectory
  find? : ∀ location, after.find? location = (cover location).or (before.find? location)
  root : after.entries[([] : Location)]? = before.entries[([] : Location)]?

theorem covers_none (disk : Disk) : Covers (fun _ => none) disk disk := ⟨rfl, fun _ => rfl, rfl⟩

theorem Covers.trans (first : Covers cover before middle) (last : Covers more middle after) :
    Covers (fun location => (more location).or (cover location)) before after where
  workingDirectory := last.workingDirectory.trans first.workingDirectory
  find? location := by rw [last.find?, first.find?, Option.or_assoc]
  root := last.root.trans first.root

theorem Sets.covers {entry : Entry} {locations : List Location}
    (h : Sets entry locations before after) :
    Covers (fun location => if location ∈ locations then some entry else none) before after where
  workingDirectory := h.workingDirectory
  find? location := by
    rw [h.find?]
    split <;> rfl
  root := h.root

/-- What covers a disk already changes nothing. -/
theorem Covers.again (first : Covers cover before middle) (last : Covers cover middle after) :
    after = middle := by
  apply ext_find? last.workingDirectory
  · intro location
    rw [last.find?, first.find?, ← Option.or_assoc, Option.or_self]
  · exact last.root

end Disk

/-! ### Actions -/

/-- On all disks of a kind, which it keeps, an action has one result and puts the same over the
disk. -/
def Settles {α : Type} (kind : Disk → Prop) (action : Disk → α × Disk) : Prop :=
  ∃ result cover, ∀ disk, kind disk → (action disk).1 = result ∧
    Disk.Covers cover disk (action disk).2 ∧ kind (action disk).2

namespace Settles

variable {α β : Type} {kind : Disk → Prop} {action other : Disk → α × Disk}

theorem pure (result : α) : Settles kind fun disk => (result, disk) :=
  ⟨result, fun _ => none, fun disk hd => ⟨rfl, Disk.covers_none disk, hd⟩⟩

theorem andThen {next : α → Disk → β × Disk} (h : Settles kind action)
    (hn : ∀ result, Settles kind (next result)) :
    Settles kind fun disk => next (action disk).1 (action disk).2 := by
  obtain ⟨result, cover, hall⟩ := h
  obtain ⟨last, more, hnext⟩ := hn result
  refine ⟨last, fun location => (more location).or (cover location), fun disk hd => ?_⟩
  obtain ⟨hresult, hcovers, hstands⟩ := hall disk hd
  obtain ⟨hlast, hmore, hagain⟩ := hnext _ hstands
  simp only [hresult]
  exact ⟨hlast, hcovers.trans hmore, hagain⟩

theorem map (f : α → β) (h : Settles kind action) :
    Settles kind fun disk => (f (action disk).1, (action disk).2) :=
  h.andThen fun result => pure (f result)

theorem congr (h : Settles kind action) (he : ∀ disk, kind disk → other disk = action disk) :
    Settles kind other := by
  obtain ⟨result, cover, hall⟩ := h
  refine ⟨result, cover, fun disk hd => ?_⟩
  rw [he disk hd]
  exact hall disk hd

theorem stands (h : Settles kind action) {disk : Disk} (hd : kind disk) :
    kind (action disk).2 := by
  obtain ⟨result, cover, hall⟩ := h
  exact (hall disk hd).2.2

/-- Taken a second time, such an action has the same result and leaves the disk as it is. -/
theorem again (h : Settles kind action) {disk : Disk} (hd : kind disk) :
    action (action disk).2 = action disk := by
  obtain ⟨result, cover, hall⟩ := h
  obtain ⟨hresult, hcovers, hstands⟩ := hall disk hd
  obtain ⟨hagain, hmore, -⟩ := hall _ hstands
  exact Prod.ext (hagain.trans hresult.symm) (hcovers.again hmore)

end Settles

end GoStubs
