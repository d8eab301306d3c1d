import GoStubs.Proofs.Disk.Walking

/-!
# Where paths lead by their text

Segments go down by a name, up by two dots, or stay.  So the text of a path alone settles the
location that it leads to from a working directory, and a walk that ends well ends there.  What is
joined to a path goes on from the location of the path, and without steps upwards it stays below.
-/

namespace GoStubs

namespace Path

variable {path : Path} {text name : Text} {here : Location}

/-- The location one segment further, whatever lies there. -/
def follow (here : Location) (segment : Text) : Location :=
  if isIdle segment then here
  else if segment = ['.', '.'] then here.dropLast
  else here ++ [segment]

/-- The location of a path as seen from a working directory, with its dots resolved. -/
def resolve (path : Path) (workingDirectory : Location) : Location :=
  path.segments.foldl follow (if path.isAbsolute then [] else workingDirectory)

/-- The segments of a path that are neither empty nor a dot. -/
def names (path : Path) : List Text := path.segments.filter (! isIdle ·)

theorem follow_of_isIdle {segment : Text} (h : isIdle segment) : follow here segment = here :=
  if_pos h

theorem follow_up : follow here ['.', '.'] = here.dropLast := by
  rw [follow, if_neg (by decide), if_pos rfl]

theorem follow_name (hi : isIdle name = false) (hu : name ≠ ['.', '.']) :
    follow here name = here ++ [name] := by
  rw [follow, if_neg (by simp [hi]), if_neg hu]

theorem foldl_follow_of_isIdle {segments : List Text} (h : ∀ segment ∈ segments, isIdle segment) :
    segments.foldl follow here = here := by
  induction segments with
  | nil => rfl
  | cons segment segments ih =>
      obtain ⟨hsegment, hrest⟩ := List.forall_mem_cons.1 h
      rw [List.foldl_cons, follow_of_isIdle hsegment, ih hrest]

/-- Without steps upwards, each name goes one step down. -/
theorem foldl_follow {segments : List Text} (h : ['.', '.'] ∉ segments) :
    segments.foldl follow here = here ++ segments.filter (! isIdle ·) := by
  induction segments generalizing here with
  | nil => simp
  | cons segment segments ih =>
      rw [List.mem_cons, not_or] at h
      obtain ⟨hu, hrest⟩ := h
      rw [List.foldl_cons, ih hrest]
      by_cases hi : isIdle segment
      · rw [follow_of_isIdle hi, List.filter_cons_of_neg (by simp [hi])]
      · rw [Bool.not_eq_true] at hi
        rw [follow_name hi (Ne.symm hu), List.filter_cons_of_pos (by simp [hi]), List.append_assoc]
        rfl

/-! ### Joined paths -/

/-- The segments of a path that come before what is joined to it. -/
def stem (path : Path) : List Text :=
  if path.text = [] ∨ path.text.getLast? = some '/' then path.segments.dropLast
  else path.segments

theorem segments_join (path : Path) (h : text.head? ≠ some '/') :
    (path.join text).segments = path.stem ++ (Path.mk text).segments := by
  rw [join, if_neg h, stem]
  by_cases hp : path.text = []
  · rw [if_pos (.inl hp), if_pos (.inl hp), segments, segments, hp]
    rfl
  by_cases hs : path.text.getLast? = some '/'
  · obtain ⟨before, hbefore⟩ := List.getLast?_eq_some_iff.1 hs
    rw [if_pos (.inr hs), if_pos (.inr hs)]
    rw [segments, segments, segments, hbefore, List.append_assoc, List.singleton_append,
      Text.split_append_cons (by simp), Text.split_append_cons (by simp), Text.split_nil,
      List.dropLast_concat]
  · have hneither : ¬ (path.text = [] ∨ path.text.getLast? = some '/') := not_or.2 ⟨hp, hs⟩
    rw [if_neg hneither, if_neg hneither]
    exact Text.split_append_cons (by simp) path.text text

/-- What a path has besides its stem does not lead anywhere. -/
theorem foldl_follow_stem (path : Path) (here : Location) :
    path.stem.foldl follow here = path.segments.foldl follow here := by
  have hcut {first : List Text} (hs : path.segments = first ++ [[]]) :
      path.segments.dropLast.foldl follow here = path.segments.foldl follow here := by
    rw [hs, List.dropLast_concat, List.foldl_append]
    exact (foldl_follow_of_isIdle (by simp [isIdle])).symm
  unfold stem
  split
  · next h =>
      rcases h with hp | hs
      · apply @hcut []
        rw [segments, hp]
        rfl
      · obtain ⟨before, hbefore⟩ := List.getLast?_eq_some_iff.1 hs
        apply hcut
        rw [segments, hbefore, Text.split_append_cons (by simp), Text.split_nil]
  · rfl

theorem isAbsolute_join (path : Path) (h : text.head? ≠ some '/') :
    (path.join text).isAbsolute = path.isAbsolute := by
  rw [join, if_neg h]
  cases hp : path.text with
  | nil => simp [isAbsolute, hp, h]
  | cons c rest =>
      split <;> simp [isAbsolute, hp]

theorem resolve_join (path : Path) (h : text.head? ≠ some '/') (workingDirectory : Location) :
    (path.join text).resolve workingDirectory =
      (Path.mk text).segments.foldl follow (path.resolve workingDirectory) := by
  rw [resolve, isAbsolute_join path h, segments_join path h, List.foldl_append, foldl_follow_stem]
  rfl

theorem segments_of_not_mem (h : '/' ∉ name) : (Path.mk name).segments = [name] := by
  apply Text.split_of_not_cut
  intro c hc
  simpa using fun he : c = '/' => h (he ▸ hc)

theorem resolve_join_segment (path : Path) (h : '/' ∉ name) (workingDirectory : Location) :
    (path.join name).resolve workingDirectory = follow (path.resolve workingDirectory) name := by
  have hhead : name.head? ≠ some '/' := fun hh => h (List.mem_of_mem_head? hh)
  rw [resolve_join path hhead, segments_of_not_mem h]
  rfl

/-- A name that is joined to a path lies directly in it. -/
theorem resolve_join_name (path : Path) (hs : '/' ∉ name) (hi : isIdle name = false)
    (hu : name ≠ ['.', '.']) (workingDirectory : Location) :
    (path.join name).resolve workingDirectory = path.resolve workingDirectory ++ [name] := by
  rw [resolve_join_segment path hs, follow_name hi hu]

/-! ### Paths that stay inside -/

theorem head?_ne_of_staysInside (h : (Path.mk text).staysInside) : text.head? ≠ some '/' := by
  intro hhead
  have habsolute : (Path.mk text).isAbsolute := beq_iff_eq.2 hhead
  have hroot : Component.root ∈ (Path.mk text).components := by
    rw [components]
    split
    · next hnil => exact absurd hnil (Text.split_ne_nil _ _)
    · rw [if_pos habsolute]
      exact List.mem_append_left _ List.mem_cons_self
  exact absurd (List.all_eq_true.1 h _ hroot) (by simp)

theorem not_mem_of_staysInside (h : path.staysInside) : ['.', '.'] ∉ path.segments := by
  intro hm
  have hofUp : Component.ofSegment? ['.', '.'] = some .up := by decide
  have hup : Component.up ∈ path.components := by
    rw [components]
    split
    · next hnil =>
        rw [hnil] at hm
        cases hm
    · next first rest hsegments =>
        rw [hsegments] at hm
        rcases List.mem_cons.1 hm with rfl | hm
        · -- The first segment is neither a dot nor empty, as it is for an absolute path.
          have habsolute : ¬ path.isAbsolute := by
            intro ha
            obtain ⟨text, ht⟩ := List.head?_eq_some_iff.1 (beq_iff_eq.1 ha)
            rw [segments, ht, Text.split_cons_of_cut (by simp)] at hsegments
            cases hsegments
          apply List.mem_append_left
          rw [if_neg habsolute, if_neg (by decide), hofUp]
          exact List.mem_cons_self
        · exact List.mem_append_right _ (List.mem_filterMap.2 ⟨_, hm, hofUp⟩)
  exact absurd (List.all_eq_true.1 h _ hup) (by simp)

/-- A path that stays inside adds its names to the path that it is joined to. -/
theorem resolve_join_of_staysInside (path : Path) (h : (Path.mk text).staysInside)
    (workingDirectory : Location) :
    (path.join text).resolve workingDirectory =
      path.resolve workingDirectory ++ (Path.mk text).names := by
  rw [resolve_join path (head?_ne_of_staysInside h), foldl_follow (not_mem_of_staysInside h), names]

end Path

namespace Disk

variable {disk : Disk} {making : Bool} {here : Location} {spot : Spot}

theorem location_of_walkFrom {segments : List Text}
    (h : disk.walkFrom making here segments = .ok spot) :
    spot.location = segments.foldl Path.follow here := by
  induction segments generalizing here with
  | nil =>
      cases h
      rfl
  | cons segment rest ih =>
      rw [List.foldl_cons]
      rw [walkFrom_cons_eq_ok_iff] at h
      rcases h with ⟨hi, hw⟩ | ⟨rfl, hw⟩ | ⟨⟨hi, hu, -⟩, ⟨-, hw⟩ | ⟨-, hempty, rfl⟩⟩
      · rw [Path.follow_of_isIdle hi]
        exact ih hw
      · rw [Path.follow_up]
        exact ih hw
      · rw [Path.follow_name hi hu]
        exact ih hw
      · rw [Path.follow_name hi hu, Path.foldl_follow_of_isIdle]
        intro other ho
        have hnil : other = [] := List.isEmpty_iff.1 (List.all_eq_true.1 hempty other ho)
        rw [hnil]
        rfl

/-- A walk that succeeds ends where the text of the path leads. -/
theorem location_of_walk {path : Path} (h : disk.walk path making = .ok spot) :
    spot.location = path.resolve disk.workingDirectory :=
  location_of_walkFrom (walk_eq_ok_iff.1 h).2

end Disk

end GoStubs
