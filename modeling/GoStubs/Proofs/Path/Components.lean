import GoStubs.Proofs.Disk.Names
import GoStubs.Proofs.Path.Resolution

/-!
# Components of joined paths

The components of a joined path are those of the first path, and then those of what is joined to it,
except for a dot at its front.  So a path that is joined together from a base lies below the base,
however the base is spelled.
-/

namespace GoStubs.Path

open InterfaceFile (pathBelow)

variable {path base : Path} {text : Text}

/-- The names among the components of a path. -/
def componentNames (path : Path) : List Text := path.components.filterMap Component.name?

theorem components_empty : (Path.mk []).components = [] := by decide

theorem ofSegment?_name {name : Text} (h : IsName name) :
    Component.ofSegment? name = some (.name name) := by
  rw [Component.ofSegment?, if_neg (by simp [h.1]), if_neg h.2.1]

/-- The component at the front of a path, as its first segment has it. -/
def frontComponent (path : Path) (first : Text) : List Component :=
  if path.isAbsolute then [.root]
  else if first = ['.'] then [.here]
  else (Component.ofSegment? first).toList

theorem components_of_segments {first : Text} {rest : List Text}
    (h : path.segments = first :: rest) :
    path.components = path.frontComponent first ++ rest.filterMap Component.ofSegment? := by
  rw [components, h]
  rfl

/-- The stem of a path that is not empty lacks at most an empty segment at the end. -/
theorem exists_stem (h : path.text ≠ []) :
    ∃ first rest, path.stem = first :: rest ∧
      (path.segments = first :: rest ∨ path.segments = first :: (rest ++ [[]])) := by
  have hne : path.segments ≠ [] := Text.split_ne_nil _ _
  rw [stem]
  split
  case isTrue hp =>
    obtain ⟨before, hbefore⟩ := List.getLast?_eq_some_iff.1 (hp.resolve_left h)
    have hsegments : path.segments = Text.split (· == '/') before ++ [[]] := by
      rw [segments, hbefore, Text.split_append_cons (by simp), Text.split_nil]
    obtain ⟨first, rest, hs⟩ := List.exists_cons_of_ne_nil (Text.split_ne_nil (· == '/') before)
    rw [hs] at hsegments
    exact ⟨first, rest, by rw [hsegments, List.dropLast_concat], .inr hsegments⟩
  case isFalse =>
    obtain ⟨first, rest, hs⟩ := List.exists_cons_of_ne_nil hne
    exact ⟨first, rest, hs, .inl hs⟩

theorem components_join (hp : path.text ≠ []) (h : text.head? ≠ some '/') :
    (path.join text).components =
      path.components ++ (Path.mk text).segments.filterMap Component.ofSegment? := by
  have hfront (first : Text) :
      (path.join text).frontComponent first = path.frontComponent first := by
    rw [frontComponent, frontComponent, isAbsolute_join path h]
  have hempty : Component.ofSegment? [] = none := by decide
  obtain ⟨first, rest, hstem, hsegments⟩ := exists_stem hp
  have hjoin := segments_join path h
  rw [hstem, List.cons_append] at hjoin
  rw [components_of_segments hjoin, hfront, List.filterMap_append, ← List.append_assoc]
  rcases hsegments with hs | hs
  · rw [components_of_segments hs]
  · rw [components_of_segments hs, List.filterMap_append]
    simp [hempty]

/-- What is joined to a base is found below it, with the names that it has by itself. -/
theorem exists_components_join (base : Path) (h : text.head? ≠ some '/') :
    ∃ more, (base.join text).components = base.components ++ more ∧
      more.filterMap Component.name? = (Path.mk text).componentNames := by
  by_cases hp : base.text = []
  · obtain rfl : base = ⟨[]⟩ := congrArg Path.mk hp
    refine ⟨(Path.mk text).components, ?_, rfl⟩
    rw [components_empty, join, if_neg h, if_pos (.inl rfl)]
    rfl
  · refine ⟨_, components_join hp h, ?_⟩
    have hrelative : ¬ (Path.mk text).isAbsolute := by simpa [isAbsolute] using h
    obtain ⟨first, rest, hs⟩ := List.exists_cons_of_ne_nil (Text.split_ne_nil (· == '/') text)
    have hsegments : (Path.mk text).segments = first :: rest := hs
    rw [componentNames, components_of_segments hsegments, hsegments, frontComponent,
      if_neg hrelative]
    by_cases hdot : first = ['.']
    · -- A dot is a component at the front of a path only, and it has no name.
      subst hdot
      rfl
    · rw [if_neg hdot]
      cases hfirst : Component.ofSegment? first <;> simp [hfirst]

/-! ### Names below a base -/

theorem text_ne_nil_join (base : Path) (h : text ≠ []) : (base.join text).text ≠ [] := by
  unfold join
  split
  · exact h
  · split <;> simp [h]

theorem components_pathBelow {names : List Text} (hp : path.text ≠ [])
    (hn : ∀ name ∈ names, IsName name) :
    (pathBelow path names).components = path.components ++ names.map .name := by
  induction names generalizing path with
  | nil => simp [pathBelow]
  | cons name names ih =>
      obtain ⟨hname, hnames⟩ := List.forall_mem_cons.1 hn
      have hne : name ≠ [] := by
        rintro rfl
        cases hname.1
      have hjoin : (path.join name).components = path.components ++ [.name name] := by
        rw [components_join hp (head?_ne_slash hname), segments_of_not_mem hname.2.2.1]
        simp [ofSegment?_name hname]
      change (pathBelow (path.join name) names).components = _
      rw [ih (text_ne_nil_join path hne) hnames, hjoin, List.append_assoc]
      rfl

/-- What lies below a path that is joined to a base lies below the base, by the names of that path
and those that lead on from there. -/
theorem exists_below?_pathBelow (base : Path) {names : List Text} (ht : text ≠ [])
    (h : text.head? ≠ some '/') (hn : ∀ name ∈ names, IsName name) :
    ∃ more, base.below? (pathBelow (base.join text) names) = some (more ++ names.map .name) ∧
      more.filterMap Component.name? = (Path.mk text).componentNames := by
  obtain ⟨more, hjoin, hnames⟩ := exists_components_join base h
  refine ⟨more, ?_, hnames⟩
  rw [below?, Text.dropPrefix?_eq_some_iff, components_pathBelow (text_ne_nil_join base ht) hn,
    hjoin, List.append_assoc]

end GoStubs.Path
