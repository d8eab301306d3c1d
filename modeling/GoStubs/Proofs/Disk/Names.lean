import GoStubs.Proofs.Project.Scan

/-!
# Paths that end in names

A path that ends in a name is the parent of what is joined to it, and its segments stay in front of
the joined names.  So a walk of the joined path starts with a walk of the first path, and goes on
with the names from the directory there.
-/

namespace GoStubs

theorem Text.intercalate_split (text : Text) :
    ['/'].intercalate (Text.split (· == '/') text) = text := by
  induction text with
  | nil => rfl
  | cons c text ih =>
      by_cases hc : c = '/'
      · subst hc
        rw [split_cons_of_cut (by simp)]
        cases hs : split (· == '/') text with
        | nil => exact absurd hs (split_ne_nil _ text)
        | cons piece pieces =>
            rw [hs] at ih
            rw [List.intercalate_cons_cons, ih]
            rfl
      · cases hs : split (· == '/') text with
        | nil => exact absurd hs (split_ne_nil _ text)
        | cons piece pieces =>
            rw [hs] at ih
            simp only [split, hc, beq_iff_eq, if_false, hs, List.modifyHead_cons]
            cases pieces <;> simp_all [List.intercalate]

namespace Path

variable {path : Path} {name : Text}

/-- A name that is a segment of its own and leads neither nowhere nor upwards. -/
def IsName (name : Text) : Prop :=
  isIdle name = false ∧ name ≠ ['.', '.'] ∧ '/' ∉ name ∧ '\x00' ∉ name

instance (name : Text) : Decidable (IsName name) := inferInstanceAs (Decidable (_ ∧ _ ∧ _ ∧ _))

theorem isName_of_isFileName (h : isFileName name) : IsName name := by
  obtain ⟨⟨hi, hu, -⟩, hs, hz⟩ := isFileName_iff.1 h
  exact ⟨hi, hu, hs, hz⟩

theorem isFileName_of_isName (h : IsName name) (hl : Text.utf8Size name ≤ 255) : isFileName name :=
  isFileName_iff.2 ⟨⟨h.1, h.2.1, hl⟩, h.2.2⟩

theorem not_dots_of_length (h : 2 < name.length) : isIdle name = false ∧ name ≠ ['.', '.'] := by
  constructor
  · simp only [isIdle, Bool.or_eq_false_iff, beq_eq_false_iff_ne]
    constructor <;> intro he <;> simp [he] at h
  · intro he
    simp [he] at h

theorem isName_append_append {first middle last : Text} (hl : 2 < first.length)
    (hf : ∀ c ∈ first, c ≠ '/' ∧ c ≠ '\x00') (hm : ∀ c ∈ middle, c ≠ '/' ∧ c ≠ '\x00')
    (hs : ∀ c ∈ last, c ≠ '/' ∧ c ≠ '\x00') : IsName (first ++ middle ++ last) := by
  have hall := List.forall_mem_append.2 ⟨List.forall_mem_append.2 ⟨hf, hm⟩, hs⟩
  have hlength : 2 < (first ++ middle ++ last).length := by
    simp only [List.length_append]
    omega
  obtain ⟨hi, hu⟩ := not_dots_of_length hlength
  exact ⟨hi, hu, fun hc => (hall _ hc).1 rfl, fun hc => (hall _ hc).2 rfl⟩

theorem split_name (h : IsName name) : Text.split (· == '/') name = [name] := by
  apply Text.split_of_not_cut
  intro c hc
  simpa using fun he : c = '/' => h.2.2.1 (he ▸ hc)

/-- A path whose last segment is neither empty nor a dot. -/
def EndsInName (path : Path) : Prop :=
  ∃ name, path.segments.getLast? = some name ∧ isIdle name = false

theorem EndsInName.text_ne_nil (h : path.EndsInName) : path.text ≠ [] := by
  obtain ⟨name, hs, hi⟩ := h
  intro ht
  rw [segments, ht] at hs
  cases hs
  cases hi

theorem EndsInName.getLast?_ne_slash (h : path.EndsInName) : path.text.getLast? ≠ some '/' := by
  obtain ⟨name, hs, hi⟩ := h
  intro ht
  obtain ⟨front, ht⟩ := List.getLast?_eq_some_iff.1 ht
  rw [segments, ht, Text.split_append_cons (by simp), Text.split_nil, List.getLast?_concat] at hs
  cases hs
  cases hi

theorem head?_ne_slash (h : IsName name) : name.head? ≠ some '/' :=
  fun hh => h.2.2.1 (List.mem_of_mem_head? hh)

theorem EndsInName.text_join (h : path.EndsInName) (hn : IsName name) :
    (path.join name).text = path.text ++ '/' :: name := by
  rw [join, if_neg (head?_ne_slash hn), if_neg (not_or.2 ⟨h.text_ne_nil, h.getLast?_ne_slash⟩)]

theorem EndsInName.segments_join (h : path.EndsInName) (hn : IsName name) :
    (path.join name).segments = path.segments ++ [name] := by
  rw [segments, h.text_join hn, Text.split_append_cons (by simp), split_name hn, segments]

theorem EndsInName.isAbsolute_join (h : path.EndsInName) (hn : IsName name) :
    (path.join name).isAbsolute = path.isAbsolute := by
  have hp := h.text_ne_nil
  rw [isAbsolute, isAbsolute, h.text_join hn]
  cases ht : path.text with
  | nil => exact absurd ht hp
  | cons c text => rfl

theorem endsInName_join (path : Path) (hn : IsName name) : (path.join name).EndsInName := by
  by_cases hp : path.text = []
  · refine ⟨name, ?_, hn.1⟩
    rw [segments, join, if_neg (head?_ne_slash hn), if_pos (.inl hp), hp, List.nil_append,
      split_name hn]
    rfl
  · obtain ⟨first, hs, -⟩ := Disk.exists_segments_join hp hn.2.2.1
    exact ⟨name, by rw [hs, List.getLast?_concat], hn.1⟩

theorem join_join (path : Path) {last : Text} (hn : IsName name) (hl : IsName last) :
    (path.join name).join last = path.join (name ++ '/' :: last) := by
  have htext := (endsInName_join path hn).text_join hl
  have hhead : (name ++ '/' :: last).head? ≠ some '/' := by
    cases name with
    | nil => cases hn.1
    | cons c name => exact fun hc => head?_ne_slash hn hc
  have heq : ((path.join name).join last).text = (path.join (name ++ '/' :: last)).text := by
    rw [htext, join, join, if_neg (head?_ne_slash hn), if_neg hhead]
    split <;> simp
  exact congrArg Path.mk heq

/-- Whether the first segment of a path is one that a parent always keeps. -/
def isAnchored (path : Path) : Bool := path.isAbsolute || path.segments.head? == some ['.']

/-- The first segment of such a path is not the name that the path ends in. -/
theorem EndsInName.ne_nil_of_isAnchored {first : List Text} (hs : path.segments = first ++ [name])
    (hi : isIdle name = false) (ha : path.isAnchored) : first ≠ [] := by
  rintro rfl
  rcases Bool.or_eq_true_iff.1 ha with ha | ha
  · obtain ⟨text, ht⟩ := List.head?_eq_some_iff.1 (beq_iff_eq.1 ha)
    rw [segments, ht, Text.split_cons_of_cut (by simp)] at hs
    rw [← (List.cons.inj hs).1] at hi
    cases hi
  · rw [hs, beq_iff_eq] at ha
    cases ha
    cases hi

theorem EndsInName.parent?_join (h : path.EndsInName) (hn : IsName name) :
    (path.join name).parent? = some path := by
  obtain ⟨last, hlast, hi⟩ := id h
  obtain ⟨first, hs⟩ := List.getLast?_eq_some_iff.1 hlast
  have hjoin : ((path.join name).isAbsolute || (path.join name).segments.head? == some ['.']) =
      path.isAnchored := by
    rw [isAnchored, h.isAbsolute_join hn, h.segments_join hn, hs]
    cases first <;> rfl
  -- The parent of an anchored path keeps the first segment, which is before the last one.
  have hk : (if path.isAnchored then 1 else 0) ≤ first.length := by
    by_cases ha : path.isAnchored
    · rw [if_pos ha]
      exact List.length_pos_iff.2 (ne_nil_of_isAnchored hs hi ha)
    · rw [if_neg ha]
      exact Nat.zero_le _
  generalize hc : (if path.isAnchored then 1 else 0) = count at hk
  have htake : (path.join name).segments.take count = first.take count := by
    rw [h.segments_join hn, hs, List.append_assoc, List.take_append_of_le_length hk]
  have hdrop : (path.join name).segments.drop count = first.drop count ++ [last, name] := by
    rw [h.segments_join hn, hs, List.append_assoc, List.drop_append_of_le_length hk]
    rfl
  have htext : ['/'].intercalate (first ++ [last]) = path.text := by
    rw [← hs]
    exact Text.intercalate_split path.text
  simp [parent?, hjoin, hc, htake, hdrop, hn.1, hi, ← List.append_assoc, htext]

theorem ancestors_join {last : Text} (hn : IsName name) (hl : IsName last) :
    ∃ more, ((path.join name).join last).ancestors =
      (path.join name).join last :: path.join name :: more := by
  have hjoin := endsInName_join path hn
  rw [ancestors, ancestorsWithin, hjoin.parent?_join hl, hjoin.text_join hl]
  simp only [List.length_append, List.length_cons, ← Nat.add_assoc]
  exact ⟨_, rfl⟩

section Below

open InterfaceFile (pathBelow)

variable {names : List Text}

theorem EndsInName.text_pathBelow (h : path.EndsInName) (hn : ∀ name ∈ names, IsName name) :
    (pathBelow path names).text = path.text ++ names.flatMap ('/' :: ·) := by
  induction names generalizing path with
  | nil => simp [pathBelow]
  | cons name names ih =>
      obtain ⟨hname, hnames⟩ := List.forall_mem_cons.1 hn
      have htail := ih (endsInName_join path hname) hnames
      rw [h.text_join hname, List.append_assoc] at htail
      exact htail

theorem EndsInName.segments_pathBelow (h : path.EndsInName) (hn : ∀ name ∈ names, IsName name) :
    (pathBelow path names).segments = path.segments ++ names := by
  induction names generalizing path with
  | nil => simp [pathBelow]
  | cons name names ih =>
      obtain ⟨hname, hnames⟩ := List.forall_mem_cons.1 hn
      have htail := ih (endsInName_join path hname) hnames
      rw [h.segments_join hname, List.append_assoc] at htail
      exact htail

end Below

end Path

namespace Disk

open GoStubs.Path (IsName EndsInName)
open InterfaceFile (pathBelow)

variable {disk after : Disk} {path : Path} {here : Location} {name : Text} {making : Bool}

/-- A path that ends in a name and leads to a directory. -/
structure Leads (disk : Disk) (path : Path) (here : Location) : Prop where
  endsInName : path.EndsInName
  walk : disk.walk path = .ok ⟨here, false⟩
  directory : disk.find? here = some .directory

theorem walk_of_short (hz : '\x00' ∉ path.text) (hp : path.text ≠ [])
    (hl : Text.utf8Size path.text ≤ longestPath) :
    disk.walk path making = disk.walkFrom making
      (if path.isAbsolute then [] else disk.workingDirectory) path.segments := by
  rw [Disk.walk, if_neg (by simpa using hz), if_neg (by simpa using hp), if_neg (Nat.not_lt.2 hl)]

namespace Leads

variable {names : List Text}

theorem walkable_pathBelow (h : Leads disk path here) (hn : ∀ name ∈ names, IsName name) :
    '\x00' ∉ (pathBelow path names).text ∧ (pathBelow path names).text ≠ [] := by
  obtain ⟨⟨hz, hp, -⟩, -⟩ := walk_eq_ok_iff.1 h.walk
  rw [h.endsInName.text_pathBelow hn]
  refine ⟨?_, by simp [hp]⟩
  simp only [List.mem_append, List.mem_flatMap, List.mem_cons, not_or, not_exists, not_and]
  exact ⟨hz, fun name hm => ⟨by decide, (hn name hm).2.2.2⟩⟩

/-- A path is walked by way of the directory that its first part leads to. -/
theorem walk_pathBelow (h : Leads disk path here) (names : List Text)
    (hn : ∀ name ∈ names, IsName name)
    (hl : Text.utf8Size (pathBelow path names).text ≤ longestPath) (making : Bool) :
    disk.walk (pathBelow path names) making = disk.walkFrom making here names := by
  obtain ⟨hz, hp⟩ := h.walkable_pathBelow hn
  have habsolute : (pathBelow path names).isAbsolute = path.isAbsolute := by
    rw [Path.isAbsolute, Path.isAbsolute, h.endsInName.text_pathBelow hn]
    cases ht : path.text with
    | nil => exact absurd ht h.endsInName.text_ne_nil
    | cons c text => rfl
  rw [walk_of_short hz hp hl, habsolute, h.endsInName.segments_pathBelow hn,
    walkFrom_append (walkFrom_again (walk_eq_ok_iff.1 h.walk).2) h.directory]

theorem walk_pathBelow_of_long (h : Leads disk path here) (names : List Text)
    (hn : ∀ name ∈ names, IsName name)
    (hl : longestPath < Text.utf8Size (pathBelow path names).text) (making : Bool) :
    disk.walk (pathBelow path names) making = .error .nameTooLong := by
  obtain ⟨hz, hp⟩ := h.walkable_pathBelow hn
  rw [Disk.walk, if_neg (by simpa using hz), if_neg (by simpa using hp), if_pos hl]

theorem join (h : Leads disk path here) (hd : disk.find? (here ++ [name]) = some .directory)
    (hl : Text.utf8Size (path.join name).text ≤ longestPath) :
    Leads disk (path.join name) (here ++ [name]) where
  endsInName := by
    have hall := isFileName_of_find? hd
    rw [List.all_append, Bool.and_eq_true, List.all_cons, List.all_nil, Bool.and_true] at hall
    exact Path.endsInName_join path (Path.isName_of_isFileName hall.2)
  walk := walk_join h.walk hd hl
  directory := hd

theorem of_grows {written : Location → Prop} (h : Leads disk path here)
    (hg : Grows written disk after) : Leads after path here where
  endsInName := h.endsInName
  walk := hg.walk h.walk (.inl h.directory)
  directory := hg.directory here h.directory

end Leads

/-- A walk that ends at a name has come to a directory before it. -/
theorem exists_of_walkFrom_concat {first : List Text} {spot : Spot}
    (hd : disk.find? here = some .directory) (hn : IsName name)
    (hw : disk.walkFrom making here (first ++ [name]) = .ok spot) :
    ∃ there, disk.walkFrom making here first = .ok ⟨there, false⟩ ∧
      disk.find? there = some .directory := by
  induction first generalizing here with
  | nil => exact ⟨here, rfl, hd⟩
  | cons segment first ih =>
      rw [List.cons_append, walkFrom_cons_eq_ok_iff] at hw
      rcases hw with ⟨hi, hw⟩ | ⟨hu, hw⟩ | ⟨hs, ⟨hf, hw⟩ | ⟨-, hempty, -⟩⟩
      · obtain ⟨there, hthere, hdir⟩ := ih hd hw
        exact ⟨there, walkFrom_cons_eq_ok_iff.2 (.inl ⟨hi, hthere⟩), hdir⟩
      · obtain ⟨there, hthere, hdir⟩ := ih (find?_dropLast hd) hw
        exact ⟨there, walkFrom_cons_eq_ok_iff.2 (.inr (.inl ⟨hu, hthere⟩)), hdir⟩
      · obtain ⟨there, hthere, hdir⟩ := ih hf hw
        exact ⟨there, walkFrom_cons_eq_ok_iff.2 (.inr (.inr ⟨hs, .inl ⟨hf, hthere⟩⟩)), hdir⟩
      · have hname : name.isEmpty := by simpa using List.all_eq_true.1 hempty name (by simp)
        rw [List.isEmpty_iff.1 hname] at hn
        cases hn.1

theorem exists_leads_of_walk_join {spot : Spot} (he : path.EndsInName) (hn : IsName name)
    (hw : disk.walk (path.join name) = .ok spot) : ∃ here, Leads disk path here := by
  obtain ⟨⟨hz, -, hl⟩, hw⟩ := walk_eq_ok_iff.1 hw
  rw [he.text_join hn] at hz hl
  rw [he.isAbsolute_join hn, he.segments_join hn] at hw
  -- The name comes last in the walk, so what is before it leads to a directory.
  obtain ⟨here, hhere, hd⟩ := exists_of_walkFrom_concat (disk.find?_start path) hn hw
  refine ⟨here, he, walk_eq_ok_iff.2 ⟨⟨?_, he.text_ne_nil, ?_⟩, hhere⟩, hd⟩
  · exact fun hm => hz (List.mem_append_left _ hm)
  · rw [Text.utf8Size_append] at hl
    omega

/-! ### Single names -/

theorem walkFrom_name (hn : isFileName name) :
    disk.walkFrom making here [name] = .ok ⟨here ++ [name], false⟩ := by
  obtain ⟨⟨hi, hu, hl⟩, -⟩ := isFileName_iff.1 hn
  refine walkFrom_cons_eq_ok_iff.2 (.inr (.inr ⟨⟨hi, hu, hl⟩, ?_⟩))
  by_cases hd : disk.find? (here ++ [name]) = some .directory
  · exact .inl ⟨hd, rfl⟩
  · exact .inr ⟨hd, rfl, rfl⟩

theorem walkFrom_long_name (hn : IsName name) (hl : 255 < Text.utf8Size name) :
    disk.walkFrom making here [name] = .error .nameTooLong := by
  simp [walkFrom, hn.1, hn.2.1, hl]

theorem walkFrom_name_name {last : Text} (hn : isFileName name) (hl : isFileName last) :
    disk.walkFrom making here [name, last] =
      match disk.find? (here ++ [name]) with
      | some .directory => .ok ⟨here ++ [name, last], false⟩
      | some (.file _) => .error .notADirectory
      | none => .error .notFound := by
  obtain ⟨⟨hi, hu, hs⟩, -⟩ := isFileName_iff.1 hn
  have hempty : last ≠ [] := by
    rintro rfl
    cases hl
  have hlast : disk.walkFrom making (here ++ [name]) [last] =
      .ok ⟨here ++ [name, last], false⟩ := by
    rw [walkFrom_name hl, List.append_assoc]
    rfl
  rw [walkFrom, if_neg (by simp [hi]), if_neg hu, if_neg (Nat.not_lt.2 hs), hlast]
  rcases disk.find? (here ++ [name]) with _ | _ | content <;> simp [hempty]

end Disk

end GoStubs
