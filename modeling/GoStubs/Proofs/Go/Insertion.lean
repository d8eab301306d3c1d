import GoStubs.Proofs.Go.Respacing

/-!
# Blanks between declarations

A blank that comes next to another blank changes no declaration, if no
declaration ends at it.  A newline at which a declaration would end changes none
either when it comes next to another newline: what stands between the two is
blank, and blank declarations are dropped.
-/

namespace GoStubs.Go.Bracket

open Text (isBlank collapse words)

variable {first last after : Text} {c g w : Char} {depth : Int}

/-- The depth behind a text, as splitting it counts. -/
def depthBehind : Text → Int
  | [] => 0
  | c :: rest => turn c + depthBehind rest

theorem depthBehind_concat (text : Text) (c : Char) :
    depthBehind (text ++ [c]) = depthBehind text + turn c := by
  induction text with
  | nil => simp [depthBehind]
  | cons d text ih => simp [depthBehind, ih, Int.add_assoc]

/-- Whether a declaration ends at a character. -/
def ends (depth : Int) (c : Char) : Bool := depth ≤ 0 && (c == '\n' || c == ';')

/-- The declarations that pieces of a block come to. -/
def tidy (pieces : List Text) : List Text := (pieces.map collapse).filter (! ·.isEmpty)

theorem declarations_eq (body : Text) : declarations body = tidy (splitFrom ends 0 body) := rfl

theorem turn_of_ends (h : ends depth c) : turn c = 0 := by
  simp only [ends, Bool.and_eq_true, Bool.or_eq_true, beq_iff_eq] at h
  rcases h.2 with rfl | rfl <;> rfl

theorem modifyHead_nil_append (pieces : List Text) :
    pieces.modifyHead (([] : Text) ++ ·) = pieces := congrFun List.modifyHead_id pieces

theorem tidy_cons (piece : Text) (pieces : List Text) :
    tidy (piece :: pieces) = tidy [piece] ++ tidy pieces := by
  rw [tidy, tidy, tidy, ← List.singleton_append, List.map_append, List.filter_append]

theorem tidy_cons_congr (h : words first = words last) (pieces : List Text) :
    tidy (first :: pieces) = tidy (last :: pieces) := by
  rw [tidy, tidy, List.map_cons, List.map_cons, collapse, collapse, h]

/-- What is the same behind any unfinished piece is the same behind a whole text. -/
theorem tidy_splitFrom_append {x y before : Text}
    (h : ∀ front, tidy ((splitFrom ends (depth + depthBehind before) x).modifyHead (front ++ ·)) =
      tidy ((splitFrom ends (depth + depthBehind before) y).modifyHead (front ++ ·)))
    (front : Text) :
    tidy ((splitFrom ends depth (before ++ x)).modifyHead (front ++ ·)) =
      tidy ((splitFrom ends depth (before ++ y)).modifyHead (front ++ ·)) := by
  induction before generalizing depth front with
  | nil => simpa [depthBehind] using h front
  | cons c before ih =>
      have hdepth : depth + depthBehind (c :: before) = depth + turn c + depthBehind before := by
        rw [depthBehind, Int.add_assoc]
      rw [hdepth] at h
      rw [List.cons_append, List.cons_append, splitFrom, splitFrom]
      -- A character that ends a declaration starts a new piece, any other joins the unfinished one.
      by_cases hc : ends depth c
      · rw [turn_of_ends hc, Int.add_zero] at h
        have hbehind := ih h []
        rw [modifyHead_nil_append, modifyHead_nil_append] at hbehind
        rw [if_pos hc, if_pos hc, List.modifyHead_cons, List.modifyHead_cons, tidy_cons, hbehind,
          ← tidy_cons]
      · have hbehind := ih h (front ++ [c])
        rw [if_neg hc, if_neg hc, List.modifyHead_modifyHead, List.modifyHead_modifyHead]
        simpa [Function.comp_def] using hbehind

/-- A blank at which no declaration ends does not show next to another one. -/
theorem tidy_splitFrom_blank (hg : isBlank g) (hw : isBlank w) (hends : ends depth g = false)
    {pair : Text} (hp : pair = [w, g] ∨ pair = [g, w]) (front : Text) :
    tidy ((splitFrom ends depth (pair ++ after)).modifyHead (front ++ ·)) =
      tidy ((splitFrom ends depth (w :: after)).modifyHead (front ++ ·)) := by
  obtain ⟨piece, pieces, hs⟩ := List.exists_cons_of_ne_nil (splitFrom_ne_nil ends depth after)
  have hturn := turn_of_isBlank hg
  have hturn' := turn_of_isBlank hw
  have hwords (first last : Text) : words (first ++ g :: last) = words first ++ words last :=
    Text.words_append_cons hg first last
  have hwords' (first last : Text) : words (first ++ w :: last) = words first ++ words last :=
    Text.words_append_cons hw first last
  by_cases he : ends depth w
  · rcases hp with rfl | rfl
    · have hpiece : words (g :: piece) = words piece := hwords [] piece
      simp only [List.cons_append, List.nil_append, splitFrom, he, hends, hturn, hs,
        Int.add_zero, if_true, Bool.false_eq_true, if_false, List.modifyHead_cons]
      rw [tidy_cons, tidy_cons_congr hpiece, ← tidy_cons]
    · have hpiece : words (front ++ [g]) = words (front ++ []) := by
        rw [hwords, List.append_nil]
        exact List.append_nil _
      simp only [List.cons_append, List.nil_append, splitFrom, he, hends, hturn, hs,
        Int.add_zero, if_true, Bool.false_eq_true, if_false, List.modifyHead_cons]
      exact tidy_cons_congr hpiece _
  · have hpair : words (front ++ (pair ++ piece)) = words (front ++ w :: piece) := by
      rcases hp with rfl | rfl
      · have hpiece : words (g :: piece) = words piece := hwords [] piece
        rw [List.cons_append, List.singleton_append, hwords', hpiece, hwords']
      · have hpiece : words (w :: piece) = words piece := hwords' [] piece
        rw [List.cons_append, List.singleton_append, hwords, hpiece, hwords']
    have hsplit : splitFrom ends depth (pair ++ after) = (pair ++ piece) :: pieces := by
      rcases hp with rfl | rfl <;> simp [splitFrom, he, hends, hturn, hturn', hs]
    have hone : splitFrom ends depth (w :: after) = (w :: piece) :: pieces := by
      simp [splitFrom, he, hturn', hs]
    rw [hsplit, hone, List.modifyHead_cons, List.modifyHead_cons]
    exact tidy_cons_congr hpair pieces

theorem tidy_splitFrom_newline (depth : Int) (after front : Text) :
    tidy ((splitFrom ends depth ('\n' :: '\n' :: after)).modifyHead (front ++ ·)) =
      tidy ((splitFrom ends depth ('\n' :: after)).modifyHead (front ++ ·)) := by
  by_cases he : ends depth '\n'
  · simp only [splitFrom, he, if_true, List.modifyHead_cons]
    rw [tidy_cons, tidy_cons []]
    exact (tidy_cons (front ++ []) (splitFrom ends depth after)).symm
  · exact tidy_splitFrom_blank (by decide) (by decide) (Bool.eq_false_iff.2 he) (.inl rfl) front

/-- Next to another blank a new one does not show if no declaration ends at it, or if both are
newlines. -/
theorem declarations_insert_pair {before : Text} (hg : isBlank g) (hw : isBlank w)
    (h : ends (depthBehind before) g = false ∨ g = '\n' ∧ w = '\n') {pair : Text}
    (hp : pair = [w, g] ∨ pair = [g, w]) (after : Text) :
    declarations (before ++ (pair ++ after)) = declarations (before ++ w :: after) := by
  have hlocal (front : Text) :
      tidy ((splitFrom ends (0 + depthBehind before) (pair ++ after)).modifyHead (front ++ ·)) =
        tidy ((splitFrom ends (0 + depthBehind before) (w :: after)).modifyHead (front ++ ·)) := by
    rw [Int.zero_add]
    rcases h with hends | ⟨rfl, rfl⟩
    · exact tidy_splitFrom_blank hg hw hends hp front
    · obtain rfl : pair = ['\n', '\n'] := hp.elim id id
      exact tidy_splitFrom_newline _ after front
  have hall := tidy_splitFrom_append hlocal []
  rwa [modifyHead_nil_append, modifyHead_nil_append, ← declarations_eq, ← declarations_eq] at hall

/-- Whether one of the two characters around a place has a property. -/
def Near (p : Char → Prop) (before after : Text) : Prop :=
  (∃ c, before.getLast? = some c ∧ p c) ∨ ∃ c, after.head? = some c ∧ p c

theorem Near.mono {p q : Char → Prop} {before after : Text} (h : Near p before after)
    (hpq : ∀ c, p c → q c) : Near q before after := by
  rcases h with ⟨c, hc, hp⟩ | ⟨c, hc, hp⟩
  · exact .inl ⟨c, hc, hpq c hp⟩
  · exact .inr ⟨c, hc, hpq c hp⟩

theorem declarations_insert {before after : Text} (hg : isBlank g)
    (h : Near (isBlank ·) before after ∧ ends (depthBehind before) g = false ∨
      Near (· = '\n') before after ∧ g = '\n') :
    declarations (before ++ g :: after) = declarations (before ++ after) := by
  have hnear : Near (fun w => isBlank w ∧
      (ends (depthBehind before) g = false ∨ g = '\n' ∧ w = '\n')) before after := by
    rcases h with ⟨⟨w, hw, hb⟩ | ⟨w, hw, hb⟩, he⟩ | ⟨⟨w, hw, rfl⟩ | ⟨w, hw, rfl⟩, he⟩
    · exact .inl ⟨w, hw, hb, .inl he⟩
    · exact .inr ⟨w, hw, hb, .inl he⟩
    · exact .inl ⟨_, hw, by decide, .inr ⟨he, rfl⟩⟩
    · exact .inr ⟨_, hw, by decide, .inr ⟨he, rfl⟩⟩
  rcases hnear with ⟨w, hw, hb, he⟩ | ⟨w, hw, hb, he⟩
  · obtain ⟨before, rfl⟩ := List.getLast?_eq_some_iff.1 hw
    have hdepth : depthBehind (before ++ [w]) = depthBehind before := by
      rw [depthBehind_concat, turn_of_isBlank hb, Int.add_zero]
    rw [hdepth] at he
    simpa using declarations_insert_pair hg hb he (.inl rfl) after
  · obtain ⟨after, rfl⟩ := List.head?_eq_some_iff.1 hw
    exact declarations_insert_pair hg hb he (.inr rfl) after

end GoStubs.Go.Bracket
