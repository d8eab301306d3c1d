import Mathlib.Data.List.Forall2
import GoStubs.Proofs.Go.Layout
import GoStubs.Proofs.Text.Respacing

/-!
# Respaced declarations

The readers of declarations see no difference between respaced texts: they cut
them at the same places, and what they read or reject is the same.
-/

namespace GoStubs.Go

open Text (isBlank isWordChar IsGap Respaced breakAt? collapse)

variable {a b gap text : Text} {c opening closing : Char} {literal : Option Literal}

/-! ### Brackets -/

theorem not_isBlank_of_isQuote (h : Literal.isQuote c) : isBlank c = false := by
  simp only [Literal.isQuote, Bool.or_eq_true, beq_iff_eq] at h
  rcases h with (rfl | rfl) | rfl <;> decide

def Literal.unescape (l : Literal) : Literal := { l with escaped := false }

theorem Literal.not_isBlank_unescape (h : ∀ l ∈ literal, isBlank l.quote = false) :
    ∀ l ∈ literal.map unescape, isBlank l.quote = false := by
  cases literal with
  | none => simp
  | some l => simpa [unescape] using h

theorem Literal.next_of_isBlank {l : Literal} (hl : isBlank l.quote = false) (hc : isBlank c) :
    l.next c = some l.unescape := by
  obtain ⟨quote, escaped⟩ := l
  have hslash : c ≠ '\\' := Text.ne_of_isBlank hc (by decide)
  have hquote : c ≠ quote := Text.ne_of_isBlank hc hl
  cases escaped <;> simp [Literal.next, Literal.unescape, hslash, hquote]

theorem Literal.quote_next {l next : Literal} (h : l.next c = some next) :
    next.quote = l.quote := by
  unfold Literal.next at h
  split at h
  · cases h
    rfl
  · split at h
    · cases h
      rfl
    · split at h
      · cases h
      · cases h
        rfl

namespace Bracket

theorem keep_eq (c : Char) (x : Option (Text × Text)) :
    closingFrom?.keep c x = x.map fun (before, after) => ([c] ++ before, after) := rfl

theorem closingFrom?_blank (ho : isBlank opening = false) (hcl : isBlank closing = false)
    (hl : ∀ l ∈ literal, isBlank l.quote = false) (hc : isBlank c) (depth : Nat) (rest : Text) :
    closingFrom? opening closing depth literal (c :: rest) =
      closingFrom?.keep c
        (closingFrom? opening closing depth (literal.map Literal.unescape) rest) := by
  cases literal with
  | some l => rw [closingFrom?, Literal.next_of_isBlank (hl l rfl) hc, Option.map_some]
  | none =>
      have hq : Literal.isQuote c = false := by
        cases h : Literal.isQuote c with
        | false => rfl
        | true => simp [not_isBlank_of_isQuote h] at hc
      exact closingFrom?_other hq (Text.ne_of_isBlank hc ho) (Text.ne_of_isBlank hc hcl) depth rest

theorem closingFrom?_gap_append (ho : isBlank opening = false) (hcl : isBlank closing = false)
    (hl : ∀ l ∈ literal, isBlank l.quote = false) (hne : gap ≠ []) (hg : IsGap gap) (depth : Nat)
    (rest : Text) :
    closingFrom? opening closing depth literal (gap ++ rest) =
      (closingFrom? opening closing depth (literal.map Literal.unescape) rest).map
        fun (before, after) => (gap ++ before, after) := by
  induction gap generalizing literal with
  | nil => exact absurd rfl hne
  | cons c gap ih =>
      obtain ⟨hc, hg⟩ := List.forall_mem_cons.1 hg
      rw [List.cons_append, closingFrom?_blank ho hcl hl hc, keep_eq]
      cases gap with
      | nil => rfl
      | cons d gap =>
          rw [ih (Literal.not_isBlank_unescape hl) (List.cons_ne_nil d gap) hg, Option.map_map,
            Option.map_map]
          rfl

/-- The search for a closing delimiter cuts respaced texts into respaced parts. -/
theorem closingFrom?_respaced (ho : isBlank opening = false) (hcl : isBlank closing = false)
    (h : Respaced a b) (hl : ∀ l ∈ literal, isBlank l.quote = false) (depth : Nat) :
    Option.Rel Respaced.Pair (closingFrom? opening closing depth literal a)
      (closingFrom? opening closing depth literal b) := by
  induction h generalizing literal depth with
  | nil => cases literal <;> exact .none
  | gap hg hh hgs hhs _ ih =>
      rw [closingFrom?_gap_append ho hcl hl hg hgs, closingFrom?_gap_append ho hcl hl hh hhs]
      exact Respaced.pair_map_append (.gap_gap hg hh hgs hhs)
        (ih (Literal.not_isBlank_unescape hl) depth)
  | @char c a b hc rest ih =>
      have hkeep {x y : Option (Text × Text)} (hxy : Option.Rel Respaced.Pair x y) :
          Option.Rel Respaced.Pair (closingFrom?.keep c x) (closingFrom?.keep c y) :=
        Respaced.pair_map_append (.char hc .nil) hxy
      have hnone : ∀ l ∈ (none : Option Literal), isBlank l.quote = false := by simp
      cases literal with
      | some l =>
          refine hkeep (ih (fun next hm => ?_) depth)
          rw [Literal.quote_next hm]
          exact hl l rfl
      | none =>
          cases hq : Literal.isQuote c with
          | true =>
              rw [closingFrom?_quote hq, closingFrom?_quote hq]
              refine hkeep (ih (fun l hm => ?_) depth)
              rw [Literal.start?, if_pos hq] at hm
              cases hm
              exact hc
          | false =>
              by_cases hopen : c = opening
              · subst hopen
                rw [closingFrom?_opening hq, closingFrom?_opening hq]
                exact hkeep (ih hnone (depth + 1))
              · by_cases hclose : c = closing
                · subst hclose
                  cases depth with
                  | zero =>
                      rw [closingFrom?_zero hq hopen, closingFrom?_zero hq hopen]
                      exact .some ⟨.nil, rest⟩
                  | succ depth =>
                      rw [closingFrom?_closing hq hopen, closingFrom?_closing hq hopen]
                      exact hkeep (ih hnone depth)
                · rw [closingFrom?_other hq hopen hclose, closingFrom?_other hq hopen hclose]
                  exact hkeep (ih hnone depth)

theorem closing?_respaced (ho : isBlank opening = false) (hcl : isBlank closing = false)
    (h : Respaced a b) :
    Option.Rel Respaced.Pair (closing? opening closing a) (closing? opening closing b) :=
  closingFrom?_respaced ho hcl h (by simp) 0

theorem forall₂_modifyHead {pieces others : List Text} (h : Respaced a b)
    (hp : List.Forall₂ Respaced pieces others) :
    List.Forall₂ Respaced (pieces.modifyHead (a ++ ·)) (others.modifyHead (b ++ ·)) := by
  cases hp with
  | nil => exact .nil
  | cons hfirst hrest => exact .cons (h.append hfirst) hrest

theorem turn_of_isBlank (hc : isBlank c) : turn c = 0 := by
  have hp : IsPlain [c] := isPlain_of_isGap (by simpa [IsGap] using hc)
  have hd (d : Char) (hd : d ∈ delimiters) : c ≠ d := hp.ne hd c List.mem_cons_self
  simp [turn, hd _ (show '(' ∈ delimiters by decide), hd _ (show ')' ∈ delimiters by decide),
    hd _ (show '[' ∈ delimiters by decide), hd _ (show ']' ∈ delimiters by decide),
    hd _ (show '{' ∈ delimiters by decide), hd _ (show '}' ∈ delimiters by decide)]

/-- A split that cuts at no blank cuts respaced texts into respaced pieces. -/
theorem splitFrom_respaced {cut : Int → Char → Bool}
    (hcut : ∀ depth c, isBlank c → cut depth c = false) (h : Respaced a b) (depth : Int) :
    List.Forall₂ Respaced (splitFrom cut depth a) (splitFrom cut depth b) := by
  have hgap {gap : Text} (hg : IsGap gap) (depth : Int) (text : Text) :
      splitFrom cut depth (gap ++ text) = (splitFrom cut depth text).modifyHead (gap ++ ·) := by
    induction gap with
    | nil => exact (congrFun List.modifyHead_id _).symm
    | cons c gap ih =>
        obtain ⟨hc, hg⟩ := List.forall_mem_cons.1 hg
        rw [List.cons_append, splitFrom, if_neg (by simp [hcut depth c hc]), turn_of_isBlank hc,
          Int.add_zero, ih hg, List.modifyHead_modifyHead]
        rfl
  induction h generalizing depth with
  | nil => exact .cons .nil .nil
  | @char c a b hc rest ih =>
      rw [splitFrom, splitFrom]
      split
      · exact .cons .nil (ih depth)
      · exact forall₂_modifyHead (.char hc .nil) (ih (depth + turn c))
  | gap hg hh hgs hhs _ ih =>
      rw [hgap hgs, hgap hhs]
      exact forall₂_modifyHead (.gap_gap hg hh hgs hhs) (ih depth)

/-- The trimmed pieces that are left of respaced ones. -/
theorem forall₂_trim {pieces others : List Text} (h : List.Forall₂ Respaced pieces others) :
    List.Forall₂ Respaced ((pieces.map Text.trim).filter (! ·.isEmpty))
      ((others.map Text.trim).filter (! ·.isEmpty)) := by
  induction h with
  | nil => exact .nil
  | @cons piece other pieces others hfirst _ ih =>
      have htrim := hfirst.trim
      rw [List.map_cons, List.map_cons, List.filter_cons, List.filter_cons, htrim.isEmpty_eq]
      split
      · exact .cons htrim ih
      · exact ih

theorem entries_respaced (h : Respaced a b) :
    List.Forall₂ Respaced (entries a) (entries b) := by
  refine forall₂_trim (splitFrom_respaced (fun depth c hc => ?_) h 0)
  have hne : c ≠ ',' := Text.ne_of_isBlank hc (by decide)
  simp [hne]

end Bracket

/-! ### Lists -/

theorem eq_of_isIdentifier (h : Respaced a b) (ha : isIdentifier a) : a = b :=
  h.eq_of_not_isBlank (not_isBlank_of_isIdentifier ha)

theorem isIdentifier_respaced (h : Respaced a b) : isIdentifier a = isIdentifier b := by
  rw [Bool.eq_iff_iff]
  exact ⟨fun ha => eq_of_isIdentifier h ha ▸ ha, fun hb => eq_of_isIdentifier h.symm hb ▸ hb⟩

/-- A result with no more of its error than the kind. -/
def verdict {α : Type} (result : Except SignatureError α) : Except Nat α :=
  result.mapError SignatureError.ctorIdx

theorem verdict_bind {α β : Type} (result : Except SignatureError α)
    (next : α → Except SignatureError β) :
    verdict (result >>= next) = verdict result >>= fun found => verdict (next found) := by
  cases result <;> rfl

namespace Field

/-- Entries of one kind whose parts are respaced. -/
inductive Entry.Respaced : Entry → Entry → Prop
  | named {type other : Text} (name : Text) (h : Text.Respaced type other) :
      Entry.Respaced (.named name type) (.named name other)
  | bare {text other : Text} (h : Text.Respaced text other) :
      Entry.Respaced (.bare text) (.bare other)

theorem Entry.ofText_respaced (h : Text.Respaced a b) :
    Entry.Respaced (.ofText a) (.ofText b) := by
  have hk : ∀ c, isBlank c → (!isBlank c) = false := by simp
  have htail := (h.dropWhile hk).trimStart
  have hdots := h.breakAt?_pair (show isBlank '.' = false by decide)
    (show ∀ c ∈ "..".toList, isBlank c = false by decide)
  unfold Entry.ofText
  simp only [h.takeWhile_eq hk, htail.isEmpty_eq]
  split
  · exact .named _ htail
  · change Option.Rel Text.Respaced.Pair (breakAt? dots a) (breakAt? dots b) at hdots
    generalize breakAt? dots a = x, breakAt? dots b = y at hdots
    cases hdots with
    | none => exact .bare h
    | some hpair =>
        simp only [isIdentifier_respaced hpair.1.trimEnd]
        split
        · rename_i hn
          rw [eq_of_isIdentifier hpair.1.trimEnd (isIdentifier_respaced hpair.1.trimEnd ▸ hn)]
          exact .named _ hpair.2
        · exact .bare h

theorem ofGroups_respaced {list other : Text} {entries others : List Entry}
    (h : List.Forall₂ Entry.Respaced entries others) (pending : List Text) :
    verdict (ofGroups list pending entries) = verdict (ofGroups other pending others) := by
  induction h generalizing pending with
  | nil =>
      rw [ofGroups, ofGroups]
  | cons hfirst _ ih =>
      cases hfirst with
      | named name ht =>
          rw [ofGroups, ofGroups, verdict_bind, verdict_bind, ih, ht.collapse_eq]
      | bare ht =>
          rw [ofGroups, ofGroups, isIdentifier_respaced ht]
          split
          · rename_i hn
            rw [eq_of_isIdentifier ht (isIdentifier_respaced ht ▸ hn), ih]
          · rfl

theorem all_isBare_eq {entries others : List Entry}
    (h : List.Forall₂ Entry.Respaced entries others) :
    entries.all Entry.isBare = others.all Entry.isBare := by
  induction h with
  | nil => rfl
  | cons hfirst _ ih =>
      rw [List.all_cons, List.all_cons, ih]
      cases hfirst <;> rfl

theorem ofList_respaced (h : Text.Respaced a b) : verdict (ofList a) = verdict (ofList b) := by
  have htexts := Bracket.entries_respaced h
  have hentries : List.Forall₂ Entry.Respaced ((Bracket.entries a).map .ofText)
      ((Bracket.entries b).map .ofText) := by
    rw [List.forall₂_map_left_iff, List.forall₂_map_right_iff]
    exact htexts.imp fun _ _ => Entry.ofText_respaced
  have hunnamed : (Bracket.entries a).map (fun text => (⟨none, collapse text⟩ : Field)) =
      (Bracket.entries b).map fun text => ⟨none, collapse text⟩ := by
    rw [← List.forall₂_eq_eq_eq, List.forall₂_map_left_iff, List.forall₂_map_right_iff]
    exact htexts.imp fun _ _ ht => by rw [ht.collapse_eq]
  simp only [ofList, all_isBare_eq hentries, hunnamed]
  split
  · rfl
  · exact ofGroups_respaced hentries []

end Field

/-! ### Declarations -/

namespace Signature

theorem resultList_respaced (h : Respaced a b) :
    verdict (resultList a) = verdict (resultList b) := by
  rcases h.head_cases (show isBlank '(' = false by decide) with
    ⟨rfl, rfl⟩ | ⟨a, b, rfl, rfl, hinner⟩ | ⟨c, d, a, b, rfl, rfl, hc, hd⟩
  · rfl
  · have hpair := Bracket.closing?_respaced (show isBlank '(' = false by decide)
      (show isBlank ')' = false by decide) hinner
    simp only [resultList]
    generalize Bracket.closing? '(' ')' a = x, Bracket.closing? '(' ')' b = y at hpair
    cases hpair with
    | none => rfl
    | some hp =>
        simp only [hp.2.trim.isEmpty_eq]
        split
        · exact Field.ofList_respaced hp.1
        · rfl
  · have hpair := Bracket.closing?_respaced (show isBlank '(' = false by decide)
      (show isBlank ')' = false by decide) h
    rw [resultList_cons hc, resultList_cons hd, h.collapse_eq]
    generalize Bracket.closing? '(' ')' (c :: a) = x, Bracket.closing? '(' ')' (d :: b) = y at hpair
    cases hpair <;> rfl

/-- Reads what follows the name of a declaration. -/
def ofParams (name declaration : Text) : Text → Except SignatureError Signature
  | '(' :: inner =>
    match Bracket.closing? '(' ')' inner with
    | none => .error .unbalanced
    | some (list, after) => do
      let params ← Field.ofList list
      let results ← resultList (Text.trim after)
      return { name, params, results }
  | _ => .error (.notAMethod declaration)

theorem ofDeclaration_eq (text : Text) :
    ofDeclaration text =
      if !isIdentifier ((Text.trim text).takeWhile isWordChar) then .error .missingName
      else ofParams ((Text.trim text).takeWhile isWordChar) (Text.trim text)
        (Text.trimStart ((Text.trim text).dropWhile isWordChar)) := rfl

theorem ofParams_cons (hc : c ≠ '(') (name declaration rest : Text) :
    ofParams name declaration (c :: rest) = .error (.notAMethod declaration) := by
  rw [ofParams]
  rintro inner hi
  cases hi
  exact hc rfl

theorem ofParams_respaced (h : Respaced a b) (name declaration other : Text) :
    verdict (ofParams name declaration a) = verdict (ofParams name other b) := by
  rcases h.head_cases (show isBlank '(' = false by decide) with
    ⟨rfl, rfl⟩ | ⟨a, b, rfl, rfl, hinner⟩ | ⟨c, d, a, b, rfl, rfl, hc, hd⟩
  · rfl
  · have hpair := Bracket.closing?_respaced (show isBlank '(' = false by decide)
      (show isBlank ')' = false by decide) hinner
    simp only [ofParams]
    generalize Bracket.closing? '(' ')' a = x, Bracket.closing? '(' ')' b = y at hpair
    cases hpair with
    | none => rfl
    | some hp =>
        simp only [verdict_bind, Field.ofList_respaced hp.1, resultList_respaced hp.2.trim]
  · rw [ofParams_cons hc, ofParams_cons hd]
    rfl

/-- Respaced declarations are read alike, and rejected for errors of one kind. -/
theorem ofDeclaration_respaced (h : Respaced a b) :
    verdict (ofDeclaration a) = verdict (ofDeclaration b) := by
  have hk : ∀ c, isBlank c → isWordChar c = false := fun _ => Text.isWordChar_of_isBlank
  rw [ofDeclaration_eq, ofDeclaration_eq, h.trim.takeWhile_eq hk]
  split
  · rfl
  · exact ofParams_respaced (h.trim.dropWhile hk).trimStart _ _ _

theorem ofDeclaration_trim (text : Text) : ofDeclaration (Text.trim text) = ofDeclaration text := by
  rw [ofDeclaration_eq, ofDeclaration_eq, Text.trim_trim]

/-- A declaration can be collapsed before it is read. -/
theorem ofDeclaration_collapse {signature : Signature} (h : ofDeclaration text = .ok signature) :
    ofDeclaration (collapse text) = .ok signature := by
  have hv := ofDeclaration_respaced (Text.respaced_collapse text)
  rw [ofDeclaration_trim, h] at hv
  cases hr : ofDeclaration (collapse text) with
  | error fault => simp [hr, verdict, Except.mapError] at hv
  | ok found => simpa [hr, verdict, Except.mapError] using hv.symm

/-- Declarations that differ in gaps only are both read as one signature, or both rejected for
errors of one kind. -/
theorem ofDeclaration_alike (h : Respaced a b) :
    (∀ signature, ofDeclaration a = .ok signature ↔ ofDeclaration b = .ok signature) ∧
      ((∃ fault, ofDeclaration a = .error fault) ↔ ∃ fault, ofDeclaration b = .error fault) ∧
      ∀ fault other, ofDeclaration a = .error fault → ofDeclaration b = .error other →
        fault.ctorIdx = other.ctorIdx := by
  have hverdict := ofDeclaration_respaced h
  generalize ofDeclaration a = x, ofDeclaration b = y at hverdict
  cases x with
  | ok signature =>
      cases y with
      | ok other =>
          obtain rfl : signature = other := Except.ok.inj hverdict
          exact ⟨fun _ => Iff.rfl, Iff.rfl, nofun⟩
      | error fault => cases hverdict
  | error fault =>
      cases y with
      | ok other => cases hverdict
      | error other =>
          have hkind : fault.ctorIdx = other.ctorIdx := Except.error.inj hverdict
          refine ⟨fun _ => ⟨nofun, nofun⟩, ⟨fun _ => ⟨other, rfl⟩, fun _ => ⟨fault, rfl⟩⟩, ?_⟩
          rintro _ _ ⟨⟩ ⟨⟩
          exact hkind

/-- A wrapped list is read like a flat one, and a name without a list is rejected with any gap in
it. -/
theorem ofDeclaration_alike_sample :
    let wrapped := "Get(ctx context.Context,\n\ta,  b\tint)  (*R,\u00a0error)".toList
    let flat := "Get(ctx context.Context, a, b int) (*R, error)".toList
    let signature : Signature :=
      ⟨"Get".toList, [⟨some "ctx".toList, "context.Context".toList⟩, ⟨some ['a'], "int".toList⟩,
        ⟨some ['b'], "int".toList⟩], [⟨none, "*R".toList⟩, ⟨none, "error".toList⟩]⟩
    (Respaced wrapped flat ∧ ofDeclaration flat = .ok signature ∧
      ofDeclaration wrapped = .ok signature) ∧
    Respaced "Get\n\tit".toList "Get it".toList ∧
      ofDeclaration "Get it".toList = .error (.notAMethod "Get it".toList) ∧
      ∃ fault, ofDeclaration "Get\n\tit".toList = .error fault := by
  intro wrapped flat signature
  have hwrapped : Text.trim wrapped = wrapped := by decide +kernel
  have hflat : collapse wrapped = flat := by decide +kernel
  have hread : Respaced wrapped flat := by
    have h := Text.respaced_collapse wrapped
    rwa [hwrapped, hflat] at h
  have hsignature : ofDeclaration flat = .ok signature := by decide +kernel
  have hgap : Respaced ['\n', '\t'] [' '] :=
    .gap_gap (by decide) (by decide) (by decide) (by decide)
  have hname : Respaced "Get\n\tit".toList "Get it".toList :=
    (Respaced.refl "Get".toList).append (hgap.append (.refl "it".toList))
  have hfault : ofDeclaration "Get it".toList = .error (.notAMethod "Get it".toList) := by
    decide +kernel
  exact ⟨⟨hread, hsignature, ((ofDeclaration_alike hread).1 signature).2 hsignature⟩, hname, hfault,
    (ofDeclaration_alike hname).2.1.2 ⟨_, hfault⟩⟩

end Signature

end GoStubs.Go
