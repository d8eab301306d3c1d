import GoStubs.Proofs.Go.Token

/-!
# Text outside of literals

A text falls into characters outside of literals and literals, of which only the
last one may be unfinished.  There is one way to cut it so, and inductions over
texts go along these parts.
-/

namespace GoStubs.Go

variable {text rest first last inner other out : Text} {c quote : Char}

namespace Literal

theorem Inside.of_plain (h : ∀ c ∈ text, c ≠ quote ∧ (c = '\\' → quote = '`')) :
    Inside quote text := by
  induction text with
  | nil => exact .nil
  | cons c text ih =>
      obtain ⟨⟨hne, hplain⟩, ht⟩ := List.forall_mem_cons.1 h
      exact .char hne hplain (ih ht)

/-- What stands behind the quote that opens a literal which no other quote closes.  A backslash at
its end has nothing to escape. -/
inductive Unfinished (quote : Char) : Text → Prop
  | inside {text : Text} (inside : Inside quote text) : Unfinished quote text
  | backslash {text : Text} (not_raw : quote ≠ '`') (inside : Inside quote text) :
      Unfinished quote (text ++ ['\\'])

theorem Unfinished.char (hne : c ≠ quote) (hplain : c = '\\' → quote = '`')
    (h : Unfinished quote text) : Unfinished quote (c :: text) := by
  cases h with
  | inside hi => exact .inside (.char hne hplain hi)
  | backslash hraw hi => exact .backslash hraw (.char hne hplain hi)

theorem Unfinished.escape (hraw : quote ≠ '`') (c : Char) (h : Unfinished quote text) :
    Unfinished quote ('\\' :: c :: text) := by
  cases h with
  | inside hi => exact .inside (.escape hraw hi)
  | backslash _ hi => exact .backslash hraw (.escape (c := c) hraw hi)

/-- A literal that has been opened is closed or unfinished. -/
theorem exists_inside_or_unfinished (quote : Char) :
    ∀ text, (∃ inner rest, Inside quote inner ∧ text = inner ++ quote :: rest) ∨
      Unfinished quote text
  | [] => .inr (.inside .nil)
  | c :: text => by
      by_cases hc : c = quote
      · exact .inl ⟨[], text, .nil, by rw [hc, List.nil_append]⟩
      by_cases hplain : c = '\\' → quote = '`'
      · rcases exists_inside_or_unfinished quote text with ⟨inner, rest, hi, rfl⟩ | hu
        · exact .inl ⟨c :: inner, rest, .char hc hplain hi, rfl⟩
        · exact .inr (hu.char hc hplain)
      -- A backslash takes the next character with it, if there is one.
      obtain ⟨rfl, hraw⟩ := Classical.not_imp.1 hplain
      match text with
      | [] => exact .inr (.backslash hraw .nil)
      | d :: text =>
          rcases exists_inside_or_unfinished quote text with ⟨inner, rest, hi, rfl⟩ | hu
          · exact .inl ⟨'\\' :: d :: inner, rest, .escape hraw hi, rfl⟩
          · exact .inr (hu.escape hraw d)

/-- Of two texts inside of a literal, the one that its quote follows starts with the other. -/
theorem Inside.exists_append (hq : isQuote quote) (hf : Inside quote first)
    (hi : Inside quote inner) (h : first ++ last = inner ++ quote :: rest) :
    ∃ more, Inside quote more ∧ inner = first ++ more ∧ last = more ++ quote :: rest := by
  have hslash := ne_backslash_of_isQuote hq
  induction hf generalizing inner with
  | nil => exact ⟨inner, hi, rfl, h⟩
  | @char c first hne hplain _ ih =>
      cases hi with
      | nil => exact absurd (List.cons.inj h).1 hne
      | char _ _ hi =>
          obtain ⟨rfl, htail⟩ := List.cons.inj h
          obtain ⟨more, hm, rfl, hlast⟩ := ih hi htail
          exact ⟨more, hm, rfl, hlast⟩
      | escape hraw _ => exact absurd (hplain (List.cons.inj h).1) hraw
  | @escape c first hraw _ ih =>
      cases hi with
      | nil => exact absurd (List.cons.inj h).1.symm hslash
      | char _ hplain _ => exact absurd (hplain (List.cons.inj h).1.symm) hraw
      | escape _ hi =>
          obtain ⟨rfl, htail⟩ := List.cons.inj (List.cons.inj h).2
          obtain ⟨more, hm, rfl, hlast⟩ := ih hi htail
          exact ⟨more, hm, rfl, hlast⟩

/-- A literal ends at one place only. -/
theorem Inside.eq_of_append (hq : isQuote quote) (hi : Inside quote inner)
    (ho : Inside quote other) (h : inner ++ quote :: last = other ++ quote :: rest) :
    inner = other ∧ last = rest := by
  obtain ⟨more, hm, rfl, hmore⟩ := hi.exists_append hq ho h
  cases hm with
  | nil => exact ⟨(List.append_nil inner).symm, (List.cons.inj hmore).2⟩
  | char hne _ _ => exact absurd (List.cons.inj hmore).1.symm hne
  | escape _ _ => exact absurd (List.cons.inj hmore).1 (ne_backslash_of_isQuote hq)

theorem Unfinished.ne_append (hq : isQuote quote) (hu : Unfinished quote text)
    (hi : Inside quote inner) (rest : Text) : text ≠ inner ++ quote :: rest := by
  intro h
  cases hu with
  | inside ht =>
      rw [← List.append_nil text] at h
      obtain ⟨more, -, -, hmore⟩ := ht.exists_append hq hi h
      simp at hmore
  | backslash _ ht =>
      obtain ⟨more, -, -, hmore⟩ := ht.exists_append hq hi h
      rcases List.append_eq_singleton_iff.1 hmore.symm with ⟨-, hquote⟩ | ⟨-, hquote⟩
      · exact ne_backslash_of_isQuote hq (List.cons.inj hquote).1
      · cases hquote

/-- A text that closes no literal that is open before it. -/
inductive Stays : Literal → Text → Prop
  | nil {l : Literal} : Stays l []
  | cons {l after : Literal} {c : Char} {text : Text} (next : l.next c = some after)
      (rest : Stays after text) : Stays l (c :: text)

theorem Inside.stays (hi : Inside quote inner) (h : Stays ⟨quote, false⟩ rest) :
    Stays ⟨quote, false⟩ (inner ++ rest) := by
  induction hi with
  | nil => exact h
  | char hne hplain _ ih => exact .cons (next_plain hne hplain) ih
  | escape hraw _ ih => exact .cons (next_backslash hraw) (.cons (by simp [next]) ih)

theorem Unfinished.stays (h : Unfinished quote text) : Stays ⟨quote, false⟩ text := by
  cases h with
  | inside hi => simpa using hi.stays .nil
  | backslash hraw hi => exact hi.stays (.cons (next_backslash hraw) .nil)

/-- An induction over the parts of a text. -/
@[elab_as_elim]
theorem induction {motive : Text → Prop} (nil : motive [])
    (char : ∀ c text, isQuote c = false → motive text → motive (c :: text))
    (literal : ∀ quote inner text, isQuote quote → Inside quote inner → motive text →
      motive (quote :: inner ++ quote :: text))
    (unfinished : ∀ quote text, isQuote quote → Unfinished quote text → motive (quote :: text))
    (text : Text) : motive text := by
  induction hn : text.length using Nat.strongRecOn generalizing text with
  | ind n ih =>
      subst hn
      cases text with
      | nil => exact nil
      | cons c text =>
          cases hq : isQuote c with
          | false => exact char c text hq (ih text.length (by simp) text rfl)
          | true =>
              rcases exists_inside_or_unfinished c text with ⟨inner, rest, hi, rfl⟩ | hu
              · apply literal c inner rest hq hi
                apply ih rest.length _ rest rfl
                simp only [List.length_cons, List.length_append]
                omega
              · exact unfinished c text hq hu

/-- A text of whole literals and of other characters, which are the second text. -/
inductive Outside : Text → Text → Prop
  | nil : Outside [] []
  | char {c : Char} {text out : Text} (not_isQuote : isQuote c = false) (rest : Outside text out) :
      Outside (c :: text) (c :: out)
  | literal {quote : Char} {inner text out : Text} (isQuote : isQuote quote)
      (inside : Inside quote inner) (rest : Outside text out) :
      Outside (quote :: inner ++ quote :: text) out

namespace Outside

theorem append {more : Text} (h : Outside first out) (hl : Outside last more) :
    Outside (first ++ last) (out ++ more) := by
  induction h with
  | nil => exact hl
  | char hq _ ih => exact .char hq ih
  | literal hq hi _ ih =>
      rw [List.append_assoc, List.cons_append]
      exact .literal hq hi ih

theorem of_plain (h : ∀ c ∈ text, isQuote c = false) : Outside text text := by
  induction text with
  | nil => exact .nil
  | cons c text ih =>
      obtain ⟨hc, ht⟩ := List.forall_mem_cons.1 h
      exact .char hc (ih ht)

/-- A text with one literal in it. -/
theorem of_literal (hf : ∀ c ∈ first, isQuote c = false) (hq : isQuote quote)
    (hi : Inside quote inner) (hl : ∀ c ∈ last, isQuote c = false) :
    Outside (first ++ (quote :: inner ++ quote :: last)) (first ++ last) :=
  (of_plain hf).append (.literal hq hi (of_plain hl))

theorem eq_of_plain (ht : ∀ c ∈ text, isQuote c = false) (h : Outside text out) : out = text := by
  induction h with
  | nil => rfl
  | char _ _ ih => rw [ih (List.forall_mem_cons.1 ht).2]
  | literal hq _ _ _ => simp [ht _ List.mem_cons_self] at hq

/-- A cut of a text goes through none of its literals, unless a quote stands on both sides. -/
theorem cut (h : Outside (first ++ last) out) :
    (∃ front back, Outside first front ∧ Outside last back ∧ out = front ++ back) ∨
      ∃ quote, isQuote quote ∧ quote ∈ first ∧ quote ∈ last := by
  generalize ht : first ++ last = text at h
  induction h generalizing first with
  | nil =>
      obtain ⟨rfl, rfl⟩ := List.append_eq_nil_iff.1 ht
      exact .inl ⟨[], [], .nil, .nil, rfl⟩
  | @char c text out hq rest ih =>
      cases first with
      | nil =>
          obtain rfl : last = c :: text := ht
          exact .inl ⟨[], c :: out, .nil, .char hq rest, rfl⟩
      | cons d first =>
          obtain ⟨rfl, htail⟩ := List.cons.inj ht
          rcases ih htail with ⟨front, back, hf, hb, rfl⟩ | ⟨quote, hquote, hf, hl⟩
          · exact .inl ⟨d :: front, back, .char hq hf, hb, rfl⟩
          · exact .inr ⟨quote, hquote, List.mem_cons_of_mem d hf, hl⟩
  | @literal quote inner text out hq hi rest ih =>
      cases first with
      | nil =>
          obtain rfl : last = quote :: inner ++ quote :: text := ht
          exact .inl ⟨[], out, .nil, .literal hq hi rest, rfl⟩
      | cons d first =>
          obtain ⟨rfl, htail⟩ := List.cons.inj ht
          rcases List.append_eq_append_iff.1 htail with ⟨more, rfl, rfl⟩ | ⟨more, rfl, hmore⟩
          · exact .inr ⟨d, hq, List.mem_cons_self, by simp⟩
          · cases more with
            | nil =>
                obtain rfl : d :: text = last := hmore
                exact .inr ⟨d, hq, List.mem_cons_self, List.mem_cons_self⟩
            | cons e more =>
                obtain ⟨rfl, htext⟩ := List.cons.inj hmore
                rcases ih htext.symm with ⟨front, back, hf, hb, rfl⟩ | ⟨other, ho, hf, hl⟩
                · exact .inl ⟨front, back, .literal hq hi hf, hb, rfl⟩
                · exact .inr ⟨other, ho, by simp [hf], hl⟩

end Outside

end Literal

end GoStubs.Go
