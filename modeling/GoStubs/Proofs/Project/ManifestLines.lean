import GoStubs.Proofs.Project.Manifest

/-!
# Reading a manifest by lines

A line of the manifest settles what the module is if it is not valid UTF-8 or if it declares a name.
The first such line decides, and the bytes behind it do not matter.  A carriage return at the end of
a line is no part of what the line declares.
-/

namespace GoStubs

open Text (Bytes decode? decodeFrom)

/-! ### Bytes at the end of a text -/

/-- A byte that is a character of its own is decoded behind the bytes in front of it. -/
theorem Text.decodeFrom_concat (state : Option Pending) (bytes : Bytes) {b : UInt8}
    (hb : b < 0x80) : decodeFrom state (bytes ++ [b]) =
      (decodeFrom state bytes).map (· ++ [Char.ofNat b.toNat]) := by
  fun_induction decodeFrom state bytes with
  | case1 => simp [decodeFrom, hb]
  | case2 pending =>
      have hleast : ¬ (0x80 ≤ b ∧ b < 0xC0) := fun h => absurd hb (UInt8.not_lt.2 h.1)
      rw [List.nil_append, decodeFrom, if_neg hleast]
      rfl
  | case3 first rest hfirst ih =>
      rw [List.cons_append, decodeFrom, if_pos hfirst, ih, Option.map_map, Option.map_map]
      rfl
  | case4 first rest hfirst pending hstart ih =>
      rw [List.cons_append, decodeFrom, if_neg hfirst, hstart]
      exact ih
  | case5 first rest hfirst hstart =>
      rw [List.cons_append, decodeFrom, if_neg hfirst, hstart]
      rfl
  | case6 pending first rest hmore value hlast hvalid ih =>
      rw [List.cons_append, decodeFrom, if_pos hmore, if_pos hlast, if_pos hvalid, ih,
        Option.map_map, Option.map_map]
      rfl
  | case7 pending first rest hmore value hlast hvalid =>
      rw [List.cons_append, decodeFrom, if_pos hmore, if_pos hlast, if_neg hvalid]
      rfl
  | case8 pending first rest hmore value hlast ih =>
      rw [List.cons_append, decodeFrom, if_pos hmore, if_neg hlast]
      exact ih
  | case9 pending first rest hmore =>
      rw [List.cons_append, decodeFrom, if_neg hmore]
      rfl

theorem Text.decode?_concat (bytes : Bytes) {b : UInt8} (hb : b < 0x80) :
    decode? (bytes ++ [b]) = (decode? bytes).map (· ++ [Char.ofNat b.toNat]) :=
  decodeFrom_concat none bytes hb

namespace Manifest

open Text (isBlank words)

/-- A line without a carriage return at its end. -/
def withoutReturn (line : Bytes) : Bytes :=
  if line.getLast? = some 0x0D then line.dropLast else line

/-- The lines of a manifest: what stands in front of each newline, less one carriage return, and
what stands behind the last newline unless there is nothing. -/
def linesOf (content : Bytes) : List Bytes :=
  let pieces := Text.split (· == 0x0A) content
  pieces.dropLast.map withoutReturn ++ pieces.getLast?.toList.filter (! ·.isEmpty)

/-- A line that is valid UTF-8 and declares no module. -/
def IsSilent (line : Bytes) : Prop :=
  ∃ text, decode? line = some text ∧ moduleOfLine? text = none

/-- What a line settles, if it settles anything. -/
def settled? (line : Bytes) : Option (Except DiskError Text) :=
  match decode? line with
  | none => some (.error .invalidUtf8)
  | some text => (moduleOfLine? text).map .ok

variable {disk : Disk} {path : Path} {content line : Bytes}

theorem settled?_eq_none_iff : settled? line = none ↔ IsSilent line := by
  rw [settled?, IsSilent]
  cases decode? line <;> simp

theorem settled?_of_invalid (h : decode? line = none) :
    settled? line = some (.error .invalidUtf8) := by
  rw [settled?, h]

theorem settled?_of_name {text name : Text} (h : decode? line = some text)
    (hn : moduleOfLine? text = some name) : settled? line = some (.ok name) := by
  rw [settled?, h]
  exact congrArg (Option.map Except.ok) hn

theorem moduleOfLines_eq (lines : List Bytes) :
    moduleOfLines lines = (lines.findSome? settled?).elim (.ok none) (Except.map some) := by
  induction lines with
  | nil => rfl
  | cons line lines ih =>
      rw [moduleOfLines, List.findSome?_cons, settled?]
      cases decode? line with
      | none => rfl
      | some text =>
          rcases hname : moduleOfLine? text with _ | name
          · simpa [hname] using ih
          · simp [hname, Except.map]

theorem moduleOfLine?_append_return (text : Text) :
    moduleOfLine? (text ++ ['\r']) = moduleOfLine? text := by
  have hwords : words (text ++ ['\r']) = words text := by
    rw [Text.words_append_cons (by decide)]
    exact List.append_nil _
  rw [moduleOfLine?_eq, moduleOfLine?_eq, declaredWord?, declaredWord?, hwords]

/-- A carriage return is blank, so it settles nothing behind a line. -/
theorem settled?_withoutReturn (line : Bytes) : settled? (withoutReturn line) = settled? line := by
  rw [withoutReturn]
  split
  · rename_i hlast
    have hline := List.dropLast_append_getLast? _ hlast
    conv_rhs => rw [← hline]
    rw [settled?, settled?, Text.decode?_concat _ (by decide)]
    cases decode? line.dropLast with
    | none => rfl
    | some text => exact congrArg (Option.map Except.ok) (moduleOfLine?_append_return text).symm
  · rfl

theorem findSome?_linesOf (content : Bytes) :
    (linesOf content).findSome? settled? =
      (Text.split (· == 0x0A) content).findSome? settled? := by
  have hreturn : settled? ∘ withoutReturn = settled? := funext settled?_withoutReturn
  have hempty : settled? [] = none := rfl
  rw [linesOf]
  rcases List.eq_nil_or_concat (Text.split (· == 0x0A) content) with hnil | ⟨pieces, last, hpieces⟩
  · exact absurd hnil (Text.split_ne_nil _ _)
  · rw [hpieces, List.concat_eq_append]
    simp only [List.dropLast_concat, List.getLast?_concat, List.findSome?_append,
      List.findSome?_map, hreturn]
    cases last with
    | nil => exact congrArg _ (by rw [List.findSome?_cons, hempty]; rfl)
    | cons b last => rfl

theorem linesOf_append_newline (front rest : Bytes) :
    linesOf (front ++ 0x0A :: rest) = linesOf (front ++ [0x0A]) ++ linesOf rest := by
  have hlines (rest : Bytes) : linesOf (front ++ 0x0A :: rest) =
      (Text.split (· == 0x0A) front).map withoutReturn ++ linesOf rest := by
    have hne := Text.split_ne_nil (· == 0x0A) rest
    rw [linesOf, Text.split_append_cons (by decide), linesOf]
    simp only [List.dropLast_append_of_ne_nil hne, List.map_append,
      List.getLast?_append_of_ne_nil _ hne, List.append_assoc]
  have hnil : linesOf [] = [] := rfl
  rw [hlines, hlines, hnil, List.append_nil]

/-- Once a line has settled something, the bytes behind it are not read. -/
theorem findSome?_append_newline {front : Bytes}
    (h : ∃ line ∈ linesOf (front ++ [0x0A]), ¬ IsSilent line) (rest : Bytes) :
    (linesOf (front ++ 0x0A :: rest)).findSome? settled? =
      (linesOf (front ++ [0x0A])).findSome? settled? := by
  obtain ⟨line, hl, hloud⟩ := h
  rw [linesOf_append_newline, List.findSome?_append]
  cases hfound : (linesOf (front ++ [0x0A])).findSome? settled? with
  | some answer => rfl
  | none =>
      have hsilent := List.findSome?_eq_none_iff.1 hfound line hl
      exact absurd (settled?_eq_none_iff.1 hsilent) hloud

theorem moduleName_eq (h : disk.read path = .ok content) :
    moduleName disk path = ((linesOf content).findSome? settled?).elim
      (.error (.moduleNotFound path)) (Except.mapError fun error => .io path (.disk error)) := by
  have hcontent : (disk.read path >>= moduleOfContent) = moduleOfContent content := by
    rw [h]
    rfl
  rw [findSome?_linesOf, moduleName, hcontent, moduleOfContent, moduleOfLines_eq]
  rcases List.findSome? settled? _ with _ | _ | _ <;> rfl

/-- A name that a manifest gives to its module has no blanks, and no quotes at its ends. -/
structure IsModuleName (name : Text) : Prop where
  ne_nil : name ≠ []
  not_isBlank : ∀ c ∈ name, isBlank c = false
  head?_ne : name.head? ≠ some '"'
  getLast?_ne : name.getLast? ≠ some '"'

theorem isModuleName_of_moduleOfLine? {text name : Text} (h : moduleOfLine? text = some name) :
    IsModuleName name := by
  obtain ⟨hne, word, rest, -, hword⟩ := moduleOfLine?_eq_some_iff.1 h
  refine ⟨hne, fun c => not_isBlank_of_moduleOfLine? h, fun hhead => ?_, fun hlast => ?_⟩
  · obtain ⟨name, rfl⟩ := List.head?_eq_some_iff.1 hhead
    obtain ⟨more, hbare⟩ := Text.dropEndWhile_prefix (· == '"') (word.dropWhile (· == '"'))
    have hfirst := List.head?_dropWhile_not (· == '"') word
    rw [← hbare, ← unquoted, hword] at hfirst
    exact absurd hfirst (by simp)
  · rw [← hword] at hlast
    exact absurd (Text.getLast?_dropEndWhile _ _ _ hlast) (by decide)

/-- The first line of the manifest that settles anything decides what its module is, whatever bytes
follow that line. -/
theorem moduleName_of_read (h : disk.read path = .ok content) :
    ((∀ line ∈ linesOf content, IsSilent line) →
      moduleName disk path = .error (.moduleNotFound path)) ∧
    (∀ before line after, linesOf content = before ++ line :: after →
      (∀ earlier ∈ before, IsSilent earlier) →
      (decode? line = none → moduleName disk path = .error (.io path (.disk .invalidUtf8))) ∧
      ∀ text name, decode? line = some text → moduleOfLine? text = some name →
        moduleName disk path = .ok name) ∧
    (∀ front rest, content = front ++ 0x0A :: rest →
      (∃ line ∈ linesOf (front ++ [0x0A]), ¬ IsSilent line) →
      ∀ (other : Disk) (more : Bytes), other.read path = .ok (front ++ 0x0A :: more) →
        moduleName other path = moduleName disk path) ∧
    ∀ name, moduleName disk path = .ok name → IsModuleName name := by
  have hname := moduleName_eq h
  refine ⟨fun hsilent => ?_, fun before line after hlines hbefore => ?_, ?_, fun name hok => ?_⟩
  · have hnone : (linesOf content).findSome? settled? = none :=
      List.findSome?_eq_none_iff.2 fun line hl => settled?_eq_none_iff.2 (hsilent line hl)
    rw [hname, hnone]
    rfl
  · have hfirst (answer : Except DiskError Text) (hs : settled? line = some answer) :
        (linesOf content).findSome? settled? = some answer :=
      List.findSome?_eq_some_iff.2 ⟨before, line, after, hlines, hs,
        fun earlier he => settled?_eq_none_iff.2 (hbefore earlier he)⟩
    constructor
    · intro hinvalid
      rw [hname, hfirst _ (settled?_of_invalid hinvalid)]
      rfl
    · intro text name htext hdeclared
      rw [hname, hfirst _ (settled?_of_name htext hdeclared)]
      rfl
  · rintro front rest rfl hloud other more hother
    rw [moduleName_eq hother, hname, findSome?_append_newline hloud more,
      findSome?_append_newline hloud rest]
  · obtain ⟨content, -, hcontent⟩ := moduleName_eq_ok_iff.1 hok
    obtain ⟨text, htext⟩ := exists_line_of_moduleOfLines hcontent
    exact isModuleName_of_moduleOfLine? htext

/-- A manifest with a comment, a line that declares a module, and a line that is not valid UTF-8. -/
def brokenManifest : Bytes :=
  Text.encode "// module a\r\n\r\n\tmodule \"b\"\r\n".toList ++ [0xFF, 0x0A]

def brokenManifestDisk : Disk :=
  (Disk.blank.write ⟨"go.mod".toList⟩ brokenManifest).toOption.getD .blank

theorem moduleName_of_read_broken :
    brokenManifestDisk.read ⟨"go.mod".toList⟩ = .ok brokenManifest ∧
      brokenManifestDisk.readText ⟨"go.mod".toList⟩ = .error .invalidUtf8 ∧
      moduleName brokenManifestDisk ⟨"go.mod".toList⟩ = .ok ['b'] ∧ IsModuleName ['b'] := by
  have hread : brokenManifestDisk.read ⟨"go.mod".toList⟩ = .ok brokenManifest := by decide +kernel
  obtain ⟨-, hfirst, -, hname⟩ := moduleName_of_read hread
  have hsilent : ∀ earlier ∈ [Text.encode "// module a".toList, []], IsSilent earlier := by
    intro earlier he
    rw [← settled?_eq_none_iff]
    revert earlier
    decide +kernel
  have hok := (hfirst _ (Text.encode "\tmodule \"b\"".toList) [[0xFF]] (by decide +kernel)
    hsilent).2 "\tmodule \"b\"".toList ['b'] (by decide +kernel) (by decide +kernel)
  exact ⟨hread, by decide +kernel, hok, hname _ hok⟩

end Manifest

end GoStubs
