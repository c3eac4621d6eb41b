import Mathlib.Tactic.SplitIfs
import Temperament.Toml.Literal

/-!
# Reading back strings

A string is read back from the form that is chosen for its contents (`readString?_writeString`).
Between triple marks up to two marks in a row stand for themselves; they are read as part of the
contents only once it is clear that no third one follows (`readContents?_pending`).
-/

namespace Temperament.Toml

open Text

/-! ## Escapes -/

theorem hexValue?_hexDigit (n : Nat) : hexValue? (hexDigit n) = some (n % 16) := by
  have checked : ∀ k : Fin 16, hexValue? (Nat.digitChar k.val).toUpper = some k.val := by decide
  exact checked ⟨n % 16, Nat.mod_lt _ (by decide)⟩

theorem charOfCode?_toNat (c : Char) : charOfCode? c.toNat = some c := by
  have hvalid : c.toNat.isValidChar := c.valid
  rw [charOfCode?, dif_pos hvalid]
  exact congrArg some (Char.ext rfl)

theorem codePoint?_hexDigits {c : Char} (hc : c.toNat < 256) :
    codePoint? ['0', '0', hexDigit (c.toNat / 16), hexDigit c.toNat] = some c := by
  have hzero : hexValue? '0' = some 0 := by decide
  have hnumber : hexNumber? ['0', '0', hexDigit (c.toNat / 16), hexDigit c.toNat] =
      some c.toNat := by
    simp only [hexNumber?, List.foldlM_cons, List.foldlM_nil, hzero, hexValue?_hexDigit,
      Option.map_some, Option.bind_eq_bind, Option.bind_some, Option.pure_def, Option.some.injEq]
    omega
  rw [codePoint?, hnumber, Option.bind_some, charOfCode?_toNat]

theorem escapedChar?_of_escapeMark? {c mark : Char} (h : escapeMark? c = some mark) :
    escapedChar? mark = some c := by
  unfold escapeMark? at h
  split_ifs at h <;> subst c <;> obtain rfl := Option.some.inj h <;> rfl

theorem readEscape?_mark {mark c : Char} (h : escapedChar? mark = some c) (rest : List Char) :
    readEscape? (mark :: rest) = some (c, rest) := by
  have hne (d : Char) (hd : escapedChar? d = none) : mark ≠ d := by
    rintro rfl
    rw [hd] at h
    cases h
  unfold readEscape?
  split
  · rename_i heq
    exact absurd (List.cons.inj heq).1 (hne 'u' rfl)
  · rename_i heq
    exact absurd (List.cons.inj heq).1 (hne 'U' rfl)
  · rename_i heq
    obtain ⟨rfl, rfl⟩ := List.cons.inj heq
    rw [h]
    rfl
  · rename_i heq
    exact absurd heq (by simp)

/-- A character that neither is a blank nor begins the end of a line. -/
def isVisible (c : Char) : Bool :=
  !isSpace c && c != '\n' && c != '\r'

theorem skipSpaces_of_isVisible {c : Char} (hc : isVisible c = true) (cs : List Char) :
    skipSpaces (c :: cs) = c :: cs := by
  simp only [isVisible, Bool.and_eq_true, Bool.not_eq_true'] at hc
  exact List.dropWhile_cons_of_neg (by simp [hc.1.1])

theorem readNewline?_eq_none {c : Char} (hnewline : c ≠ '\n') (hreturn : c ≠ '\r')
    (cs : List Char) : readNewline? (c :: cs) = none := by
  unfold readNewline?
  split
  · rename_i heq
    exact absurd (List.cons.inj heq).1 hnewline
  · rename_i heq
    exact absurd (List.cons.inj heq).1 hreturn
  · rfl

theorem readNewline?_of_isVisible {c : Char} (hc : isVisible c = true) (cs : List Char) :
    readNewline? (c :: cs) = none := by
  simp only [isVisible, Bool.and_eq_true, bne_iff_ne] at hc
  exact readNewline?_eq_none hc.1.2 hc.2 cs

theorem isVisible_of_escapedChar? {mark c : Char} (h : escapedChar? mark = some c) :
    isVisible mark = true := by
  unfold escapedChar? at h
  split_ifs at h <;> subst mark <;> rfl

/-! ## Parts -/

theorem readPart?_plain {form : Form} {c : Char} (hslash : c ≠ '\\' ∨ form.hasEscapes = false)
    (hcontrol : isControl c = false) (rest : List Char) :
    form.readPart? (c :: rest) = some ([c], rest) := by
  have hnot : ¬(c = '\\' ∧ form.hasEscapes = true) := by
    rintro ⟨hc, hform⟩
    rcases hslash with hslash | hslash
    · exact hslash hc
    · rw [hslash] at hform
      cases hform
  simp only [Form.readPart?, if_neg hnot, hcontrol, Bool.false_eq_true, if_false]

theorem readPart?_newline {form : Form} (hform : form.isMultiline = true) (rest : List Char) :
    form.readPart? ('\n' :: rest) = some (['\n'], rest) := by
  have hnot : ¬('\n' = '\\' ∧ form.hasEscapes = true) := fun h => absurd h.1 (by decide)
  have hcontrol : isControl '\n' = true := by decide
  simp only [Form.readPart?, if_neg hnot, hcontrol, if_true, hform]
  rfl

theorem readPart?_backslash {form : Form} (hform : form.hasEscapes = true) {mark c : Char}
    {more rest : List Char} (hmark : isVisible mark = true)
    (h : readEscape? (mark :: more) = some (c, rest)) :
    form.readPart? ('\\' :: mark :: more) = some ([c], rest) := by
  have hnone : readNewline? (skipSpaces (mark :: more)) = none := by
    rw [skipSpaces_of_isVisible hmark, readNewline?_of_isVisible hmark]
  simp only [Form.readPart?, hform, and_self, if_true, hnone, h, Option.map_some]
  cases form.isMultiline <;> rfl

theorem readPart?_escaped {form : Form} (hform : form.hasEscapes = true) (c : Char)
    (rest : List Char) : form.readPart? (escaped c ++ rest) = some ([c], rest) := by
  unfold escaped
  cases hmark : escapeMark? c with
  | some mark =>
    have hchar := escapedChar?_of_escapeMark? hmark
    exact readPart?_backslash hform (isVisible_of_escapedChar? hchar) (readEscape?_mark hchar rest)
  | none =>
    simp only
    split_ifs with hcontrol
    · have hsmall : c.toNat < 256 := by
        simp only [isControl, Bool.or_eq_true, Bool.and_eq_true, decide_eq_true_eq,
          beq_iff_eq] at hcontrol
        omega
      refine readPart?_backslash hform (by decide) ?_
      show (codePoint? ['0', '0', hexDigit (c.toNat / 16), hexDigit c.toNat]).map _ = _
      rw [codePoint?_hexDigits hsmall]
      rfl
    · refine readPart?_plain (.inl ?_) (by simpa using hcontrol) rest
      rintro rfl
      cases hmark

/-- What is written for a character begins with no quotation mark and no end of a line. -/
theorem escaped_eq_cons (c : Char) :
    ∃ d ds, escaped c = d :: ds ∧ d ≠ '"' ∧ d ≠ '\n' ∧ d ≠ '\r' := by
  unfold escaped
  cases hmark : escapeMark? c with
  | some mark => exact ⟨_, _, rfl, by decide, by decide, by decide⟩
  | none =>
    simp only
    split_ifs
    · exact ⟨_, _, rfl, by decide, by decide, by decide⟩
    · refine ⟨c, [], rfl, ?_, ?_, ?_⟩ <;> rintro rfl <;> cases hmark

/-! ## Contents -/

section Contents

variable {form : Form} {cs part rest : List Char}

theorem readEnd?_eq_none (h : form.fence.isPrefixOf cs = false) : form.readEnd? cs = none := by
  rw [Form.readEnd?, h]
  rfl

theorem readContents?_of_readEnd? {extra : List Char} (h : form.readEnd? cs = some (extra, rest)) :
    form.readContents? cs = some (extra, rest) := by
  unfold Form.readContents?
  rw [h]

theorem readContents?_of_readPart? (hend : form.fence.isPrefixOf cs = false)
    (hpart : form.readPart? cs = some (part, rest)) :
    form.readContents? cs =
      (form.readContents? rest).map fun (cs, rest) => (part ++ cs, rest) := by
  rw [Form.readContents?, readEnd?_eq_none hend]
  simp only
  split
  · rename_i hnone
    rw [hpart] at hnone
    cases hnone
  · rename_i hsome
    rw [hpart] at hsome
    obtain ⟨rfl, rfl⟩ := Prod.mk.inj (Option.some.inj hsome)
    rfl

end Contents

/-! ## Strings on one line -/

theorem readContents?_basic (cs rest : List Char) :
    Form.basic.readContents? (cs.flatMap escaped ++ '"' :: rest) = some (cs, rest) := by
  induction cs with
  | nil => exact readContents?_of_readEnd? (by simp [Form.readEnd?, Form.fence, Form.isMultiline,
      Form.mark])
  | cons c cs ih =>
    obtain ⟨d, ds, hescaped, hd, -⟩ := escaped_eq_cons c
    have hfence : Form.basic.fence.isPrefixOf
        (escaped c ++ (cs.flatMap escaped ++ '"' :: rest)) = false := by
      simp [hescaped, List.isPrefixOf, Form.fence, Form.isMultiline, Form.mark, Ne.symm hd]
    rw [List.flatMap_cons, List.append_assoc,
      readContents?_of_readPart? hfence (readPart?_escaped rfl c _), ih]
    rfl

theorem readContents?_literal {cs : List Char}
    (h : ∀ c ∈ cs, c ≠ '\'' ∧ isControl c = false) (rest : List Char) :
    Form.literal.readContents? (cs ++ '\'' :: rest) = some (cs, rest) := by
  induction cs with
  | nil => exact readContents?_of_readEnd? (by simp [Form.readEnd?, Form.fence, Form.isMultiline,
      Form.mark])
  | cons c cs ih =>
    obtain ⟨hmark, hcontrol⟩ := h c List.mem_cons_self
    have hfence : Form.literal.fence.isPrefixOf (c :: (cs ++ '\'' :: rest)) = false := by
      simp [List.isPrefixOf, Form.fence, Form.isMultiline, Form.mark, Ne.symm hmark]
    rw [List.cons_append, readContents?_of_readPart? hfence (readPart?_plain (.inr rfl) hcontrol _),
      ih fun d hd => h d (List.mem_cons_of_mem _ hd)]
    rfl

/-! ## Strings over several lines -/

section Multiline

variable {form : Form} (hform : form.isMultiline = true)

include hform

theorem fence_of_isMultiline : form.fence = [form.mark, form.mark, form.mark] := by
  rw [Form.fence, hform]
  rfl

/-- Up to two marks before the end of a string belong to its contents. -/
theorem readEnd?_marks {q : Nat} (hq : q ≤ 2) {rest : List Char}
    (hrest : ∀ c ∈ rest.head?, c ≠ form.mark) :
    form.readEnd? (List.replicate q form.mark ++ (form.fence ++ rest)) =
      some (List.replicate q form.mark, rest) := by
  have hcomm : List.replicate q form.mark ++ (form.fence ++ rest) =
      form.fence ++ (List.replicate q form.mark ++ rest) := by
    rw [Form.fence, ← List.append_assoc, ← List.append_assoc, List.replicate_append_replicate,
      List.replicate_append_replicate, Nat.add_comm]
  have hextra : ((List.replicate q form.mark ++ rest).take 2).takeWhile (· == form.mark) =
      List.replicate q form.mark := by
    rcases rest with _ | ⟨c, rest⟩
    · match q, hq with
      | 0, _ | 1, _ | 2, _ => simp [List.replicate]
    · have hc := hrest c rfl
      match q, hq with
      | 0, _ | 1, _ | 2, _ => simp [List.replicate, hc]
  rw [hcomm, Form.readEnd?, if_pos (List.isPrefixOf_iff_prefix.2 (List.prefix_append _ _)),
    List.drop_left]
  simp only [hform, if_true, hextra, List.drop_left]

theorem isPrefixOf_fence_pending {q : Nat} (hq : q ≤ 2) {c : Char} (hc : c ≠ form.mark)
    (rest : List Char) :
    form.fence.isPrefixOf (List.replicate q form.mark ++ c :: rest) = false := by
  rw [fence_of_isMultiline hform]
  match q, hq with
  | 0, _ | 1, _ | 2, _ => simp [List.replicate, List.isPrefixOf, Ne.symm hc]

/-- Up to two marks before another part stand for themselves. -/
theorem readContents?_pending {q : Nat} (hq : q ≤ 2) {d : Char} (hd : d ≠ form.mark)
    {ds part more cs rest : List Char} (hpart : form.readPart? (d :: ds) = some (part, more))
    (hmore : form.readContents? more = some (cs, rest)) :
    form.readContents? (List.replicate q form.mark ++ d :: ds) =
      some (List.replicate q form.mark ++ (part ++ cs), rest) := by
  induction q with
  | zero =>
    have hfence := isPrefixOf_fence_pending hform hq hd ds
    rw [List.replicate_zero, List.nil_append] at hfence ⊢
    rw [readContents?_of_readPart? hfence hpart, hmore]
    rfl
  | succ q ih =>
    have hfence := isPrefixOf_fence_pending hform hq hd ds
    have hslash : form.mark ≠ '\\' := by cases form <;> decide
    have hcontrol : isControl form.mark = false := by cases form <;> decide
    rw [List.replicate_succ, List.cons_append] at hfence ⊢
    rw [readContents?_of_readPart? hfence (readPart?_plain (.inl hslash) hcontrol _),
      ih (Nat.le_of_succ_le hq)]
    rfl

end Multiline

theorem readContents?_escapedLines (cs : List Char) {q : Nat} (hq : q ≤ 2) {rest : List Char}
    (hrest : ∀ c ∈ rest.head?, c ≠ '"') :
    Form.multilineBasic.readContents?
        (List.replicate q '"' ++ (escapedLines q cs ++ (Form.multilineBasic.fence ++ rest))) =
      some (List.replicate q '"' ++ cs, rest) := by
  -- `q` marks are behind us that are read only once it is clear that no third one follows
  induction cs generalizing q with
  | nil =>
    rw [escapedLines, List.nil_append, List.append_nil]
    exact readContents?_of_readEnd? (readEnd?_marks rfl hq hrest)
  | cons c cs ih =>
    rw [escapedLines]
    split_ifs with hnewline hquote
    · subst hnewline
      exact readContents?_pending rfl hq (by decide) (readPart?_newline rfl _)
        (ih (Nat.zero_le 2))
    · obtain ⟨rfl, hq'⟩ := hquote
      have := ih (Nat.succ_le_of_lt hq')
      rwa [List.replicate_succ', List.append_assoc, List.append_assoc] at this
    · obtain ⟨d, ds, hescaped, hd, -⟩ := escaped_eq_cons c
      have hpart : Form.multilineBasic.readPart?
          (escaped c ++ (escapedLines 0 cs ++ (Form.multilineBasic.fence ++ rest))) = _ :=
        readPart?_escaped rfl c _
      rw [List.append_assoc]
      rw [hescaped] at hpart ⊢
      exact readContents?_pending rfl hq hd hpart (ih (Nat.zero_le 2))

theorem lt_of_hasRun_eq_false {mark : Char} {count seen : Nat} {cs : List Char}
    (h : hasRun mark count seen cs = false) : seen < count := by
  cases cs with
  | nil => simpa [hasRun] using h
  | cons c cs =>
    refine Nat.lt_of_not_le fun hseen => ?_
    rw [hasRun, if_pos hseen] at h
    cases h

theorem readContents?_multilineLiteral (cs : List Char) {q : Nat}
    (hrun : hasRun '\'' 3 q cs = false) (hhidden : ∀ c ∈ cs, isHidden c = false) {rest : List Char}
    (hrest : ∀ c ∈ rest.head?, c ≠ '\'') :
    Form.multilineLiteral.readContents?
        (List.replicate q '\'' ++ (cs ++ (Form.multilineLiteral.fence ++ rest))) =
      some (List.replicate q '\'' ++ cs, rest) := by
  have hq := Nat.le_of_lt_succ (lt_of_hasRun_eq_false hrun)
  induction cs generalizing q with
  | nil =>
    rw [List.nil_append, List.append_nil]
    exact readContents?_of_readEnd? (readEnd?_marks rfl hq hrest)
  | cons c cs ih =>
    have hrest' : ∀ d ∈ cs, isHidden d = false := fun d hd => hhidden d (List.mem_cons_of_mem _ hd)
    rw [hasRun, if_neg (by omega)] at hrun
    have hnext := Nat.le_of_lt_succ (lt_of_hasRun_eq_false hrun)
    split_ifs at hrun hnext with hmark
    · subst hmark
      have := ih hrun hrest' hnext
      rwa [List.replicate_succ', List.append_assoc, List.append_assoc] at this
    · have hpart : Form.multilineLiteral.readPart?
          (c :: (cs ++ (Form.multilineLiteral.fence ++ rest))) =
            some ([c], cs ++ (Form.multilineLiteral.fence ++ rest)) := by
        have hc := hhidden c List.mem_cons_self
        by_cases hnewline : c = '\n'
        · rw [hnewline]
          exact readPart?_newline rfl _
        · refine readPart?_plain (.inr rfl) ?_ _
          simpa [isHidden, hnewline] using hc
      exact readContents?_pending rfl hq hmark hpart (ih hrun hrest' hnext)

/-! ## Whole strings -/

/-- Whether a text can be written in a form. -/
def Form.Admits : Form → List Char → Prop
  | basic, _ | multilineBasic, _ => True
  | literal, cs => ∀ c ∈ cs, c ≠ '\'' ∧ isControl c = false
  | multilineLiteral, cs => hasRun '\'' 3 0 cs = false ∧ ∀ c ∈ cs, isHidden c = false

theorem admits_ofContents (cs : List Char) : (Form.ofContents cs).Admits cs := by
  unfold Form.ofContents
  split_ifs with hbasic hliteral hlines hlong hnewline
  · trivial
  · intro c hc
    simp only [Bool.not_eq_true', List.any_eq_false, Bool.or_eq_true, beq_iff_eq, not_or,
      Bool.not_eq_true] at hliteral
    exact hliteral c hc
  · trivial
  · simp only [Bool.and_eq_true, Bool.not_eq_true', List.any_eq_false, Bool.not_eq_true] at hlong
    exact ⟨hlong.2, hlong.1⟩
  · trivial
  · trivial

/-- The contents of a string and its end, behind the newline that triple marks may have. -/
theorem readContents?_contents {form : Form} {cs rest : List Char} (h : form.Admits cs)
    (hrest : ∀ c ∈ rest.head?, c ≠ form.mark) :
    form.readContents? (form.contents cs ++ (form.fence ++ rest)) = some (cs, rest) := by
  cases form with
  | basic => exact readContents?_basic cs rest
  | literal => exact readContents?_literal h rest
  | multilineBasic => exact readContents?_escapedLines cs (Nat.zero_le 2) hrest
  | multilineLiteral => exact readContents?_multilineLiteral cs h.1 h.2 hrest

/-- Contents without a newline do not begin with the end of a line. -/
theorem readNewline?_contents {form : Form} {cs : List Char} (h : form.Admits cs)
    (hform : form.isMultiline = true) (hnewline : cs.contains '\n' = false) (rest : List Char) :
    readNewline? (form.contents cs ++ (form.fence ++ rest)) = none := by
  rcases cs with _ | ⟨c, cs⟩
  · have hcontents : form.contents [] = [] := by cases form <;> rfl
    rw [hcontents, List.nil_append, fence_of_isMultiline hform]
    exact readNewline?_eq_none (by cases form <;> decide) (by cases form <;> decide) _
  · have hc : c ≠ '\n' := by
      rintro rfl
      simp at hnewline
    cases form with
    | basic | literal => cases hform
    | multilineBasic =>
      rw [Form.contents, escapedLines, if_neg hc]
      split_ifs with hquote
      · rw [hquote.1]
        exact readNewline?_eq_none (by decide) (by decide) _
      · obtain ⟨d, ds, hescaped, -, hdnewline, hdreturn⟩ := escaped_eq_cons c
        rw [hescaped]
        exact readNewline?_eq_none hdnewline hdreturn _
    | multilineLiteral =>
      have hreturn : c ≠ '\r' := by
        rintro rfl
        exact absurd (h.2 _ List.mem_cons_self) (by decide)
      exact readNewline?_eq_none hc hreturn _

theorem read?_write {form : Form} {cs rest : List Char} (h : form.Admits cs)
    (hrest : ∀ c ∈ rest.head?, c ≠ form.mark) :
    form.read? (form.write cs ++ rest) = some (cs, rest) := by
  have hcontents := readContents?_contents h hrest
  rw [Form.read?, Form.write]
  cases hform : form.isMultiline with
  | false => simpa [hform] using hcontents
  | true =>
    cases hnewline : cs.contains '\n' with
    | false =>
      have hnone := readNewline?_contents h hform hnewline rest
      simpa [hform, hnone] using hcontents
    | true =>
      simpa [hform, readNewline?] using hcontents

theorem fence_prefix_write (form : Form) (cs : List Char) : form.fence <+: form.write cs := by
  unfold Form.write
  split_ifs
  · rw [List.append_assoc]
    exact List.prefix_append _ _
  · exact List.prefix_append _ _

theorem isPrefixOf_fence (form other : Form) (cs rest : List Char) (h : other.mark ≠ form.mark) :
    other.fence.isPrefixOf (form.write cs ++ rest) = false := by
  obtain ⟨ds, hds⟩ := fence_prefix_write form cs
  have hhead : (form.write cs ++ rest).head? = some form.mark := by
    rw [← hds]
    cases form <;> rfl
  have hfence : other.fence.head? = some other.mark := by cases other <;> rfl
  refine Bool.eq_false_iff.2 fun hprefix => h ?_
  obtain ⟨es, hes⟩ := List.isPrefixOf_iff_prefix.1 hprefix
  rw [← hes, List.head?_append, hfence] at hhead
  exact Option.some.inj hhead

/-- A single mark at the beginning is not the first of three. -/
theorem isPrefixOf_marks {form : Form} (hform : form.isMultiline = false) {cs rest : List Char}
    (h : form.Admits cs) (hrest : ∀ c ∈ rest.head?, c ≠ form.mark) :
    [form.mark, form.mark, form.mark].isPrefixOf (form.write cs ++ rest) = false := by
  have hwrite : form.write cs = form.mark :: (form.contents cs ++ [form.mark]) := by
    rw [Form.write, hform, Form.fence, hform]
    rfl
  rw [hwrite]
  rcases cs with _ | ⟨c, cs⟩
  · have hcontents : form.contents [] = [] := by cases form <;> rfl
    rcases rest with _ | ⟨d, rest⟩
    · simp [hcontents, List.isPrefixOf]
    · simp [hcontents, List.isPrefixOf, Ne.symm (hrest d rfl)]
  · cases form with
    | multilineBasic | multilineLiteral => cases hform
    | basic =>
      obtain ⟨d, ds, hescaped, hd, -⟩ := escaped_eq_cons c
      simp [Form.contents, Form.mark, hescaped, List.isPrefixOf, Ne.symm hd]
    | literal =>
      simp [Form.contents, Form.mark, List.isPrefixOf, Ne.symm (h c List.mem_cons_self).1]

theorem ofText?_write {form : Form} {cs rest : List Char} (h : form.Admits cs)
    (hrest : ∀ c ∈ rest.head?, c ≠ form.mark) :
    Form.ofText? (form.write cs ++ rest) = some form := by
  have hown : form.fence.isPrefixOf (form.write cs ++ rest) = true :=
    List.isPrefixOf_iff_prefix.2 ((fence_prefix_write form cs).trans (List.prefix_append _ _))
  have hother (other : Form) := isPrefixOf_fence form other cs rest
  rw [Form.ofText?]
  cases form with
  | multilineBasic => rw [List.find?_cons, hown]
  | basic =>
    have hmarks : Form.multilineBasic.fence.isPrefixOf (Form.basic.write cs ++ rest) = false :=
      isPrefixOf_marks rfl h hrest
    rw [List.find?_cons, hmarks, List.find?_cons, hown]
  | multilineLiteral =>
    rw [List.find?_cons, hother _ (by decide), List.find?_cons, hother _ (by decide),
      List.find?_cons, hown]
  | literal =>
    have hmarks : Form.multilineLiteral.fence.isPrefixOf (Form.literal.write cs ++ rest) = false :=
      isPrefixOf_marks rfl h hrest
    rw [List.find?_cons, hother _ (by decide), List.find?_cons, hother _ (by decide),
      List.find?_cons, hmarks, List.find?_cons, hown]

theorem readString?_writeString (cs : List Char) {rest : List Char}
    (hrest : ∀ c ∈ rest.head?, c ≠ '"' ∧ c ≠ '\'') :
    readString? (writeString cs ++ rest) = some (cs, rest) := by
  have hadmits := admits_ofContents cs
  have hmark : ∀ c ∈ rest.head?, c ≠ (Form.ofContents cs).mark := by
    intro c hc
    cases Form.ofContents cs
    · exact (hrest c hc).1
    · exact (hrest c hc).2
    · exact (hrest c hc).1
    · exact (hrest c hc).2
  rw [readString?, writeString, ofText?_write hadmits hmark, Option.bind_some,
    read?_write hadmits hmark]

end Temperament.Toml
