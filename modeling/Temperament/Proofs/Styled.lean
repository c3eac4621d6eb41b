import Temperament.Styled

/-!
# Colour is decoration

A text rendered in colour is its plain rendering with sequences put in (`decorates_render`), whatever
characters it holds.  If it holds no escape character, the sequences are the only ones of their kind,
and removing them leaves the plain rendering (`strip_render`).
-/

namespace Temperament

/-- The character that begins a sequence. -/
def escape : Char := '\x1b'

/-! ## Sequences -/

/-- A sequence that sets attributes: an escape character, `[`, codes, `m`. -/
def IsSequence (cs : List Char) : Prop :=
  ∃ codes, cs = escape :: '[' :: (codes ++ ['m']) ∧ ∀ c ∈ codes, c.isDigit = true ∨ c = ';'

theorem isDigit_of_mem_toString {n : Nat} {c : Char} (h : c ∈ (toString n).toList) :
    c.isDigit = true := by
  rw [Nat.toString_eq_ofList_toDigits, String.toList_ofList] at h
  exact Nat.isDigit_of_mem_toDigits (by decide) (by decide) h

theorem mem_intercalate_codes {codes : List Nat} {c : Char}
    (h : c ∈ (";".intercalate (codes.map toString)).toList) : c.isDigit = true ∨ c = ';' := by
  induction codes with
  | nil => simp at h
  | cons n codes ih =>
    rcases codes with _ | ⟨n', codes⟩
    · exact .inl (isDigit_of_mem_toString (by simpa using h))
    · simp only [List.map_cons, String.intercalate_cons_cons, String.toList_append,
        List.mem_append] at h ih
      rcases h with (h | h) | h
      · exact .inl (isDigit_of_mem_toString h)
      · exact .inr (by simpa using h)
      · exact ih h

theorem isSequence_sequence (codes : List Nat) : IsSequence (Style.sequence codes).toList := by
  refine ⟨(";".intercalate (codes.map toString)).toList, ?_, fun c => mem_intercalate_codes⟩
  rw [Style.sequence, String.toList_append, String.toList_append]
  rfl

/-! ## Decorated texts -/

/-- A text is another one with sequences put in. -/
inductive Decorates : List Char → List Char → Prop
  | nil : Decorates [] []
  | char (c : Char) {plain coloured : List Char} (h : Decorates plain coloured) :
    Decorates (c :: plain) (c :: coloured)
  | sequence {s plain coloured : List Char} (hs : IsSequence s) (h : Decorates plain coloured) :
    Decorates plain (s ++ coloured)

namespace Decorates

theorem refl (cs : List Char) : Decorates cs cs := by
  induction cs with
  | nil => exact nil
  | cons c cs ih => exact char c ih

theorem append {plain coloured plain' coloured' : List Char} (h : Decorates plain coloured)
    (h' : Decorates plain' coloured') : Decorates (plain ++ plain') (coloured ++ coloured') := by
  induction h with
  | nil => exact h'
  | char c _ ih => exact char c ih
  | sequence hs _ ih =>
    rw [List.append_assoc]
    exact sequence hs ih

theorem of_isSequence {s : List Char} (hs : IsSequence s) : Decorates [] s := by
  have := sequence hs nil
  rwa [List.append_nil] at this

end Decorates

theorem decorates_insertAfter {mark addition : List Char} (h : IsSequence addition)
    (cs : List Char) : Decorates cs (insertAfter mark addition cs) := by
  fun_induction insertAfter mark addition cs with
  | case1 => exact .nil
  | case2 c rest hmark ih =>
    obtain ⟨rest', hrest⟩ := List.isPrefixOf_iff_prefix.1 hmark.1
    rw [← hrest, List.drop_left] at ih ⊢
    rw [List.append_assoc]
    exact (Decorates.refl mark).append (.sequence h ih)
  | case3 c rest _ ih => exact .char c ih

theorem decorates_coloured (span : Span) : Decorates span.text.toList span.coloured.toList := by
  unfold Span.coloured
  split
  · exact .refl _
  · have hstart : IsSequence span.style.start.toList := isSequence_sequence _
    have hreset : IsSequence Style.reset.toList := isSequence_sequence _
    simp only [String.toList_append, String.toList_ofList]
    have htext : Decorates span.text.toList
        (insertAfter Style.reset.toList span.style.start.toList span.text.toList) :=
      decorates_insertAfter hstart span.text.toList
    have hspan := ((Decorates.of_isSequence hstart).append htext).append (.of_isSequence hreset)
    rwa [List.nil_append, List.append_nil] at hspan

theorem Styled.render_cons (inColour : Bool) (span : Span) (t : Styled) :
    Styled.render inColour (span :: t) = span.render inColour ++ t.render inColour := by
  rw [Styled.render, List.map_cons, String.join_cons]
  rfl

/-- A text in colour is the plain text with sequences put in. -/
theorem decorates_render (t : Styled) :
    Decorates (t.render false).toList (t.render true).toList := by
  induction t with
  | nil => exact .nil
  | cons span t ih =>
    rw [Styled.render_cons, Styled.render_cons, String.toList_append, String.toList_append]
    exact (decorates_coloured span).append ih

/-! ## Removing sequences -/

/-- The text without its sequences, each from an escape character and `[` to the next `m`. -/
def withoutSequences (cs : List Char) : List Char :=
  match cs with
  | [] => []
  | c :: rest =>
    if c = escape ∧ rest.head? = some '[' ∧ 'm' ∈ rest then
      withoutSequences ((rest.dropWhile (· != 'm')).drop 1)
    else c :: withoutSequences rest
termination_by cs.length
decreasing_by
  · have := (List.dropWhile_sublist (· != 'm') (l := rest)).length_le
    simp only [List.length_drop, List.length_cons]
    omega
  · simp

theorem withoutSequences_cons {c : Char} (hc : c ≠ escape) (cs : List Char) :
    withoutSequences (c :: cs) = c :: withoutSequences cs := by
  rw [withoutSequences, if_neg fun h => hc h.1]

theorem withoutSequences_append {s : List Char} (hs : IsSequence s) (cs : List Char) :
    withoutSequences (s ++ cs) = withoutSequences cs := by
  obtain ⟨codes, rfl, hcodes⟩ := hs
  have hcode : ∀ c ∈ '[' :: codes, (c != 'm') = true := by
    intro c hc
    rw [bne_iff_ne]
    rintro rfl
    rcases List.mem_cons.1 hc with hc | hc
    · cases hc
    · rcases hcodes _ hc with hdigit | hmark
      · cases hdigit
      · cases hmark
  have hsplit : '[' :: (codes ++ ['m']) ++ cs = ('[' :: codes) ++ 'm' :: cs := by simp
  rw [List.cons_append, withoutSequences, if_pos (by simp), hsplit,
    List.dropWhile_append_of_pos hcode]
  rfl

theorem withoutSequences_of_decorates {plain coloured : List Char} (h : Decorates plain coloured)
    (hplain : escape ∉ plain) : withoutSequences coloured = plain := by
  induction h with
  | nil => rw [withoutSequences]
  | char c _ ih =>
    obtain ⟨hc, hrest⟩ := not_or.1 (mt List.mem_cons.2 hplain)
    rw [withoutSequences_cons (Ne.symm hc), ih hrest]
  | sequence hs _ ih => rw [withoutSequences_append hs, ih hplain]

/-- A text without its sequences. -/
def strip (s : String) : String :=
  String.ofList (withoutSequences s.toList)

/-! ## Texts without escape characters -/

/-- A text that holds no escape character. -/
def IsClear (s : String) : Prop :=
  escape ∉ s.toList

instance (s : String) : Decidable (IsClear s) :=
  inferInstanceAs (Decidable (escape ∉ s.toList))

@[simp]
theorem isClear_append {s t : String} : IsClear (s ++ t) ↔ IsClear s ∧ IsClear t := by
  simp [IsClear]

@[simp]
theorem isClear_repr (n : Nat) : IsClear n.repr :=
  fun hmem => absurd (isDigit_of_mem_toString (n := n) hmem) (by decide)

@[simp]
theorem isClear_toString {s : String} : IsClear (toString s) ↔ IsClear s :=
  Iff.rfl

theorem strip_of_decorates {plain coloured : String}
    (h : Decorates plain.toList coloured.toList) (hplain : IsClear plain) :
    strip coloured = plain := by
  rw [strip, withoutSequences_of_decorates h hplain, String.ofList_toList]

/-- A styled text whose spans hold no escape character. -/
def Styled.IsClear (t : Styled) : Prop :=
  ∀ span ∈ t, Temperament.IsClear span.text

namespace Styled

variable {t t' : Styled}

@[simp]
theorem isClear_nil : Styled.IsClear [] := by
  simp [Styled.IsClear]

@[simp]
theorem isClear_append : Styled.IsClear (t ++ t') ↔ t.IsClear ∧ t'.IsClear := by
  simp only [Styled.IsClear, List.forall_mem_append]

@[simp]
theorem isClear_plain {s : String} : (plain s).IsClear ↔ Temperament.IsClear s := by
  simp [plain, Styled.IsClear]

@[simp]
theorem isClear_apply {style : Style} {s : String} :
    (style.apply s).IsClear ↔ Temperament.IsClear s := by
  simp [Style.apply, Styled.IsClear]

@[simp]
theorem isClear_flatMap {α : Type} {f : α → Styled} {l : List α} :
    Styled.IsClear (l.flatMap f) ↔ ∀ a ∈ l, (f a).IsClear := by
  simp only [Styled.IsClear, List.mem_flatMap]
  exact ⟨fun h a ha span hspan => h span ⟨a, ha, hspan⟩,
    fun h span ⟨a, ha, hspan⟩ => h a ha span hspan⟩

theorem IsClear.render (h : t.IsClear) : Temperament.IsClear (t.render false) := by
  induction t with
  | nil => simp [Styled.render, Temperament.IsClear]
  | cons span t ih =>
    obtain ⟨hspan, ht⟩ := List.forall_mem_cons.1 h
    rw [render_cons, Temperament.isClear_append]
    exact ⟨hspan, ih ht⟩

end Styled

/-- A text without escape characters in colour, without the sequences. -/
theorem strip_render {t : Styled} (h : t.IsClear) : strip (t.render true) = t.render false :=
  strip_of_decorates (decorates_render t) h.render

end Temperament
