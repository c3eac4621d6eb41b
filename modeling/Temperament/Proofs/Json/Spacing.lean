import Temperament.Proofs.Json.Grammar
import Temperament.Proofs.Json.Value

/-!
# The texts of a value

The texts that denote a value are those of its tokens, each written in any way that JSON allows and with
any white space around it (`read?_eq_some_iff_isSpaced`).  A number is read as far as it goes, so what
is behind it matters.  In the tokens of a value this is never another number, since the machine takes
none after a complete value.  The text that data is written as is one of these texts (`read?_write`).
-/

namespace Temperament.Json

open Text

/-! ## Tokens -/

/-- The ways to write a token.  Only a string has several, since a number is kept as it is written. -/
inductive Token.IsWritten : Token → List Char → Prop
  | number {literal : List Char} (h : IsNumber literal) : IsWritten (.number literal) literal
  | string {ps : List Piece} {body : List Char} (h : IsSpelled ps body) :
    IsWritten (.string ps) ('"' :: body ++ ['"'])
  | fixed {t : Token} (hnumber : ∀ literal, t ≠ .number literal) (hstring : ∀ ps, t ≠ .string ps) :
    IsWritten t t.text

theorem isWritten_of_readToken? {cs rest : List Char} {t : Token}
    (h : readToken? cs = some (t, rest)) : ∃ w, cs = w ++ rest ∧ t.IsWritten w := by
  rcases readToken?_cases h with ⟨literal, rfl, hread⟩ | ⟨ps, after, rfl, rfl, hread⟩ |
    ⟨hnumber, hstring, rfl⟩
  · obtain ⟨rfl, hliteral⟩ := isNumber_of_readNumber? hread
    exact ⟨literal, rfl, .number hliteral⟩
  · obtain ⟨body, rfl, hbody⟩ := readPieces?_eq_some_iff.1 hread
    exact ⟨_, by simp, .string hbody⟩
  · exact ⟨t.text, rfl, .fixed hnumber hstring⟩

theorem readToken?_isWritten {t : Token} {w rest : List Char} (h : t.IsWritten w)
    (hrest : ∀ literal, t = .number literal → EndsNumber rest) :
    readToken? (w ++ rest) = some (t, rest) := by
  cases h with
  | number h => exact readToken?_isNumber h (hrest _ rfl)
  | string h => exact readToken?_string_iff.2 ⟨_, by simp, h⟩
  | fixed hnumber hstring =>
    refine readToken?_text ?_ hrest
    cases t with
    | number literal => exact absurd rfl (hnumber literal)
    | string ps => exact absurd rfl (hstring ps)
    | _ => trivial

/-! ## Texts -/

/-- A text of tokens with white space around each of them. -/
inductive IsSpaced : List Token → List Char → Prop
  | nil {blank : List Char} (h : IsBlank blank) : IsSpaced [] blank
  | cons {t : Token} {ts : List Token} {blank w cs : List Char} (hblank : IsBlank blank)
    (ht : t.IsWritten w) (h : IsSpaced ts cs) : IsSpaced (t :: ts) (blank ++ (w ++ cs))

theorem isSpaced_of_scan? {cs : List Char} {ts : List Token} (h : scan? cs = some ts) :
    IsSpaced ts cs := by
  induction ts generalizing cs with
  | nil => exact .nil (scan?_eq_some_nil_iff.1 h)
  | cons t ts ih =>
    obtain ⟨blank, after, rest, rfl, hblank, hread, hscan⟩ := scan?_eq_some_cons_iff.1 h
    obtain ⟨w, rfl, hw⟩ := isWritten_of_readToken? hread
    exact .cons hblank hw (ih hscan)

theorem endsNumber_blank {blank rest : List Char} (h : IsBlank blank) (hrest : EndsNumber rest) :
    EndsNumber (blank ++ rest) := by
  rcases blank with _ | ⟨c, blank⟩
  · exact hrest
  · intro d hd
    obtain rfl : c = d := by simpa using hd
    rcases h c List.mem_cons_self with rfl | rfl | rfl | rfl <;> decide

/-- Only a mark that ends a number may follow a complete value. -/
theorem endsNumber_of_step?_complete {v : Json} {frames : List Frame} {t : Token}
    {next : Position × List Frame} (h : step? (.complete v) frames t = some next) {w : List Char}
    (hw : t.IsWritten w) (rest : List Char) : EndsNumber (w ++ rest) := by
  have ht : t = .comma ∨ t = .closeArray ∨ t = .closeObject := by
    unfold step? at h
    split at h <;> simp_all
  have hmark : w = t.text := by
    cases hw with
    | fixed => rfl
    | number | string => simp at ht
  rw [hmark]
  rcases ht with rfl | rfl | rfl <;> simp [EndsNumber, Token.text]

theorem complete_of_step?_number {position : Position} {frames : List Frame} {literal : List Char}
    {next : Position × List Frame} (h : step? position frames (.number literal) = some next) :
    ∃ v, next.1 = .complete v := by
  unfold step? at h
  split at h
  case h_1 | h_3 =>
    cases h
    exact ⟨_, rfl⟩
  all_goals simp_all

/-- The tokens that the machine takes are scanned, however they are spaced.  The second part is about
what may follow a number that was the last token taken. -/
theorem scan?_of_isSpaced {ts : List Token} {cs : List Char} (h : IsSpaced ts cs)
    {position : Position} {frames : List Frame} {v : Json} (hrun : run? position frames ts = some v) :
    scan? cs = some ts ∧ ∀ u, position = .complete u → EndsNumber cs := by
  induction h generalizing position frames with
  | @nil blank hblank =>
    refine ⟨scan?_eq_some_nil_iff.2 hblank, fun _ _ => ?_⟩
    have := endsNumber_blank hblank endsNumber_nil
    rwa [List.append_nil] at this
  | @cons t ts blank w cs hblank hw _ ih =>
    rw [run?] at hrun
    obtain ⟨⟨position', frames'⟩, hstep, hrun⟩ := Option.bind_eq_some_iff.1 hrun
    obtain ⟨hscan, hends⟩ := ih hrun
    have hread : readToken? (w ++ cs) = some (t, cs) := by
      refine readToken?_isWritten hw fun literal hliteral => ?_
      subst hliteral
      obtain ⟨u, hu⟩ := complete_of_step?_number hstep
      exact hends u hu
    refine ⟨scan?_eq_some_cons_iff.2 ⟨blank, _, cs, rfl, hblank, hread, hscan⟩, ?_⟩
    rintro u rfl
    exact endsNumber_blank hblank (endsNumber_of_step?_complete hstep hw cs)

/-- A text denotes a value just if it is made of the tokens of the value. -/
theorem read?_eq_some_iff_isSpaced {cs : List Char} {v : Json} :
    read? cs = some v ↔ IsSpaced v.tokens cs := by
  rw [read?_eq_some_iff]
  exact ⟨isSpaced_of_scan?, fun h => (scan?_of_isSpaced h (ofTokens?_tokens v)).1⟩

/-! ## Written values -/

theorem isWritten_text {t : Token} (h : t.IsWritable) : t.IsWritten t.text := by
  have hread : readToken? (t.text ++ []) = some (t, []) :=
    readToken?_text h fun _ _ => endsNumber_nil
  obtain ⟨w, heq, hw⟩ := isWritten_of_readToken? hread
  rwa [List.append_cancel_right heq]

theorem isSpaced_text {ts : List Token} (h : ∀ t ∈ ts, t.IsWritable) :
    IsSpaced ts (ts.flatMap Token.text) := by
  induction ts with
  | nil => exact .nil nofun
  | cons t ts ih =>
    obtain ⟨ht, hts⟩ := List.forall_mem_cons.1 h
    have hblank : IsBlank [] := nofun
    exact .cons hblank (isWritten_text ht) (ih hts)

theorem read?_write {v : Json} (hv : v.IsWritable) : read? v.write = some v :=
  read?_eq_some_iff_isSpaced.2 (isSpaced_text hv)

theorem ofText?_text {v : Json} (hv : v.IsWritable) : ofText? v.text = some v := by
  rw [ofText?, text, String.toList_ofList]
  exact read?_write hv

end Temperament.Json
