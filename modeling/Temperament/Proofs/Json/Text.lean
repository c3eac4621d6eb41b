import Temperament.Proofs.Json.Literal
import Temperament.Proofs.Json.Number

/-!
# Reading back tokens and values

The two stages of reading undo those of writing.  A token that is written as data writes it is read back
from its text (`readToken?_text`), and the machine takes the tokens of a value to that value
(`run?_tokens`).
-/

namespace Temperament.Json

open Text

/-! ## Tokens -/

/-- The tokens that data is written with. -/
def Token.IsWritable : Token → Prop
  | number literal => ∃ n, literal = digits n
  | string pieces => ∀ p ∈ pieces, p.IsWritable
  | _ => True

theorem readToken?_text {t : Token} (ht : t.IsWritable) {rest : List Char}
    (hrest : ∀ literal, t = .number literal → EndsNumber rest) :
    readToken? (t.text ++ rest) = some (t, rest) := by
  cases t with
  | number literal =>
    obtain ⟨n, rfl⟩ := ht
    exact readToken?_isNumber (isNumber_digits n) (hrest _ rfl)
  | string pieces =>
    simp only [Token.text, List.cons_append, List.append_assoc, List.nil_append, readToken?,
      readPieces?_text ht, Option.map_some]
  | bool b => cases b <;> rfl
  | openObject | closeObject | openArray | closeArray | colon | comma | null => rfl

theorem readToken?_of_isSpace {c : Char} (hc : isSpace c = true) (cs : List Char) :
    readToken? (c :: cs) = none := by
  simp only [isSpace, Bool.or_eq_true, beq_iff_eq] at hc
  rcases hc with ((rfl | rfl) | rfl) | rfl <;> rfl

/-! ## Scanning -/

@[simp]
theorem scan?_nil : scan? [] = some [] := by
  unfold scan?
  rfl

theorem scan?_space {c : Char} (hc : isSpace c = true) (cs : List Char) :
    scan? (c :: cs) = scan? cs := by
  rw [scan?.eq_def (c :: cs), scan?.eq_def cs, List.dropWhile_cons_of_pos hc]

theorem scan?_of_readToken? {cs rest : List Char} {t : Token} (h : readToken? cs = some (t, rest)) :
    scan? cs = (scan? rest).map (t :: ·) := by
  rcases cs with _ | ⟨c, cs⟩
  · cases h
  · have hc : ¬ isSpace c = true := fun hc => by
      rw [readToken?_of_isSpace hc] at h
      cases h
    rw [scan?.eq_def (c :: cs), List.dropWhile_cons_of_neg hc, if_neg (by simp)]
    split
    · rename_i hnone
      rw [h] at hnone
      cases hnone
    · rename_i hsome
      rw [h] at hsome
      obtain ⟨rfl, rfl⟩ := Prod.mk.inj (Option.some.inj hsome)
      rfl

theorem scan?_token {t : Token} (ht : t.IsWritable) {rest : List Char}
    (hrest : ∀ literal, t = .number literal → EndsNumber rest) :
    scan? (t.text ++ rest) = (scan? rest).map (t :: ·) :=
  scan?_of_readToken? (readToken?_text ht hrest)

/-! ## The machine -/

mutual

theorem run?_tokens (v : Json) (frames : List Frame) (ts : List Token) :
    run? .value frames (v.tokens ++ ts) = run? (.complete v) frames ts := by
  match v with
  | null | bool _ | string _ | number _ => rfl
  | array [] | object [] => rfl
  | array (item :: items) =>
    have hfirst : ∀ ts, run? .firstItem frames (item.tokens ++ ts) =
        run? .value (.array [] :: frames) (item.tokens ++ ts) := by
      intro ts
      match item with
      | null | bool _ | string _ | number _ => rfl
      | array [] | object [] | array (_ :: _) | object ((_, _) :: _) => rfl
    show run? .firstItem frames (item.tokens ++ moreItems items ++ ts) = _
    rw [List.append_assoc, hfirst, run?_tokens item, run?_moreItems item [] items]
    rfl
  | object ((key, value) :: members) =>
    show run? .value (.object [] key :: frames) (value.tokens ++ moreMembers members ++ ts) = _
    rw [List.append_assoc, run?_tokens value, run?_moreMembers value [] members]
    rfl

theorem run?_moreItems (v : Json) (before items : List Json) (frames : List Frame)
    (ts : List Token) :
    run? (.complete v) (.array before :: frames) (moreItems items ++ ts) =
      run? (.complete (array ((v :: before).reverse ++ items))) frames ts := by
  match items with
  | [] => simp [moreItems, run?, step?]
  | item :: items =>
    show run? .value (.array (v :: before) :: frames) (item.tokens ++ moreItems items ++ ts) = _
    rw [List.append_assoc, run?_tokens item, run?_moreItems item (v :: before) items]
    simp

theorem run?_moreMembers (v : Json) (before members : List (List Piece × Json)) (key : List Piece)
    (frames : List Frame) (ts : List Token) :
    run? (.complete v) (.object before key :: frames) (moreMembers members ++ ts) =
      run? (.complete (object (((key, v) :: before).reverse ++ members))) frames ts := by
  match members with
  | [] => simp [moreMembers, run?, step?]
  | (key', value) :: members =>
    show run? .value (.object ((key, v) :: before) key' :: frames)
      (value.tokens ++ moreMembers members ++ ts) = _
    rw [List.append_assoc, run?_tokens value, run?_moreMembers value ((key, v) :: before) members]
    simp

end

theorem ofTokens?_tokens (v : Json) : ofTokens? v.tokens = some v := by
  have := run?_tokens v [] []
  rwa [List.append_nil] at this

/-! ## Data -/

/-- Whether the numbers and the strings of a value are written as data writes them. -/
def IsWritable (v : Json) : Prop :=
  ∀ t ∈ v.tokens, t.IsWritable

end Temperament.Json
