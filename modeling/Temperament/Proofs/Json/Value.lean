import Temperament.Proofs.Json.Text

/-!
# Values and their tokens

The machine that reads a value takes nothing but the tokens of that value
(`ofTokens?_eq_some_iff`).  Its invariant is about what it has taken so far: the tokens of the parts
that its position and its stack hold (`Position.taken`), to which each step adds its own token.
-/

namespace Temperament.Json

/-! ## What was taken -/

/-- The tokens of an open array, given its items before the one that is due, the last one first. -/
def itemsBefore : List Json → List Token
  | [] => [.openArray]
  | item :: items => itemsBefore items ++ item.tokens ++ [.comma]

/-- The tokens of an open object, given its members before the one that is due, the last one
first. -/
def membersBefore : List (List Piece × Json) → List Token
  | [] => [.openObject]
  | (key, value) :: members =>
    membersBefore members ++ .string key :: .colon :: value.tokens ++ [.comma]

def Frame.taken : Frame → List Token
  | .array items => itemsBefore items
  | .object members key => membersBefore members ++ [.string key, .colon]

/-- The tokens before the part that is due in the innermost of some frames. -/
def takenBefore : List Frame → List Token
  | [] => []
  | frame :: frames => takenBefore frames ++ frame.taken

def Position.taken (frames : List Frame) : Position → List Token
  | .value => takenBefore frames
  | .firstItem => takenBefore frames ++ [.openArray]
  | .firstKey => takenBefore frames ++ [.openObject]
  | .key members => takenBefore frames ++ membersBefore members
  | .colon members k => takenBefore frames ++ membersBefore members ++ [.string k]
  | .complete v => takenBefore frames ++ v.tokens

/-! ## Closing -/

theorem tokens_array (items : List Json) (v : Json) (rest : List Json) :
    (array (items.reverse ++ v :: rest)).tokens =
      itemsBefore items ++ v.tokens ++ moreItems rest := by
  induction items generalizing v rest with
  | nil => simp [tokens, itemsBefore]
  | cons item items ih =>
    rw [List.reverse_cons, List.append_assoc, List.singleton_append, ih item (v :: rest)]
    simp [itemsBefore, moreItems]

theorem tokens_object (members : List (List Piece × Json)) (key : List Piece) (v : Json)
    (rest : List (List Piece × Json)) :
    (object (members.reverse ++ (key, v) :: rest)).tokens =
      membersBefore members ++ .string key :: .colon :: v.tokens ++ moreMembers rest := by
  induction members generalizing key v rest with
  | nil => simp [tokens, membersBefore]
  | cons member members ih =>
    rw [List.reverse_cons, List.append_assoc, List.singleton_append, ih member.1 member.2]
    simp [membersBefore, moreMembers]

/-! ## Runs of the machine -/

variable {frames frames' : List Frame} {position position' : Position} {t : Token}

theorem taken_begin? (h : begin? frames t = some (position, frames')) :
    position.taken frames' = takenBefore frames ++ [t] := by
  cases t <;> simp only [begin?, Option.some.injEq, Prod.mk.injEq, reduceCtorEq] at h <;>
    obtain ⟨rfl, rfl⟩ := h <;> simp [Position.taken, tokens]

/-- A step takes its token, behind what was taken before it. -/
theorem taken_step? (h : step? position frames t = some (position', frames')) :
    position'.taken frames' = position.taken frames ++ [t] := by
  unfold step? at h
  split at h
  case h_1 => exact taken_begin? h
  case h_3 => simpa [Position.taken, takenBefore, Frame.taken, itemsBefore] using taken_begin? h
  all_goals cases h
  -- an array or an object is closed: its parts come out of the frame in their order
  case h_9 v items =>
    rw [List.reverse_cons, Position.taken, tokens_array items v []]
    simp [Position.taken, takenBefore, Frame.taken, moreItems]
  case h_11 v members key =>
    rw [List.reverse_cons, Position.taken, tokens_object members key v []]
    simp [Position.taken, takenBefore, Frame.taken, moreMembers]
  all_goals simp [Position.taken, takenBefore, Frame.taken, itemsBefore, membersBefore, tokens]

theorem tokens_of_run? {ts : List Token} {v : Json} (h : run? position frames ts = some v) :
    v.tokens = position.taken frames ++ ts := by
  induction ts generalizing position frames with
  | nil =>
    unfold run? at h
    split at h
    · cases h
      simp [Position.taken, takenBefore]
    · cases h
    · rename_i heq
      cases heq
  | cons t ts ih =>
    rw [run?] at h
    obtain ⟨⟨position', frames'⟩, hstep, hrun⟩ := Option.bind_eq_some_iff.1 h
    rw [ih hrun, taken_step? hstep, List.append_assoc, List.singleton_append]

/-- The tokens that denote a value are its tokens. -/
theorem ofTokens?_eq_some_iff {ts : List Token} {v : Json} :
    ofTokens? ts = some v ↔ ts = v.tokens := by
  refine ⟨fun h => ?_, fun h => h ▸ ofTokens?_tokens v⟩
  exact (tokens_of_run? h).symm

/-- A text denotes a value if it scans to the tokens of the value. -/
theorem read?_eq_some_iff {cs : List Char} {v : Json} :
    read? cs = some v ↔ scan? cs = some v.tokens := by
  simp [read?, Option.bind_eq_some_iff, ofTokens?_eq_some_iff]

end Temperament.Json
