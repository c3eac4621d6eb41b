import Mathlib.Data.List.TakeWhile
import Temperament.Proofs.Json.Text

/-!
# The grammar of strings

Which characters may stand between the quotes of a JSON string, and which text they denote
(`IsBody`), with no mention of how they are read.  A literal is read and denotes a text just if it is
of this form (`isBody_iff`).  Of a text of several tokens the first one is taken, with the white space
before it (`scan?_eq_some_cons_iff`).
-/

namespace Temperament.Json

open Text

/-! ## Strings -/

/-- The characters after the backslash of a short escape, each with the one that it stands for. -/
def shortEscapes : List (Char × Char) :=
  [('"', '"'), ('\\', '\\'), ('/', '/'), ('b', '\x08'), ('f', '\x0c'), ('n', '\n'), ('r', '\r'),
    ('t', '\t')]

/-- A hexadecimal digit of either case. -/
def IsHexDigit (c : Char) (n : Nat) : Prop :=
  n < 16 ∧ (c = n.digitChar ∨ c = n.digitChar.toUpper)

/-- Four hexadecimal digits and the number that they stand for. -/
inductive IsHex : List Char → Nat → Prop
  | mk {a b c d : Char} {i j k l : Nat} (ha : IsHexDigit a i) (hb : IsHexDigit b j)
    (hc : IsHexDigit c k) (hd : IsHexDigit d l) :
    IsHex [a, b, c, d] (4096 * i + 256 * j + 16 * k + l)

/-- What may stand between the quotes of a string, and the text that it denotes.  A surrogate stands
only in a pair. -/
inductive IsBody : List Char → List Char → Prop
  | nil : IsBody [] []
  | char {c : Char} {body text : List Char} (hquote : c ≠ '"') (hslash : c ≠ '\\')
    (hcontrol : 0x20 ≤ c.toNat) (h : IsBody body text) : IsBody (c :: body) (c :: text)
  | short {mark c : Char} {body text : List Char} (hmark : (mark, c) ∈ shortEscapes)
    (h : IsBody body text) : IsBody ('\\' :: mark :: body) (c :: text)
  | unit {digits body text : List Char} {n : Nat} (hdigits : IsHex digits n)
    (hscalar : n < 0xD800 ∨ 0xE000 ≤ n) (h : IsBody body text) :
    IsBody ('\\' :: 'u' :: digits ++ body) (Char.ofNat n :: text)
  | pair {digits digits' body text : List Char} {high low : Nat} (hdigits : IsHex digits high)
    (hhigh : 0xD800 ≤ high ∧ high < 0xDC00) (hdigits' : IsHex digits' low)
    (hlow : 0xDC00 ≤ low ∧ low < 0xE000) (h : IsBody body text) :
    IsBody ('\\' :: 'u' :: digits ++ '\\' :: 'u' :: digits' ++ body)
      (Char.ofNat (0x10000 + (high - 0xD800) * 0x400 + (low - 0xDC00)) :: text)

/-! ## Pieces -/

theorem escapedChar?_eq_some_iff {mark c : Char} :
    escapedChar? mark = some c ↔ (mark, c) ∈ shortEscapes := by
  unfold escapedChar?
  split_ifs <;> simp_all [shortEscapes, eq_comm]

theorem hexValue?_eq_some_iff {c : Char} {n : Nat} : hexValue? c = some n ↔ IsHexDigit c n := by
  constructor
  · intro h
    have checked : ∀ k : Fin 128, ∀ n ∈ hexValue? (Char.ofNat k),
        n < 16 ∧ (Char.ofNat k = n.digitChar ∨ Char.ofNat k = n.digitChar.toUpper) := by
      decide
    have hc : c.toNat < 128 := by
      have hbelow {d : Char} (h : c ≤ d) (hd : d.toNat < 128) : c.toNat < 128 :=
        Nat.lt_of_le_of_lt (UInt32.le_iff_toNat_le.1 h) hd
      unfold hexValue? at h
      split_ifs at h with h₀ h₁ h₂
      · exact hbelow h₀.2 (by decide)
      · exact hbelow h₁.2 (by decide)
      · exact hbelow h₂.2 (by decide)
    have := checked ⟨c.toNat, hc⟩ n
    rw [Char.ofNat_toNat] at this
    exact this h
  · have checked : ∀ k : Fin 16, hexValue? k.val.digitChar = some k.val ∧
        hexValue? k.val.digitChar.toUpper = some k.val := by
      decide
    rintro ⟨hn, rfl | rfl⟩
    · exact (checked ⟨n, hn⟩).1
    · exact (checked ⟨n, hn⟩).2

theorem hexNumber?_eq_some_iff {a b c d : Char} {n : Nat} :
    hexNumber? [a, b, c, d] = some n ↔ IsHex [a, b, c, d] n := by
  simp only [hexNumber?, List.foldlM_cons, List.foldlM_nil, Option.bind_eq_bind, Option.pure_def,
    Option.bind_eq_some_iff, Option.map_eq_some_iff, hexValue?_eq_some_iff]
  constructor
  · rintro ⟨_, ⟨i, ha, rfl⟩, _, ⟨j, hb, rfl⟩, _, ⟨k, hc, rfl⟩, _, ⟨l, hd, rfl⟩, h⟩
    obtain rfl : n = 4096 * i + 256 * j + 16 * k + l := by
      have := Option.some.inj h
      omega
    exact .mk ha hb hc hd
  · rintro ⟨ha, hb, hc, hd⟩
    exact ⟨_, ⟨_, ha, rfl⟩, _, ⟨_, hb, rfl⟩, _, ⟨_, hc, rfl⟩, _, ⟨_, hd, rfl⟩,
      congrArg some (by omega)⟩

/-- The ways to write a piece. -/
inductive Piece.IsWritten : Piece → List Char → Prop
  | plain {c : Char} (hquote : c ≠ '"') (hslash : c ≠ '\\') (hcontrol : 0x20 ≤ c.toNat) :
    IsWritten (.plain c) [c]
  | short {mark c : Char} (hmark : (mark, c) ∈ shortEscapes) : IsWritten (.short c) ['\\', mark]
  | unit {digits : List Char} {n : Nat} (hdigits : IsHex digits n) :
    IsWritten (.unit n) ('\\' :: 'u' :: digits)

theorem readEscape?_eq_some_iff {cs rest : List Char} {p : Piece} :
    readEscape? cs = some (p, rest) ↔ ∃ w, cs = w ++ rest ∧ p.IsWritten ('\\' :: w) := by
  constructor
  · intro h
    unfold readEscape? at h
    split at h
    · obtain ⟨n, hn, heq⟩ := Option.map_eq_some_iff.1 h
      cases heq
      exact ⟨_, rfl, .unit (hexNumber?_eq_some_iff.1 hn)⟩
    · obtain ⟨c, hc, heq⟩ := Option.map_eq_some_iff.1 h
      cases heq
      exact ⟨[_], rfl, .short (escapedChar?_eq_some_iff.1 hc)⟩
    · cases h
  · rintro ⟨w, rfl, h⟩
    cases h with
    | plain _ hslash _ => exact absurd rfl hslash
    | short hmark => exact readEscape?_mark (escapedChar?_eq_some_iff.2 hmark) rest
    | unit hdigits =>
      obtain ⟨ha, hb, hc, hd⟩ := hdigits
      have hn := hexNumber?_eq_some_iff.2 (.mk ha hb hc hd)
      simp [readEscape?, hn]

theorem readPiece?_eq_some_iff {cs rest : List Char} {p : Piece} :
    readPiece? cs = some (p, rest) ↔ ∃ w, cs = w ++ rest ∧ p.IsWritten w := by
  constructor
  · intro h
    unfold readPiece? at h
    split at h
    · cases h
    · rename_i c cs
      split_ifs at h with hslash hquote
      · obtain ⟨w, rfl, hw⟩ := readEscape?_eq_some_iff.1 h
        exact ⟨c :: w, rfl, hslash ▸ hw⟩
      · cases h
        obtain ⟨hquote, hcontrol⟩ := not_or.1 hquote
        exact ⟨[c], rfl, .plain hquote hslash (by simpa [isControl] using hcontrol)⟩
  · rintro ⟨w, rfl, h⟩
    cases h with
    | plain hquote hslash hcontrol =>
      simpa [readPiece?, isControl, hquote, hslash] using hcontrol
    | short hmark =>
      exact readEscape?_eq_some_iff.2 ⟨_, rfl, .short hmark⟩
    | unit hdigits =>
      exact readEscape?_eq_some_iff.2 ⟨_, rfl, .unit hdigits⟩

/-! ## Literals -/

/-- The ways to write pieces one after the other. -/
inductive IsSpelled : List Piece → List Char → Prop
  | nil : IsSpelled [] []
  | cons {p : Piece} {ps : List Piece} {w body : List Char} (hp : p.IsWritten w)
    (h : IsSpelled ps body) : IsSpelled (p :: ps) (w ++ body)

theorem readPieces?_eq_some_iff {cs rest : List Char} {ps : List Piece} :
    readPieces? cs = some (ps, rest) ↔ ∃ body, cs = body ++ '"' :: rest ∧ IsSpelled ps body := by
  constructor
  · intro h
    fun_induction readPieces? cs generalizing ps rest with
    | case1 cs hquote =>
      cases h
      obtain ⟨cs, rfl⟩ := List.head?_eq_some_iff.1 hquote
      exact ⟨[], rfl, .nil⟩
    | case2 => cases h
    | case3 cs _ p rest' hread ih =>
      obtain ⟨⟨ps, rest⟩, hps, heq⟩ := Option.map_eq_some_iff.1 h
      cases heq
      obtain ⟨w, rfl, hw⟩ := readPiece?_eq_some_iff.1 hread
      obtain ⟨body, rfl, hbody⟩ := ih hps
      exact ⟨w ++ body, (List.append_assoc _ _ _).symm, .cons hw hbody⟩
  · rintro ⟨body, rfl, h⟩
    induction h with
    | nil => simp [readPieces?]
    | cons hp _ ih =>
      rw [List.append_assoc, readPieces?_of_readPiece? (readPiece?_eq_some_iff.2 ⟨_, rfl, hp⟩), ih]
      rfl

theorem isScalar_iff {n : Nat} :
    isHighSurrogate n = false ∧ isLowSurrogate n = false ↔ n < 0xD800 ∨ 0xE000 ≤ n := by
  simp only [isHighSurrogate, isLowSurrogate, Bool.and_eq_false_iff, decide_eq_false_iff_not]
  omega

theorem exists_isSpelled {body text : List Char} (h : IsBody body text) :
    ∃ ps, IsSpelled ps body ∧ decode? ps = some text := by
  induction h with
  | nil => exact ⟨[], .nil, rfl⟩
  | @char c _ _ hquote hslash hcontrol _ ih =>
    obtain ⟨ps, hps, hdecode⟩ := ih
    refine ⟨.plain c :: ps, .cons (.plain hquote hslash hcontrol) hps, ?_⟩
    rw [decode?, hdecode, Option.map_some]
  | @short mark c _ _ hmark _ ih =>
    obtain ⟨ps, hps, hdecode⟩ := ih
    refine ⟨.short c :: ps, .cons (.short hmark) hps, ?_⟩
    rw [decode?, hdecode, Option.map_some]
  | @unit digits _ _ n hdigits hscalar _ ih =>
    obtain ⟨ps, hps, hdecode⟩ := ih
    refine ⟨.unit n :: ps, .cons (.unit hdigits) hps, ?_⟩
    obtain ⟨hhigh, hlow⟩ := isScalar_iff.2 hscalar
    rw [decode?_unit hhigh hlow, hdecode, Option.map_some]
  | @pair digits digits' _ _ high low hdigits hhigh hdigits' hlow _ ih =>
    obtain ⟨ps, hps, hdecode⟩ := ih
    refine ⟨.unit high :: .unit low :: ps, ?_, ?_⟩
    · have := IsSpelled.cons (.unit hdigits) (.cons (.unit hdigits') hps)
      simpa using this
    · have hhigh' : isHighSurrogate high = true := by simpa [isHighSurrogate] using hhigh
      have hlow' : isLowSurrogate low = true := by simpa [isLowSurrogate] using hlow
      have hneither : isLowSurrogate high = false := by
        simp only [isLowSurrogate, Bool.and_eq_false_iff, decide_eq_false_iff_not]
        omega
      simp [decode?, hhigh', hlow', hneither, hdecode, surrogatePair]

theorem exists_of_isSpelled_unit {n : Nat} {ps : List Piece} {body : List Char}
    (h : IsSpelled (.unit n :: ps) body) :
    ∃ digits rest, body = '\\' :: 'u' :: digits ++ rest ∧ IsHex digits n ∧ IsSpelled ps rest := by
  obtain _ | ⟨hp, hps⟩ := h
  cases hp with
  | unit hdigits => exact ⟨_, _, rfl, hdigits, hps⟩

theorem isBody_of_decode? {ps : List Piece} {body text : List Char} (h : IsSpelled ps body)
    (hdecode : decode? ps = some text) : IsBody body text := by
  -- two units in a row are looked at together: four cases of them, and two of a unit by itself
  fun_induction decode? ps generalizing body text with
  | case1 =>
    cases h
    cases hdecode
    exact .nil
  | case2 c ps ih =>
    obtain ⟨text, htext, rfl⟩ := Option.map_eq_some_iff.1 hdecode
    obtain _ | ⟨hp, hps⟩ := h
    cases hp with
    | plain hquote hslash hcontrol => exact .char hquote hslash hcontrol (ih hps htext)
  | case3 c ps ih =>
    obtain ⟨text, htext, rfl⟩ := Option.map_eq_some_iff.1 hdecode
    obtain _ | ⟨hp, hps⟩ := h
    cases hp with
    | short hmark => exact .short hmark (ih hps htext)
  | case4 => cases hdecode
  -- only here does a unit take the next one along
  | case5 high low ps _ hhigh hlow ih =>
    obtain ⟨text, htext, rfl⟩ := Option.map_eq_some_iff.1 hdecode
    obtain ⟨digits, rest, rfl, hdigits, hps⟩ := exists_of_isSpelled_unit h
    obtain ⟨digits', rest', rfl, hdigits', hps'⟩ := exists_of_isSpelled_unit hps
    have := IsBody.pair hdigits (by simpa [isHighSurrogate] using hhigh) hdigits'
      (by simpa [isLowSurrogate] using hlow) (ih hps' htext)
    simpa [surrogatePair] using this
  | case6 => cases hdecode
  | case7 n low ps hlow hhigh ih =>
    obtain ⟨text, htext, rfl⟩ := Option.map_eq_some_iff.1 hdecode
    obtain ⟨digits, rest, rfl, hdigits, hps⟩ := exists_of_isSpelled_unit h
    exact .unit hdigits (isScalar_iff.1 ⟨by simpa using hhigh, by simpa using hlow⟩) (ih hps htext)
  | case8 => cases hdecode
  | case9 n ps _ hneither ih =>
    obtain ⟨text, htext, rfl⟩ := Option.map_eq_some_iff.1 hdecode
    obtain ⟨digits, rest, rfl, hdigits, hps⟩ := exists_of_isSpelled_unit h
    exact .unit hdigits (isScalar_iff.1 (by simpa using hneither)) (ih hps htext)

/-- A literal is read and denotes a text just if it is one of a string with this text. -/
theorem isBody_iff {body text : List Char} :
    IsBody body text ↔ ∃ ps, IsSpelled ps body ∧ decode? ps = some text :=
  ⟨exists_isSpelled, fun ⟨_, h, hdecode⟩ => isBody_of_decode? h hdecode⟩

theorem pieceText?_eq_some_iff {ps : List Piece} {s : String} :
    pieceText? ps = some s ↔ decode? ps = some s.toList := by
  rw [pieceText?, Option.map_eq_some_iff]
  constructor
  · rintro ⟨text, hdecode, rfl⟩
    rwa [String.toList_ofList]
  · exact fun hdecode => ⟨s.toList, hdecode, String.ofList_toList⟩

/-! ## Tokens -/

/-- JSON white space. -/
def IsBlank (cs : List Char) : Prop :=
  ∀ c ∈ cs, c = ' ' ∨ c = '\t' ∨ c = '\n' ∨ c = '\r'

theorem isSpace_iff {c : Char} :
    isSpace c = true ↔ c = ' ' ∨ c = '\t' ∨ c = '\n' ∨ c = '\r' := by
  simp only [isSpace, Bool.or_eq_true, beq_iff_eq, or_assoc]
  rw [or_left_comm (a := c = '\n')]

theorem scan?_blank {blank : List Char} (h : IsBlank blank) (cs : List Char) :
    scan? (blank ++ cs) = scan? cs := by
  induction blank with
  | nil => rfl
  | cons c blank ih =>
    obtain ⟨hc, hblank⟩ := List.forall_mem_cons.1 h
    rw [List.cons_append, scan?_space (isSpace_iff.2 hc), ih hblank]

theorem scan?_eq_some_nil_iff {cs : List Char} : scan? cs = some [] ↔ IsBlank cs := by
  constructor
  · intro h c hc
    rw [scan?.eq_def] at h
    split_ifs at h with hempty
    · exact isSpace_iff.1 (List.dropWhile_eq_nil_iff.1 (List.isEmpty_iff.1 hempty) c hc)
    · split at h
      · cases h
      · obtain ⟨ts, -, heq⟩ := Option.map_eq_some_iff.1 h
        cases heq
  · intro h
    have := scan?_blank h []
    rwa [List.append_nil, scan?_nil] at this

theorem scan?_eq_some_cons_iff {cs : List Char} {t : Token} {ts : List Token} :
    scan? cs = some (t :: ts) ↔ ∃ blank after rest, cs = blank ++ after ∧ IsBlank blank ∧
      readToken? after = some (t, rest) ∧ scan? rest = some ts := by
  constructor
  · intro h
    rw [scan?.eq_def] at h
    split at h
    · cases h
    split at h
    · cases h
    · rename_i t' rest hread
      obtain ⟨ts', hscan, heq⟩ := Option.map_eq_some_iff.1 h
      cases heq
      refine ⟨cs.takeWhile isSpace, _, rest, List.takeWhile_append_dropWhile.symm, ?_, hread, hscan⟩
      exact fun c hc => isSpace_iff.1 (List.mem_takeWhile_imp hc)
  · rintro ⟨blank, after, rest, rfl, hblank, hread, hscan⟩
    rw [scan?_blank hblank, scan?_of_readToken? hread, hscan]
    rfl

/-- A token other than a number or a string is read from its text. -/
theorem readToken?_cases {cs rest : List Char} {t : Token} (h : readToken? cs = some (t, rest)) :
    (∃ literal, t = .number literal ∧ readNumber? cs = some (literal, rest)) ∨
    (∃ ps after, t = .string ps ∧ cs = '"' :: after ∧ readPieces? after = some (ps, rest)) ∨
    (∀ literal, t ≠ .number literal) ∧ (∀ ps, t ≠ .string ps) ∧ cs = t.text ++ rest := by
  unfold readToken? at h
  split at h
  case h_10 =>
    obtain ⟨⟨ps, rest⟩, hread, heq⟩ := Option.map_eq_some_iff.1 h
    cases heq
    exact .inr (.inl ⟨ps, _, rfl, rfl, hread⟩)
  case h_11 =>
    obtain ⟨⟨literal, rest⟩, hread, heq⟩ := Option.map_eq_some_iff.1 h
    cases heq
    exact .inl ⟨literal, rfl, hread⟩
  all_goals
    cases h
    exact .inr (.inr ⟨by simp, by simp, rfl⟩)

/-- The tokens around the strings of an object, each of one character. -/
inductive Token.IsMark : Token → Char → Prop
  | openObject : IsMark .openObject '\x7b'
  | closeObject : IsMark .closeObject '\x7d'
  | colon : IsMark .colon ':'
  | comma : IsMark .comma ','

theorem readToken?_mark_iff {t : Token} {mark : Char} (ht : t.IsMark mark) {cs rest : List Char} :
    readToken? cs = some (t, rest) ↔ cs = mark :: rest := by
  have htext : t.text = [mark] := by
    cases ht <;> rfl
  constructor
  · intro h
    rcases readToken?_cases h with ⟨_, rfl, -⟩ | ⟨_, _, rfl, -⟩ | ⟨-, -, hcs⟩
    · cases ht
    · cases ht
    · rwa [htext] at hcs
  · rintro rfl
    cases ht <;> rfl

theorem scan?_mark_iff {cs : List Char} {t : Token} {mark : Char} (ht : t.IsMark mark)
    {ts : List Token} :
    scan? cs = some (t :: ts) ↔
      ∃ blank rest, cs = blank ++ mark :: rest ∧ IsBlank blank ∧ scan? rest = some ts := by
  simp only [scan?_eq_some_cons_iff, readToken?_mark_iff ht]
  constructor
  · rintro ⟨blank, _, rest, rfl, hblank, rfl, hscan⟩
    exact ⟨blank, rest, rfl, hblank, hscan⟩
  · rintro ⟨blank, rest, rfl, hblank, hscan⟩
    exact ⟨blank, _, rest, rfl, hblank, rfl, hscan⟩

theorem readToken?_string_iff {ps : List Piece} {cs rest : List Char} :
    readToken? cs = some (.string ps, rest) ↔
      ∃ body, cs = '"' :: body ++ '"' :: rest ∧ IsSpelled ps body := by
  constructor
  · intro h
    rcases readToken?_cases h with ⟨_, heq, -⟩ | ⟨_, after, heq, rfl, hread⟩ | ⟨-, hne, -⟩
    · cases heq
    · cases heq
      obtain ⟨body, rfl, hbody⟩ := readPieces?_eq_some_iff.1 hread
      exact ⟨body, rfl, hbody⟩
    · exact absurd rfl (hne ps)
  · rintro ⟨body, rfl, hbody⟩
    rw [List.cons_append, readToken?, readPieces?_eq_some_iff.2 ⟨body, rfl, hbody⟩]
    rfl

end Temperament.Json
