import Temperament.Text.Grapheme.Cluster

/-!
# Backspaces

A backspace takes away the grapheme cluster before it, if there is one.  A text without backspaces
stays as it is (`eraseBackspaced_eq_self`).
-/

namespace Temperament.Text

/-- A text while its backspaces are carried out. -/
structure Typed where
  /-- The characters that are kept, the last one first. -/
  kept : List Char := []
  /-- The bytes of the clusters that are kept, each number in one byte. -/
  sizes : List UInt8 := []

namespace Typed

/-- Takes characters away until they make up a number of bytes. -/
def dropBytes : Nat → List Char → List Char
  | _, [] => []
  | 0, cs => cs
  | n, c :: cs => dropBytes (n - c.utf8Size) cs

def byteCount (cluster : List Char) : UInt8 :=
  UInt8.ofNat (String.ofList cluster).utf8ByteSize

/-- Takes one more cluster. -/
def take (t : Typed) (cluster : List Char) : Typed :=
  if cluster = ['\x08'] then
    match t.sizes with
    | [] => t
    | size :: sizes => ⟨dropBytes size.toNat t.kept, sizes⟩
  else ⟨cluster.reverse ++ t.kept, byteCount cluster :: t.sizes⟩

end Typed

/-- Carries out the backspaces of a text. -/
def eraseBackspaced (cs : List Char) : List Char :=
  ((Grapheme.clusters cs).foldl Typed.take {}).kept.reverse

theorem kept_foldl_take {t : Typed} {clusters : List (List Char)}
    (h : ['\x08'] ∉ clusters) :
    (clusters.foldl Typed.take t).kept = clusters.flatten.reverse ++ t.kept := by
  induction clusters generalizing t with
  | nil => rfl
  | cons cluster clusters ih =>
    rw [List.mem_cons, not_or] at h
    simp [ih h.2, Typed.take, Ne.symm h.1]

theorem eraseBackspaced_eq_self {cs : List Char} (h : '\x08' ∉ cs) : eraseBackspaced cs = cs := by
  have hc : ['\x08'] ∉ Grapheme.clusters cs := fun hm =>
    h (Grapheme.flatten_clusters cs ▸ List.mem_flatten.2 ⟨_, hm, List.mem_singleton_self _⟩)
  simp [eraseBackspaced, kept_foldl_take hc, Grapheme.flatten_clusters]

end Temperament.Text
