import Mathlib.Data.List.DropRight

/-!
# White space

The characters with the Unicode property White_Space, the line breaks among them, and texts without
the white space around them.
-/

namespace WhiteSpace

def isWhiteSpace (c : Char) : Bool :=
  (9 ≤ c.toNat && c.toNat ≤ 13) || c.toNat = 0x20 || c.toNat = 0x85 || c.toNat = 0xA0 ||
    c.toNat = 0x1680 || (0x2000 ≤ c.toNat && c.toNat ≤ 0x200A) || c.toNat = 0x2028 ||
    c.toNat = 0x2029 || c.toNat = 0x202F || c.toNat = 0x205F || c.toNat = 0x3000

def trimmed (s : List Char) : List Char := (s.dropWhile isWhiteSpace).rdropWhile isWhiteSpace

variable {s front back : List Char}

theorem dropWhile_front (hfront : ∀ c ∈ front, isWhiteSpace c = true)
    (hs : ∀ c ∈ s, isWhiteSpace c = false) (hne : s ≠ []) :
    (front ++ (s ++ back)).dropWhile isWhiteSpace = s ++ back := by
  obtain ⟨c, r, rfl⟩ := List.exists_cons_of_ne_nil hne
  have hc := hs c List.mem_cons_self
  rw [List.dropWhile_append_of_pos hfront, List.cons_append,
    List.dropWhile_cons_of_neg (by simp [hc])]

/-- A text without white space is what is left when the white space around it is trimmed. -/
theorem trimmed_eq (hfront : ∀ c ∈ front, isWhiteSpace c = true)
    (hback : ∀ c ∈ back, isWhiteSpace c = true) (hs : ∀ c ∈ s, isWhiteSpace c = false)
    (hne : s ≠ []) : trimmed (front ++ (s ++ back)) = s := by
  have hreverse : (back.reverse ++ (s.reverse ++ [])).dropWhile isWhiteSpace = s.reverse ++ [] := by
    apply dropWhile_front
    · simpa using hback
    · simpa using hs
    · simpa using hne
  rw [List.append_nil] at hreverse
  rw [trimmed, dropWhile_front hfront hs hne, List.rdropWhile, List.reverse_append, hreverse,
    List.reverse_reverse]

end WhiteSpace
