import GiveMeMovies.ListCuts

/-!
# The strings of Swift

A string is a list of Unicode scalars. Swift goes through it by its characters, which are the
grapheme clusters, and compares strings up to canonical equivalence. Both are taken from the
standard library, with what the segmentation rules say about ASCII. Where a symbol is never joined
with another scalar in one character, the string can be cut at it by scalars as well.
-/

namespace GiveMeMovies

structure SwiftString where
  characters : List Char → List (List Char)
  equal : List Char → List Char → Bool
  flatten_characters : ∀ string, (characters string).flatten = string
  nil_not_mem : ∀ string, [] ∉ characters string
  /-- There is a boundary between any two scalars of ASCII, except within a line break. -/
  boundary : ∀ (c c' : Char) (string : List Char), c.toNat < 128 → c ≠ '\r' → c'.toNat < 128 →
    characters (c :: c' :: string) = [c] :: characters (c' :: string)
  equal_refl : ∀ string, equal string string = true
  /-- No scalar decomposes to one of ASCII, but for those of a semicolon, a K and a grave accent. -/
  eq_of_equal : ∀ string other : List Char,
    (∀ c ∈ other, c.toNat < 128 ∧ c.toNat ∉ [59, 75, 96]) → equal string other = true →
      string = other

namespace SwiftString

/-- Every scalar is a character of its own, as in a text of ASCII without line breaks. -/
def scalars : SwiftString where
  characters string := string.map fun c => [c]
  equal string other := string = other
  flatten_characters string := by
    induction string with
    | nil => rfl
    | cons c string ih => simpa using ih
  nil_not_mem string := by simp
  boundary _ _ _ _ _ _ := rfl
  equal_refl string := by simp
  eq_of_equal string other _ h := by simpa using h

variable (swift : SwiftString)

def hasPrefix (string front : List Char) : Prop :=
  swift.characters front <+: swift.characters string

instance decidableHasPrefix (string front : List Char) : Decidable (swift.hasPrefix string front) :=
  inferInstanceAs (Decidable (swift.characters front <+: swift.characters string))

/-- No character of the string joins `d` with another scalar. -/
def StandsAlone (d : Char) (string : List Char) : Prop :=
  ListCuts.Alone d (swift.characters string)

variable {swift} {front string : List Char} {c d : Char}

theorem standsAlone_scalars (d : Char) (string : List Char) : scalars.StandsAlone d string := by
  intro character hmem hd
  obtain ⟨c, _, rfl⟩ := List.mem_map.mp hmem
  rw [List.mem_singleton.mp hd]

theorem characters_eq_nil_iff : swift.characters string = [] ↔ string = [] := by
  rw [← ListCuts.flatten_eq_nil_iff (swift.nil_not_mem string), swift.flatten_characters]

/-- ASCII in front of a scalar of ASCII is read scalar by scalar. -/
theorem characters_append (hfront : ∀ c ∈ front, c.toNat < 128 ∧ c ≠ '\r') (hd : d.toNat < 128) :
    swift.characters (front ++ d :: string) =
      front.map (fun c => [c]) ++ swift.characters (d :: string) := by
  induction front with
  | nil => rfl
  | cons c front ih =>
      obtain ⟨⟨hc, hbreak⟩, hrest⟩ := List.forall_mem_cons.mp hfront
      have hstep : swift.characters (c :: (front ++ d :: string)) =
          [c] :: swift.characters (front ++ d :: string) := by
        cases front with
        | nil => exact swift.boundary c d string hc hbreak hd
        | cons c' front =>
            exact swift.boundary c c' _ hc hbreak (List.forall_mem_cons.mp hrest).1.1
      rw [List.cons_append, hstep, ih hrest]
      rfl

theorem characters_singleton (d : Char) : swift.characters [d] = [[d]] := by
  have hflat := swift.flatten_characters [d]
  have hnil := swift.nil_not_mem [d]
  cases h : swift.characters [d] with
  | nil =>
      rw [h] at hflat
      cases hflat
  | cons first rest =>
      rw [h] at hflat hnil
      cases first with
      | nil => exact absurd List.mem_cons_self hnil
      | cons c first =>
          obtain ⟨rfl, hrest⟩ := List.cons.inj hflat
          obtain ⟨rfl, hrest⟩ := List.append_eq_nil_iff.mp hrest
          cases rest with
          | nil => rfl
          | cons second rest =>
              have hsecond := List.flatten_eq_nil_iff.mp hrest second List.mem_cons_self
              rw [hsecond] at hnil
              simp at hnil

theorem characters_ascii (hfront : ∀ c ∈ front, c.toNat < 128 ∧ c ≠ '\r') :
    swift.characters front = front.map fun c => [c] := by
  rcases List.eq_nil_or_concat' front with rfl | ⟨first, last, rfl⟩
  · exact characters_eq_nil_iff.mpr rfl
  · rw [characters_append (fun c hc => hfront c (List.mem_append_left _ hc))
      (hfront last (List.mem_append_right _ List.mem_cons_self)).1, characters_singleton]
    simp

theorem hasPrefix_append (hfront : ∀ c ∈ front, c.toNat < 128 ∧ c ≠ '\r') (hd : d.toNat < 128) :
    swift.hasPrefix (front ++ d :: string) front := by
  rw [hasPrefix, characters_append hfront hd, characters_ascii hfront]
  exact List.prefix_append _ _

theorem prefix_of_hasPrefix (h : swift.hasPrefix string front) : front <+: string := by
  obtain ⟨rest, hrest⟩ := h
  refine ⟨rest.flatten, ?_⟩
  have hflat := congrArg List.flatten hrest
  rwa [List.flatten_append, swift.flatten_characters, swift.flatten_characters] at hflat

/-- A string that is ASCII up to `d`, which stands alone in it, goes on after `d` with a
character. -/
theorem StandsAlone.characters_append_cons (h : swift.StandsAlone d (front ++ d :: string))
    (hfront : ∀ c ∈ front, c.toNat < 128 ∧ c ≠ '\r') (hd : d.toNat < 128) :
    ∃ rest, swift.characters (front ++ d :: string) = (front ++ [d]).map (fun c => [c]) ++ rest ∧
      rest.flatten = string ∧ ListCuts.Alone d rest ∧ [] ∉ rest := by
  have hflat := swift.flatten_characters (d :: string)
  have hnil := swift.nil_not_mem (d :: string)
  unfold StandsAlone at h
  rw [characters_append hfront hd] at h ⊢
  cases hrest : swift.characters (d :: string) with
  | nil => cases characters_eq_nil_iff.mp hrest
  | cons first rest =>
      rw [hrest] at hflat hnil h
      have halone : ∀ block ∈ first :: rest, d ∈ block → block = [d] :=
        fun block hblock => h block (List.mem_append_right _ hblock)
      have hmem : d ∈ first := by
        cases first with
        | nil => exact absurd List.mem_cons_self hnil
        | cons c first =>
            obtain ⟨rfl, _⟩ := List.cons.inj hflat
            exact List.mem_cons_self
      have hfirst := halone first List.mem_cons_self hmem
      subst hfirst
      refine ⟨rest, ?_, ?_, fun block hblock => halone block (List.mem_cons_of_mem _ hblock), ?_⟩
      · simp
      · exact (List.cons.inj hflat).2
      · exact fun hmem => hnil (List.mem_cons_of_mem _ hmem)

end SwiftString

end GiveMeMovies
