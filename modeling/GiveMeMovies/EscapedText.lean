import GiveMeMovies.PercentEncoding

/-!
# Escaped texts

A text is escaped for a set of allowed characters, and is read back as it was. Escaped names without
a slash make a path that is cut at its slashes into these names.
-/

namespace PercentEncoding

open HexDigits ListCuts

variable {allowed : Char → Bool} {s : List Char}

/-- The text with these UTF-8 bytes, if there is one. -/
def readText (bytes : List UInt8) : Option (List Char) :=
  bytes.toByteArray.utf8Decode?.map Array.toList

def unescape (s : List Char) : Option (List Char) := readText (percentDecode s)

/-- The allowed characters stay, and all others are escaped. -/
def percentEncode (allowed : Char → Bool) (s : List Char) : List Char :=
  s.flatMap (fun c => if allowed c then [c] else escapeChar c)

/-- Every character is allowed or belongs to an escape. -/
def isEscaped (allowed : Char → Bool) : List Char → Bool
  | '%' :: a :: b :: s => isDigit a && isDigit b && isEscaped allowed s
  | c :: s => allowed c && isEscaped allowed s
  | [] => true

def slashPath (names : List (List Char)) : List Char := names.flatMap (fun name => '/' :: name)

/-! ## Reading -/

theorem readText_utf8 (s : List Char) : readText (utf8 s) = some s := by
  have hbytes : (utf8 s).toByteArray = s.utf8Encode := rfl
  rw [readText, hbytes, List.utf8Decode?_utf8Encode, Option.map_some]

theorem percentDecode_percentEncode (h : allowed '%' = false) (s : List Char) :
    percentDecode (percentEncode allowed s) = utf8 s := by
  induction s with
  | nil => rfl
  | cons c s ih =>
      rw [percentEncode, List.flatMap_cons]
      by_cases hc : allowed c = true
      · have hplain : c = '%' → startsByte (percentEncode allowed s) = false := by
          rintro rfl
          rw [h] at hc
          cases hc
        have hread := percentDecode_cons hplain
        rw [ih] at hread
        rw [if_pos hc]
        exact hread
      · have hread := percentDecode_escapeChar c (percentEncode allowed s)
        rw [ih] at hread
        rw [if_neg hc]
        exact hread

theorem unescape_percentEncode (h : allowed '%' = false) (s : List Char) :
    unescape (percentEncode allowed s) = some s := by
  rw [unescape, percentDecode_percentEncode h, readText_utf8]

theorem queryItem_percentEncode (h : allowed '%' = false) {name : List Char} (hname : '=' ∉ name)
    (value : List Char) :
    queryItem (name ++ '=' :: percentEncode allowed value) = (percentDecode name, utf8 value) := by
  rw [queryItem, before_cut hname, after_cut hname, percentDecode_percentEncode h]

theorem query_cut {front r : List Char} (hquestion : '?' ∉ front)
    (hhash : '#' ∉ front ∧ '#' ∉ r) : query (front ++ '?' :: r) = r := by
  have hwhole : '#' ∉ front ++ '?' :: r := by simp [hhash]
  rw [query, withoutFragment, before_whole hwhole, after_cut hquestion]

/-! ## Characters -/

theorem isEscaped_cons {c : Char} (hc : allowed c = true) (hs : isEscaped allowed s = true)
    (h : allowed '%' = false) : isEscaped allowed (c :: s) = true := by
  have hne : c ≠ '%' := by
    rintro rfl
    rw [h] at hc
    cases hc
  rw [isEscaped, hc, hs]
  · rfl
  · rintro a b r rfl
    exact absurd rfl hne

theorem isEscaped_escapeByte (byte : UInt8) (hs : isEscaped allowed s = true) :
    isEscaped allowed (escapeByte byte ++ s) = true := by
  have hlt : byte.toNat < 256 := byte.toNat_lt
  have hhigh : isDigit (digit (byte.toNat / 16)) = true := isDigit_digit (by omega)
  have hlow : isDigit (digit (byte.toNat % 16)) = true := isDigit_digit (by omega)
  simp [escapeByte, isEscaped, hhigh, hlow, hs]

theorem isEscaped_escapeChar (c : Char) (hs : isEscaped allowed s = true) :
    isEscaped allowed (escapeChar c ++ s) = true := by
  unfold escapeChar
  induction String.utf8EncodeChar c with
  | nil => exact hs
  | cons byte bytes ih =>
      rw [List.flatMap_cons, List.append_assoc]
      exact isEscaped_escapeByte byte ih

theorem isEscaped_percentEncode (h : allowed '%' = false) (s : List Char) :
    isEscaped allowed (percentEncode allowed s) = true := by
  induction s with
  | nil => rfl
  | cons c s ih =>
      rw [percentEncode, List.flatMap_cons]
      by_cases hc : allowed c = true
      · rw [if_pos hc]
        exact isEscaped_cons hc ih h
      · rw [if_neg hc]
        exact isEscaped_escapeChar c ih

theorem isEscaped_append {allowed' : Char → Bool} (h : ∀ c, allowed c = true → allowed' c = true)
    {t : List Char} (ht : isEscaped allowed' t = true) (hs : isEscaped allowed s = true)
    (hpercent : allowed' '%' = false) : isEscaped allowed' (s ++ t) = true := by
  induction s using isEscaped.induct with
  | case1 a b s ih =>
      simp only [isEscaped, Bool.and_eq_true] at hs
      obtain ⟨⟨ha, hb⟩, hrest⟩ := hs
      simp [isEscaped, ha, hb, ih hrest]
  | case2 c s hc ih =>
      rw [isEscaped] at hs
      · obtain ⟨hallowed, hrest⟩ := Bool.and_eq_true_iff.mp hs
        exact isEscaped_cons (h c hallowed) (ih hrest) hpercent
      · exact hc
  | case3 => exact ht

theorem mem_isEscaped {d : Char} (hs : isEscaped allowed s = true) (hd : d ∈ s) :
    allowed d = true ∨ d = '%' ∨ isDigit d = true := by
  induction s using isEscaped.induct with
  | case1 a b s ih =>
      simp only [isEscaped, Bool.and_eq_true] at hs
      obtain ⟨⟨ha, hb⟩, hrest⟩ := hs
      simp only [List.mem_cons] at hd
      rcases hd with rfl | rfl | rfl | hd
      · exact .inr (.inl rfl)
      · exact .inr (.inr ha)
      · exact .inr (.inr hb)
      · exact ih hrest hd
  | case2 c s hc ih =>
      rw [isEscaped] at hs
      · obtain ⟨hallowed, hrest⟩ := Bool.and_eq_true_iff.mp hs
        rcases List.mem_cons.mp hd with rfl | hd
        · exact .inl hallowed
        · exact ih hrest hd
      · exact hc
  | case3 => cases hd

theorem not_mem_of_isEscaped {d : Char} (hs : isEscaped allowed s = true)
    (h : allowed d = false ∧ d ≠ '%' ∧ isDigit d = false) : d ∉ s := by
  obtain ⟨hallowed, hpercent, hdigit⟩ := h
  intro hd
  rcases mem_isEscaped hs hd with h | h | h
  · rw [hallowed] at h
    cases h
  · exact hpercent h
  · rw [hdigit] at h
    cases h

theorem percentEncode_allowed (h : ∀ c ∈ s, allowed c = true) : percentEncode allowed s = s := by
  induction s with
  | nil => rfl
  | cons c s ih =>
      obtain ⟨hc, hs⟩ := List.forall_mem_cons.mp h
      have hrest := ih hs
      rw [percentEncode] at hrest
      rw [percentEncode, List.flatMap_cons, if_pos hc, hrest, List.singleton_append]

theorem percentEncode_ne_nil (h : s ≠ []) : percentEncode allowed s ≠ [] := by
  obtain ⟨c, r, rfl⟩ := List.exists_cons_of_ne_nil h
  rw [percentEncode, List.flatMap_cons]
  split
  · exact List.cons_ne_nil _ _
  · obtain ⟨e, he⟩ := escapeChar_eq_cons c
    rw [he]
    exact List.cons_ne_nil _ _

/-! ## Paths -/

theorem splitOn_append_slashPath {names : List (List Char)} (h : ∀ name ∈ names, '/' ∉ name)
    (front : List Char) :
    (front ++ slashPath names).splitOn '/' = front.splitOn '/' ++ names := by
  induction names generalizing front with
  | nil => simp [slashPath]
  | cons name names ih =>
      obtain ⟨hname, hnames⟩ := List.forall_mem_cons.mp h
      have hpath : slashPath (name :: names) = '/' :: (name ++ slashPath names) := rfl
      rw [hpath, List.splitOn_append_cons_self, ih hnames, List.splitOn_eq_singleton hname]
      rfl

theorem splitOn_slashPath {names : List (List Char)} (h : ∀ name ∈ names, '/' ∉ name) :
    (slashPath names).splitOn '/' = [] :: names := by
  have hsplit := splitOn_append_slashPath h []
  rwa [List.nil_append, List.splitOn_nil] at hsplit

end PercentEncoding
