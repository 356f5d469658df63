import GiveMeMovies.HexDigits
import GiveMeMovies.ListCuts

/-!
# Percent-encoding and query strings

A query string is read by the usual rules: the fragment is dropped, the parts stand between
ampersands, and the name of a part ends at its first equals sign. Names and values are read as the
bytes that they stand for. A program that keeps the delimiters and the escapes of an address, and
keeps or escapes its other characters, does not change what is read.
-/

namespace PercentEncoding

open HexDigits ListCuts

/-- The UTF-8 encoding. -/
def utf8 (s : List Char) : List UInt8 := s.flatMap String.utf8EncodeChar

def escapeByte (byte : UInt8) : List Char :=
  ['%', digit (byte.toNat / 16), digit (byte.toNat % 16)]

def escapeChar (c : Char) : List Char := (String.utf8EncodeChar c).flatMap escapeByte

/-- The byte of two hexadecimal digits. -/
def byteOf (a b : Char) : Option UInt8 :=
  (value a).bind (fun x => (value b).map (fun y => UInt8.ofNat (16 * x + y)))

/-- A percent sign that begins no escape stands for itself. -/
def percentDecode : List Char → List UInt8
  | [] => []
  | '%' :: a :: b :: s =>
      match byteOf a b with
      | some byte => byte :: percentDecode s
      | none => String.utf8EncodeChar '%' ++ percentDecode (a :: b :: s)
  | c :: s => String.utf8EncodeChar c ++ percentDecode s

/-- The text begins with two hexadecimal digits. -/
def startsByte : List Char → Bool
  | a :: b :: _ => isDigit a && isDigit b
  | _ => false

/-- The text has an escape in it. -/
def hasEscape : List Char → Bool
  | [] => false
  | c :: s => (c = '%' && startsByte s) || hasEscape s

def withoutFragment (s : List Char) : List Char := before '#' s

def query (s : List Char) : List Char := after '?' (withoutFragment s)

def queryItem (part : List Char) : List UInt8 × List UInt8 :=
  (percentDecode (before '=' part), percentDecode (after '=' part))

def queryItems (s : List Char) : List (List UInt8 × List UInt8) :=
  ((query s).splitOn '&').map queryItem

/-! ## Decoding -/

theorem byteOf_isSome {a b : Char} : (byteOf a b).isSome = (isDigit a && isDigit b) := by
  unfold byteOf isDigit
  cases value a with
  | none => rfl
  | some x => cases value b <;> rfl

theorem byteOf_digits (byte : UInt8) :
    byteOf (digit (byte.toNat / 16)) (digit (byte.toNat % 16)) = some byte := by
  have hlt : byte.toNat < 256 := byte.toNat_lt
  have hhigh : byte.toNat / 16 < 16 := by omega
  have hlow : byte.toNat % 16 < 16 := by omega
  have hsum : 16 * (byte.toNat / 16) + byte.toNat % 16 = byte.toNat := by omega
  rw [byteOf, value_digit hhigh, value_digit hlow, Option.bind_some, Option.map_some, hsum,
    UInt8.ofNat_toNat]

theorem percentDecode_escape {a b : Char} {byte : UInt8} (h : byteOf a b = some byte)
    (s : List Char) : percentDecode ('%' :: a :: b :: s) = byte :: percentDecode s := by
  rw [percentDecode]
  simp [h]

theorem percentDecode_cons {c : Char} {s : List Char} (h : c = '%' → startsByte s = false) :
    percentDecode (c :: s) = String.utf8EncodeChar c ++ percentDecode s := by
  by_cases hc : c = '%'
  · subst hc
    have hstart := h rfl
    match s with
    | [] => rfl
    | [a] => rfl
    | a :: b :: s =>
        have hnone : byteOf a b = none := by
          rw [← Option.not_isSome_iff_eq_none, byteOf_isSome]
          simpa [startsByte] using hstart
        rw [percentDecode]
        simp [hnone]
  · rw [percentDecode]
    intro a b s' h' _
    exact hc h'

theorem percentDecode_escapeByte (byte : UInt8) (s : List Char) :
    percentDecode (escapeByte byte ++ s) = byte :: percentDecode s :=
  percentDecode_escape (byteOf_digits byte) s

theorem percentDecode_escapeChar (c : Char) (s : List Char) :
    percentDecode (escapeChar c ++ s) = String.utf8EncodeChar c ++ percentDecode s := by
  unfold escapeChar
  induction String.utf8EncodeChar c with
  | nil => rfl
  | cons byte bytes ih =>
      rw [List.flatMap_cons, List.append_assoc, percentDecode_escapeByte, ih]
      rfl

theorem length_utf8_cons (c : Char) (s : List Char) :
    (utf8 (c :: s)).length = c.utf8Size + (utf8 s).length := by
  simp [utf8]

theorem length_utf8_append (s r : List Char) :
    (utf8 (s ++ r)).length = (utf8 s).length + (utf8 r).length := by
  simp [utf8]

theorem length_utf8_pos {s : List Char} (h : s ≠ []) : 0 < (utf8 s).length := by
  obtain ⟨c, r, rfl⟩ := List.exists_cons_of_ne_nil h
  have hsize := c.utf8Size_pos
  rw [length_utf8_cons]
  omega

theorem exists_byte_of_start {s : List Char} (h : startsByte s = true) :
    ∃ a b r byte, s = a :: b :: r ∧ isDigit a = true ∧ isDigit b = true ∧
      byteOf a b = some byte := by
  match s with
  | [] => cases h
  | [a] => cases h
  | a :: b :: r =>
      obtain ⟨ha, hb⟩ : isDigit a = true ∧ isDigit b = true := by simpa [startsByte] using h
      have hsome : (byteOf a b).isSome = true := by
        rw [byteOf_isSome, ha, hb]
        rfl
      obtain ⟨byte, hbyte⟩ := Option.isSome_iff_exists.mp hsome
      exact ⟨a, b, r, byte, rfl, ha, hb, hbyte⟩

theorem hasEscape_cons {c : Char} {s : List Char} (hc : c = '%' → startsByte s = false) :
    hasEscape (c :: s) = hasEscape s := by
  have hstart : (decide (c = '%') && startsByte s) = false := by
    by_cases hpercent : c = '%'
    · rw [hc hpercent, Bool.and_false]
    · rw [decide_eq_false hpercent, Bool.false_and]
  rw [hasEscape, hstart, Bool.false_or]

/-- An escape is read as one byte, so that a text is read as itself only if it has none. -/
theorem percentDecode_length (s : List Char) :
    (hasEscape s = false → percentDecode s = utf8 s) ∧
      (percentDecode s).length ≤ (utf8 s).length ∧
      (hasEscape s = true → (percentDecode s).length < (utf8 s).length) := by
  induction hn : s.length using Nat.strong_induction_on generalizing s with
  | _ n ih =>
      match s with
      | [] => exact ⟨fun _ => rfl, Nat.le_refl _, fun h => by cases h⟩
      | c :: s =>
          by_cases hc : c = '%' → startsByte s = false
          · obtain ⟨heq, hle, hlt⟩ := ih s.length (by simp [← hn]) s rfl
            rw [hasEscape_cons hc, percentDecode_cons hc, List.length_append, length_utf8_cons,
              String.length_utf8EncodeChar]
            refine ⟨fun h => ?_, by omega, fun h => ?_⟩
            · rw [heq h]
              rfl
            · have hlt := hlt h
              omega
          · obtain ⟨rfl, hstart⟩ := Classical.not_imp.mp hc
            obtain ⟨a, b, r, byte, rfl, _, _, hbyte⟩ := exists_byte_of_start (by simpa using hstart)
            obtain ⟨_, hle, _⟩ := ih r.length (by simp [← hn]; omega) r rfl
            have hsize := a.utf8Size_pos
            have hsize' := b.utf8Size_pos
            rw [percentDecode_escape hbyte, List.length_cons, length_utf8_cons, length_utf8_cons,
              length_utf8_cons]
            refine ⟨fun h => ?_, by omega, fun _ => by omega⟩
            simp only [hasEscape, decide_true, Bool.true_and, Bool.or_eq_false_iff] at h
            exact absurd h.1 hstart

theorem percentDecode_eq_utf8_iff {s : List Char} :
    percentDecode s = utf8 s ↔ hasEscape s = false := by
  obtain ⟨heq, _, hlt⟩ := percentDecode_length s
  refine ⟨fun h => ?_, heq⟩
  by_contra hescape
  have hlt := hlt (by simpa using hescape)
  rw [h] at hlt
  exact Nat.lt_irrefl _ hlt

/-- What is read up to a delimiter is the text only if there is no delimiter and no escape. -/
theorem percentDecode_before_iff (d : Char) (s : List Char) :
    percentDecode (before d s) = utf8 s ↔ d ∉ s ∧ hasEscape s = false := by
  by_cases hd : d ∈ s
  · refine ⟨fun h => ?_, fun h => absurd hd h.1⟩
    have hpos := length_utf8_pos (List.cons_ne_nil d (after d s))
    have hle := (percentDecode_length (before d s)).2.1
    have hlength := length_utf8_append (before d s) (d :: after d s)
    rw [cut_of_mem hd, ← h] at hlength
    omega
  · rw [before_whole hd, percentDecode_eq_utf8_iff]
    exact ⟨fun h => ⟨hd, h⟩, fun h => h.2⟩

/-! ## Keeping an address -/

/-- The delimiters of a query string. -/
def isDelimiter (c : Char) : Bool := c = '?' || c = '&' || c = '='

/-- The second text has the delimiters and the escapes of the first one, and has each other
character as it is or escaped. -/
inductive Keeps : List Char → List Char → Prop
  | nil : Keeps [] []
  | escape {a b : Char} {s t : List Char} (ha : isDigit a = true) (hb : isDigit b = true)
      (h : Keeps s t) : Keeps ('%' :: a :: b :: s) ('%' :: a :: b :: t)
  | same {c : Char} {s t : List Char} (hc : c = '%' → startsByte s = false) (h : Keeps s t) :
      Keeps (c :: s) (c :: t)
  | escaped {c : Char} {s t : List Char} (hd : isDelimiter c = false)
      (hc : c = '%' → startsByte s = false) (h : Keeps s t) : Keeps (c :: s) (escapeChar c ++ t)

variable {s t : List Char} {d : Char}

theorem isDigit_percent : isDigit '%' = false := by decide

theorem ne_of_isDigit (hd : isDelimiter d = true) {c : Char} (hc : isDigit c = true) : d ≠ c := by
  have hall : ∀ c ∈ "0123456789ABCDEFabcdef".toList, isDelimiter c = false :=
    List.all_iff_forall_prop.mp (by decide)
  rintro rfl
  rw [forall_isDigit hall hc] at hd
  cases hd

theorem ne_percent (hd : isDelimiter d = true) : d ≠ '%' := by
  rintro rfl
  cases hd

theorem not_mem_escapeChar (hd : isDelimiter d = true) (c : Char) : d ∉ escapeChar c := by
  intro hmem
  obtain ⟨byte, _, hbyte⟩ := List.mem_flatMap.mp hmem
  have hlt : byte.toNat < 256 := byte.toNat_lt
  have hhigh : isDigit (digit (byte.toNat / 16)) = true := isDigit_digit (by omega)
  have hlow : isDigit (digit (byte.toNat % 16)) = true := isDigit_digit (by omega)
  simp only [escapeByte, List.mem_cons, List.not_mem_nil, or_false] at hbyte
  rcases hbyte with h | h | h
  · exact ne_percent hd h
  · exact ne_of_isDigit hd hhigh h
  · exact ne_of_isDigit hd hlow h

theorem startsByte_left {r : List Char} (h : startsByte (s ++ r) = false) :
    startsByte s = false := by
  match s with
  | [] => rfl
  | [a] => rfl
  | a :: b :: s => exact h

theorem escapeChar_eq_cons (c : Char) : ∃ r, escapeChar c = '%' :: r := by
  have hlength : 0 < (String.utf8EncodeChar c).length := by
    rw [String.length_utf8EncodeChar]
    exact c.utf8Size_pos
  obtain ⟨byte, bytes, hbytes⟩ := List.exists_cons_of_length_pos hlength
  exact ⟨_, by rw [escapeChar, hbytes]; rfl⟩

theorem Keeps.of_digit {a : Char} (ha : isDigit a = true) (h : Keeps s (a :: t)) :
    ∃ r, s = a :: r ∧ Keeps r t := by
  generalize hu : a :: t = u at h
  cases h with
  | nil => cases hu
  | escape =>
      cases hu
      rw [isDigit_percent] at ha
      cases ha
  | same _ h =>
      cases hu
      exact ⟨_, rfl, h⟩
  | @escaped c s t hd hc h =>
      obtain ⟨r, hr⟩ := escapeChar_eq_cons c
      rw [hr] at hu
      cases hu
      rw [isDigit_percent] at ha
      cases ha

theorem Keeps.startsByte (h : Keeps s t) (ht : startsByte t = true) : startsByte s = true := by
  match t with
  | [] => cases ht
  | [a] => cases ht
  | a :: b :: t =>
      have hab : isDigit a = true ∧ isDigit b = true := by
        simpa [PercentEncoding.startsByte] using ht
      obtain ⟨r, rfl, hr⟩ := h.of_digit hab.1
      obtain ⟨r, rfl, _⟩ := hr.of_digit hab.2
      exact ht

theorem Keeps.percentDecode (h : Keeps s t) : percentDecode t = percentDecode s := by
  induction h with
  | nil => rfl
  | @escape a b s t ha hb h ih =>
      have hsome : (byteOf a b).isSome = true := by rw [byteOf_isSome, ha, hb]; rfl
      obtain ⟨byte, hbyte⟩ := Option.isSome_iff_exists.mp hsome
      rw [percentDecode_escape hbyte, percentDecode_escape hbyte, ih]
  | @same c s t hc h ih =>
      have ht : c = '%' → PercentEncoding.startsByte t = false := by
        intro hpercent
        by_contra hstart
        have hs := h.startsByte (by simpa using hstart)
        rw [hc hpercent] at hs
        cases hs
      rw [percentDecode_cons ht, percentDecode_cons hc, ih]
  | @escaped c s t hd hc h ih =>
      rw [percentDecode_escapeChar, percentDecode_cons hc, ih]

/-- Where the first text has its first delimiter, the second one has it too. -/
theorem Keeps.cut (hd : isDelimiter d = true) (h : Keeps s t) :
    (d ∉ s ∧ d ∉ t) ∨ ∃ s₁ s₂ t₁ t₂, s = s₁ ++ d :: s₂ ∧ t = t₁ ++ d :: t₂ ∧ d ∉ s₁ ∧ d ∉ t₁ ∧
      Keeps s₁ t₁ ∧ Keeps s₂ t₂ := by
  have hpercent := ne_percent hd
  induction h with
  | nil => exact .inl ⟨List.not_mem_nil, List.not_mem_nil⟩
  | @escape a b s t ha hb h ih =>
      have hda := ne_of_isDigit hd ha
      have hdb := ne_of_isDigit hd hb
      rcases ih with ⟨hs, ht⟩ | ⟨s₁, s₂, t₁, t₂, rfl, rfl, hs, ht, h₁, h₂⟩
      · exact .inl (by simp [hpercent, hda, hdb, hs, ht])
      · refine .inr ⟨_, s₂, _, t₂, rfl, rfl, ?_, ?_, .escape ha hb h₁, h₂⟩
        · simp [hpercent, hda, hdb, hs]
        · simp [hpercent, hda, hdb, ht]
  | @same c s t hc h ih =>
      by_cases hcd : d = c
      · subst hcd
        exact .inr ⟨[], s, [], t, rfl, rfl, List.not_mem_nil, List.not_mem_nil, .nil, h⟩
      · rcases ih with ⟨hs, ht⟩ | ⟨s₁, s₂, t₁, t₂, rfl, rfl, hs, ht, h₁, h₂⟩
        · exact .inl (by simp [hcd, hs, ht])
        · have hstart : c = '%' → PercentEncoding.startsByte s₁ = false :=
            fun hcp => startsByte_left (hc hcp)
          refine .inr ⟨_, s₂, _, t₂, rfl, rfl, ?_, ?_, .same hstart h₁, h₂⟩
          · simp [hcd, hs]
          · simp [hcd, ht]
  | @escaped c s t hcd hc h ih =>
      have hne : d ≠ c := by
        rintro rfl
        rw [hd] at hcd
        cases hcd
      have hescape := not_mem_escapeChar hd c
      rcases ih with ⟨hs, ht⟩ | ⟨s₁, s₂, t₁, t₂, rfl, rfl, hs, ht, h₁, h₂⟩
      · exact .inl (by simp [hne, hescape, hs, ht])
      · have hstart : c = '%' → PercentEncoding.startsByte s₁ = false :=
          fun hcp => startsByte_left (hc hcp)
        refine .inr ⟨c :: s₁, s₂, escapeChar c ++ t₁, t₂, rfl, ?_, ?_, ?_,
          .escaped hcd hstart h₁, h₂⟩
        · simp
        · simp [hne, hs]
        · simp [hescape, ht]

/-! ## Reading a query -/

theorem Keeps.queryItem (h : Keeps s t) : queryItem t = queryItem s := by
  have hd : isDelimiter '=' = true := rfl
  unfold PercentEncoding.queryItem
  rcases h.cut hd with ⟨hs, ht⟩ | ⟨s₁, s₂, t₁, t₂, rfl, rfl, hs, ht, h₁, h₂⟩
  · rw [before_whole hs, after_whole hs, before_whole ht, after_whole ht, h.percentDecode]
  · rw [before_cut hs, after_cut hs, before_cut ht, after_cut ht, h₁.percentDecode,
      h₂.percentDecode]

theorem Keeps.query (h : Keeps (withoutFragment s) (withoutFragment t)) :
    Keeps (query s) (query t) := by
  have hd : isDelimiter '?' = true := rfl
  unfold PercentEncoding.query
  rcases h.cut hd with ⟨hs, ht⟩ | ⟨s₁, s₂, t₁, t₂, hseq, hteq, hs, ht, h₁, h₂⟩
  · rw [after_whole hs, after_whole ht]
    exact .nil
  · rw [hseq, hteq, after_cut hs, after_cut ht]
    exact h₂

theorem Keeps.splitOn (h : Keeps s t) :
    (t.splitOn '&').map PercentEncoding.queryItem =
      (s.splitOn '&').map PercentEncoding.queryItem := by
  have hd : isDelimiter '&' = true := rfl
  induction hn : s.length using Nat.strong_induction_on generalizing s t with
  | _ n ih =>
      rcases h.cut hd with ⟨hs, ht⟩ | ⟨s₁, s₂, t₁, t₂, rfl, rfl, hs, ht, h₁, h₂⟩
      · rw [List.splitOn_eq_singleton hs, List.splitOn_eq_singleton ht, List.map_singleton,
          List.map_singleton, h.queryItem]
      · have hlt : s₂.length < n := by
          rw [← hn, List.length_append, List.length_cons]
          omega
        rw [List.splitOn_append_cons_self_of_not_mem hs,
          List.splitOn_append_cons_self_of_not_mem ht, List.map_cons, List.map_cons,
          h₁.queryItem, ih _ hlt h₂ rfl]

/-- What is read from a query does not change. -/
theorem Keeps.queryItems (h : Keeps (withoutFragment s) (withoutFragment t)) :
    queryItems t = queryItems s := h.query.splitOn

/-- A text in which some characters are escaped, none of them a delimiter. -/
theorem keeps_flatMap {f : Char → List Char}
    (hf : ∀ c, f c = [c] ∨ isDelimiter c = false ∧ f c = escapeChar c) (hpercent : f '%' = ['%'])
    (hdigit : ∀ c, isDigit c = true → f c = [c]) : ∀ s : List Char, Keeps s (s.flatMap f)
  | [] => .nil
  | c :: s => by
      by_cases hc : c = '%' → PercentEncoding.startsByte s = false
      · rw [List.flatMap_cons]
        rcases hf c with hsame | ⟨hd, hescape⟩
        · rw [hsame]
          exact .same hc (keeps_flatMap hf hpercent hdigit s)
        · rw [hescape]
          exact .escaped hd hc (keeps_flatMap hf hpercent hdigit s)
      · obtain ⟨rfl, hstart⟩ := Classical.not_imp.mp hc
        obtain ⟨a, b, r, _, rfl, ha, hb, _⟩ := exists_byte_of_start (by simpa using hstart)
        rw [List.flatMap_cons, List.flatMap_cons, List.flatMap_cons, hpercent, hdigit a ha,
          hdigit b hb]
        exact .escape ha hb (keeps_flatMap hf hpercent hdigit r)

theorem keeps_refl (s : List Char) : Keeps s s := by
  have h := keeps_flatMap (f := fun c => [c]) (fun _ => .inl rfl) rfl (fun _ _ => rfl) s
  rwa [List.flatMap_singleton'] at h

end PercentEncoding
