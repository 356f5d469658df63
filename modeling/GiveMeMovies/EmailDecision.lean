import Mathlib.Data.Bool.AllAny
import GiveMeMovies.EmailValidity
import GiveMeMovies.ListCuts
import GiveMeMovies.WhiteSpace

/-!
# Deciding the pattern of an email address

The pattern can match the part after the at sign in many ways. The decision cuts it at its last dot,
since what follows the dot of the pattern has letters only.
-/

namespace RegularExpression

variable {α : Type*}

theorem mem_oneOf {symbols : List α} {w : List α} :
    w ∈ (oneOf symbols).matches' ↔ ∃ c ∈ symbols, w = [c] := by
  induction symbols with
  | nil =>
      constructor
      · intro h
        cases h
      · rintro ⟨c, hc, _⟩
        cases hc
  | cons symbol symbols ih =>
      have hcons : w ∈ (oneOf (symbol :: symbols)).matches' ↔
          w = [symbol] ∨ w ∈ (oneOf symbols).matches' := Iff.rfl
      rw [hcons, ih]
      simp

theorem mem_star_oneOf {symbols : List α} {w : List α} :
    w ∈ (star (oneOf symbols)).matches' ↔ ∀ c ∈ w, c ∈ symbols := by
  rw [matches'_star, Language.mem_kstar]
  constructor
  · rintro ⟨words, rfl, hwords⟩ c hc
    obtain ⟨word, hword, hmem⟩ := List.mem_flatten.mp hc
    obtain ⟨symbol, hsymbol, rfl⟩ := mem_oneOf.mp (hwords word hword)
    rwa [List.mem_singleton.mp hmem]
  · intro h
    refine ⟨w.map (fun c => [c]), (List.flatMap_singleton' w).symm, ?_⟩
    intro word hword
    obtain ⟨c, hc, rfl⟩ := List.mem_map.mp hword
    exact mem_oneOf.mpr ⟨c, h c hc, rfl⟩

theorem mem_mul {r s : RegularExpression α} {w : List α} :
    w ∈ (r * s).matches' ↔ ∃ x ∈ r.matches', ∃ y ∈ s.matches', x ++ y = w := Language.mem_mul

theorem mem_oneOrMore {symbols : List α} {w : List α} :
    w ∈ (oneOrMore (oneOf symbols)).matches' ↔ w ≠ [] ∧ ∀ c ∈ w, c ∈ symbols := by
  rw [oneOrMore, mem_mul]
  constructor
  · rintro ⟨_, hfirst, rest, hrest, rfl⟩
    obtain ⟨c, hc, rfl⟩ := mem_oneOf.mp hfirst
    refine ⟨List.cons_ne_nil c rest, ?_⟩
    intro d hd
    rcases List.mem_cons.mp hd with rfl | hd
    · exact hc
    · exact mem_star_oneOf.mp hrest d hd
  · rintro ⟨hne, hall⟩
    obtain ⟨c, rest, rfl⟩ := List.exists_cons_of_ne_nil hne
    refine ⟨[c], mem_oneOf.mpr ⟨c, hall c List.mem_cons_self, rfl⟩, rest, ?_, rfl⟩
    exact mem_star_oneOf.mpr fun d hd => hall d (List.mem_cons_of_mem c hd)

theorem mem_atMost {symbols : List α} {w : List α} {n : ℕ} :
    w ∈ (atMost (oneOf symbols) n).matches' ↔ w.length ≤ n ∧ ∀ c ∈ w, c ∈ symbols := by
  induction n generalizing w with
  | zero =>
      have hnil : w ∈ (atMost (oneOf symbols) 0).matches' ↔ w = [] := Iff.rfl
      rw [hnil]
      constructor
      · rintro rfl
        simp
      · intro h
        exact List.length_eq_zero_iff.mp (Nat.le_zero.mp h.1)
  | succ n ih =>
      have hsucc : w ∈ (atMost (oneOf symbols) (n + 1)).matches' ↔
          w = [] ∨ w ∈ (oneOf symbols * atMost (oneOf symbols) n).matches' := Iff.rfl
      rw [hsucc, mem_mul]
      constructor
      · rintro (rfl | ⟨_, hfirst, rest, hrest, rfl⟩)
        · simp
        · obtain ⟨c, hc, rfl⟩ := mem_oneOf.mp hfirst
          obtain ⟨hlength, hall⟩ := ih.mp hrest
          simp only [List.singleton_append, List.length_cons, List.forall_mem_cons]
          exact ⟨by omega, hc, hall⟩
      · rintro ⟨hlength, hall⟩
        cases w with
        | nil => exact .inl rfl
        | cons c rest =>
            rw [List.length_cons] at hlength
            obtain ⟨hc, hrest⟩ := List.forall_mem_cons.mp hall
            exact .inr ⟨[c], mem_oneOf.mpr ⟨c, hc, rfl⟩, rest, ih.mpr ⟨by omega, hrest⟩, rfl⟩

theorem mem_between {symbols : List α} {w : List α} {m n : ℕ} (hmn : m ≤ n) :
    w ∈ (between (oneOf symbols) m n).matches' ↔
      m ≤ w.length ∧ w.length ≤ n ∧ ∀ c ∈ w, c ∈ symbols := by
  obtain ⟨k, rfl⟩ := Nat.exists_eq_add_of_le hmn
  rw [between, Nat.add_sub_cancel_left]
  clear hmn
  induction m generalizing w with
  | zero =>
      change w ∈ (atMost (oneOf symbols) k).matches' ↔ _
      rw [mem_atMost]
      simp
  | succ m ih =>
      rw [List.replicate_succ, List.foldr_cons, mem_mul]
      constructor
      · rintro ⟨_, hfirst, rest, hrest, rfl⟩
        obtain ⟨c, hc, rfl⟩ := mem_oneOf.mp hfirst
        obtain ⟨hlow, hhigh, hall⟩ := ih.mp hrest
        simp only [List.singleton_append, List.length_cons, List.forall_mem_cons]
        exact ⟨by omega, by omega, hc, hall⟩
      · rintro ⟨hlow, hhigh, hall⟩
        cases w with
        | nil => cases hlow
        | cons c rest =>
            rw [List.length_cons] at hlow hhigh
            obtain ⟨hc, hrest⟩ := List.forall_mem_cons.mp hall
            refine ⟨[c], mem_oneOf.mpr ⟨c, hc, rfl⟩, rest, ?_, rfl⟩
            exact ih.mpr ⟨by omega, by omega, hrest⟩

end RegularExpression

namespace GiveMeMovies.EmailDecision

open RegularExpression ListCuts WhiteSpace

/-! ## Characters -/

def isLocalChar (c : Char) : Bool := c.isAlphanum || c ∈ ['.', '_', '%', '+', '-']

def isDomainChar (c : Char) : Bool := c.isAlphanum || c ∈ ['.', '-']

/-- A list that holds the characters of a class, and all from `m` to `n`, where these are the bounds
of the class. -/
theorem mem_iff_of_range {letters : List Char} {isLetter : Char → Bool} {m n : ℕ} {c : Char}
    (hletters : letters.all isLetter = true)
    (hrange : ∀ k ∈ List.range' m (n + 1 - m), Char.ofNat k ∈ letters)
    (hbounds : isLetter c = true → m ≤ c.toNat ∧ c.toNat ≤ n) :
    c ∈ letters ↔ isLetter c = true := by
  constructor
  · exact List.all_eq_true.mp hletters c
  · intro h
    have hc := hbounds h
    rw [← Char.ofNat_toNat c]
    apply hrange
    rw [List.mem_range'_1]
    omega

theorem mem_upperLetters {c : Char} : c ∈ upperLetters ↔ c.isUpper = true := by
  apply mem_iff_of_range (m := 65) (n := 90) (by decide) (by decide)
  intro h
  have hrange : 'A'.val ≤ c.val ∧ c.val ≤ 'Z'.val := of_decide_eq_true h
  exact ⟨UInt32.le_iff_toNat_le.mp hrange.1, UInt32.le_iff_toNat_le.mp hrange.2⟩

theorem mem_lowerLetters {c : Char} : c ∈ lowerLetters ↔ c.isLower = true := by
  apply mem_iff_of_range (m := 97) (n := 122) (by decide) (by decide)
  intro h
  have hrange := (Bool.and_eq_true _ _).mp h
  exact ⟨UInt32.le_iff_toNat_le.mp (of_decide_eq_true hrange.1),
    UInt32.le_iff_toNat_le.mp (of_decide_eq_true hrange.2)⟩

theorem mem_digits {c : Char} : c ∈ digits ↔ c.isDigit = true := by
  apply mem_iff_of_range (m := 48) (n := 57) (by decide) (by decide)
  intro h
  have hrange := (Bool.and_eq_true _ _).mp h
  exact ⟨UInt32.le_iff_toNat_le.mp (of_decide_eq_true hrange.1),
    UInt32.le_iff_toNat_le.mp (of_decide_eq_true hrange.2)⟩

theorem isAlpha_iff {c : Char} : c.isAlpha = true ↔ c.isUpper = true ∨ c.isLower = true := by
  change (c.isUpper || c.isLower) = true ↔ _
  rw [Bool.or_eq_true]

theorem mem_letters {c : Char} : c ∈ upperLetters ++ lowerLetters ↔ c.isAlpha = true := by
  rw [List.mem_append, mem_upperLetters, mem_lowerLetters, isAlpha_iff]

theorem mem_localSymbols {c : Char} :
    c ∈ upperLetters ++ digits ++ lowerLetters ++ "._%+-".toList ↔ isLocalChar c = true := by
  simp only [List.mem_append, mem_upperLetters, mem_lowerLetters, mem_digits, isLocalChar,
    Char.isAlphanum, isAlpha_iff, Bool.or_eq_true, decide_eq_true_eq]
  have hsymbols : "._%+-".toList = ['.', '_', '%', '+', '-'] := by decide
  rw [hsymbols]
  tauto

theorem mem_domainSymbols {c : Char} :
    c ∈ upperLetters ++ lowerLetters ++ digits ++ ".-".toList ↔ isDomainChar c = true := by
  simp only [List.mem_append, mem_upperLetters, mem_lowerLetters, mem_digits, isDomainChar,
    Char.isAlphanum, isAlpha_iff, Bool.or_eq_true, decide_eq_true_eq]
  have hsymbols : ".-".toList = ['.', '-'] := by decide
  rw [hsymbols]

/-! ## The pattern -/

/-- The parts of an address that the pattern matches. -/
structure Parts (text loc host top : List Char) : Prop where
  eq : text = loc ++ '@' :: (host ++ '.' :: top)
  loc_ne : loc ≠ []
  loc_chars : ∀ c ∈ loc, isLocalChar c = true
  host_ne : host ≠ []
  host_chars : ∀ c ∈ host, isDomainChar c = true
  top_min : 2 ≤ top.length
  top_max : top.length ≤ 64
  top_letters : ∀ c ∈ top, c.isAlpha = true

theorem isValidEmail_iff_parts (text : String) :
    isValidEmail text = true ↔ ∃ loc host top, Parts text.toList loc host top := by
  rw [isValidEmail, rmatch_iff_matches', emailRegEx]
  constructor
  · intro h
    obtain ⟨a, ha, top, htop, heq⟩ := mem_mul.mp h
    obtain ⟨b, hb, dot, hdot, rfl⟩ := mem_mul.mp ha
    obtain ⟨c, hc, host, hhost, rfl⟩ := mem_mul.mp hb
    obtain ⟨loc, hloc, at', hat, rfl⟩ := mem_mul.mp hc
    cases hdot
    cases hat
    obtain ⟨hloc, hlocChars⟩ := mem_oneOrMore.mp hloc
    obtain ⟨hhost, hhostChars⟩ := mem_oneOrMore.mp hhost
    obtain ⟨hmin, hmax, hletters⟩ := (mem_between (by decide)).mp htop
    refine ⟨loc, host, top, ?_, hloc, ?_, hhost, ?_, hmin, hmax, ?_⟩
    · rw [← heq]
      simp
    · exact fun c hc => mem_localSymbols.mp (hlocChars c hc)
    · exact fun c hc => mem_domainSymbols.mp (hhostChars c hc)
    · exact fun c hc => mem_letters.mp (hletters c hc)
  · rintro ⟨loc, host, top, h⟩
    have hloc := mem_oneOrMore.mpr ⟨h.loc_ne, fun c hc => mem_localSymbols.mpr (h.loc_chars c hc)⟩
    have hhost := mem_oneOrMore.mpr
      ⟨h.host_ne, fun c hc => mem_domainSymbols.mpr (h.host_chars c hc)⟩
    have htop := (mem_between (show 2 ≤ 64 by decide)).mpr
      ⟨h.top_min, h.top_max, fun c hc => mem_letters.mpr (h.top_letters c hc)⟩
    have hat : ['@'] ∈ (char '@').matches' := rfl
    have hdot : ['.'] ∈ (char '.').matches' := rfl
    have hall := mem_mul.mpr ⟨_, mem_mul.mpr ⟨_, mem_mul.mpr ⟨_, mem_mul.mpr ⟨_, hloc, _, hat, rfl⟩,
      _, hhost, rfl⟩, _, hdot, rfl⟩, _, htop, rfl⟩
    rw [h.eq]
    simpa using hall

/-! ## The decision -/

/-- One at sign, with a local part before it, and after it a host and a top-level domain, which the
last dot separates. -/
def decides (text : List Char) : Bool :=
  let loc := before '@' text
  let domain := after '@' text
  let host := beforeLast '.' domain
  let top := afterLast '.' domain
  text.count '@' = 1 && (loc ≠ [] && loc.all isLocalChar) &&
    ('.' ∈ domain && (host ≠ [] && host.all isDomainChar)) &&
    (2 ≤ top.length && top.length ≤ 64 && top.all Char.isAlpha)

section Parts

variable {text loc host top : List Char}

theorem Parts.at_not_mem (h : Parts text loc host top) :
    '@' ∉ loc ∧ '@' ∉ host ++ '.' :: top := by
  have hloc : '@' ∉ loc := fun hmem => absurd (h.loc_chars '@' hmem) (by decide)
  have hhost : '@' ∉ host := fun hmem => absurd (h.host_chars '@' hmem) (by decide)
  have htop : '@' ∉ top := fun hmem => absurd (h.top_letters '@' hmem) (by decide)
  exact ⟨hloc, by simp [hhost, htop]⟩

theorem Parts.dot_not_mem (h : Parts text loc host top) : '.' ∉ top :=
  fun hmem => absurd (h.top_letters '.' hmem) (by decide)

theorem Parts.decides (h : Parts text loc host top) : decides text = true := by
  obtain ⟨hloc, hdomain⟩ := h.at_not_mem
  have hcount : text.count '@' = 1 := by
    rw [h.eq, List.count_append, List.count_cons_self, List.count_eq_zero_of_not_mem hloc,
      List.count_eq_zero_of_not_mem hdomain]
  rw [h.eq] at hcount ⊢
  simp only [EmailDecision.decides, before_cut hloc, after_cut hloc, beforeLast_cut h.dot_not_mem,
    afterLast_cut h.dot_not_mem, hcount]
  simp [h.loc_ne, h.host_ne, h.top_min, h.top_max]
  exact ⟨⟨h.loc_chars, h.host_chars⟩, h.top_letters⟩

theorem parts_of_decides (h : decides text = true) :
    Parts text (before '@' text) (beforeLast '.' (after '@' text))
      (afterLast '.' (after '@' text)) := by
  simp only [decides, Bool.and_eq_true, decide_eq_true_eq, List.all_eq_true] at h
  obtain ⟨⟨⟨hcount, hlocNe, hloc⟩, hdot, hhostNe, hhost⟩, ⟨hmin, hmax⟩, htop⟩ := h
  have hat : '@' ∈ text := List.count_pos_iff.mp (by omega)
  refine ⟨?_, hlocNe, hloc, hhostNe, hhost, hmin, hmax, htop⟩
  rw [cutLast_of_mem hdot, cut_of_mem hat]

end Parts

theorem decides_iff_parts (text : List Char) :
    decides text = true ↔ ∃ loc host top, Parts text loc host top :=
  ⟨fun h => ⟨_, _, _, parts_of_decides h⟩, fun ⟨_, _, _, h⟩ => h.decides⟩

theorem Parts.mem_symbols {text loc host top : List Char} (h : Parts text loc host top) {c : Char}
    (hc : c ∈ text) : c = '@' ∨ isLocalChar c = true := by
  have hdomain {c : Char} (hc : isDomainChar c = true) : isLocalChar c = true := by
    simp only [isDomainChar, isLocalChar, Bool.or_eq_true, decide_eq_true_eq, List.mem_cons] at hc ⊢
    tauto
  rw [h.eq] at hc
  rcases List.mem_append.mp hc with hc | hc
  · exact .inr (h.loc_chars c hc)
  · rcases List.mem_cons.mp hc with rfl | hc
    · exact .inl rfl
    · right
      rcases List.mem_append.mp hc with hc | hc
      · exact hdomain (h.host_chars c hc)
      · rcases List.mem_cons.mp hc with rfl | hc
        · rfl
        · have hletter := h.top_letters c hc
          simp [isLocalChar, Char.isAlphanum, hletter]

theorem not_isWhiteSpace {c : Char} (h : c = '@' ∨ isLocalChar c = true) :
    isWhiteSpace c = false := by
  rcases h with rfl | h
  · decide
  · have hall : ∀ c ∈ upperLetters ++ digits ++ lowerLetters ++ "._%+-".toList,
        isWhiteSpace c = false := List.all_iff_forall_prop.mp (by decide)
    exact hall c (mem_localSymbols.mpr h)

/-- The validator is the decision, and what it accepts has one at sign and no white space. -/
theorem isValidEmail_eq_decides (text : String) : isValidEmail text = decides text.toList ∧
    (isValidEmail text = true → text.toList.count '@' = 1 ∧
      ∀ c ∈ text.toList, isWhiteSpace c = false) := by
  have hiff : isValidEmail text = true ↔ decides text.toList = true := by
    rw [isValidEmail_iff_parts, decides_iff_parts]
  refine ⟨Bool.eq_iff_iff.mpr hiff, fun h => ?_⟩
  obtain ⟨loc, host, top, hparts⟩ := (isValidEmail_iff_parts text).mp h
  have hdecides := hparts.decides
  simp only [decides, Bool.and_eq_true, decide_eq_true_eq] at hdecides
  exact ⟨hdecides.1.1.1, fun c hc => not_isWhiteSpace (hparts.mem_symbols hc)⟩

end GiveMeMovies.EmailDecision
