import Mathlib.Data.Rat.Floor
import Mathlib.Data.Nat.Digits.Defs
import Mathlib.Tactic.FieldSimp
import Mathlib.Tactic.Linarith
import GiveMeMovies.HexDigits
import GiveMeMovies.WhiteSpace

/-!
# Hexadecimal colours

The hexadecimal text of a colour has two digits for each of red, green and blue, and more for the
opacity of a translucent colour. Only six digits are read back. The components of a grey colour are
its level and its opacity.
-/

namespace GiveMeMovies

open HexDigits WhiteSpace

/-- A colour in one of the layouts of Core Graphics. -/
inductive UIColor where
  | rgba (red green blue alpha : ℚ)
  | gray (white alpha : ℚ)
  deriving DecidableEq

namespace UIColor

/-- `cgColor.components` -/
def components : UIColor → List ℚ
  | rgba red green blue alpha => [red, green, blue, alpha]
  | gray white alpha => [white, alpha]

/-- `cgColor.alpha` -/
def alpha : UIColor → ℚ
  | rgba _ _ _ alpha => alpha
  | gray _ alpha => alpha

/-- `lroundf` rounds halves away from zero. -/
def lroundf (x : ℚ) : ℤ := if 0 ≤ x then ⌊x + 1 / 2⌋ else -⌊1 / 2 - x⌋

/-- `String(format: "%02lX", n)` -/
def format02lX (n : ℤ) : List Char :=
  let digits := (Nat.digits 16 (n % 2 ^ 64).toNat).reverse.map digit
  List.replicate (2 - digits.length) '0' ++ digits

def hexString (color : UIColor) : String :=
  let colorRef := color.components
  let r := colorRef[0]?.getD 0
  let g := colorRef[1]?.getD 0
  let b := if 2 < colorRef.length then colorRef[2]?.getD 0 else g
  let a := color.alpha
  String.ofList ('#' :: (format02lX (lroundf (r * 255)) ++ format02lX (lroundf (g * 255)) ++
    format02lX (lroundf (b * 255)) ++ if a < 1 then format02lX (lroundf a) else []))

/-- `uppercased()` of an ASCII text. -/
def uppercased (text : List Char) : List Char := text.map Char.toUpper

/-- `scanHexInt64` of a text that is too short to overflow. White space and the mark of a
hexadecimal number are skipped. -/
def scanHexInt64 (text : List Char) : ℕ :=
  let text := text.dropWhile isWhiteSpace
  let text := match text with
    | '0' :: 'x' :: rest => rest
    | '0' :: 'X' :: rest => rest
    | text => text
  (text.takeWhile isDigit).foldl (fun color c => 16 * color + (value c).getD 0) 0

/-- `init?(hex:)`, where the assertion holds. -/
def initHex (hex : String) : Option UIColor :=
  let hexFormatted := uppercased (trimmed hex.toList)
  let hexFormatted :=
    if hexFormatted.head? = some '#' then hexFormatted.drop 1 else hexFormatted
  if hexFormatted.length = 6 then
    let color := scanHexInt64 hexFormatted
    let mask := 0x000000FF
    let r := (color >>> 16) &&& mask
    let g := (color >>> 8) &&& mask
    let b := color &&& mask
    some (rgba (r / 255) (g / 255) (b / 255) 1)
  else none

/-! ## Colours -/

def red : UIColor → ℚ
  | rgba red _ _ _ => red
  | gray white _ => white

def green : UIColor → ℚ
  | rgba _ green _ _ => green
  | gray white _ => white

def blue : UIColor → ℚ
  | rgba _ _ blue _ => blue
  | gray white _ => white

/-- `y` is a multiple of 1/255 with no other nearer to `x`. -/
def Nearest (x y : ℚ) : Prop := (∃ n : ℤ, y = n / 255) ∧ |x - y| ≤ 1 / 510

/-- The colour is read back from its text with its components rounded. -/
def RoundTrips (color : UIColor) : Prop :=
  ∃ color', initHex color.hexString = some color' ∧ Nearest color.red color'.red ∧
    Nearest color.green color'.green ∧ Nearest color.blue color'.blue ∧
    Nearest color.alpha color'.alpha

def InUnit (color : UIColor) : Prop := ∀ x ∈ color.components, 0 ≤ x ∧ x ≤ 1

/-- An opaque colour, and if it is grey, one that rounds to white. -/
def Readable : UIColor → Prop
  | rgba _ _ _ alpha => alpha = 1
  | gray white alpha => alpha = 1 ∧ 509 / 510 ≤ white

/-! ## Digits of a byte -/

def byteDigits (n : ℕ) : List Char := [digit (n / 16), digit (n % 16)]

theorem format_byte {n : ℕ} (h : n < 256) : format02lX n = byteDigits n := by
  have hmod : ((n : ℤ) % 2 ^ 64).toNat = n := by omega
  unfold format02lX byteDigits
  rw [hmod]
  by_cases hzero : n = 0
  · subst hzero
    decide
  · by_cases hsmall : n < 16
    · have hquotient : n / 16 = 0 := by omega
      have hremainder : n % 16 = n := by omega
      rw [Nat.digits_of_lt 16 n hzero hsmall, hquotient, hremainder]
      rfl
    · have hhigh : n / 16 ≠ 0 := by omega
      rw [Nat.digits_def' (by decide) (by omega),
        Nat.digits_of_lt 16 (n / 16) hhigh (by omega)]
      rfl

/-- A component is rounded to a byte. -/
theorem exists_byte {x : ℚ} (h : 0 ≤ x ∧ x ≤ 1) :
    ∃ n : ℕ, n < 256 ∧ lroundf (x * 255) = n ∧ Nearest x (n / 255) := by
  obtain ⟨hlow, hhigh⟩ := h
  have hround : lroundf (x * 255) = ⌊x * 255 + 1 / 2⌋ := if_pos (by linarith)
  have hfloor := Int.floor_le (x * 255 + 1 / 2)
  have hceil := Int.lt_floor_add_one (x * 255 + 1 / 2)
  have hnonneg : 0 ≤ ⌊x * 255 + 1 / 2⌋ := Int.floor_nonneg.mpr (by linarith)
  have hlt : ⌊x * 255 + 1 / 2⌋ < 256 := by
    rw [Int.floor_lt]
    push_cast
    linarith
  obtain ⟨n, hn⟩ := Int.eq_ofNat_of_zero_le hnonneg
  rw [hn] at hround hfloor hceil hlt
  refine ⟨n, by omega, hround, ⟨n, rfl⟩, ?_⟩
  push_cast at hfloor hceil
  rw [abs_le]
  constructor
  · linarith
  · linarith

/-- The level of a byte is read back as the byte. -/
theorem lroundf_byte (n : ℕ) : lroundf ((n : ℚ) / 255 * 255) = n := by
  have hcancel : (n : ℚ) / 255 * 255 = n := by field_simp
  have hfloor : ⌊(n : ℚ) + 1 / 2⌋ = n := by
    rw [Int.floor_eq_iff]
    push_cast
    constructor
    · linarith
    · linarith
  rw [hcancel, lroundf, if_pos (Nat.cast_nonneg n), hfloor]

/-! ## Reading six digits -/

theorem isDigit_toUpper {c : Char} (hc : isDigit c = true) :
    isDigit c.toUpper = true ∧ value c.toUpper = value c ∧ isWhiteSpace c = false ∧
      isWhiteSpace c.toUpper = false := by
  have hall : ∀ c ∈ "0123456789ABCDEFabcdef".toList, isDigit c.toUpper = true ∧
      value c.toUpper = value c ∧ isWhiteSpace c = false ∧ isWhiteSpace c.toUpper = false :=
    List.all_iff_forall_prop.mp (by decide)
  exact forall_isDigit hall hc

theorem isDigit_ne {c : Char} (hc : isDigit c = true) : c ≠ '#' ∧ c ≠ 'x' ∧ c ≠ 'X' := by
  have hall : ∀ c ∈ "0123456789ABCDEFabcdef".toList, c ≠ '#' ∧ c ≠ 'x' ∧ c ≠ 'X' :=
    List.all_iff_forall_prop.mp (by decide)
  exact forall_isDigit hall hc

/-- A text of digits is scanned to its end. -/
theorem scanHexInt64_digits {text : List Char} (h : ∀ c ∈ text, isDigit c = true) :
    scanHexInt64 text = text.foldl (fun color c => 16 * color + (value c).getD 0) 0 := by
  have hspace : text.dropWhile isWhiteSpace = text := by
    cases text with
    | nil => rfl
    | cons c text =>
        have hc := (isDigit_toUpper (h c List.mem_cons_self)).2.2.1
        exact List.dropWhile_cons_of_neg (by simp [hc])
  have hall : text.takeWhile isDigit = text := List.takeWhile_eq_self_iff.mpr h
  unfold scanHexInt64
  rw [hspace]
  dsimp only
  split
  next rest => exact absurd rfl (isDigit_ne (h 'x' (by simp))).2.1
  next rest => exact absurd rfl (isDigit_ne (h 'X' (by simp))).2.2
  next => rw [hall]

/-- The number that the digits write. -/
def number (digits : List Char) : ℕ :=
  digits.foldl (fun color c => 16 * color + (value c).getD 0) 0

theorem number_uppercased {digits : List Char} (h : ∀ c ∈ digits, isDigit c = true) :
    number (uppercased digits) = number digits := by
  unfold number uppercased
  rw [List.foldl_map]
  apply List.foldl_ext
  intro color c hc
  rw [(isDigit_toUpper (h c hc)).2.1]

/-- The opaque colour whose bytes are the last three of a number. -/
def ofNumber (color : ℕ) : UIColor :=
  rgba (((color >>> 16) &&& 255 : ℕ) / 255) (((color >>> 8) &&& 255 : ℕ) / 255)
    ((color &&& 255 : ℕ) / 255) 1

theorem ofNumber_bytes {r g b : ℕ} (hr : r < 256) (hg : g < 256) (hb : b < 256) :
    ofNumber (65536 * r + 256 * g + b) = rgba (r / 255) (g / 255) (b / 255) 1 := by
  have hmask (n : ℕ) : n &&& 255 = n % 256 := Nat.and_two_pow_sub_one_eq_mod n 8
  have hred : (65536 * r + 256 * g + b) / 2 ^ 16 % 256 = r := by omega
  have hgreen : (65536 * r + 256 * g + b) / 2 ^ 8 % 256 = g := by omega
  have hblue : (65536 * r + 256 * g + b) % 256 = b := by omega
  rw [ofNumber, Nat.shiftRight_eq_div_pow, Nat.shiftRight_eq_div_pow, hmask, hmask, hmask, hred,
    hgreen, hblue]

/-- Six digits are read, whatever their case, with or without a hash sign and white space around
them. Another number of digits is not. -/
theorem initHex_digits {front hash digits back : List Char}
    (hfront : ∀ c ∈ front, isWhiteSpace c = true) (hback : ∀ c ∈ back, isWhiteSpace c = true)
    (hhash : hash = [] ∨ hash = ['#']) (hne : digits ≠ [])
    (hdigits : ∀ c ∈ digits, isDigit c = true) :
    initHex (String.ofList (front ++ (hash ++ digits ++ back))) =
      if digits.length = 6 then some (ofNumber (number digits)) else none := by
  have hspace : ∀ c ∈ hash ++ digits, isWhiteSpace c = false := by
    intro c hc
    rcases List.mem_append.mp hc with hc | hc
    · rcases hhash with rfl | rfl
      · cases hc
      · rw [List.mem_singleton.mp hc]
        decide
    · exact (isDigit_toUpper (hdigits c hc)).2.2.1
  have htrimmed : trimmed (front ++ (hash ++ digits ++ back)) = hash ++ digits :=
    trimmed_eq hfront hback hspace (by simp [hne])
  have hupper : ∀ c ∈ uppercased digits, isDigit c = true := by
    intro c hc
    obtain ⟨d, hd, rfl⟩ := List.mem_map.mp hc
    exact (isDigit_toUpper (hdigits d hd)).1
  have hformatted : (if (uppercased (hash ++ digits)).head? = some '#' then
      (uppercased (hash ++ digits)).drop 1 else uppercased (hash ++ digits)) =
        uppercased digits := by
    rcases hhash with rfl | rfl
    · apply if_neg
      intro hhead
      exact (isDigit_ne (hupper '#' (List.mem_of_mem_head? hhead))).1 rfl
    · exact if_pos rfl
  have hcount : (uppercased digits).length = digits.length := List.length_map _
  unfold initHex
  rw [String.toList_ofList, htrimmed]
  dsimp only
  rw [hformatted, hcount, scanHexInt64_digits hupper]
  change (if digits.length = 6 then some (ofNumber (number (uppercased digits))) else none) = _
  rw [number_uppercased hdigits]

/-! ## Reading a colour back -/

theorem byteDigits_isDigit {n : ℕ} (h : n < 256) : ∀ c ∈ byteDigits n, isDigit c = true := by
  intro c hc
  rcases List.mem_cons.mp hc with rfl | hc
  · exact isDigit_digit (by omega)
  · rw [List.mem_singleton.mp hc]
    exact isDigit_digit (by omega)

theorem number_bytes {r g b : ℕ} (hr : r < 256) (hg : g < 256) (hb : b < 256) :
    number (byteDigits r ++ byteDigits g ++ byteDigits b) = 65536 * r + 256 * g + b := by
  have hhigh {n : ℕ} (h : n < 256) : value (digit (n / 16)) = some (n / 16) :=
    value_digit (by omega)
  have hlow {n : ℕ} (_ : n < 256) : value (digit (n % 16)) = some (n % 16) :=
    value_digit (by omega)
  simp only [number, byteDigits, List.cons_append, List.nil_append, List.foldl_cons,
    List.foldl_nil, hhigh hr, hlow hr, hhigh hg, hlow hg, hhigh hb, hlow hb, Option.getD_some]
  omega

section Bytes

variable {r g b : ℕ} (hr : r < 256) (hg : g < 256) (hb : b < 256)

include hr hg hb

theorem initHex_hexDigits {more : List Char} (hmore : ∀ c ∈ more, isDigit c = true) :
    initHex (String.ofList ('#' :: (byteDigits r ++ byteDigits g ++ byteDigits b ++ more))) =
      if more = [] then some (rgba (r / 255) (g / 255) (b / 255) 1) else none := by
  have hdigits : ∀ c ∈ byteDigits r ++ byteDigits g ++ byteDigits b ++ more,
      isDigit c = true := by
    intro c hc
    simp only [List.mem_append] at hc
    rcases hc with ((hc | hc) | hc) | hc
    · exact byteDigits_isDigit hr c hc
    · exact byteDigits_isDigit hg c hc
    · exact byteDigits_isDigit hb c hc
    · exact hmore c hc
  have hread := @initHex_digits [] ['#'] _ [] (fun _ hc => by cases hc) (fun _ hc => by cases hc)
    (.inr rfl) (by simp [byteDigits]) hdigits
  rw [List.append_nil, List.nil_append] at hread
  rw [← List.singleton_append, hread]
  by_cases hnil : more = []
  · subst hnil
    have hlength : (byteDigits r ++ byteDigits g ++ byteDigits b).length = 6 := rfl
    rw [if_pos rfl, List.append_nil, if_pos hlength, number_bytes hr hg hb,
      ofNumber_bytes hr hg hb]
  · have hlength := List.length_pos_iff.mpr hnil
    rw [if_neg hnil, if_neg]
    simp only [List.length_append, byteDigits, List.length_cons, List.length_nil]
    omega

end Bytes

/-- The digits of the opacity, which only a translucent colour has. -/
def opacity (a : ℚ) : List Char := if a < 1 then format02lX (lroundf a) else []

theorem opacity_cases {a : ℚ} (h : 0 ≤ a) :
    (1 ≤ a ∧ opacity a = []) ∨ a < 1 ∧ ∃ n < 256, opacity a = byteDigits n := by
  by_cases hlt : a < 1
  · have hround : lroundf a = ⌊a + 1 / 2⌋ := if_pos h
    have hlow : 0 ≤ lroundf a := by
      rw [hround]
      exact Int.floor_nonneg.mpr (by linarith)
    have hhigh : lroundf a < 2 := by
      rw [hround, Int.floor_lt]
      push_cast
      linarith
    obtain ⟨n, hn⟩ := Int.eq_ofNat_of_zero_le hlow
    rw [hn] at hhigh
    refine .inr ⟨hlt, n, by omega, ?_⟩
    rw [opacity, if_pos hlt, hn]
    exact format_byte (by omega)
  · exact .inl ⟨not_lt.mp hlt, if_neg hlt⟩

/-- The text of three components and an opacity. -/
def hexText (x y z a : ℚ) : String :=
  String.ofList ('#' :: (format02lX (lroundf (x * 255)) ++ format02lX (lroundf (y * 255)) ++
    format02lX (lroundf (z * 255)) ++ opacity a))

theorem hexString_rgba (red green blue alpha : ℚ) :
    (rgba red green blue alpha).hexString = hexText red green blue alpha := rfl

theorem hexString_gray (white alpha : ℚ) :
    (gray white alpha).hexString = hexText white alpha alpha alpha := rfl

/-- Three components are read back rounded, unless there is an opacity. -/
theorem initHex_hexText {x y z a : ℚ} (hx : 0 ≤ x ∧ x ≤ 1) (hy : 0 ≤ y ∧ y ≤ 1)
    (hz : 0 ≤ z ∧ z ≤ 1) (ha : 0 ≤ a) : ∃ x' y' z', Nearest x x' ∧ Nearest y y' ∧ Nearest z z' ∧
      initHex (hexText x y z a) = if a < 1 then none else some (rgba x' y' z' 1) := by
  obtain ⟨r, hr, hroundr, hnearr⟩ := exists_byte hx
  obtain ⟨g, hg, hroundg, hnearg⟩ := exists_byte hy
  obtain ⟨b, hb, hroundb, hnearb⟩ := exists_byte hz
  refine ⟨r / 255, g / 255, b / 255, hnearr, hnearg, hnearb, ?_⟩
  rw [hexText, hroundr, hroundg, hroundb, format_byte hr, format_byte hg, format_byte hb]
  rcases opacity_cases ha with ⟨hsolid, hnone⟩ | ⟨hlt, n, hn, hdigits⟩
  · have hempty : ∀ c ∈ ([] : List Char), isDigit c = true := by simp
    rw [hnone, initHex_hexDigits hr hg hb hempty, if_pos rfl, if_neg (not_lt.mpr hsolid)]
  · have hsome : byteDigits n ≠ [] := List.cons_ne_nil _ _
    rw [hdigits, initHex_hexDigits hr hg hb (byteDigits_isDigit hn), if_neg hsome, if_pos hlt]

theorem nearest_one_left {y : ℚ} (h : Nearest 1 y) : y = 1 := by
  obtain ⟨⟨n, rfl⟩, habs⟩ := h
  obtain ⟨hlow, hhigh⟩ := abs_le.mp habs
  have hlt : (n : ℚ) < 256 := by linarith
  have hgt : (254 : ℚ) < n := by linarith
  have hn : n = 255 := by
    have hlt' : n < 256 := by exact_mod_cast hlt
    have hgt' : 254 < n := by exact_mod_cast hgt
    omega
  rw [hn]
  norm_num

theorem nearest_one_right {x : ℚ} (h : x ≤ 1) : Nearest x 1 ↔ 509 / 510 ≤ x := by
  unfold Nearest
  rw [abs_le]
  constructor
  · rintro ⟨_, hlow, _⟩
    linarith
  · intro hle
    refine ⟨⟨255, by norm_num⟩, by linarith, by linarith⟩

/-- No translucent colour is read back. -/
theorem not_roundTrips {color : UIColor} (h : initHex color.hexString = none) :
    ¬ RoundTrips color := by
  rintro ⟨color', hsome, _⟩
  rw [h] at hsome
  cases hsome

theorem roundTrips_iff_of_some {color : UIColor} {x y z : ℚ}
    (h : initHex color.hexString = some (rgba x y z 1)) : RoundTrips color ↔
      Nearest color.red x ∧ Nearest color.green y ∧ Nearest color.blue z ∧
        Nearest color.alpha 1 := by
  constructor
  · rintro ⟨color', hsome, hnearest⟩
    rw [h] at hsome
    cases hsome
    exact hnearest
  · intro hnearest
    exact ⟨_, h, hnearest⟩

/-- The colours that are read back from their texts. -/
theorem roundTrips_iff_readable {color : UIColor} (h : InUnit color) :
    RoundTrips color ↔ Readable color := by
  cases color with
  | rgba x y z a =>
      have ha : 0 ≤ a ∧ a ≤ 1 := h a (by simp [components])
      obtain ⟨x', y', z', hx, hy, hz, hread⟩ := initHex_hexText (h x (by simp [components]))
        (h y (by simp [components])) (h z (by simp [components])) ha.1
      rw [← hexString_rgba] at hread
      by_cases hlt : a < 1
      · rw [if_pos hlt] at hread
        refine ⟨fun hroundTrips => absurd hroundTrips (not_roundTrips hread), fun hone => ?_⟩
        exact absurd hone (ne_of_lt hlt)
      · have hone : a = 1 := le_antisymm ha.2 (not_lt.mp hlt)
        have hsolid : Nearest a 1 := (nearest_one_right ha.2).mpr (by linarith)
        rw [if_neg hlt] at hread
        rw [roundTrips_iff_of_some hread]
        exact ⟨fun _ => hone, fun _ => ⟨hx, hy, hz, hsolid⟩⟩
  | gray w a =>
      have hw : 0 ≤ w ∧ w ≤ 1 := h w (by simp [components])
      have ha : 0 ≤ a ∧ a ≤ 1 := h a (by simp [components])
      obtain ⟨x', y', z', hx, hy, hz, hread⟩ := initHex_hexText hw ha ha ha.1
      rw [← hexString_gray] at hread
      by_cases hlt : a < 1
      · rw [if_pos hlt] at hread
        refine ⟨fun hroundTrips => absurd hroundTrips (not_roundTrips hread), fun hreadable => ?_⟩
        exact absurd hreadable.1 (ne_of_lt hlt)
      · obtain rfl : a = 1 := le_antisymm ha.2 (not_lt.mp hlt)
        have hsolid : Nearest 1 1 := (nearest_one_right ha.2).mpr (by norm_num)
        obtain rfl := nearest_one_left hy
        obtain rfl := nearest_one_left hz
        rw [if_neg hlt] at hread
        rw [roundTrips_iff_of_some hread]
        constructor
        · rintro ⟨_, hwhite, _, _⟩
          exact ⟨rfl, (nearest_one_right hw.2).mp hwhite⟩
        · rintro ⟨_, hwhite⟩
          have hnear : Nearest w 1 := (nearest_one_right hw.2).mpr hwhite
          exact ⟨hx, hnear, hnear, hsolid⟩

/-! ## Writing a text back -/

/-- The text of six digits, with or without a hash sign and white space around, is written back in
upper case. -/
def WritesBack : Prop :=
  ∀ front hash digits back : List Char, (∀ c ∈ front, isWhiteSpace c = true) →
    (∀ c ∈ back, isWhiteSpace c = true) → (hash = [] ∨ hash = ['#']) → digits.length = 6 →
    (∀ c ∈ digits, isDigit c = true) →
    (initHex (String.ofList (front ++ (hash ++ digits ++ back)))).map hexString =
      some (String.ofList ('#' :: digits.map Char.toUpper))

theorem exists_digit_pair {a b : Char} (ha : isDigit a = true) (hb : isDigit b = true) :
    ∃ n < 256, 16 * (value a).getD 0 + (value b).getD 0 = n ∧
      byteDigits n = [a.toUpper, b.toUpper] := by
  obtain ⟨x, hx, hxlt, hxdigit⟩ := exists_value ha
  obtain ⟨y, hy, hylt, hydigit⟩ := exists_value hb
  have hhigh : (16 * x + y) / 16 = x := by omega
  have hlow : (16 * x + y) % 16 = y := by omega
  refine ⟨16 * x + y, by omega, by rw [hx, hy]; rfl, ?_⟩
  rw [byteDigits, hhigh, hlow, hxdigit, hydigit]

/-- Three bytes are written back as they are read. -/
theorem hexString_ofNumber {r g b : ℕ} (hr : r < 256) (hg : g < 256) (hb : b < 256) :
    (ofNumber (65536 * r + 256 * g + b)).hexString =
      String.ofList ('#' :: (byteDigits r ++ byteDigits g ++ byteDigits b)) := by
  have hsolid : opacity 1 = [] := if_neg (lt_irrefl 1)
  rw [ofNumber_bytes hr hg hb, hexString_rgba, hexText, lroundf_byte, lroundf_byte, lroundf_byte,
    format_byte hr, format_byte hg, format_byte hb, hsolid, List.append_nil]

theorem writesBack : WritesBack := by
  intro front hash digits back hfront hback hhash hlength hdigits
  have hne : digits ≠ [] := by
    rintro rfl
    cases hlength
  rw [initHex_digits hfront hback hhash hne hdigits, if_pos hlength, Option.map_some]
  match digits with
  | [a, b, c, d, e, f] =>
      simp only [List.forall_mem_cons] at hdigits
      obtain ⟨ha, hb, hc, hd, he, hf, _⟩ := hdigits
      obtain ⟨x, hx, hxvalue, hxdigits⟩ := exists_digit_pair ha hb
      obtain ⟨y, hy, hyvalue, hydigits⟩ := exists_digit_pair hc hd
      obtain ⟨z, hz, hzvalue, hzdigits⟩ := exists_digit_pair he hf
      have hnumber : number [a, b, c, d, e, f] = 65536 * x + 256 * y + z := by
        simp only [number, List.foldl_cons, List.foldl_nil]
        omega
      rw [hnumber, hexString_ofNumber hx hy hz, hxdigits, hydigits, hzdigits]
      rfl

/-- A colour is read back exactly when it is opaque and, if it is grey, rounds to white. Every text
of six digits is written back. -/
theorem hex_inverse {color : UIColor} (hunit : InUnit color) :
    (RoundTrips color ↔ Readable color) ∧ WritesBack :=
  ⟨roundTrips_iff_readable hunit, writesBack⟩

theorem hex_inverse_orange :
    (RoundTrips (rgba 1 (1 / 2) 0 1) ↔ Readable (rgba 1 (1 / 2) 0 1)) ∧ WritesBack := by
  have hunit : InUnit (rgba 1 (1 / 2) 0 1) := by
    intro x hx
    simp only [components, List.mem_cons, List.not_mem_nil, or_false] at hx
    rcases hx with rfl | rfl | rfl | rfl
    all_goals norm_num
  exact hex_inverse hunit

/-- A dark grey is read back as another colour, since its opacity is taken for its green and its
blue. -/
theorem darkGray_not_read : ∃ color, InUnit color ∧ ¬ RoundTrips color := by
  have hunit : InUnit (gray (1 / 5) 1) := by
    intro x hx
    simp only [components, List.mem_cons, List.not_mem_nil, or_false] at hx
    rcases hx with rfl | rfl
    · norm_num
    · norm_num
  refine ⟨gray (1 / 5) 1, hunit, ?_⟩
  rw [roundTrips_iff_readable hunit]
  rintro ⟨_, hwhite⟩
  norm_num at hwhite

end UIColor

end GiveMeMovies
