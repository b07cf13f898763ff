import Celeste.Geometry
import Celeste.Library.FloatingPoint
import Celeste.Library.Numerals

/-!
# Colours as text

A colour is read from hexadecimal digits, each channel as its part of 255, and written as six digits
of the parts times 255, cut off.  The rounding of binary64 loses no channel on the way: a colour
that was read from any text at all is written as a text that it is read from.
-/

namespace Celeste

open FloatFormat (binary64)
open Numerals (paddedDigits)

/-! ## Scanning -/

/-- The characters of `CharacterSet.whitespacesAndNewlines`. -/
def isWhitespaceOrNewline (character : Char) : Bool :=
  let code := character.toNat
  9 ≤ code && code ≤ 13 || code = 0x20 || code = 0x85 || code = 0xA0 || code = 0x1680 ||
    0x2000 ≤ code && code ≤ 0x200A || code = 0x2028 || code = 0x2029 || code = 0x202F ||
    code = 0x205F || code = 0x3000

/-- `trimmingCharacters(in: .whitespacesAndNewlines)`. -/
def trimmingCharacters (text : List Char) : List Char :=
  ((text.dropWhile isWhitespaceOrNewline).reverse.dropWhile isWhitespaceOrNewline).reverse

/-- A hexadecimal digit, in lower case. -/
def hexCharacter (digit : Fin 16) : Char :=
  ['0', '1', '2', '3', '4', '5', '6', '7', '8', '9', 'a', 'b', 'c', 'd', 'e', 'f'].get digit

/-- The digit that a character is, in either case. -/
def hexDigit (character : Char) : Option (Fin 16) :=
  (List.finRange 16).find? fun digit => hexCharacter digit = character.toLower

/-- The value of the digits that a text begins with, or `UInt32.max` where it is larger. -/
def scanDigits (color : Nat) : List Char → Nat
  | [] => color
  | character :: text =>
      match hexDigit character with
      | some digit => scanDigits (min (color * 16 + digit) (2 ^ 32 - 1)) text
      | none => color

/-- `Scanner.scanHexInt32(_:)` into a zero, which it leaves where there are no digits. -/
def scanHexInt32 (text : List Char) : Nat :=
  let text := text.dropWhile isWhitespaceOrNewline
  if text.take 2 = ['0', 'x'] ∨ text.take 2 = ['0', 'X'] then
    scanDigits 0 (text.drop 2)
  else
    scanDigits 0 text

/-! ## Colours -/

/-- `UIColor`, with the components of `getRed(_:green:blue:alpha:)`. -/
structure UIColor where
  red : ℚ
  green : ℚ
  blue : ℚ
  alpha : ℚ
  deriving DecidableEq

/-- The number that `UIColor.init(hexString:alpha:)` scans. -/
def scannedColor (hexString : String) : Nat :=
  let hexString := trimmingCharacters hexString.toList
  scanHexInt32 (if hexString.head? = some '#' then hexString.drop 1 else hexString)

namespace UIColor

/-- `init(hexString:alpha:)`. -/
def ofHexString (hexString : String) (alpha : ℚ) : UIColor :=
  let color := scannedColor hexString
  let mask := 0x000000FF
  let r := color >>> 16 &&& mask
  let g := color >>> 8 &&& mask
  let b := color &&& mask
  { red := binary64.div r 255
    green := binary64.div g 255
    blue := binary64.div b 255
    alpha := alpha }

/-- `(Int)(component*255)`. -/
def component (value : ℚ) : BitVec 64 :=
  .ofInt 64 (truncate (binary64.mul value 255))

/-- `toHexString()`; `%06x` writes the lower half of the `Int`. -/
def toHexString (color : UIColor) : String :=
  let rgb := component color.red <<< 16 ||| component color.green <<< 8 |||
    component color.blue <<< 0
  .ofList ('#' :: (paddedDigits 16 6 (rgb.setWidth 32).toNat).map hexCharacter)

end UIColor

/-! ## Digits -/

@[simp]
theorem hexDigit_hexCharacter (digit : Fin 16) : hexDigit (hexCharacter digit) = some digit := by
  revert digit
  decide

theorem hexCharacter_of_hexDigit {character : Char} {digit : Fin 16}
    (found : hexDigit character = some digit) : hexCharacter digit = character.toLower := by
  simpa using List.find?_some found

theorem exists_digits {text : List Char}
    (isDigit : ∀ character ∈ text, (hexDigit character).isSome) :
    ∃ digits : List (Fin 16), text.map hexDigit = digits.map some := by
  induction text with
  | nil => exact ⟨[], rfl⟩
  | cons character text ih =>
      obtain ⟨first, rest⟩ := List.forall_mem_cons.mp isDigit
      obtain ⟨digit, found⟩ := Option.isSome_iff_exists.mp first
      obtain ⟨digits, others⟩ := ih rest
      refine ⟨digit :: digits, ?_⟩
      rw [List.map_cons, List.map_cons, found, others]

theorem map_hexCharacter {text : List Char} {digits : List (Fin 16)}
    (found : text.map hexDigit = digits.map some) :
    digits.map hexCharacter = text.map Char.toLower := by
  induction digits generalizing text with
  | nil =>
      obtain rfl := List.map_eq_nil_iff.mp found
      rfl
  | cons digit digits ih =>
      obtain ⟨character, rest, rfl, isDigit, isRest⟩ := List.map_eq_cons_iff.mp found
      rw [List.map_cons, List.map_cons, hexCharacter_of_hexDigit isDigit, ih isRest]

theorem isWhitespaceOrNewline_of_hexDigit {character : Char} {digit : Fin 16}
    (found : hexDigit character = some digit) : isWhitespaceOrNewline character = false := by
  have lower : ∀ digit, isWhitespaceOrNewline (hexCharacter digit) = false := by decide
  by_cases upper : character.val ≥ 'A'.val ∧ character.val ≤ 'Z'.val
  · have codes : 65 ≤ character.toNat ∧ character.toNat ≤ 90 := upper
    simp only [isWhitespaceOrNewline, Bool.or_eq_false_iff, Bool.and_eq_false_iff,
      decide_eq_false_iff_not]
    omega
  · have same : character.toLower = character := dif_neg upper
    rw [← same, ← hexCharacter_of_hexDigit found]
    exact lower digit

/-- Digits that are not too many have their value. -/
theorem scanDigits_eq {text : List Char} {digits : List (Fin 16)} {color : Nat}
    (found : text.map hexDigit = digits.map some)
    (small : (color + 1) * 16 ^ digits.length ≤ 2 ^ 32) :
    scanDigits color text =
      color * 16 ^ digits.length + Nat.ofDigits 16 (digits.map Fin.val).reverse := by
  induction digits generalizing color text with
  | nil =>
      obtain rfl := List.map_eq_nil_iff.mp found
      simp [scanDigits]
  | cons digit digits ih =>
      obtain ⟨character, rest, rfl, isDigit, isRest⟩ := List.map_eq_cons_iff.mp found
      have next : (color * 16 + digit + 1) * 16 ^ digits.length ≤ 2 ^ 32 := by
        calc (color * 16 + digit + 1) * 16 ^ digits.length
          _ ≤ (color + 1) * 16 * 16 ^ digits.length := Nat.mul_le_mul_right _ (by omega)
          _ = (color + 1) * 16 ^ (digit :: digits).length := by
            rw [List.length_cons, pow_succ']
            ring
          _ ≤ 2 ^ 32 := small
      have kept : color * 16 + digit ≤ 2 ^ 32 - 1 := by
        have one : 1 ≤ 16 ^ digits.length := Nat.one_le_pow _ _ (by decide)
        have least := Nat.mul_le_mul_left (color * 16 + digit + 1) one
        omega
      rw [scanDigits, isDigit]
      simp only [Nat.min_eq_left kept]
      rw [ih isRest next, List.map_cons, List.reverse_cons, Nat.ofDigits_append,
        Nat.ofDigits_singleton, List.length_reverse, List.length_map, List.length_cons, pow_succ']
      ring

theorem dropWhile_isWhitespaceOrNewline {text : List Char}
    (unspaced : ∀ character ∈ text, isWhitespaceOrNewline character = false) :
    text.dropWhile isWhitespaceOrNewline = text := by
  cases text with
  | nil => rfl
  | cons first rest => exact List.dropWhile_cons_of_neg (by simp [unspaced first])

theorem trimmingCharacters_eq {text : List Char}
    (unspaced : ∀ character ∈ text, isWhitespaceOrNewline character = false) :
    trimmingCharacters text = text := by
  rw [trimmingCharacters, dropWhile_isWhitespaceOrNewline unspaced,
    dropWhile_isWhitespaceOrNewline, List.reverse_reverse]
  intro character member
  exact unspaced character (List.mem_reverse.mp member)

theorem isDigit_of_map_eq {text : List Char} {digits : List (Fin 16)}
    (found : text.map hexDigit = digits.map some) {character : Char} (member : character ∈ text) :
    ∃ digit, hexDigit character = some digit := by
  have listed : hexDigit character ∈ digits.map some := found ▸ List.mem_map_of_mem member
  obtain ⟨digit, -, same⟩ := List.mem_map.mp listed
  exact ⟨digit, same.symm⟩

theorem scanHexInt32_eq {text : List Char} {digits : List (Fin 16)}
    (found : text.map hexDigit = digits.map some) (small : 16 ^ digits.length ≤ 2 ^ 32) :
    scanHexInt32 text = Nat.ofDigits 16 (digits.map Fin.val).reverse := by
  have unspaced : ∀ character ∈ text, isWhitespaceOrNewline character = false := by
    intro character member
    obtain ⟨digit, isDigit⟩ := isDigit_of_map_eq found member
    exact isWhitespaceOrNewline_of_hexDigit isDigit
  -- The mark of a prefix is no digit.
  have marked : ∀ {mark : Char}, hexDigit mark = none → ¬ text.take 2 = ['0', mark] := by
    intro mark notDigit front
    have member : mark ∈ text.take 2 := front ▸ List.mem_cons_of_mem _ List.mem_cons_self
    obtain ⟨digit, isDigit⟩ := isDigit_of_map_eq found (List.mem_of_mem_take member)
    cases notDigit.symm.trans isDigit
  have unmarked : ¬ (text.take 2 = ['0', 'x'] ∨ text.take 2 = ['0', 'X']) := by
    rw [not_or]
    exact ⟨marked (by decide), marked (by decide)⟩
  rw [scanHexInt32, dropWhile_isWhitespaceOrNewline unspaced]
  simp only [if_neg unmarked]
  rw [scanDigits_eq found (by simpa using small), zero_mul, zero_add]

theorem scannedColor_eq {text : List Char} {digits : List (Fin 16)}
    (found : text.map hexDigit = digits.map some) (small : 16 ^ digits.length ≤ 2 ^ 32) :
    scannedColor (.ofList ('#' :: text)) = Nat.ofDigits 16 (digits.map Fin.val).reverse := by
  have unspaced : ∀ character ∈ '#' :: text, isWhitespaceOrNewline character = false := by
    intro character member
    rcases List.mem_cons.mp member with rfl | member
    · decide
    · obtain ⟨digit, isDigit⟩ := isDigit_of_map_eq found member
      exact isWhitespaceOrNewline_of_hexDigit isDigit
  rw [scannedColor, String.toList_ofList, trimmingCharacters_eq unspaced, List.head?_cons]
  simp only [if_true, List.drop_succ_cons, List.drop_zero]
  exact scanHexInt32_eq found small

/-! ## There and back -/

namespace UIColor

theorem and_mask (value : Nat) : value &&& 0xFF = value % 2 ^ 8 :=
  Nat.and_two_pow_sub_one_eq_mod value 8

/-- No channel is lost to the rounding. -/
theorem component_channel {channel : Nat} (bound : channel < 256) :
    component (binary64.div channel 255) = BitVec.ofNat 64 channel := by
  have all : ∀ channel : Fin 256,
      truncate (binary64.mul (binary64.div (channel : Nat) 255) 255) = (channel : Nat) := by
    decide +kernel
  rw [component, all ⟨channel, bound⟩]
  exact BitVec.ofInt_natCast 64 channel

theorem toNat_channels {red green blue : Nat} (redBound : red < 256) (greenBound : green < 256)
    (blueBound : blue < 256) :
    ((BitVec.ofNat 64 red <<< 16 ||| BitVec.ofNat 64 green <<< 8 |||
      BitVec.ofNat 64 blue <<< 0).setWidth 32).toNat = red * 2 ^ 16 + green * 2 ^ 8 + blue := by
  have upper : (red * 2 ^ 8 + green) * 2 ^ 8 ||| blue = (red * 2 ^ 8 + green) * 2 ^ 8 + blue := by
    rw [mul_comm, Nat.two_pow_add_eq_or_of_lt blueBound]
  have lower : red * 2 ^ 16 ||| green * 2 ^ 8 = (red * 2 ^ 8 + green) * 2 ^ 8 := by
    have shifted : green * 2 ^ 8 < 2 ^ 16 := by omega
    rw [mul_comm, ← Nat.two_pow_add_eq_or_of_lt shifted]
    ring
  simp only [BitVec.toNat_setWidth, BitVec.toNat_or, BitVec.toNat_shiftLeft, BitVec.toNat_ofNat,
    Nat.shiftLeft_eq, pow_zero, mul_one]
  rw [Nat.mod_eq_of_lt (show red < 2 ^ 64 by omega),
    Nat.mod_eq_of_lt (show green < 2 ^ 64 by omega),
    Nat.mod_eq_of_lt (show blue < 2 ^ 64 by omega),
    Nat.mod_eq_of_lt (show red * 2 ^ 16 < 2 ^ 64 by omega),
    Nat.mod_eq_of_lt (show green * 2 ^ 8 < 2 ^ 64 by omega),
    Nat.mod_eq_of_lt (show blue < 2 ^ 64 by omega), lower, upper]
  omega

/-- A colour is written as the last 24 bits that were scanned. -/
theorem toHexString_eq (hexString : String) (alpha : ℚ) :
    (ofHexString hexString alpha).toHexString =
      .ofList ('#' :: (paddedDigits 16 6 (scannedColor hexString % 2 ^ 24)).map hexCharacter) := by
  have bound : ∀ value : Nat, value % 2 ^ 8 < 256 := fun value => Nat.mod_lt _ (by decide)
  simp only [toHexString, ofHexString, and_mask, Nat.shiftRight_eq_div_pow]
  rw [component_channel (bound _), component_channel (bound _), component_channel (bound _),
    toNat_channels (bound _) (bound _) (bound _)]
  congr 4
  omega

theorem ofHexString_congr {left right : String} (alpha : ℚ)
    (same : scannedColor left % 2 ^ 24 = scannedColor right % 2 ^ 24) :
    ofHexString left alpha = ofHexString right alpha := by
  have red : scannedColor left / 2 ^ 16 % 2 ^ 8 = scannedColor right / 2 ^ 16 % 2 ^ 8 := by omega
  have green : scannedColor left / 2 ^ 8 % 2 ^ 8 = scannedColor right / 2 ^ 8 % 2 ^ 8 := by omega
  have blue : scannedColor left % 2 ^ 8 = scannedColor right % 2 ^ 8 := by omega
  simp only [ofHexString, and_mask, Nat.shiftRight_eq_div_pow, red, green, blue]

/-- A colour that was read from any text is read from the text it is written as. -/
theorem ofHexString_toHexString (hexString : String) (alpha : ℚ) :
    ofHexString (ofHexString hexString alpha).toHexString alpha = ofHexString hexString alpha := by
  have bound : scannedColor hexString % 2 ^ 24 < 16 ^ 6 := Nat.mod_lt _ (by decide)
  have length := Numerals.length_paddedDigits (by decide : 1 < 16) bound
  have found : ((paddedDigits 16 6 (scannedColor hexString % 2 ^ 24)).map hexCharacter).map
      hexDigit = (paddedDigits 16 6 (scannedColor hexString % 2 ^ 24)).map some := by
    rw [List.map_map]
    exact List.map_congr_left fun digit _ => hexDigit_hexCharacter digit
  apply ofHexString_congr
  rw [toHexString_eq, scannedColor_eq found (by rw [length]; decide),
    Numerals.ofDigits_paddedDigits (by decide), Nat.mod_mod]

/-- Six digits are read as a colour that is written as the same digits in lower case. -/
theorem toHexString_ofHexString {text : List Char} (six : text.length = 6)
    (isDigit : ∀ character ∈ text, (hexDigit character).isSome) (alpha : ℚ) :
    (ofHexString (.ofList ('#' :: text)) alpha).toHexString =
      .ofList ('#' :: text.map Char.toLower) := by
  obtain ⟨digits, found⟩ := exists_digits isDigit
  have length : digits.length = 6 := by
    rw [← six, ← List.length_map hexDigit, found, List.length_map]
  have scanned := scannedColor_eq found (by rw [length]; decide)
  have small := Nat.ofDigits_lt_base_pow_length (b := 16) (by decide)
    (l := (digits.map Fin.val).reverse) (by simp)
  have padded := Numerals.paddedDigits_ofDigits (by decide : 1 < 16) digits
  rw [List.length_reverse, List.length_map, length, show 16 ^ 6 = 2 ^ 24 from rfl] at small
  rw [length] at padded
  rw [toHexString_eq, scanned, Nat.mod_eq_of_lt small, padded, map_hexCharacter found]

theorem pastelRed_toHexString :
    (ofHexString (.ofList ['#', 'f', 'f', '6', '9', '6', '1']) 1).toHexString =
      .ofList ['#', 'f', 'f', '6', '9', '6', '1'] := by
  have isDigit : ['f', 'f', '6', '9', '6', '1'].all (fun character =>
      (hexDigit character).isSome) = true := by decide
  exact toHexString_ofHexString rfl (List.all_eq_true.mp isDigit) 1

end UIColor

end Celeste
