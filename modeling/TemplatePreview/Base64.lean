import Mathlib.Data.List.Basic
import Mathlib.Data.String.Basic
import Mathlib.Tactic.IntervalCases

/-! Base 64 as Python's standard library reads and writes it. Decoding is lenient:
characters outside the alphabet are skipped and input after complete padding is
ignored. Whatever was encoded decodes to itself. -/
namespace TemplatePreview.Base64

def alphabet : List Char := "ABCDEFGHIJKLMNOPQRSTUVWXYZabcdefghijklmnopqrstuvwxyz0123456789+/".toList

def digit (value : Nat) : Char := alphabet.getD value 'A'

/-- The value of a character of the alphabet. -/
def value? (character : Char) : Option Nat := alphabet.idxOf? character

/-- Three bytes become four digits; one or two bytes left over are padded. -/
def encodeBytes : List UInt8 → List Char
  | a :: b :: c :: rest =>
    digit (a.toNat / 4) :: digit (a.toNat % 4 * 16 + b.toNat / 16) ::
      digit (b.toNat % 16 * 4 + c.toNat / 64) :: digit (c.toNat % 64) :: encodeBytes rest
  | [a, b] =>
    [digit (a.toNat / 4), digit (a.toNat % 4 * 16 + b.toNat / 16), digit (b.toNat % 16 * 4), '=']
  | [a] => [digit (a.toNat / 4), digit (a.toNat % 4 * 16), '=', '=']
  | [] => []

def b64encode (bytes : List UInt8) : String := String.ofList (encodeBytes bytes)

/-- `binascii.Error`. -/
inductive DecodeError where
  | oneMoreThanMultipleOfFour
  | incorrectPadding
  deriving DecidableEq, Repr

/-- The decoder's loop: `quad` digits of the current group of four were read,
`left` holds the bits not yet written, and `pads` counts padding in a row. -/
def decodeFrom : List Char → (quad left pads : Nat) → Except DecodeError (List UInt8)
  | [], quad, _, _ =>
    if quad = 0 then .ok []
    else if quad = 1 then .error .oneMoreThanMultipleOfFour
    else .error .incorrectPadding
  | character :: rest, quad, left, pads =>
    if character = '=' then
      if 2 ≤ quad then
        if 4 ≤ quad + (pads + 1) then .ok [] else decodeFrom rest quad left (pads + 1)
      else decodeFrom rest quad left pads
    else
      match value? character with
      | none => decodeFrom rest quad left pads
      | some value =>
        match quad with
        | 0 => decodeFrom rest 1 value 0
        | 1 => (UInt8.ofNat (left * 4 + value / 16) :: ·) <$> decodeFrom rest 2 (value % 16) 0
        | 2 => (UInt8.ofNat (left * 16 + value / 4) :: ·) <$> decodeFrom rest 3 (value % 4) 0
        | _ => (UInt8.ofNat (left * 64 + value) :: ·) <$> decodeFrom rest 0 0 0

def b64decode (text : String) : Except DecodeError (List UInt8) := decodeFrom text.toList 0 0 0

private theorem value_digit : ∀ value < 64, value? (digit value) = some value ∧ digit value ≠ '=' := by
  decide +kernel

private theorem read_first (small : value < 64) :
    decodeFrom (digit value :: rest) 0 left pads = decodeFrom rest 1 value 0 := by
  obtain ⟨read, data⟩ := value_digit value small
  simp only [decodeFrom, if_neg data, read]

private theorem read_second (small : value < 64) :
    decodeFrom (digit value :: rest) 1 left pads =
      (UInt8.ofNat (left * 4 + value / 16) :: ·) <$> decodeFrom rest 2 (value % 16) 0 := by
  obtain ⟨read, data⟩ := value_digit value small
  simp only [decodeFrom, if_neg data, read]

private theorem read_third (small : value < 64) :
    decodeFrom (digit value :: rest) 2 left pads =
      (UInt8.ofNat (left * 16 + value / 4) :: ·) <$> decodeFrom rest 3 (value % 4) 0 := by
  obtain ⟨read, data⟩ := value_digit value small
  simp only [decodeFrom, if_neg data, read]

private theorem read_fourth (small : value < 64) :
    decodeFrom (digit value :: rest) 3 left pads =
      (UInt8.ofNat (left * 64 + value) :: ·) <$> decodeFrom rest 0 0 0 := by
  obtain ⟨read, data⟩ := value_digit value small
  simp only [decodeFrom, if_neg data, read]

private theorem ofNat_eq (byte : UInt8) (same : number = byte.toNat) : UInt8.ofNat number = byte := by
  rw [same, UInt8.ofNat_toNat]

private theorem decode_encode (bytes : List UInt8) :
    decodeFrom (encodeBytes bytes) 0 0 0 = .ok bytes := by
  fun_induction encodeBytes bytes with
  | case1 a b c rest ih =>
    have ha := a.toNat_lt
    have hb := b.toNat_lt
    have hc := c.toNat_lt
    rw [read_first (by omega), read_second (by omega), read_third (by omega), read_fourth (by omega),
      ih, ofNat_eq a (by omega), ofNat_eq b (by omega), ofNat_eq c (by omega)]
    rfl
  | case2 a b =>
    have ha := a.toNat_lt
    have hb := b.toNat_lt
    rw [read_first (by omega), read_second (by omega), read_third (by omega),
      ofNat_eq a (by omega), ofNat_eq b (by omega)]
    rfl
  | case3 a =>
    have ha := a.toNat_lt
    rw [read_first (by omega), read_second (by omega), ofNat_eq a (by omega)]
    rfl
  | case4 => rfl

/-- Decoding recovers every byte string. -/
theorem b64decode_b64encode (bytes : List UInt8) : b64decode (b64encode bytes) = .ok bytes := by
  rw [b64decode, b64encode, String.toList_ofList, decode_encode]

theorem b64encode_injective {one other : List UInt8} (same : b64encode one = b64encode other) : one = other := by
  have decoded := congrArg b64decode same
  rw [b64decode_b64encode, b64decode_b64encode] at decoded
  exact Except.ok.inj decoded

end TemplatePreview.Base64
