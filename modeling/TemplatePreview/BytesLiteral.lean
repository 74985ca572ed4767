import Mathlib.Data.List.Basic
import Mathlib.Data.String.Basic

/-! How Python prints a value of type bytes: as the literal it would be read from.
No two values are printed alike. -/
namespace TemplatePreview.BytesLiteral

def hexDigits : List Char := "0123456789abcdef".toList

def hexDigit (value : Nat) : Char := hexDigits.getD value '0'

/-- What stands for a character between quotes. -/
def escape (quote character : Char) : List Char :=
  if character = quote ∨ character = '\\' then ['\\', character]
  else if character = '\t' then ['\\', 't']
  else if character = '\n' then ['\\', 'n']
  else if character = '\r' then ['\\', 'r']
  else if character.toNat < 32 ∨ 127 ≤ character.toNat then
    ['\\', 'x', hexDigit (character.toNat / 16), hexDigit (character.toNat % 16)]
  else [character]

def character (byte : UInt8) : Char := Char.ofNat byte.toNat

/-- Double quotes only where they save escaping a single one. -/
def quoteOf (bytes : List UInt8) : Char := if 39 ∈ bytes ∧ 34 ∉ bytes then '"' else '\''

/-- `str` of a value of type bytes. -/
def strOfBytes (bytes : List UInt8) : String :=
  String.ofList
    ('b' :: quoteOf bytes :: ((bytes.map character).flatMap (escape (quoteOf bytes)) ++ [quoteOf bytes]))

/-! ## Reading a literal -/

/-- The code of the first character between quotes, and the rest. -/
def unescape : List Char → Option (Nat × List Char)
  | '\\' :: 'x' :: high :: low :: rest => some (hexDigits.idxOf high * 16 + hexDigits.idxOf low, rest)
  | '\\' :: 't' :: rest => some (9, rest)
  | '\\' :: 'n' :: rest => some (10, rest)
  | '\\' :: 'r' :: rest => some (13, rest)
  | '\\' :: next :: rest => some (next.toNat, rest)
  | next :: rest => some (next.toNat, rest)
  | [] => none

private theorem idxOf_hexDigit : ∀ value < 16, hexDigits.idxOf (hexDigit value) = value := by decide

private theorem unescape_escape {quote next : Char} (quoted : quote = '\'' ∨ quote = '"') (byte : next.toNat < 256)
    (rest : List Char) : unescape (escape quote next ++ rest) = some (next.toNat, rest) := by
  unfold escape
  split_ifs with special tab newline return' hidden
  · rcases special with rfl | rfl
    · rcases quoted with rfl | rfl <;> rfl
    · rfl
  · subst tab
    rfl
  · subst newline
    rfl
  · subst return'
    rfl
  · have value : next.toNat / 16 * 16 + next.toNat % 16 = next.toNat := Nat.div_add_mod' ..
    simp [unescape, idxOf_hexDigit (next.toNat / 16) (by omega),
      idxOf_hexDigit (next.toNat % 16) (by omega), value]
  · have plain : next ≠ '\\' := fun same => special (.inr same)
    simp [unescape, plain]

private theorem toNat_character (byte : UInt8) : (character byte).toNat = byte.toNat := by
  have small : byte.toNat < 256 := byte.toNat_lt
  have valid : byte.toNat.isValidChar := .inl (by omega)
  have defined : character byte = Char.ofNatAux byte.toNat valid := dif_pos valid
  rw [defined]
  rfl

/-- Escaped characters can be told apart in sequence. -/
private theorem flatMap_escape_inj {quote : Char} (quoted : quote = '\'' ∨ quote = '"') {one other : List UInt8}
    (same : (one.map character).flatMap (escape quote) = (other.map character).flatMap (escape quote)) :
    one = other := by
  have byte (next : UInt8) : (character next).toNat < 256 := by
    rw [toNat_character]
    exact next.toNat_lt
  have filled (next : UInt8) (rest : List Char) : escape quote (character next) ++ rest ≠ [] := by
    intro empty
    have read := unescape_escape quoted (byte next) rest
    rw [empty] at read
    cases read
  induction one generalizing other with
  | nil =>
    cases other with
    | nil => rfl
    | cons next rest => exact absurd same.symm (filled next _)
  | cons first rest ih =>
    cases other with
    | nil => exact absurd same (filled first _)
    | cons next others =>
      simp only [List.map_cons, List.flatMap_cons] at same
      have read := congrArg unescape same
      rw [unescape_escape quoted (byte first), unescape_escape quoted (byte next)] at read
      obtain ⟨codes, later⟩ := Prod.mk.inj (Option.some.inj read)
      rw [toNat_character, toNat_character, UInt8.toNat_inj] at codes
      rw [codes, ih later]

/-- No two values of type bytes are printed alike. -/
theorem strOfBytes_injective : Function.Injective strOfBytes := by
  intro one other same
  have characters := String.ofList_injective same
  simp only [List.cons.injEq, true_and] at characters
  obtain ⟨quotes, body⟩ := characters
  rw [← quotes] at body
  have quoted : quoteOf one = '\'' ∨ quoteOf one = '"' := by
    unfold quoteOf
    split_ifs
    · exact .inr rfl
    · exact .inl rfl
  exact flatMap_escape_inj quoted (List.append_cancel_right body)

example : strOfBytes [37, 80, 68, 70, 39, 10, 255] = "b\"%PDF'\\n\\xff\"" := by decide +kernel

end TemplatePreview.BytesLiteral
