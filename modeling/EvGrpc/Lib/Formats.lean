import Mathlib.Data.Rat.Defs
import Mathlib.Data.List.Basic
import Mathlib.Data.List.TakeWhile
import Mathlib.Data.Fin.Basic

/-!
# Formats: JSON values and base64

What a JSON parser gives.  The members of an object are listed with their names; a parser
that keeps one value for each name lists each name once.

In base64 three bytes are four digits of base 64.  The standard encoding writes the digits in an
alphabet that ends in `+` and `/` and fills the last group up with `=`; the URL-safe one without
padding writes them in an alphabet that ends in `-` and `_` and stops after the last digit.
Decoding the standard encoding gives the bytes back (`decode_encode`).
-/

namespace EvGrpc.Lib

/-! ## JSON -/

/-- A JSON value. -/
inductive Json
  | null
  | boolean (b : Bool)
  | integer (n : ℤ)
  | unsigned (n : ℕ)
  | float (q : ℚ)
  | string (s : String)
  | array (elems : List Json)
  | object (members : List (String × Json))

namespace Json

def isObject : Json → Bool
  | object _ => true
  | _ => false

/-- The member of an object with this name. -/
def member? : Json → String → Option Json
  | object ms, name => (ms.find? fun m => m.1 == name).map Prod.snd
  | _, _ => none

/-- The members of an object. -/
def members : Json → List (String × Json)
  | object ms => ms
  | _ => []

/-- The value of a number that is an integer. -/
def integer? : Json → Option ℤ
  | integer n => some n
  | unsigned n => some n
  | _ => none

/-- The text of a string. -/
def string? : Json → Option String
  | string s => some s
  | _ => none

/-- The elements of an array. -/
def array? : Json → Option (List Json)
  | array es => some es
  | _ => none

/-- Only an object has members. -/
theorem isObject_of_member? {k j : Json} {name : String} (h : k.member? name = some j) :
    k.isObject = true := by
  cases k with
  | object ms => rfl
  | _ => cases h

end Json

namespace Base64

/-- A byte. -/
abbrev Byte := Fin 256

/-! ## Digits -/

/-- The digits of some bytes, from the first bit to the last; the last digit of a group that is
not complete is filled up with zeros. -/
def sextets : List Byte → List (Fin 64)
  | [] => []
  | [a] => [⟨a / 4, by omega⟩, ⟨a % 4 * 16, by omega⟩]
  | [a, b] => [⟨a / 4, by omega⟩, ⟨a % 4 * 16 + b / 16, by omega⟩, ⟨b % 16 * 4, by omega⟩]
  | a :: b :: c :: rest =>
      ⟨a / 4, by omega⟩ :: ⟨a % 4 * 16 + b / 16, by omega⟩ :: ⟨b % 16 * 4 + c / 64, by omega⟩ ::
        ⟨c % 64, by omega⟩ :: sextets rest

theorem length_sextets (bs : List Byte) : (sextets bs).length = (4 * bs.length + 2) / 3 := by
  fun_induction sextets bs with
  | case1 => rfl
  | case2 a => simp
  | case3 a b => simp
  | case4 a b c rest ih =>
      simp only [List.length_cons, ih]
      omega

/-- The bytes of some digits. -/
def unsextets : List (Fin 64) → List Byte
  | a :: b :: c :: d :: rest =>
      ⟨a * 4 + b / 16, by omega⟩ :: ⟨b % 16 * 16 + c / 4, by omega⟩ :: ⟨c % 4 * 64 + d, by omega⟩ ::
        unsextets rest
  | [a, b, c] => [⟨a * 4 + b / 16, by omega⟩, ⟨b % 16 * 16 + c / 4, by omega⟩]
  | [a, b] => [⟨a * 4 + b / 16, by omega⟩]
  | [_] | [] => []

theorem unsextets_sextets (bs : List Byte) : unsextets (sextets bs) = bs := by
  fun_induction sextets bs with
  | case1 => rfl
  | case2 a =>
      simp only [unsextets, List.cons.injEq, and_true, Fin.ext_iff]
      omega
  | case3 a b =>
      simp only [unsextets, List.cons.injEq, and_true, Fin.ext_iff]
      omega
  | case4 a b c rest ih =>
      simp only [unsextets, ih, List.cons.injEq, and_true, Fin.ext_iff]
      omega

/-! ## Alphabets -/

/-- The digits that both alphabets share. -/
def letters : List Char :=
  "ABCDEFGHIJKLMNOPQRSTUVWXYZabcdefghijklmnopqrstuvwxyz0123456789".toList

/-- A digit of the standard alphabet. -/
def symbol (i : Fin 64) : Char := (letters ++ ['+', '/']).getD i '='

/-- A digit of the URL-safe alphabet. -/
def urlSymbol (i : Fin 64) : Char := (letters ++ ['-', '_']).getD i '='

theorem symbol_ne_pad (i : Fin 64) : symbol i ≠ '=' := by
  revert i
  decide +kernel

/-- The digit of a character. -/
def digit (c : Char) : Option (Fin 64) := (List.finRange 64).find? fun i => decide (symbol i = c)

theorem digit_symbol (i : Fin 64) : digit (symbol i) = some i := by
  revert i
  decide +kernel

/-! ## Encodings -/

/-- The standard encoding, with padding. -/
def encode (bs : List Byte) : List Char :=
  (sextets bs).map symbol ++ List.replicate ((3 - bs.length % 3) % 3) '='

/-- The URL-safe encoding, without padding. -/
def encodeUrl (bs : List Byte) : List Char := (sextets bs).map urlSymbol

theorem length_encode (bs : List Byte) : (encode bs).length = 4 * ((bs.length + 2) / 3) := by
  simp only [encode, List.length_append, List.length_map, length_sextets, List.length_replicate]
  omega

/-- The bytes of a standard encoding; `none` where a character is no digit. -/
def decode (cs : List Char) : Option (List Byte) :=
  ((cs.takeWhile (· ≠ '=')).mapM digit).map unsextets

/-- Decoding gives the bytes back. -/
theorem decode_encode (bs : List Byte) : decode (encode bs) = some bs := by
  have hdigits : (encode bs).takeWhile (· ≠ '=') = (sextets bs).map symbol := by
    rw [encode, List.takeWhile_append_of_pos]
    · cases (3 - bs.length % 3) % 3 <;> simp [List.replicate_succ]
    · intro c hc
      obtain ⟨i, -, rfl⟩ := List.mem_map.mp hc
      simpa using symbol_ne_pad i
  have hread : ((sextets bs).map symbol).mapM digit = some (sextets bs) := by
    induction sextets bs with
    | nil => rfl
    | cons i is ih => simp [List.mapM_cons, digit_symbol, ih]
  rw [decode, hdigits, hread, Option.map_some, unsextets_sextets]

end Base64

end EvGrpc.Lib
