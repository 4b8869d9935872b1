/-
# Text

A text is the list of its Unicode scalar values.  This file has the string operations of a
standard library on that representation: splitting at a character, decimal output, the parsing of
unsigned decimal numbers and the white-space test.
-/
import Mathlib.Data.List.Basic
import Mathlib.Data.Nat.Notation
import Mathlib.Order.Basic

namespace Lib

/-- A text, as the list of its characters. -/
abbrev Str := List Char

instance decidableMemStr (s : Str) (l : List Str) : Decidable (s ∈ l) :=
  List.instDecidableMemOfLawfulBEq s l

namespace Str

/-- Split at the first occurrence of `c`, which is dropped. -/
def splitOnce (c : Char) (s : Str) : Option (Str × Str) :=
  match s.dropWhile (· ≠ c) with
  | [] => none
  | _ :: rest => some (s.takeWhile (· ≠ c), rest)

/-- Split at the last occurrence of `c`, which is dropped. -/
def rsplitOnce (c : Char) (s : Str) : Option (Str × Str) :=
  (splitOnce c s.reverse).map fun p => (p.2.reverse, p.1.reverse)

/-- All the parts between the occurrences of `c`. -/
def split (c : Char) (s : Str) : List Str := s.splitOn c

/-- The text without a leading `p`. -/
def stripStart (p s : Str) : Option Str :=
  if p.isPrefixOf s then some (s.drop p.length) else none

/-- The decimal digits of a number. -/
def decimal (n : ℕ) : Str := Nat.toDigits 10 n

/-- The loop of an unsigned decimal parser for numbers below `bound`. -/
def parseDigits (bound : ℕ) : ℕ → Str → Except Str ℕ
  | acc, [] => .ok acc
  | acc, c :: s =>
      if c.isDigit then
        let next := acc * 10 + (c.toNat - '0'.toNat)
        if next < bound then parseDigits bound next s
        else .error "number too large to fit in target type".toList
      else .error "invalid digit found in string".toList

/-- Parse an unsigned decimal number below `bound`: one or more ASCII digits, after an optional
plus sign. -/
def parseUnsigned (bound : ℕ) (s : Str) : Except Str ℕ :=
  match s with
  | [] => .error "cannot parse integer from empty string".toList
  | ['+'] => .error "invalid digit found in string".toList
  | '+' :: rest => parseDigits bound 0 rest
  | s => parseDigits bound 0 s

/-- Equality up to the case of ASCII letters. -/
def eqIgnoreAsciiCase (s t : Str) : Bool := s.map Char.toLower == t.map Char.toLower

/-- The Unicode property `White_Space`. -/
def isWhitespace (c : Char) : Bool :=
  let n := c.toNat
  (9 ≤ n && n ≤ 13) || n == 0x20 || n == 0x85 || n == 0xA0 || n == 0x1680 ||
    (0x2000 ≤ n && n ≤ 0x200A) || n == 0x2028 || n == 0x2029 || n == 0x202F || n == 0x205F ||
    n == 0x3000

/-- The text without white space at both ends. -/
def trim (s : Str) : Str :=
  ((s.dropWhile isWhitespace).reverse.dropWhile isWhitespace).reverse

end Str

end Lib
