/-
Text helpers with Python's behaviour on strings, written over lists of
characters.
-/
import Mathlib.Data.List.Sort
import Mathlib.Data.String.Basic

namespace OpsCure.Text

/-- The characters `str.strip` removes. -/
def isSpace (c : Char) : Bool :=
  let n := c.toNat
  (9 ≤ n && n ≤ 13) || (28 ≤ n && n ≤ 32) || n == 0x85 || n == 0xA0 ||
    n == 0x1680 || (0x2000 ≤ n && n ≤ 0x200A) || n == 0x2028 || n == 0x2029 ||
    n == 0x202F || n == 0x205F || n == 0x3000

/-- `text.strip()`. -/
def strip (text : String) : String :=
  String.ofList
    ((text.toList.dropWhile isSpace).reverse.dropWhile isSpace).reverse

/-- `" ".join(text.split())`. -/
def collapse (text : String) : String :=
  " ".intercalate (((text.toList.splitOnP isSpace).filter (· ≠ [])).map String.ofList)

/-- `c.lower()` as far as the result is an ASCII letter: besides the ASCII
capitals, only the Kelvin sign has one. -/
def lowerChar (c : Char) : Char :=
  if c.toNat = 0x212A then 'k' else c.toLower

/-- `text.lower()`, for comparison with ASCII words. -/
def lower (text : String) : String :=
  String.ofList (text.toList.map lowerChar)

/-- `a or b` on an optional text: both `None` and the empty text are falsy. -/
def orElse (text : Option String) (fallback : String) : String :=
  match text with
  | some value => if value = "" then fallback else value
  | none => fallback

/-- `bool(text)` on an optional text. -/
def present (text : Option String) : Bool :=
  match text with
  | some value => value ≠ ""
  | none => false

def renderSorted (words : List String) : String :=
  let quoted := (words.insertionSort (· ≤ ·)).map fun word => "'" ++ word ++ "'"
  "[" ++ ", ".intercalate quoted ++ "]"

def renderWords (words : List String) : String :=
  "[" ++ ", ".intercalate (words.map fun word => "'" ++ word ++ "'") ++ "]"

/-- The digits after the first of a decimal literal, single underscores allowed
between them. -/
def parseDigits (value : Nat) : List Char → Option Nat
  | [] => some value
  | '_' :: digit :: rest =>
      if digit.isDigit then parseDigits (10 * value + (digit.toNat - 48)) rest else none
  | digit :: rest =>
      if digit.isDigit then parseDigits (10 * value + (digit.toNat - 48)) rest else none

def parseNat : List Char → Option Nat
  | [] => none
  | digit :: rest => if digit.isDigit then parseDigits (digit.toNat - 48) rest else none

/-- `int(text)` on a decimal literal in ASCII digits. -/
def parseInt (text : String) : Option Int :=
  match (strip text).toList with
  | '-' :: rest => (parseNat rest).map fun value => -(value : Int)
  | '+' :: rest => (parseNat rest).map Int.ofNat
  | digits => (parseNat digits).map Int.ofNat

example : parseInt " -1_024 " = some (-1024) := by decide

theorem toLower_cases (c : Char) :
    (65 ≤ c.toNat ∧ c.toNat ≤ 90 ∧ c.toLower.toNat = c.toNat + 32) ∨
      (¬ (65 ≤ c.toNat ∧ c.toNat ≤ 90) ∧ c.toLower = c) := by
  unfold Char.toLower
  split
  · next hcapital =>
      have hlow : 65 ≤ c.toNat := UInt32.le_iff_toNat_le.mp hcapital.1
      have hhigh : c.toNat ≤ 90 := UInt32.le_iff_toNat_le.mp hcapital.2
      have hsum : (c.val + ('a'.val - 'A'.val)).toNat = c.toNat + 32 := by
        have hshift : ('a'.val - 'A'.val).toNat = 32 := by decide
        have hval : c.val.toNat = c.toNat := rfl
        rw [UInt32.toNat_add, hshift, hval]
        omega
      exact Or.inl ⟨hlow, hhigh, hsum⟩
  · next hother =>
      refine Or.inr ⟨fun hcapital => hother ?_, rfl⟩
      exact ⟨UInt32.le_iff_toNat_le.mpr hcapital.1, UInt32.le_iff_toNat_le.mpr hcapital.2⟩

theorem token_within {α : Type _} {sep : α} {token : List α} {tokens : List (List α)}
    (htoken : token ∈ tokens.dropLast) :
    token ++ [sep] <+: [sep].intercalate tokens ∨
      [sep] ++ token ++ [sep] <:+: [sep].intercalate tokens := by
  induction tokens with
  | nil => simp at htoken
  | cons first rest ih =>
      cases rest with
      | nil => simp at htoken
      | cons second rest =>
          have hjoined : [sep].intercalate (first :: second :: rest) =
              first ++ [sep] ++ [sep].intercalate (second :: rest) := by
            simp [List.intercalate]
          rw [hjoined]
          rw [List.dropLast_cons_cons, List.mem_cons] at htoken
          rcases htoken with rfl | htoken
          · exact Or.inl (List.prefix_append _ _)
          · right
            rcases ih htoken with hopens | hbetween
            · rcases hopens with ⟨tail, htail⟩
              exact ⟨first, tail, by simp [← htail]⟩
            · exact hbetween.trans (List.suffix_append _ _).isInfix

end OpsCure.Text
