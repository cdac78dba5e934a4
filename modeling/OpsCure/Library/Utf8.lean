/-
UTF-8 as Python's codec writes and reads it.  The decoder takes a byte at a time, so that a text may
arrive in chunks.  What is no UTF-8 it replaces (`errors="replace"`): one U+FFFD for each longest part
that could have begun a character.
-/
import Mathlib.Data.List.Basic
import Mathlib.Tactic.Common

namespace OpsCure.Utf8

abbrev Bytes := List UInt8

/-! ## Encoding -/

def encodeChar (c : Char) : Bytes :=
  let value := c.toNat
  if value < 0x80 then [value.toUInt8]
  else if value < 0x800 then [(0xC0 + value / 64).toUInt8, (0x80 + value % 64).toUInt8]
  else if value < 0x10000 then
    [(0xE0 + value / 4096).toUInt8, (0x80 + value / 64 % 64).toUInt8, (0x80 + value % 64).toUInt8]
  else
    [(0xF0 + value / 262144).toUInt8, (0x80 + value / 4096 % 64).toUInt8,
      (0x80 + value / 64 % 64).toUInt8, (0x80 + value % 64).toUInt8]

def encode (text : List Char) : Bytes := text.flatMap encodeChar

/-! ## Decoding -/

/-- Where the decoder stands: between characters, or within one, with its value so far, the bytes
that it lacks, and the range of the six bits in the next one. -/
inductive State where
  | start
  | within (value lacks low high : Nat)
deriving DecidableEq, Repr

def replacement : Char := '\uFFFD'

def first (byte : Nat) : List Char × State :=
  if byte < 0x80 then ([Char.ofNat byte], .start)
  else if 0xC2 ≤ byte ∧ byte ≤ 0xDF then ([], .within (byte - 0xC0) 1 0 0x3F)
  -- A longer form than a value needs, a surrogate and a value above the last plane end here.
  else if byte = 0xE0 then ([], .within 0 2 0x20 0x3F)
  else if byte = 0xED then ([], .within 0x0D 2 0 0x1F)
  else if 0xE1 ≤ byte ∧ byte ≤ 0xEF then ([], .within (byte - 0xE0) 2 0 0x3F)
  else if byte = 0xF0 then ([], .within 0 3 0x10 0x3F)
  else if 0xF1 ≤ byte ∧ byte ≤ 0xF3 then ([], .within (byte - 0xF0) 3 0 0x3F)
  else if byte = 0xF4 then ([], .within 4 3 0 0x0F)
  else ([replacement], .start)

def step (state : State) (byte : UInt8) : List Char × State :=
  match state with
  | .start => first byte.toNat
  | .within value lacks low high =>
      if 0x80 + low ≤ byte.toNat ∧ byte.toNat ≤ 0x80 + high then
        let value := 64 * value + (byte.toNat - 0x80)
        if lacks ≤ 1 then ([Char.ofNat value], .start)
        else ([], .within value (lacks - 1) 0 0x3F)
      else (replacement :: (first byte.toNat).1, (first byte.toNat).2)

/-- The incremental decoder: the text of a chunk, and where it stands behind it. -/
def decodeFrom (state : State) : Bytes → List Char × State
  | [] => ([], state)
  | byte :: bytes =>
      ((step state byte).1 ++ (decodeFrom (step state byte).2 bytes).1,
        (decodeFrom (step state byte).2 bytes).2)

/-- What the end of the bytes makes of a character that is not complete. -/
def finish : State → List Char
  | .start => []
  | .within _ _ _ _ => [replacement]

/-- `bytes.decode("utf-8", errors="replace")`. -/
def decode (bytes : Bytes) : List Char :=
  (decodeFrom .start bytes).1 ++ finish (decodeFrom .start bytes).2

theorem decodeFrom_append (state : State) (bytes more : Bytes) :
    decodeFrom state (bytes ++ more) =
      ((decodeFrom state bytes).1 ++ (decodeFrom (decodeFrom state bytes).2 more).1,
        (decodeFrom (decodeFrom state bytes).2 more).2) := by
  induction bytes generalizing state with
  | nil => rfl
  | cons byte bytes ih =>
      rw [List.cons_append, decodeFrom, decodeFrom, ih, List.append_assoc]

/-! ## Decoding what was encoded -/

theorem toNat_byte {value : Nat} (hvalue : value < 256) : value.toUInt8.toNat = value := by
  have hmod : value.toUInt8.toNat = value % 256 := rfl
  omega

theorem step_tail {value lacks low high bits : Nat} (hlow : low ≤ bits) (hhigh : bits ≤ high)
    (hbits : bits < 64) :
    step (.within value lacks low high) (0x80 + bits).toUInt8 =
      if lacks ≤ 1 then ([Char.ofNat (64 * value + bits)], .start)
      else ([], .within (64 * value + bits) (lacks - 1) 0 0x3F) := by
  have hbyte : (0x80 + bits).toUInt8.toNat = 0x80 + bits := toNat_byte (by omega)
  have hvalue : 0x80 + bits - 0x80 = bits := by omega
  simp only [step, hbyte, hvalue]
  rw [if_pos (by omega)]

theorem toNat_valid (c : Char) : c.toNat < 0xD800 ∨ 0xDFFF < c.toNat ∧ c.toNat < 0x110000 :=
  c.valid

variable {c : Char}

theorem decodeFrom_two (hlow : 0x80 ≤ c.toNat) (hhigh : c.toNat < 0x800) :
    decodeFrom .start [(0xC0 + c.toNat / 64).toUInt8, (0x80 + c.toNat % 64).toUInt8] =
      ([c], .start) := by
  have hbyte : (0xC0 + c.toNat / 64).toUInt8.toNat = 0xC0 + c.toNat / 64 :=
    toNat_byte (by omega)
  have hfirst : step .start (0xC0 + c.toNat / 64).toUInt8 =
      ([], .within (c.toNat / 64) 1 0 0x3F) := by
    simp only [step, hbyte, first]
    rw [if_neg (by omega), if_pos (by omega), Nat.add_sub_cancel_left]
  have hlast := @step_tail (c.toNat / 64) 1 0 0x3F (c.toNat % 64) (by omega) (by omega)
    (by omega)
  have hvalue : 64 * (c.toNat / 64) + c.toNat % 64 = c.toNat := by omega
  rw [if_pos (Nat.le_refl 1), hvalue, Char.ofNat_toNat] at hlast
  simp only [decodeFrom, hfirst, hlast, List.nil_append, List.append_nil]

theorem first_three (hlow : 0x800 ≤ c.toNat) (hhigh : c.toNat < 0x10000) :
    ∃ low high, step .start (0xE0 + c.toNat / 4096).toUInt8 =
        ([], .within (c.toNat / 4096) 2 low high) ∧
      low ≤ c.toNat / 64 % 64 ∧ c.toNat / 64 % 64 ≤ high := by
  have hbyte : (0xE0 + c.toNat / 4096).toUInt8.toNat = 0xE0 + c.toNat / 4096 :=
    toNat_byte (by omega)
  have hvalid := toNat_valid c
  simp only [step, hbyte, first]
  rw [if_neg (by omega), if_neg (by omega)]
  by_cases hlong : 0xE0 + c.toNat / 4096 = 0xE0
  · rw [if_pos hlong]
    have hzero : c.toNat / 4096 = 0 := by omega
    rw [hzero]
    exact ⟨0x20, 0x3F, rfl, by omega, by omega⟩
  · rw [if_neg hlong]
    by_cases hsurrogate : 0xE0 + c.toNat / 4096 = 0xED
    · rw [if_pos hsurrogate]
      have hthirteen : c.toNat / 4096 = 0x0D := by omega
      rw [hthirteen]
      exact ⟨0, 0x1F, rfl, by omega, by omega⟩
    · rw [if_neg hsurrogate, if_pos (by omega), Nat.add_sub_cancel_left]
      exact ⟨0, 0x3F, rfl, by omega, by omega⟩

theorem decodeFrom_three (hlow : 0x800 ≤ c.toNat) (hhigh : c.toNat < 0x10000) :
    decodeFrom .start [(0xE0 + c.toNat / 4096).toUInt8, (0x80 + c.toNat / 64 % 64).toUInt8,
      (0x80 + c.toNat % 64).toUInt8] = ([c], .start) := by
  obtain ⟨low, high, hfirst, hmiddleLow, hmiddleHigh⟩ := first_three hlow hhigh
  have hmiddle := @step_tail (c.toNat / 4096) 2 low high (c.toNat / 64 % 64) hmiddleLow
    hmiddleHigh (by omega)
  rw [if_neg (by omega)] at hmiddle
  have hlast := @step_tail (64 * (c.toNat / 4096) + c.toNat / 64 % 64) 1 0 0x3F
    (c.toNat % 64) (by omega) (by omega) (by omega)
  have hvalue : 64 * (64 * (c.toNat / 4096) + c.toNat / 64 % 64) + c.toNat % 64 = c.toNat := by
    omega
  rw [if_pos (Nat.le_refl 1), hvalue, Char.ofNat_toNat] at hlast
  simp only [decodeFrom, hfirst, hmiddle, hlast, List.nil_append, List.append_nil]

theorem first_four (hlow : 0x10000 ≤ c.toNat) :
    ∃ low high, step .start (0xF0 + c.toNat / 262144).toUInt8 =
        ([], .within (c.toNat / 262144) 3 low high) ∧
      low ≤ c.toNat / 4096 % 64 ∧ c.toNat / 4096 % 64 ≤ high := by
  have hvalid := toNat_valid c
  have hbyte : (0xF0 + c.toNat / 262144).toUInt8.toNat = 0xF0 + c.toNat / 262144 :=
    toNat_byte (by omega)
  simp only [step, hbyte, first]
  rw [if_neg (by omega), if_neg (by omega), if_neg (by omega), if_neg (by omega),
    if_neg (by omega)]
  by_cases hlong : 0xF0 + c.toNat / 262144 = 0xF0
  · rw [if_pos hlong]
    have hzero : c.toNat / 262144 = 0 := by omega
    rw [hzero]
    exact ⟨0x10, 0x3F, rfl, by omega, by omega⟩
  · rw [if_neg hlong]
    by_cases hlast : 0xF0 + c.toNat / 262144 ≤ 0xF3
    · rw [if_pos (by omega), Nat.add_sub_cancel_left]
      exact ⟨0, 0x3F, rfl, by omega, by omega⟩
    · have hfour : c.toNat / 262144 = 4 := by omega
      rw [if_neg (by omega), if_pos (by omega), hfour]
      exact ⟨0, 0x0F, rfl, by omega, by omega⟩

theorem decodeFrom_four (hlow : 0x10000 ≤ c.toNat) :
    decodeFrom .start [(0xF0 + c.toNat / 262144).toUInt8, (0x80 + c.toNat / 4096 % 64).toUInt8,
      (0x80 + c.toNat / 64 % 64).toUInt8, (0x80 + c.toNat % 64).toUInt8] = ([c], .start) := by
  obtain ⟨low, high, hfirst, hsecondLow, hsecondHigh⟩ := first_four hlow
  have hsecond := @step_tail (c.toNat / 262144) 3 low high (c.toNat / 4096 % 64) hsecondLow
    hsecondHigh (by omega)
  rw [if_neg (by omega)] at hsecond
  have hthird := @step_tail (64 * (c.toNat / 262144) + c.toNat / 4096 % 64) 2 0 0x3F
    (c.toNat / 64 % 64) (by omega) (by omega) (by omega)
  rw [if_neg (by omega)] at hthird
  have hlast := @step_tail
    (64 * (64 * (c.toNat / 262144) + c.toNat / 4096 % 64) + c.toNat / 64 % 64) 1 0 0x3F
    (c.toNat % 64) (by omega) (by omega) (by omega)
  have hvalue : 64 * (64 * (64 * (c.toNat / 262144) + c.toNat / 4096 % 64) + c.toNat / 64 % 64) +
      c.toNat % 64 = c.toNat := by
    omega
  rw [if_pos (Nat.le_refl 1), hvalue, Char.ofNat_toNat] at hlast
  simp only [decodeFrom, hfirst, hsecond, hthird, hlast, List.nil_append, List.append_nil]

theorem decodeFrom_encodeChar (c : Char) : decodeFrom .start (encodeChar c) = ([c], .start) := by
  simp only [encodeChar]
  split
  · next hone =>
      have hbyte : c.toNat.toUInt8.toNat = c.toNat := toNat_byte (by omega)
      simp only [decodeFrom, step, hbyte, first]
      rw [if_pos hone, Char.ofNat_toNat]
      rfl
  · split
    · exact decodeFrom_two (by omega) (by omega)
    · split
      · exact decodeFrom_three (by omega) (by omega)
      · exact decodeFrom_four (by omega)

theorem decodeFrom_encode (text : List Char) : decodeFrom .start (encode text) = (text, .start) := by
  induction text with
  | nil => rfl
  | cons c text ih =>
      rw [encode] at ih
      rw [encode, List.flatMap_cons, decodeFrom_append, decodeFrom_encodeChar, ih]
      rfl

@[simp]
theorem decode_encode (text : List Char) : decode (encode text) = text := by
  rw [decode, decodeFrom_encode]
  exact List.append_nil text

theorem encode_append (text more : List Char) : encode (text ++ more) = encode text ++ encode more :=
  List.flatMap_append

/-! ## Line feeds -/

theorem step_ascii (state : State) {byte : UInt8} (hascii : byte.toNat < 0x80) :
    step state byte = (finish state ++ [Char.ofNat byte.toNat], .start) := by
  have hfirst : first byte.toNat = ([Char.ofNat byte.toNat], .start) := if_pos hascii
  cases state with
  | start => exact hfirst
  | within value lacks low high =>
      simp only [step]
      rw [if_neg (by omega), hfirst]
      rfl

theorem decode_append_lf (bytes more : Bytes) :
    decode (bytes ++ 0x0A :: more) = decode bytes ++ '\n' :: decode more := by
  have hlf : step (decodeFrom .start bytes).2 0x0A =
      (finish (decodeFrom .start bytes).2 ++ ['\n'], .start) :=
    step_ascii _ (by decide)
  simp only [decode, decodeFrom_append, decodeFrom, hlf]
  simp only [List.append_assoc, List.cons_append, List.nil_append]

theorem lf_ne_byte {value : Nat} (hlow : 0x80 ≤ value) (hhigh : value < 256) :
    0x0A ≠ value.toUInt8 := by
  intro hsame
  have hbyte := congrArg UInt8.toNat hsame
  rw [toNat_byte hhigh] at hbyte
  have hlf : (0x0A : UInt8).toNat = 10 := rfl
  omega

theorem lf_mem_encodeChar : 0x0A ∈ encodeChar c ↔ c = '\n' := by
  constructor
  · intro hmem
    have hvalid := toNat_valid c
    simp only [encodeChar] at hmem
    split at hmem
    · next hone =>
        have hbyte := congrArg UInt8.toNat (List.mem_singleton.mp hmem)
        rw [toNat_byte (by omega)] at hbyte
        have hlf : c.toNat = '\n'.toNat := hbyte.symm
        exact Char.toNat_inj.mp hlf
    · split at hmem
      · simp only [List.mem_cons, List.not_mem_nil, or_false] at hmem
        rcases hmem with hfirst | hlast
        · exact absurd hfirst (lf_ne_byte (by omega) (by omega))
        · exact absurd hlast (lf_ne_byte (by omega) (by omega))
      · split at hmem
        · simp only [List.mem_cons, List.not_mem_nil, or_false] at hmem
          rcases hmem with hfirst | hsecond | hlast
          · exact absurd hfirst (lf_ne_byte (by omega) (by omega))
          · exact absurd hsecond (lf_ne_byte (by omega) (by omega))
          · exact absurd hlast (lf_ne_byte (by omega) (by omega))
        · simp only [List.mem_cons, List.not_mem_nil, or_false] at hmem
          rcases hmem with hfirst | hsecond | hthird | hlast
          · exact absurd hfirst (lf_ne_byte (by omega) (by omega))
          · exact absurd hsecond (lf_ne_byte (by omega) (by omega))
          · exact absurd hthird (lf_ne_byte (by omega) (by omega))
          · exact absurd hlast (lf_ne_byte (by omega) (by omega))
  · intro hlf
    rw [hlf]
    exact List.mem_singleton.mpr rfl

theorem lf_mem_encode {text : List Char} : 0x0A ∈ encode text ↔ '\n' ∈ text := by
  constructor
  · intro hmem
    obtain ⟨c, hc, hbyte⟩ := List.mem_flatMap.mp hmem
    rw [lf_mem_encodeChar.1 hbyte] at hc
    exact hc
  · intro hmem
    exact List.mem_flatMap.mpr ⟨'\n', hmem, lf_mem_encodeChar.2 rfl⟩

end OpsCure.Utf8
