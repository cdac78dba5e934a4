/-
Reading JSON text back, the way Python's `json.loads` scans it: what `json.dumps` writes of a value
whose objects repeat no key is read as that value.
-/
import OpsCure.Library.JsonText
import OpsCure.Library.Numerals

namespace OpsCure.JsonText

/-! ## Well-formed values -/

mutual

/-- A value as Python holds it: no object repeats a key. -/
def WellFormed : Json → Prop
  | .arr items => WellFormedItems items
  | .obj fields => (fields.map Prod.fst).Nodup ∧ WellFormedFields fields
  | _ => True

def WellFormedItems : List Json → Prop
  | [] => True
  | item :: items => WellFormed item ∧ WellFormedItems items

def WellFormedFields : List (String × Json) → Prop
  | [] => True
  | field :: fields => WellFormedField field ∧ WellFormedFields fields

def WellFormedField : String × Json → Prop
  | (_, value) => WellFormed value

end

theorem wellFormedFields_iff {fields : List (String × Json)} :
    WellFormedFields fields ↔ ∀ field ∈ fields, WellFormed field.2 := by
  induction fields with
  | nil => simp [WellFormedFields]
  | cons field fields ih => rw [WellFormedFields, ih, List.forall_mem_cons, WellFormedField]

/-! ## The scanner -/

/-- `WHITESPACE`. -/
def isBlank (c : Char) : Bool :=
  c = ' ' || c = '\t' || c = '\n' || c = '\r'

def skipBlanks (text : List Char) : List Char :=
  text.dropWhile isBlank

def isNumberChar (c : Char) : Bool :=
  c.isDigit || c = '-' || c = '+' || c = '.' || c = 'e' || c = 'E'

/-- `0|[1-9][0-9]*`: the digits a number is written with. -/
def readWhole (digits : List Char) : Option Nat :=
  if (Nat.ofDigitChars 10 digits 0).repr.toList = digits then
    some (Nat.ofDigitChars 10 digits 0)
  else none

def readInt : List Char → Option Int
  | '-' :: digits => (readWhole digits).map fun value => -(value : Int)
  | digits => (readWhole digits).map Int.ofNat

/-- How floats are written and read: `read` is `none` on what is no literal with a fraction or an
exponent. -/
structure FloatCodec extends FloatText where
  read : List Char → Option ℚ
  read_write : ∀ value, read (write value) = some value
  numberChars : ∀ value, ∀ c ∈ write value, isNumberChar c
  notInt : ∀ value, readInt (write value) = none
  write_ne_nil : ∀ value, write value ≠ []

/-- The hexadecimal digits of an escape. -/
def hexDigit (c : Char) : Option Nat :=
  if c.isDigit then some (c.toNat - 48)
  else if 97 ≤ c.toNat ∧ c.toNat ≤ 102 then some (c.toNat - 87)
  else if 65 ≤ c.toNat ∧ c.toNat ≤ 70 then some (c.toNat - 55)
  else none

/-- `_decode_uXXXX`: four digits and what follows. -/
def readHex4 : List Char → Option (Nat × List Char)
  | a :: b :: c :: d :: rest => do
      let high ← hexDigit a
      let second ← hexDigit b
      let third ← hexDigit c
      let low ← hexDigit d
      return (4096 * high + 256 * second + 16 * third + low, rest)
  | _ => none

/-- `BACKSLASH`: what the letter after a backslash stands for. -/
def backslashed : List (Char × Char) :=
  [('"', '"'), ('\\', '\\'), ('/', '/'), ('b', Char.ofNat 0x08), ('f', Char.ofNat 0x0C),
    ('n', '\n'), ('r', '\r'), ('t', '\t')]

/-- What follows a backslash.  A high surrogate takes the low one after it; one that stands alone is
no character of a text, and is not read. -/
def readEscape : List Char → Option (Char × List Char)
  | 'u' :: rest => do
      let (code, rest) ← readHex4 rest
      if 0xD800 ≤ code ∧ code ≤ 0xDBFF then
        match rest with
        | '\\' :: 'u' :: more => do
            let (low, rest) ← readHex4 more
            if 0xDC00 ≤ low ∧ low ≤ 0xDFFF then
              return (Char.ofNat (0x10000 + 0x400 * (code - 0xD800) + (low - 0xDC00)), rest)
            else none
        | _ => none
      else if 0xDC00 ≤ code ∧ code ≤ 0xDFFF then none
      else return (Char.ofNat code, rest)
  | letter :: rest => (backslashed.lookup letter).map fun c => (c, rest)
  | [] => none

/-- A string literal after its opening quote; no control character stands in it. -/
def readString : Nat → List Char → Option (List Char × List Char)
  | 0, _ => none
  | _ + 1, [] => none
  | fuel + 1, c :: rest =>
      if c = '"' then some ([], rest)
      else if c = '\\' then do
        let (d, rest) ← readEscape rest
        let (text, rest) ← readString fuel rest
        return (d :: text, rest)
      else if c.toNat < 0x20 then none
      else do
        let (text, rest) ← readString fuel rest
        return (c :: text, rest)

section Loads

variable (floats : FloatCodec)

/-- A number: `int` where the literal is one, else `float`.  The words for numbers that are not
finite are no values here. -/
def readNumber (text : List Char) : Option (Json × List Char) :=
  let literal := text.takeWhile isNumberChar
  let rest := text.dropWhile isNumberChar
  match readInt literal with
  | some value => some (.int value, rest)
  | none => (floats.read literal).map fun value => (.float value, rest)

mutual

/-- `scan_once`. -/
def readValue : Nat → List Char → Option (Json × List Char)
  | 0, _ => none
  | fuel + 1, text =>
      match text with
      | '"' :: rest =>
          (readString (rest.length + 1) rest).map fun (chars, rest) =>
            (.str (String.ofList chars), rest)
      | '[' :: rest =>
          match skipBlanks rest with
          | ']' :: rest => some (.arr [], rest)
          | start => (readItems fuel start).map fun (items, rest) => (.arr items, rest)
      | '{' :: rest =>
          match skipBlanks rest with
          | '}' :: rest => some (.obj [], rest)
          | start =>
              (readFields fuel start).map fun (fields, rest) =>
                (.obj (Dict.setAll [] fields), rest)
      | 'n' :: 'u' :: 'l' :: 'l' :: rest => some (.null, rest)
      | 't' :: 'r' :: 'u' :: 'e' :: rest => some (.bool true, rest)
      | 'f' :: 'a' :: 'l' :: 's' :: 'e' :: rest => some (.bool false, rest)
      | text => readNumber floats text

def readItems : Nat → List Char → Option (List Json × List Char)
  | 0, _ => none
  | fuel + 1, text => do
      let (item, rest) ← readValue fuel text
      match skipBlanks rest with
      | ']' :: rest => return ([item], rest)
      | ',' :: rest => do
          let (items, rest) ← readItems fuel (skipBlanks rest)
          return (item :: items, rest)
      | _ => none

def readFields : Nat → List Char → Option (List (String × Json) × List Char)
  | 0, _ => none
  | fuel + 1, text => do
      let (field, rest) ← readField fuel text
      match skipBlanks rest with
      | '}' :: rest => return ([field], rest)
      | ',' :: rest => do
          let (fields, rest) ← readFields fuel (skipBlanks rest)
          return (field :: fields, rest)
      | _ => none

/-- A key, a colon and a value. -/
def readField : Nat → List Char → Option ((String × Json) × List Char)
  | 0, _ => none
  | fuel + 1, text =>
      match text with
      | '"' :: rest => do
          let (chars, rest) ← readString (rest.length + 1) rest
          match skipBlanks rest with
          | ':' :: rest => do
              let (value, rest) ← readValue fuel (skipBlanks rest)
              return ((String.ofList chars, value), rest)
          | _ => none
      | _ => none

end

/-- `json.loads(text)`, `none` where it raises. -/
def loads (text : List Char) : Option Json := do
  let (value, rest) ← readValue floats (3 * text.length + 3) (skipBlanks text)
  if skipBlanks rest = [] then return value else none

end Loads

/-! ## Numbers -/

theorem readWhole_repr (value : Nat) : readWhole value.repr.toList = some value := by
  have hread : Nat.ofDigitChars 10 value.repr.toList 0 = value := by
    rw [Nat.toList_repr]
    exact Nat.ofDigitChars_ten_toDigits
  rw [readWhole, hread, if_pos rfl]

theorem readInt_of_digit {c : Char} {digits : List Char} (hdigit : c.isDigit) :
    readInt (c :: digits) = (readWhole (c :: digits)).map Int.ofNat := by
  rw [readInt]
  intro rest hsame
  rw [(List.cons.inj hsame).1] at hdigit
  exact absurd hdigit (by decide)

theorem readInt_toString (value : Int) : readInt (toString value).toList = some value := by
  cases value with
  | ofNat value =>
      have htext : (toString (Int.ofNat value)).toList = value.repr.toList := rfl
      have hread := readWhole_repr value
      rw [htext]
      cases hdigits : value.repr.toList with
      | nil => exact absurd hdigits (by simp [Nat.toList_repr])
      | cons c =>
          have hfirst : c.isDigit := by
            apply Numerals.isDigit_of_mem_repr
            rw [hdigits]
            exact List.mem_cons_self
          rw [hdigits] at hread
          rw [readInt_of_digit hfirst, hread]
          rfl
  | negSucc =>
      rw [Numerals.toList_negSucc, readInt, readWhole_repr]
      rfl

theorem toString_ne_nil (value : Int) : (toString value).toList ≠ [] := by
  intro hnone
  have hread := readInt_toString value
  have hempty : readInt [] = none := by decide
  rw [hnone, hempty] at hread
  cases hread

theorem isNumberChar_of_mem_toString {value : Int} {c : Char} (hc : c ∈ (toString value).toList) :
    isNumberChar c := by
  rcases Numerals.mem_toString hc with hdigit | hsign
  · simp [isNumberChar, hdigit]
  · rw [hsign]
    rfl

def NumberEnds (rest : List Char) : Prop :=
  ∀ c ∈ rest.head?, isNumberChar c = false

theorem takeWhile_number {literal rest : List Char} (hliteral : ∀ c ∈ literal, isNumberChar c)
    (hends : NumberEnds rest) :
    (literal ++ rest).takeWhile isNumberChar = literal ∧
      (literal ++ rest).dropWhile isNumberChar = rest := by
  have hstop : rest.takeWhile isNumberChar = [] ∧ rest.dropWhile isNumberChar = rest := by
    cases rest with
    | nil => exact ⟨rfl, rfl⟩
    | cons c =>
        have hother := hends c rfl
        exact ⟨List.takeWhile_cons_of_neg (by simp [hother]),
          List.dropWhile_cons_of_neg (by simp [hother])⟩
  rw [List.takeWhile_append_of_pos hliteral, List.dropWhile_append_of_pos hliteral, hstop.1,
    hstop.2, List.append_nil]
  exact ⟨rfl, rfl⟩

section

variable {floats : FloatCodec} {rest : List Char}

theorem readNumber_int (value : Int) (hends : NumberEnds rest) :
    readNumber floats ((toString value).toList ++ rest) = some (.int value, rest) := by
  obtain ⟨hliteral, hrest⟩ :=
    takeWhile_number (fun c hc => @isNumberChar_of_mem_toString value c hc) hends
  rw [readNumber]
  simp only [hliteral, hrest, readInt_toString]

theorem readNumber_float (value : ℚ) (hends : NumberEnds rest) :
    readNumber floats (floats.write value ++ rest) = some (.float value, rest) := by
  obtain ⟨hliteral, hrest⟩ := takeWhile_number (floats.numberChars value) hends
  rw [readNumber]
  simp only [hliteral, hrest, floats.notInt, floats.read_write]
  rfl

theorem readValue_number {fuel : Nat} {text : List Char} (hsome : text ≠ [])
    (htext : ∀ c ∈ text, isNumberChar c) :
    readValue floats (fuel + 1) (text ++ rest) = readNumber floats (text ++ rest) := by
  cases text with
  | nil => exact absurd rfl hsome
  | cons c =>
      have hc := htext c List.mem_cons_self
      have hother : c ≠ '"' ∧ c ≠ '[' ∧ c ≠ '{' ∧ c ≠ 'n' ∧ c ≠ 't' ∧ c ≠ 'f' := by
        refine ⟨?_, ?_, ?_, ?_, ?_, ?_⟩ <;> (rintro rfl; exact absurd hc (by decide))
      rw [List.cons_append, readValue]
      all_goals intro rest hsame
      · exact hother.1 (List.cons.inj hsame).1
      · exact hother.2.1 (List.cons.inj hsame).1
      · exact hother.2.2.1 (List.cons.inj hsame).1
      · exact hother.2.2.2.1 (List.cons.inj hsame).1
      · exact hother.2.2.2.2.1 (List.cons.inj hsame).1
      · exact hother.2.2.2.2.2 (List.cons.inj hsame).1

end

/-! ## Strings -/

theorem hexDigit_digitChar (digit : Nat) (hdigit : digit < 16) :
    hexDigit (Nat.digitChar digit) = some digit := by
  revert digit
  decide

variable {value : Nat}

theorem readHex4_hex4 (hvalue : value < 0x10000) (rest : List Char) :
    readHex4 (hex4 value ++ rest) = some (value, rest) := by
  have hdigit : ∀ number, hexDigit (Nat.digitChar (number % 16)) = some (number % 16) :=
    fun number => hexDigit_digitChar _ (Nat.mod_lt _ (by decide))
  have hsum : 4096 * (value / 4096 % 16) + 256 * (value / 256 % 16) + 16 * (value / 16 % 16) +
      value % 16 = value := by omega
  simp [hex4, readHex4, hdigit, hsum]

theorem backslashed_of_letter : ∀ pair ∈ escapeLetters,
    backslashed.lookup pair.2 = some pair.1 ∧ pair.2 ≠ 'u' := by decide

theorem readEscape_letter {letter : Char} {rest : List Char} (hletter : letter ≠ 'u') :
    readEscape (letter :: rest) = (backslashed.lookup letter).map fun c => (c, rest) := by
  rw [readEscape]
  intro hu
  exact absurd hu hletter

theorem readEscape_unicode (hvalue : value < 0x20) (rest : List Char) :
    readEscape ('u' :: (hex4 value ++ rest)) = some (Char.ofNat value, rest) := by
  have hread := readHex4_hex4 (show value < 0x10000 by omega) rest
  have hhigh : ¬ (0xD800 ≤ value ∧ value ≤ 0xDBFF) := by omega
  have hlow : ¬ (0xDC00 ≤ value ∧ value ≤ 0xDFFF) := by omega
  rw [readEscape, hread]
  simp only [Option.bind_eq_bind, Option.bind_some, if_neg hhigh, if_neg hlow]
  rfl

theorem readString_escape (fuel : Nat) (c : Char) (rest : List Char) :
    readString (fuel + 1) (escape false c ++ rest) =
      (readString fuel rest).map fun (text, rest) => (c :: text, rest) := by
  have hslash : ('\\' : Char) ≠ '"' := by decide
  rw [escape]
  split
  · next letter hletter =>
      obtain ⟨before, after, htable, _⟩ := List.lookup_eq_some_iff.mp hletter
      have hpair : (c, letter) ∈ escapeLetters := by
        rw [htable]
        exact List.mem_append_right _ List.mem_cons_self
      obtain ⟨hback, hu⟩ := backslashed_of_letter _ hpair
      rw [List.cons_append, List.cons_append, List.nil_append, readString, if_neg hslash,
        if_pos rfl, readEscape_letter hu, hback]
      cases htail : readString fuel rest <;> simp [htail]
  · next hplain =>
      split
      · next hlow =>
          rw [unicodeEscape, List.cons_append, List.cons_append, readString, if_neg hslash,
            if_pos rfl, readEscape_unicode hlow, Char.ofNat_toNat]
          cases htail : readString fuel rest <;> simp [htail]
      · next hhigh =>
          have hquote : c ≠ '"' := by
            intro hc
            rw [hc] at hplain
            cases hplain
          have hback : c ≠ '\\' := by
            intro hc
            rw [hc] at hplain
            cases hplain
          rw [if_neg (by simp), List.singleton_append, readString, if_neg hquote, if_neg hback,
            if_neg hhigh]
          cases readString fuel rest <;> simp

theorem readString_quoted (chars rest : List Char) {fuel : Nat} (hfuel : chars.length < fuel) :
    readString fuel (chars.flatMap (escape false) ++ '"' :: rest) = some (chars, rest) := by
  induction chars generalizing fuel with
  | nil =>
      cases fuel with
      | zero => exact absurd hfuel (Nat.lt_irrefl 0)
      | succ => simp [readString]
  | cons c chars ih =>
      cases fuel with
      | zero => exact absurd hfuel (Nat.not_lt_zero _)
      | succ =>
          have hrest := ih (Nat.lt_of_succ_lt_succ hfuel)
          rw [List.flatMap_cons, List.append_assoc, readString_escape, hrest]
          rfl

theorem length_le_escaped (chars : List Char) :
    chars.length ≤ (chars.flatMap (escape false)).length := by
  induction chars with
  | nil => exact Nat.le_refl 0
  | cons c chars ih =>
      have hone : 1 ≤ (escape false c).length := by
        unfold escape
        split
        · simp
        split
        · simp [unicodeEscape]
        split
        · simp_all
        · simp
      rw [List.flatMap_cons, List.length_append, List.length_cons]
      omega

theorem readString_literal (text : String) (rest : List Char) :
    let literal := text.toList.flatMap (escape false) ++ '"' :: rest
    readString (literal.length + 1) literal = some (text.toList, rest) := by
  intro literal
  apply readString_quoted
  have hlength := length_le_escaped text.toList
  rw [List.length_append]
  omega

/-! ## The round trip -/

section RoundTrip

variable {floats : FloatCodec}

variable {c : Char} {text first : List Char} {fuel : Nat} {fields : List (String × Json)}
  {value : Json}

theorem skipBlanks_cons {rest : List Char} (hc : isBlank c = false) :
    skipBlanks (c :: rest) = c :: rest :=
  List.dropWhile_cons_of_neg (by simp [hc])

theorem skipBlanks_blank {rest : List Char} (hc : isBlank c) :
    skipBlanks (c :: rest) = skipBlanks rest :=
  List.dropWhile_cons_of_pos hc

/-- How the text of a value opens: with no blank, and no bracket that closes. -/
def Opens (text : List Char) : Prop :=
  ∃ c rest, text = c :: rest ∧ isBlank c = false ∧ c ≠ ']'

theorem opens_of_number (hsome : text ≠ []) (hnumber : ∀ c ∈ text, isNumberChar c) :
    Opens text := by
  cases text with
  | nil => exact absurd rfl hsome
  | cons c rest =>
      have hc := hnumber c List.mem_cons_self
      refine ⟨c, rest, rfl, ?_, ?_⟩
      · by_contra hblank
        rw [Bool.not_eq_false] at hblank
        simp only [isBlank, Bool.or_eq_true, decide_eq_true_iff] at hblank
        rcases hblank with ((rfl | rfl) | rfl) | rfl <;> exact absurd hc (by decide)
      · rintro rfl
        exact absurd hc (by decide)

theorem opens_dumps (value : Json) : Opens (dumps false floats.toFloatText value) := by
  cases value with
  | null => exact ⟨'n', _, by rw [dumps], rfl, by decide⟩
  | bool flag => cases flag with
    | false => exact ⟨'f', _, by rw [dumps], rfl, by decide⟩
    | true => exact ⟨'t', _, by rw [dumps], rfl, by decide⟩
  | int value =>
      rw [dumps]
      exact opens_of_number (toString_ne_nil value) fun c hc => isNumberChar_of_mem_toString hc
  | float value =>
      rw [dumps]
      exact opens_of_number (floats.write_ne_nil value) (floats.numberChars value)
  | str => exact ⟨'"', _, by rw [dumps, quoted], rfl, by decide⟩
  | arr => exact ⟨'[', _, by rw [dumps], rfl, by decide⟩
  | obj => exact ⟨'{', _, by rw [dumps], rfl, by decide⟩

theorem Opens.skipBlanks {text rest : List Char} (hopens : Opens text) :
    skipBlanks (text ++ rest) = text ++ rest := by
  obtain ⟨c, more, htext, hblank, -⟩ := hopens
  rw [htext, List.cons_append]
  exact skipBlanks_cons hblank

theorem numberEnds_cons {rest : List Char} (hc : isNumberChar c = false) :
    NumberEnds (c :: rest) := by
  intro d hd
  rw [List.head?_cons, Option.mem_some_iff] at hd
  rw [← hd]
  exact hc

theorem joined_cons {parts : List (List Char)} (hsome : parts ≠ []) :
    [',', ' '].intercalate (first :: parts) =
      first ++ ',' :: ' ' :: [',', ' '].intercalate parts := by
  rw [List.intercalate_cons_of_ne_nil hsome, List.append_assoc]
  rfl

theorem readValue_arr {items : List Json} {rest : List Char} (hopens : Opens text)
    (hitems : readItems floats fuel text = some (items, rest)) :
    readValue floats (fuel + 1) ('[' :: text) = some (.arr items, rest) := by
  obtain ⟨c, more, htext, hblank, hbracket⟩ := hopens
  rw [htext] at hitems
  rw [htext, readValue, skipBlanks_cons hblank]
  split
  · next hsame => exact absurd (List.cons.inj hsame).1 hbracket
  · rw [hitems]
    rfl

theorem readValue_obj {rest : List Char} (hquote : text.head? = some '"')
    (hfields : readFields floats fuel text = some (fields, rest)) :
    readValue floats (fuel + 1) ('{' :: text) = some (.obj (Dict.setAll [] fields), rest) := by
  obtain ⟨more, htext⟩ := List.head?_eq_some_iff.mp hquote
  have hblank : isBlank '"' = false := rfl
  rw [htext] at hfields
  rw [htext, readValue, skipBlanks_cons hblank]
  split
  · next hsame => cases hsame
  · rw [hfields]
    rfl

theorem readItems_last {item : Json} {rest : List Char}
    (hitem : readValue floats fuel (text ++ ']' :: rest) = some (item, ']' :: rest)) :
    readItems floats (fuel + 1) (text ++ ']' :: rest) = some ([item], rest) := by
  rw [readItems, hitem]
  rfl

theorem readItems_next {item : Json} {items : List Json} {more rest : List Char}
    (hopens : Opens more)
    (hitem : readValue floats fuel (text ++ ',' :: ' ' :: more) = some (item, ',' :: ' ' :: more))
    (hitems : readItems floats fuel more = some (items, rest)) :
    readItems floats (fuel + 1) (text ++ ',' :: ' ' :: more) = some (item :: items, rest) := by
  have hcomma : skipBlanks (',' :: ' ' :: more) = ',' :: ' ' :: more := rfl
  have hmore : skipBlanks (' ' :: more) = more := by
    rw [skipBlanks_blank rfl]
    have hskip := @Opens.skipBlanks more [] hopens
    rw [List.append_nil] at hskip
    exact hskip
  rw [readItems, hitem]
  simp [hcomma, hmore, hitems]

theorem readField_eq {key : String} {rest : List Char} (hopens : Opens text)
    (hvalue : readValue floats fuel text = some (value, rest)) :
    readField floats (fuel + 1) (quoted false key ++ ':' :: ' ' :: text) =
      some ((key, value), rest) := by
  have hkey := readString_literal key (':' :: ' ' :: text)
  have hcolon : skipBlanks (':' :: ' ' :: text) = ':' :: ' ' :: text := rfl
  have htext : skipBlanks (' ' :: text) = text := by
    rw [skipBlanks_blank rfl]
    have hskip := @Opens.skipBlanks text [] hopens
    rw [List.append_nil] at hskip
    exact hskip
  have hquoted : quoted false key ++ ':' :: ' ' :: text =
      '"' :: (key.toList.flatMap (escape false) ++ '"' :: ':' :: ' ' :: text) := by
    simp [quoted]
  rw [hquoted, readField, hkey]
  simp [hcolon, htext, hvalue, String.ofList_toList]

theorem readFields_last {field : String × Json} {rest : List Char}
    (hfield : readField floats fuel (text ++ '}' :: rest) = some (field, '}' :: rest)) :
    readFields floats (fuel + 1) (text ++ '}' :: rest) = some ([field], rest) := by
  rw [readFields, hfield]
  rfl

theorem readFields_next {field : String × Json} {more rest : List Char} (hopens : Opens more)
    (hfield : readField floats fuel (text ++ ',' :: ' ' :: more) = some (field, ',' :: ' ' :: more))
    (hfields : readFields floats fuel more = some (fields, rest)) :
    readFields floats (fuel + 1) (text ++ ',' :: ' ' :: more) = some (field :: fields, rest) := by
  have hcomma : skipBlanks (',' :: ' ' :: more) = ',' :: ' ' :: more := rfl
  have hmore : skipBlanks (' ' :: more) = more := by
    rw [skipBlanks_blank rfl]
    have hskip := @Opens.skipBlanks more [] hopens
    rw [List.append_nil] at hskip
    exact hskip
  rw [readFields, hfield]
  simp [hcomma, hmore, hfields]

theorem Opens.append (hopens : Opens text) (rest : List Char) : Opens (text ++ rest) := by
  obtain ⟨c, more, htext, hc⟩ := hopens
  exact ⟨c, more ++ rest, by rw [htext, List.cons_append], hc⟩

theorem head?_dumpsField (field : String × Json) :
    (dumpsField false floats.toFloatText field).head? = some '"' := by
  rw [dumpsField, quoted]
  rfl

theorem opens_dumpsField (field : String × Json) :
    Opens (dumpsField false floats.toFloatText field) := by
  obtain ⟨more, htext⟩ := List.head?_eq_some_iff.mp (@head?_dumpsField floats field)
  exact ⟨'"', more, htext, rfl, by decide⟩

theorem head?_joined (hfirst : first.head? = some c) (parts : List (List Char)) :
    ([',', ' '].intercalate (first :: parts)).head? = some c := by
  by_cases hlast : parts = []
  · rw [hlast, List.intercalate_singleton]
    exact hfirst
  · rw [joined_cons hlast, List.head?_append, hfirst]
    rfl

theorem opens_joined (hfirst : Opens first) (parts : List (List Char)) :
    Opens ([',', ' '].intercalate (first :: parts)) := by
  by_cases hlast : parts = []
  · rw [hlast, List.intercalate_singleton]
    exact hfirst
  · rw [joined_cons hlast]
    exact hfirst.append _

mutual

/-- What is written of a value is read as the value, whatever follows that ends a number. -/
theorem readValue_dumps : (value : Json) → (fuel : Nat) → (rest : List Char) →
    WellFormed value → 3 * (dumps false floats.toFloatText value).length + 1 ≤ fuel →
    NumberEnds rest →
    readValue floats fuel (dumps false floats.toFloatText value ++ rest) = some (value, rest)
  | _, 0, _, _, hfuel, _ => absurd hfuel (Nat.not_succ_le_zero _)
  | .null, fuel + 1, rest, _, _, _ => by
      rw [dumps]
      exact readValue.eq_5 floats fuel rest
  | .bool true, fuel + 1, rest, _, _, _ => by
      rw [dumps]
      exact readValue.eq_6 floats fuel rest
  | .bool false, fuel + 1, rest, _, _, _ => by
      rw [dumps]
      exact readValue.eq_7 floats fuel rest
  | .int value, fuel + 1, rest, _, _, hends => by
      rw [dumps, readValue_number (toString_ne_nil value) fun c hc => isNumberChar_of_mem_toString hc]
      exact readNumber_int value hends
  | .float value, fuel + 1, rest, _, _, hends => by
      rw [dumps, readValue_number (floats.write_ne_nil value) (floats.numberChars value)]
      exact readNumber_float value hends
  | .str text, fuel + 1, rest, _, _, _ => by
      have hread := readString_literal text rest
      have hquoted : quoted false text ++ rest =
          '"' :: (text.toList.flatMap (escape false) ++ '"' :: rest) := by
        simp [quoted]
      rw [dumps, hquoted, readValue, hread]
      simp [String.ofList_toList]
  | .arr [], fuel + 1, rest, _, _, _ => by
      rw [dumps]
      rfl
  | .arr (item :: items), fuel + 1, rest, hwell, hfuel, _ => by
      rw [dumps] at hfuel
      simp only [List.length_cons, List.length_append, List.length_nil] at hfuel
      rw [WellFormed] at hwell
      have hitems := readItems_dumps item items fuel rest hwell (by omega)
      have hopens := opens_joined (@opens_dumps floats item)
        (dumpsItems false floats.toFloatText items)
      have hshape : dumps false floats.toFloatText (.arr (item :: items)) ++ rest =
          '[' :: ([',', ' '].intercalate (dumpsItems false floats.toFloatText (item :: items)) ++
            ']' :: rest) := by
        simp [dumps]
      rw [hshape]
      exact readValue_arr (hopens.append _) hitems
  | .obj [], fuel + 1, rest, _, _, _ => by
      rw [dumps]
      rfl
  | .obj (field :: fields), fuel + 1, rest, hwell, hfuel, _ => by
      rw [dumps] at hfuel
      simp only [List.length_cons, List.length_append, List.length_nil] at hfuel
      rw [WellFormed] at hwell
      have hfields := readFields_dumps field fields fuel rest hwell.2 (by omega)
      have hquote := head?_joined (@head?_dumpsField floats field)
        (dumpsFields false floats.toFloatText fields)
      have hshape : dumps false floats.toFloatText (.obj (field :: fields)) ++ rest =
          '{' :: ([',', ' '].intercalate (dumpsFields false floats.toFloatText (field :: fields)) ++
            '}' :: rest) := by
        simp [dumps]
      have hdict : Dict.setAll [] (field :: fields) = field :: fields := Dict.setAll_of_nodup hwell.1
      rw [hshape]
      rw [dumpsFields] at hfields ⊢
      have hhead : ([',', ' '].intercalate (dumpsField false floats.toFloatText field ::
          dumpsFields false floats.toFloatText fields) ++ '}' :: rest).head? = some '"' := by
        rw [List.head?_append, hquote]
        rfl
      have hread := readValue_obj hhead hfields
      rw [hdict] at hread
      exact hread

theorem readItems_dumps : (item : Json) → (items : List Json) → (fuel : Nat) →
    (rest : List Char) → WellFormedItems (item :: items) →
    3 * ([',', ' '].intercalate (dumpsItems false floats.toFloatText (item :: items))).length + 2 ≤
      fuel →
    readItems floats fuel
      ([',', ' '].intercalate (dumpsItems false floats.toFloatText (item :: items)) ++ ']' :: rest) =
      some (item :: items, rest)
  | _, _, 0, _, _, hfuel => absurd hfuel (Nat.not_succ_le_zero _)
  | item, [], fuel + 1, rest, hwell, hfuel => by
      rw [dumpsItems, dumpsItems, List.intercalate_singleton] at hfuel ⊢
      rw [WellFormedItems] at hwell
      apply readItems_last
      exact readValue_dumps item fuel _ hwell.1 (by omega) (numberEnds_cons rfl)
  | item, next :: items, fuel + 1, rest, hwell, hfuel => by
      have hsome : dumpsItems false floats.toFloatText (next :: items) ≠ [] := by
        rw [dumpsItems]
        exact List.cons_ne_nil _ _
      rw [dumpsItems, joined_cons hsome] at hfuel ⊢
      simp only [List.length_append, List.length_cons] at hfuel
      rw [WellFormedItems] at hwell
      have hitem := readValue_dumps item fuel
        (',' :: ' ' :: ([',', ' '].intercalate (dumpsItems false floats.toFloatText (next :: items)) ++
          ']' :: rest)) hwell.1 (by omega) (numberEnds_cons rfl)
      have hitems := readItems_dumps next items fuel rest hwell.2 (by omega)
      have hopens := opens_joined (@opens_dumps floats next)
        (dumpsItems false floats.toFloatText items)
      rw [List.append_assoc]
      exact readItems_next (hopens.append _) hitem hitems

theorem readFields_dumps : (field : String × Json) → (fields : List (String × Json)) →
    (fuel : Nat) → (rest : List Char) → WellFormedFields (field :: fields) →
    3 * ([',', ' '].intercalate
      (dumpsFields false floats.toFloatText (field :: fields))).length + 3 ≤ fuel →
    readFields floats fuel
      ([',', ' '].intercalate (dumpsFields false floats.toFloatText (field :: fields)) ++
        '}' :: rest) =
      some (field :: fields, rest)
  | _, _, 0, _, _, hfuel => absurd hfuel (Nat.not_succ_le_zero _)
  | field, [], fuel + 1, rest, hwell, hfuel => by
      rw [dumpsFields, dumpsFields, List.intercalate_singleton] at hfuel ⊢
      rw [WellFormedFields] at hwell
      apply readFields_last
      exact readField_dumps field fuel _ hwell.1 (by omega) (numberEnds_cons rfl)
  | field, next :: fields, fuel + 1, rest, hwell, hfuel => by
      have hsome : dumpsFields false floats.toFloatText (next :: fields) ≠ [] := by
        rw [dumpsFields]
        exact List.cons_ne_nil _ _
      rw [dumpsFields, joined_cons hsome] at hfuel ⊢
      simp only [List.length_append, List.length_cons] at hfuel
      rw [WellFormedFields] at hwell
      have hfield := readField_dumps field fuel
        (',' :: ' ' :: ([',', ' '].intercalate
          (dumpsFields false floats.toFloatText (next :: fields)) ++ '}' :: rest))
        hwell.1 (by omega) (numberEnds_cons rfl)
      have hfields := readFields_dumps next fields fuel rest hwell.2 (by omega)
      have hopens := opens_joined (@opens_dumpsField floats next)
        (dumpsFields false floats.toFloatText fields)
      rw [List.append_assoc]
      exact readFields_next (hopens.append _) hfield hfields

theorem readField_dumps : (field : String × Json) → (fuel : Nat) → (rest : List Char) →
    WellFormedField field → 3 * (dumpsField false floats.toFloatText field).length + 2 ≤ fuel →
    NumberEnds rest →
    readField floats fuel (dumpsField false floats.toFloatText field ++ rest) = some (field, rest)
  | _, 0, _, _, hfuel, _ => absurd hfuel (Nat.not_succ_le_zero _)
  | (key, value), fuel + 1, rest, hwell, hfuel, hends => by
      rw [dumpsField] at hfuel ⊢
      simp only [List.length_append, List.length_cons] at hfuel
      rw [WellFormedField] at hwell
      have hvalue := readValue_dumps value fuel rest hwell (by omega) hends
      rw [List.append_assoc]
      exact readField_eq ((opens_dumps value).append rest) hvalue

end

theorem loads_dumps (hwell : WellFormed value) :
    loads floats (dumps false floats.toFloatText value) = some value := by
  have hends : NumberEnds [] := by
    intro c hc
    cases hc
  have hread := @readValue_dumps floats value
    (3 * (dumps false floats.toFloatText value).length + 3) [] hwell (by omega) hends
  have hskip := @Opens.skipBlanks _ [] (@opens_dumps floats value)
  rw [List.append_nil] at hread hskip
  rw [loads, hskip, hread]
  rfl

/-! ## What is read is well formed -/

theorem wellFormed_obj_setAll (hfields : ∀ field ∈ fields, WellFormed field.2) :
    WellFormed (.obj (Dict.setAll [] fields)) := by
  rw [WellFormed, wellFormedFields_iff]
  refine ⟨Dict.nodup_keys_setAll fields List.nodup_nil, ?_⟩
  intro field hfield
  rcases Dict.mem_setAll hfield with hnone | hread
  · cases hnone
  · exact hfields field hread

theorem wellFormed_readNumber {rest : List Char}
    (hread : readNumber floats text = some (value, rest)) : WellFormed value := by
  rw [readNumber] at hread
  split at hread
  · cases hread
    trivial
  · obtain ⟨number, -, hsame⟩ := Option.map_eq_some_iff.mp hread
    cases hsame
    trivial

/-- What is read under a bound on the nesting, stated of the four readers at once. -/
def ReadsWell (floats : FloatCodec) (fuel : Nat) : Prop :=
  (∀ text value rest, readValue floats fuel text = some (value, rest) → WellFormed value) ∧
  (∀ text items rest, readItems floats fuel text = some (items, rest) → WellFormedItems items) ∧
  (∀ text fields rest, readFields floats fuel text = some (fields, rest) →
    ∀ field ∈ fields, WellFormed field.2) ∧
  ∀ text field rest, readField floats fuel text = some (field, rest) → WellFormed field.2

theorem readsWell_value (hless : ReadsWell floats fuel) {rest : List Char}
    (hread : readValue floats (fuel + 1) text = some (value, rest)) : WellFormed value := by
  rw [readValue.eq_def] at hread
  dsimp only at hread
  split at hread
  · obtain ⟨chars, -, hsame⟩ := Option.map_eq_some_iff.mp hread
    cases hsame
    trivial
  · split at hread
    · cases hread
      trivial
    · obtain ⟨items, hitems, hsame⟩ := Option.map_eq_some_iff.mp hread
      cases hsame
      exact hless.2.1 _ _ _ hitems
  · split at hread
    · cases hread
      exact ⟨List.nodup_nil, trivial⟩
    · obtain ⟨fields, hfields, hsame⟩ := Option.map_eq_some_iff.mp hread
      cases hsame
      exact wellFormed_obj_setAll (hless.2.2.1 _ _ _ hfields)
  · cases hread
    trivial
  · cases hread
    trivial
  · cases hread
    trivial
  · exact wellFormed_readNumber hread

theorem readsWell (fuel : Nat) : ReadsWell floats fuel := by
  induction fuel with
  | zero =>
      refine ⟨?_, ?_, ?_, ?_⟩
      · intro text value rest hread
        rw [readValue] at hread
        cases hread
      · intro text items rest hread
        rw [readItems] at hread
        cases hread
      · intro text fields rest hread
        rw [readFields] at hread
        cases hread
      · intro text field rest hread
        rw [readField] at hread
        cases hread
  | succ fuel ih =>
      refine ⟨fun _ _ _ => readsWell_value ih, ?_, ?_, ?_⟩
      · intro text items rest hread
        rw [readItems] at hread
        obtain ⟨⟨item, between⟩, hitem, hmore⟩ := Option.bind_eq_some_iff.mp hread
        have hwell := ih.1 _ _ _ hitem
        dsimp only at hmore
        split at hmore
        · cases hmore
          exact ⟨hwell, trivial⟩
        · obtain ⟨⟨others, after⟩, hothers, hsame⟩ := Option.bind_eq_some_iff.mp hmore
          cases hsame
          exact ⟨hwell, ih.2.1 _ _ _ hothers⟩
        · cases hmore
      · intro text fields rest hread
        rw [readFields] at hread
        obtain ⟨⟨field, between⟩, hfield, hmore⟩ := Option.bind_eq_some_iff.mp hread
        have hwell := ih.2.2.2 _ _ _ hfield
        dsimp only at hmore
        split at hmore
        · cases hmore
          exact List.forall_mem_singleton.mpr hwell
        · obtain ⟨⟨others, after⟩, hothers, hsame⟩ := Option.bind_eq_some_iff.mp hmore
          cases hsame
          exact List.forall_mem_cons.mpr ⟨hwell, ih.2.2.1 _ _ _ hothers⟩
        · cases hmore
      · intro text field rest hread
        rw [readField.eq_def] at hread
        dsimp only at hread
        split at hread
        · obtain ⟨⟨chars, between⟩, -, hmore⟩ := Option.bind_eq_some_iff.mp hread
          dsimp only at hmore
          split at hmore
          · obtain ⟨⟨value, after⟩, hvalue, hsame⟩ := Option.bind_eq_some_iff.mp hmore
            cases hsame
            exact ih.1 _ _ _ hvalue
          · cases hmore
        · cases hread

theorem wellFormed_loads (hread : loads floats text = some value) : WellFormed value := by
  rw [loads] at hread
  obtain ⟨⟨found, rest⟩, hfound, hsame⟩ := Option.bind_eq_some_iff.mp hread
  dsimp only at hsame
  split at hsame
  · cases hsame
    exact (readsWell _).1 _ _ _ hfound
  · cases hsame

end RoundTrip

/-! ## A codec of fractions -/

theorem isDigit_of_readWhole {digits : List Char} (hread : readWhole digits = some value) :
    ∀ c ∈ digits, c.isDigit := by
  rw [readWhole] at hread
  split at hread
  · next hsame =>
      intro c hc
      rw [← hsame] at hc
      exact Numerals.isDigit_of_mem_repr hc
  · cases hread

theorem readInt_of_point {run : List Char} (hpoint : '.' ∈ run) : readInt run = none := by
  have hnone : ∀ digits, '.' ∈ digits → readWhole digits = none := by
    intro digits hmem
    by_contra hsome
    obtain ⟨value, hvalue⟩ := Option.ne_none_iff_exists'.mp hsome
    exact absurd (isDigit_of_readWhole hvalue '.' hmem) (by decide)
  rw [readInt.eq_def]
  split
  · next digits =>
      have hmem : '.' ∈ digits := by simpa using hpoint
      rw [hnone digits hmem]
      rfl
  · rw [hnone _ hpoint]
    rfl

/-- The numerator and the denominator of a fraction around a point. -/
def writeFraction (value : ℚ) : List Char :=
  (toString value.num).toList ++ '.' :: value.den.repr.toList

def readFraction (run : List Char) : Option ℚ := do
  let num ← readInt (run.takeWhile (· ≠ '.'))
  let den ← readWhole ((run.dropWhile (· ≠ '.')).drop 1)
  return mkRat num den

theorem isNumberChar_of_mem_writeFraction {value : ℚ} {c : Char} (hc : c ∈ writeFraction value) :
    isNumberChar c := by
  rw [writeFraction, List.mem_append, List.mem_cons] at hc
  rcases hc with hnum | hpoint | hden
  · exact isNumberChar_of_mem_toString hnum
  · rw [hpoint]
    rfl
  · simp [isNumberChar, Numerals.isDigit_of_mem_repr hden]

theorem readFraction_writeFraction (value : ℚ) : readFraction (writeFraction value) = some value := by
  have hnum : ∀ c ∈ (toString value.num).toList, decide (c ≠ '.') = true := by
    intro c hc
    apply decide_eq_true
    rintro rfl
    rcases Numerals.mem_toString hc with hdigit | hsign
    · exact absurd hdigit (by decide)
    · exact absurd hsign (by decide)
  rw [readFraction, writeFraction, List.takeWhile_append_of_pos hnum,
    List.dropWhile_append_of_pos hnum, List.takeWhile_cons_of_neg (by simp),
    List.dropWhile_cons_of_neg (by simp), List.append_nil, readInt_toString, List.drop_one,
    List.tail_cons, readWhole_repr]
  exact congrArg some (Rat.mkRat_self value)

def fractions : FloatCodec where
  write := writeFraction
  visible := by
    intro value c hc
    have hnumber := isNumberChar_of_mem_writeFraction hc
    simp only [isNumberChar, Bool.or_eq_true, decide_eq_true_iff] at hnumber
    rcases hnumber with ((((hdigit | rfl) | rfl) | rfl) | rfl) | rfl
    · obtain ⟨hzero, hnine⟩ := Char.isDigit_iff_toNat.mp hdigit
      exact ⟨lt_of_lt_of_le (by decide) hzero, lt_of_le_of_lt hnine (by decide)⟩
    all_goals decide
  read := readFraction
  read_write := readFraction_writeFraction
  numberChars := fun _ _ hc => isNumberChar_of_mem_writeFraction hc
  notInt := by
    intro value
    apply readInt_of_point
    rw [writeFraction]
    exact List.mem_append_right _ List.mem_cons_self
  write_ne_nil := by
    intro value hnone
    have hlength := congrArg List.length hnone
    simp [writeFraction] at hlength

end OpsCure.JsonText
