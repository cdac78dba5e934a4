/-
JSON values as text, the way Python's `json.dumps` writes them with its default separators:
with `ensure_ascii` every character outside ASCII is escaped, without it such characters stand
for themselves.
-/
import Mathlib.Data.Bool.AllAny
import OpsCure.Library.Json

namespace OpsCure.JsonText

/-- How floats are written: `float.__repr__` uses digits, letters, signs and the point. -/
structure FloatText where
  write : ℚ → List Char
  visible : ∀ value, ∀ c ∈ write value, 0x20 < c.toNat ∧ c.toNat < 0x7F

/-- The lowest four hexadecimal digits of a number. -/
def hex4 (value : Nat) : List Char :=
  [Nat.digitChar (value / 4096 % 16), Nat.digitChar (value / 256 % 16),
    Nat.digitChar (value / 16 % 16), Nat.digitChar (value % 16)]

/-- An escape of four hexadecimal digits. -/
def unicodeEscape (value : Nat) : List Char := '\\' :: 'u' :: hex4 value

def escapeLetters : List (Char × Char) :=
  [('"', '"'), ('\\', '\\'), ('\n', 'n'), ('\r', 'r'), ('\t', 't'),
    (Char.ofNat 0x0C, 'f'), (Char.ofNat 0x08, 'b')]

/-- A character of a string literal. -/
def escape (ensureAscii : Bool) (c : Char) : List Char :=
  match escapeLetters.lookup c with
  | some letter => ['\\', letter]
  | none =>
      if c.toNat < 0x20 then unicodeEscape c.toNat
      else if ensureAscii ∧ 0x7F ≤ c.toNat then
        -- A character above the basic plane is written as a surrogate pair.
        if c.toNat < 0x10000 then unicodeEscape c.toNat
        else unicodeEscape (0xD800 + (c.toNat - 0x10000) / 0x400) ++
          unicodeEscape (0xDC00 + (c.toNat - 0x10000) % 0x400)
      else [c]

def quoted (ensureAscii : Bool) (text : String) : List Char :=
  '"' :: (text.toList.flatMap (escape ensureAscii) ++ ['"'])

section Dumps

variable (ensureAscii : Bool) (floats : FloatText)

mutual

/-- `json.dumps(value, ensure_ascii=…)`. -/
def dumps : Json → List Char
  | .null => ['n', 'u', 'l', 'l']
  | .bool true => ['t', 'r', 'u', 'e']
  | .bool false => ['f', 'a', 'l', 's', 'e']
  | .int value => (toString value).toList
  | .float value => floats.write value
  | .str value => quoted ensureAscii value
  | .arr items => '[' :: ([',', ' '].intercalate (dumpsItems items) ++ [']'])
  | .obj fields => '{' :: ([',', ' '].intercalate (dumpsFields fields) ++ ['}'])

def dumpsItems : List Json → List (List Char)
  | [] => []
  | item :: items => dumps item :: dumpsItems items

def dumpsFields : List (String × Json) → List (List Char)
  | [] => []
  | field :: fields => dumpsField field :: dumpsFields fields

def dumpsField : String × Json → List Char
  | (key, value) => quoted ensureAscii key ++ ':' :: ' ' :: dumps value

end

end Dumps

mutual

/-- The strings of a value, keys and all. -/
def texts : Json → List String
  | .str value => [value]
  | .arr items => textsItems items
  | .obj fields => textsFields fields
  | _ => []

def textsItems : List Json → List String
  | [] => []
  | item :: items => texts item ++ textsItems items

def textsFields : List (String × Json) → List String
  | [] => []
  | field :: fields => textsField field ++ textsFields fields

def textsField : String × Json → List String
  | (key, value) => key :: texts value

end

example (floats : FloatText) :
    dumps false floats (.obj [("a", .str "x\n\u2028")]) =
      ['{', '"', 'a', '"', ':', ' ', '"', 'x', '\\', 'n', '\u2028', '"', '}'] := by
  rfl

/-! ## The characters of a text -/

/-- A character of ASCII that shows, or a space. -/
def IsVisible (c : Char) : Prop := 0x20 ≤ c.toNat ∧ c.toNat < 0x7F

instance (c : Char) : Decidable (IsVisible c) := inferInstanceAs (Decidable (_ ∧ _))

theorem visible_digitChar (digit : Nat) (hdigit : digit < 16) :
    IsVisible (Nat.digitChar digit) := by
  revert digit
  decide

theorem visible_unicodeEscape {value : Nat} {c : Char} (hc : c ∈ unicodeEscape value) :
    IsVisible c := by
  have hdigit : ∀ number, IsVisible (Nat.digitChar (number % 16)) :=
    fun number => visible_digitChar _ (Nat.mod_lt _ (by decide))
  simp only [unicodeEscape, hex4, List.mem_cons, List.not_mem_nil, or_false] at hc
  rcases hc with rfl | rfl | rfl | rfl | rfl | rfl
  · decide
  · decide
  all_goals exact hdigit _

theorem visible_escapeLetter {c letter : Char} (hletter : escapeLetters.lookup c = some letter) :
    IsVisible letter ∧ c.toNat < 0x7F := by
  have hall : ∀ pair ∈ escapeLetters, IsVisible pair.2 ∧ pair.1.toNat < 0x7F := by decide
  obtain ⟨before, after, htable, _⟩ := List.lookup_eq_some_iff.mp hletter
  apply hall (c, letter)
  rw [htable]
  exact List.mem_append_right _ List.mem_cons_self

theorem mem_escape {ensureAscii : Bool} {c d : Char} (hc : c ∈ escape ensureAscii d) :
    IsVisible c ∨ ensureAscii = false ∧ 0x7F ≤ c.toNat ∧ c = d := by
  unfold escape at hc
  split at hc
  · rename_i letter hletter
    left
    simp only [List.mem_cons, List.not_mem_nil, or_false] at hc
    rcases hc with rfl | rfl
    · decide
    · exact (visible_escapeLetter hletter).1
  split at hc
  · exact Or.inl (visible_unicodeEscape hc)
  rename_i hlow
  split at hc
  · left
    split at hc
    · exact visible_unicodeEscape hc
    · rcases List.mem_append.mp hc with hhigh | hlow
      · exact visible_unicodeEscape hhigh
      · exact visible_unicodeEscape hlow
  · rename_i hraw
    rw [List.mem_singleton] at hc
    subst hc
    by_cases hascii : c.toNat < 0x7F
    · exact Or.inl ⟨not_lt.mp hlow, hascii⟩
    · right
      have hhigh : 0x7F ≤ c.toNat := not_lt.mp hascii
      refine ⟨?_, hhigh, rfl⟩
      cases ensureAscii with
      | false => rfl
      | true => exact absurd ⟨rfl, hhigh⟩ hraw

theorem escape_high {d : Char} (hhigh : 0x7F ≤ d.toNat) : escape false d = [d] := by
  have hplain : escapeLetters.lookup d = none := by
    by_contra hsome
    obtain ⟨letter, hletter⟩ := Option.ne_none_iff_exists'.mp hsome
    have hlow := (visible_escapeLetter hletter).2
    omega
  rw [escape, hplain]
  simp only [Bool.false_eq_true, false_and, if_false]
  exact if_neg (by omega)

theorem mem_quoted {ensureAscii : Bool} {text : String} {c : Char}
    (hc : c ∈ quoted ensureAscii text) :
    IsVisible c ∨ ensureAscii = false ∧ 0x7F ≤ c.toNat ∧ c ∈ text.toList := by
  rw [quoted, List.mem_cons, List.mem_append, List.mem_singleton, List.mem_flatMap] at hc
  rcases hc with rfl | ⟨d, hd, hc⟩ | rfl
  · exact Or.inl (by decide)
  · rcases mem_escape hc with hvisible | ⟨hraw, hhigh, rfl⟩
    · exact Or.inl hvisible
    · exact Or.inr ⟨hraw, hhigh, hd⟩
  · exact Or.inl (by decide)

theorem mem_quoted_of_high {text : String} {c : Char} (hc : c ∈ text.toList)
    (hhigh : 0x7F ≤ c.toNat) : c ∈ quoted false text := by
  rw [quoted, List.mem_cons, List.mem_append, List.mem_flatMap]
  refine Or.inr (Or.inl ⟨c, hc, ?_⟩)
  rw [escape_high hhigh]
  exact List.mem_singleton_self c

theorem visible_nat {value : Nat} {c : Char} (hc : c ∈ value.repr.toList) : IsVisible c := by
  rw [Nat.toList_repr] at hc
  obtain ⟨hzero, hnine⟩ := Char.isDigit_iff_toNat.mp
    (Nat.isDigit_of_mem_toDigits (by decide) (by decide) hc)
  exact ⟨le_trans (by decide) hzero, lt_of_le_of_lt hnine (by decide)⟩

theorem visible_int {value : Int} {c : Char} (hc : c ∈ (toString value).toList) :
    IsVisible c := by
  cases value with
  | ofNat => exact visible_nat hc
  | negSucc value =>
      have hminus : c ∈ ("-" ++ (value + 1).repr).toList := hc
      rw [String.toList_append, List.mem_append] at hminus
      rcases hminus with hsign | hdigits
      · have hsame : c = '-' := List.mem_singleton.mp hsign
        rw [hsame]
        decide
      · exact visible_nat hdigits

theorem visible_separator : ∀ c ∈ [',', ' '], IsVisible c :=
  List.all_iff_forall_prop.mp (by decide)

theorem mem_intercalate {α : Type} {sep : List α} {parts : List (List α)} {c : α}
    (hc : c ∈ sep.intercalate parts) : c ∈ sep ∨ ∃ part ∈ parts, c ∈ part := by
  induction parts with
  | nil => cases hc
  | cons part parts ih =>
      by_cases hlast : parts = []
      · rw [hlast, List.intercalate_singleton] at hc
        exact Or.inr ⟨part, List.mem_cons_self, hc⟩
      · rw [List.intercalate_cons_of_ne_nil hlast, List.mem_append, List.mem_append] at hc
        rcases hc with (hpart | hsep) | hrest
        · exact Or.inr ⟨part, List.mem_cons_self, hpart⟩
        · exact Or.inl hsep
        · rcases ih hrest with hsep | ⟨other, hother, hc⟩
          · exact Or.inl hsep
          · exact Or.inr ⟨other, List.mem_cons_of_mem _ hother, hc⟩

theorem mem_intercalate_of_mem {α : Type} {sep part : List α} {parts : List (List α)} {c : α}
    (hc : c ∈ part) (hpart : part ∈ parts) : c ∈ sep.intercalate parts := by
  induction parts with
  | nil => cases hpart
  | cons first parts ih =>
      by_cases hlast : parts = []
      · rw [hlast, List.mem_singleton] at hpart
        rw [hlast, List.intercalate_singleton, ← hpart]
        exact hc
      · rw [List.intercalate_cons_of_ne_nil hlast, List.mem_append, List.mem_append]
        rcases List.mem_cons.mp hpart with rfl | hrest
        · exact Or.inl (Or.inl hc)
        · exact Or.inr (ih hrest)

section Members

variable {ensureAscii : Bool} {floats : FloatText} {c : Char}

def Shows (ensureAscii : Bool) (strings : List String) (c : Char) : Prop :=
  IsVisible c ∨ ensureAscii = false ∧ 0x7F ≤ c.toNat ∧ ∃ text ∈ strings, c ∈ text.toList

theorem Shows.mono {strings more : List String} (hshows : Shows ensureAscii strings c)
    (hsub : strings ⊆ more) : Shows ensureAscii more c := by
  rcases hshows with hvisible | ⟨hraw, hhigh, text, htext, hc⟩
  · exact Or.inl hvisible
  · exact Or.inr ⟨hraw, hhigh, text, hsub htext, hc⟩

mutual

theorem mem_dumps : (value : Json) → c ∈ dumps ensureAscii floats value →
    Shows ensureAscii (texts value) c
  | .null, hc => by
      have hword : ∀ d ∈ ['n', 'u', 'l', 'l'], IsVisible d :=
        List.all_iff_forall_prop.mp (by decide)
      exact Or.inl (hword c hc)
  | .bool true, hc => by
      have hword : ∀ d ∈ ['t', 'r', 'u', 'e'], IsVisible d :=
        List.all_iff_forall_prop.mp (by decide)
      exact Or.inl (hword c hc)
  | .bool false, hc => by
      have hword : ∀ d ∈ ['f', 'a', 'l', 's', 'e'], IsVisible d :=
        List.all_iff_forall_prop.mp (by decide)
      exact Or.inl (hword c hc)
  | .int value, hc => Or.inl (visible_int hc)
  | .float value, hc => Or.inl ⟨(floats.visible value c hc).1.le, (floats.visible value c hc).2⟩
  | .str value, hc => by
      rcases mem_quoted hc with hvisible | ⟨hraw, hhigh, hmem⟩
      · exact Or.inl hvisible
      · exact Or.inr ⟨hraw, hhigh, value, List.mem_singleton_self value, hmem⟩
  | .arr items, hc => by
      rw [dumps, List.mem_cons, List.mem_append, List.mem_singleton] at hc
      rcases hc with rfl | hc | rfl
      · exact Or.inl (by decide)
      · rcases mem_intercalate hc with hsep | ⟨part, hpart, hc⟩
        · exact Or.inl (visible_separator c hsep)
        · exact mem_dumpsItems items part hpart hc
      · exact Or.inl (by decide)
  | .obj fields, hc => by
      rw [dumps, List.mem_cons, List.mem_append, List.mem_singleton] at hc
      rcases hc with rfl | hc | rfl
      · exact Or.inl (by decide)
      · rcases mem_intercalate hc with hsep | ⟨part, hpart, hc⟩
        · exact Or.inl (visible_separator c hsep)
        · exact mem_dumpsFields fields part hpart hc
      · exact Or.inl (by decide)

theorem mem_dumpsItems : (items : List Json) → ∀ part ∈ dumpsItems ensureAscii floats items,
    c ∈ part → Shows ensureAscii (textsItems items) c
  | [], part, hpart, _ => by cases hpart
  | item :: items, part, hpart, hc => by
      rw [dumpsItems, List.mem_cons] at hpart
      rw [textsItems]
      rcases hpart with rfl | hpart
      · exact (mem_dumps item hc).mono (List.subset_append_left _ _)
      · exact (mem_dumpsItems items part hpart hc).mono (List.subset_append_right _ _)

theorem mem_dumpsFields : (fields : List (String × Json)) →
    ∀ part ∈ dumpsFields ensureAscii floats fields,
    c ∈ part → Shows ensureAscii (textsFields fields) c
  | [], part, hpart, _ => by cases hpart
  | field :: fields, part, hpart, hc => by
      rw [dumpsFields, List.mem_cons] at hpart
      rw [textsFields]
      rcases hpart with rfl | hpart
      · exact (mem_dumpsField field hc).mono (List.subset_append_left _ _)
      · exact (mem_dumpsFields fields part hpart hc).mono (List.subset_append_right _ _)

theorem mem_dumpsField : (field : String × Json) → c ∈ dumpsField ensureAscii floats field →
    Shows ensureAscii (textsField field) c
  | (key, value), hc => by
      rw [dumpsField, List.mem_append, List.mem_cons, List.mem_cons] at hc
      rw [textsField]
      rcases hc with hkey | rfl | rfl | hc
      · rcases mem_quoted hkey with hvisible | ⟨hraw, hhigh, hmem⟩
        · exact Or.inl hvisible
        · exact Or.inr ⟨hraw, hhigh, key, List.mem_cons_self, hmem⟩
      · exact Or.inl (by decide)
      · exact Or.inl (by decide)
      · exact (mem_dumps value hc).mono (List.subset_cons_self _ _)

end

mutual

/-- Without `ensure_ascii`, a character outside ASCII stands for itself. -/
theorem mem_dumps_of_high (hhigh : 0x7F ≤ c.toNat) : (value : Json) →
    ∀ text ∈ texts value, c ∈ text.toList → c ∈ dumps false floats value
  | .null, _, htext, _ => by cases htext
  | .bool _, _, htext, _ => by cases htext
  | .int _, _, htext, _ => by cases htext
  | .float _, _, htext, _ => by cases htext
  | .str value, text, htext, hc => by
      rw [texts, List.mem_singleton] at htext
      rw [htext] at hc
      exact mem_quoted_of_high hc hhigh
  | .arr items, text, htext, hc => by
      obtain ⟨part, hpart, hmem⟩ := mem_dumpsItems_of_high hhigh items text htext hc
      rw [dumps, List.mem_cons, List.mem_append]
      exact Or.inr (Or.inl (mem_intercalate_of_mem hmem hpart))
  | .obj fields, text, htext, hc => by
      obtain ⟨part, hpart, hmem⟩ := mem_dumpsFields_of_high hhigh fields text htext hc
      rw [dumps, List.mem_cons, List.mem_append]
      exact Or.inr (Or.inl (mem_intercalate_of_mem hmem hpart))

theorem mem_dumpsItems_of_high (hhigh : 0x7F ≤ c.toNat) : (items : List Json) →
    ∀ text ∈ textsItems items, c ∈ text.toList →
      ∃ part ∈ dumpsItems false floats items, c ∈ part
  | [], _, htext, _ => by cases htext
  | item :: items, text, htext, hc => by
      rw [textsItems, List.mem_append] at htext
      rw [dumpsItems]
      rcases htext with hitem | hrest
      · exact ⟨_, List.mem_cons_self, mem_dumps_of_high hhigh item text hitem hc⟩
      · obtain ⟨part, hpart, hmem⟩ := mem_dumpsItems_of_high hhigh items text hrest hc
        exact ⟨part, List.mem_cons_of_mem _ hpart, hmem⟩

theorem mem_dumpsFields_of_high (hhigh : 0x7F ≤ c.toNat) : (fields : List (String × Json)) →
    ∀ text ∈ textsFields fields, c ∈ text.toList →
      ∃ part ∈ dumpsFields false floats fields, c ∈ part
  | [], _, htext, _ => by cases htext
  | field :: fields, text, htext, hc => by
      rw [textsFields, List.mem_append] at htext
      rw [dumpsFields]
      rcases htext with hfield | hrest
      · exact ⟨_, List.mem_cons_self, mem_dumpsField_of_high hhigh field text hfield hc⟩
      · obtain ⟨part, hpart, hmem⟩ := mem_dumpsFields_of_high hhigh fields text hrest hc
        exact ⟨part, List.mem_cons_of_mem _ hpart, hmem⟩

theorem mem_dumpsField_of_high (hhigh : 0x7F ≤ c.toNat) : (field : String × Json) →
    ∀ text ∈ textsField field, c ∈ text.toList → c ∈ dumpsField false floats field
  | (key, value), text, htext, hc => by
      rw [textsField, List.mem_cons] at htext
      rw [dumpsField, List.mem_append, List.mem_cons, List.mem_cons]
      rcases htext with rfl | hvalue
      · exact Or.inl (mem_quoted_of_high hc hhigh)
      · exact Or.inr (Or.inr (Or.inr (mem_dumps_of_high hhigh value text hvalue hc)))

end

end Members

end OpsCure.JsonText
