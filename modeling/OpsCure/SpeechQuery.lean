/-
The two readings of an event kind that round caps and sweepers rest on: the query behind
`count_speech_events` and `last_speech_event_for_op` picks speech by two `LIKE` patterns, and the
contract's `is_speech_kind` by the first category word among the tokens of the kind.
-/
import OpsCure.Library.Like
import OpsCure.Library.Words
import OpsCure.Store

namespace OpsCure.V2

open Contract Like

/-! ## The query -/

/-- `or_(kind.like("%.speech.%"), kind.like("speech.%"))`, as SQLite answers it. -/
def speechQuerySelects (kind : String) : Bool :=
  like "%.speech.%" kind || like "speech.%" kind

def readTokens (kind : String) : List (List Char) :=
  (readText kind).splitOn '.'

/-- A token that says `speech` in the letters of some case. -/
def SpellsSpeech (token : List Char) : Prop :=
  token.map Char.toLower = "speech".toList

instance (token : List Char) : Decidable (SpellsSpeech token) :=
  inferInstanceAs (Decidable (_ = _))

theorem toLower_eq_dot_iff (c : Char) : c.toLower = '.' ↔ c = '.' := by
  have hdot : '.'.toNat = 46 := rfl
  constructor
  · intro hlower
    rcases Text.toLower_cases c with ⟨hlow, hhigh, hshift⟩ | ⟨-, hsame⟩
    · rw [hlower, hdot] at hshift
      omega
    · exact hsame.symm.trans hlower
  · intro hsame
    rw [hsame]
    rfl

variable {kind : String}

theorem speechQuerySelects_iff_within :
    speechQuerySelects kind ↔
      ".speech.".toList <:+: (readText kind).map Char.toLower ∨
        "speech.".toList <+: (readText kind).map Char.toLower := by
  have hmiddle : IsLiteral ".speech.".toList := by decide
  have hopening : IsLiteral "speech.".toList := by decide
  have hinfix : like "%.speech.%" kind ↔
      ".speech.".toList <:+: (readText kind).map Char.toLower :=
    patternCompare_within hmiddle
  have hprefix : like "speech.%" kind ↔ "speech.".toList <+: (readText kind).map Char.toLower :=
    patternCompare_start hopening
  rw [speechQuerySelects, Bool.or_eq_true, hinfix, hprefix]

/-- The query selects a kind when some token before the last spells `speech`. -/
theorem speechQuerySelects_iff :
    speechQuerySelects kind ↔ ∃ token ∈ (readTokens kind).dropLast, SpellsSpeech token := by
  have hdot : '.' ∉ "speech".toList := by decide
  have htoken := @Text.mem_dropLast_splitOn _ _ _ '.' _ ((readText kind).map Char.toLower) hdot
  have hfolded : ((readText kind).map Char.toLower).splitOn '.' =
      (readTokens kind).map (List.map Char.toLower) :=
    Text.splitOn_map toLower_eq_dot_iff _
  rw [hfolded, ← List.map_dropLast] at htoken
  rw [speechQuerySelects_iff_within, or_comm]
  exact htoken.symm.trans List.mem_map

theorem readText_of_plain (hplain : '\x00' ∉ kind.toList) : readText kind = kind.toList := by
  apply List.takeWhile_eq_self_iff.mpr
  intro c hc
  apply decide_eq_true
  intro hnul
  rw [hnul] at hc
  exact hplain hc

theorem likeSpeech_eq_selects (hplain : '\x00' ∉ kind.toList) :
    likeSpeech kind = speechQuerySelects kind := by
  apply Bool.eq_iff_iff.mpr
  rw [speechQuerySelects_iff_within, readText_of_plain hplain]
  exact decide_eq_true_iff

/-! ## The contract -/

/-- The first category word of the tokens is `speech`. -/
def OpensWithSpeech (tokens : List (List Char)) : Prop :=
  ∃ before after, tokens = before ++ "speech".toList :: after ∧
    ∀ token ∈ before, categoryOfToken token = none

theorem categoryOfToken_eq_speech {token : List Char} :
    categoryOfToken token = some .speech ↔ token = "speech".toList := by
  constructor
  · intro hcategory
    unfold categoryOfToken at hcategory
    split_ifs at hcategory with hword
    · exact hword
    all_goals cases hcategory
  · intro hword
    rw [hword]
    rfl

theorem isSpeechKind_iff : isSpeechKind kind ↔ OpensWithSpeech (kindTokens kind).dropLast := by
  rw [isSpeechKind, decide_eq_true_iff, categoryOf, List.findSome?_eq_some_iff]
  constructor
  · intro ⟨before, token, after, htokens, hcategory, hbefore⟩
    rw [categoryOfToken_eq_speech.1 hcategory] at htokens
    exact ⟨before, after, htokens, hbefore⟩
  · intro ⟨before, after, htokens, hbefore⟩
    exact ⟨before, _, after, htokens, categoryOfToken_eq_speech.2 rfl, hbefore⟩

/-! ## Where they agree -/

structure ReadAlike (kind : String) : Prop where
  /-- A token that spells `speech` is not of another case, and stands behind no other category
  word, unless the kind opens with `speech` anyway. -/
  spelled : ∀ token ∈ (readTokens kind).dropLast, SpellsSpeech token →
    OpensWithSpeech (kindTokens kind).dropLast
  /-- A kind that opens with `speech` has such a token ahead of its first NUL. -/
  read : OpensWithSpeech (kindTokens kind).dropLast →
    ∃ token ∈ (readTokens kind).dropLast, SpellsSpeech token

/-- The query and the contract agree on a kind exactly when it is read alike. -/
theorem selects_iff_isSpeechKind_iff (kind : String) :
    (speechQuerySelects kind ↔ isSpeechKind kind) ↔ ReadAlike kind := by
  rw [speechQuerySelects_iff, isSpeechKind_iff]
  constructor
  · intro hagree
    exact ⟨fun token htoken hspells => hagree.mp ⟨token, htoken, hspells⟩, hagree.mpr⟩
  · intro halike
    constructor
    · intro ⟨token, htoken, hspells⟩
      exact halike.spelled token htoken hspells
    · exact halike.read

/-- Two kinds the query counts as speech and the contract does not. -/
theorem miscased_and_shadowed_disagree :
    ¬ (speechQuerySelects "chat.SPEECH.claim" ↔ isSpeechKind "chat.SPEECH.claim") ∧
      ¬ (speechQuerySelects "chat.task.speech.note" ↔ isSpeechKind "chat.task.speech.note") := by
  decide

end OpsCure.V2
