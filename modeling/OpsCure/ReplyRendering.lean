/-
Writing the prefix of a reply: a kind, those it asks and the kinds it expects, in the bracket
syntax that `_parse_reply_prefix` documents, and reading it back.
-/
import OpsCure.ReplyPrefix

namespace OpsCure.ReplyPrefix

open Trimming

/-! ## The bracket syntax -/

/-- How a prefix leads from its kind to the handles: by one of the arrows or not at all. -/
inductive Pointer where
  | arrow
  | hyphenArrow
  | bare
deriving DecidableEq, Repr

def Pointer.mark : Pointer → Chars
  | .arrow => "→".toList
  | .hyphenArrow => "->".toList
  | .bare => []

def uppered (text : Chars) : Chars := text.map Char.toUpper

def listed (items : List Chars) : Chars := [','].intercalate items

def renderTail (handles kinds : List Chars) : Chars :=
  listed handles ++ if kinds = [] then [] else ' ' :: "kinds=".toList ++ listed kinds

/-- What stands in the brackets.  The syntax has no place for kinds where nobody is asked. -/
def renderInside (pointer : Pointer) (kind : Chars) (handles kinds : List Chars) : Chars :=
  uppered kind ++ if handles = [] then [] else pointer.mark ++ renderTail handles kinds

/-- `[KIND]`, `[KIND@a,@b]`, `[KIND→@a,@b]` and `[KIND→@a kinds=foo,bar]`. -/
def renderPrefix (pointer : Pointer) (kind : Chars) (handles kinds : List Chars) : Chars :=
  '[' :: renderInside pointer kind handles kinds ++ [']']

def renderReply (pointer : Pointer) (kind : Chars) (handles kinds : List Chars)
    (body : Chars) : Chars :=
  renderPrefix pointer kind handles kinds ++ ' ' :: body

def isNameChar (c : Char) : Bool :=
  !Text.isSpace c && !([',', ';', ']', '=', '>', '→'].contains c)

def WellFormedHandle (handle : Chars) : Prop :=
  ∃ name, handle = '@' :: name ∧ name ≠ [] ∧ name.all isNameChar

def WellFormedKind (kind : Chars) : Prop := kind ∈ "*".toList :: allowedSpeechKinds

/-! ## The words of a prefix -/

theorem isNameChar_at : isNameChar '@' = true := by decide

theorem WellFormedHandle.chars {handle : Chars} (hhandle : WellFormedHandle handle) :
    ∀ c ∈ handle, isNameChar c = true := by
  obtain ⟨name, rfl, -, hname⟩ := hhandle
  intro c hc
  rcases List.mem_cons.mp hc with rfl | hmem
  · exact isNameChar_at
  · exact List.all_eq_true.mp hname c hmem

/-- The letters of the kinds, as they are written in the brackets and behind `kinds=`. -/
theorem kind_letters : ∀ kind ∈ allowedSpeechKinds,
    lowered (uppered kind) = kind ∧ kind ≠ [] ∧
      ((uppered kind).all fun c => c = '_' ∨ (65 ≤ c.toNat ∧ c.toNat ≤ 90)) = true ∧
      (kind.all fun c => 95 ≤ c.toNat ∧ c.toNat ≤ 122) = true := by
  decide

theorem WellFormedKind.chars {kind : Chars} (hkind : WellFormedKind kind) :
    kind ≠ [] ∧ ∀ c ∈ kind, c = '*' ∨ (95 ≤ c.toNat ∧ c.toNat ≤ 122) := by
  rcases List.mem_cons.mp hkind with rfl | hmem
  · refine ⟨by decide, ?_⟩
    intro c hc
    exact Or.inl (List.mem_singleton.mp hc)
  · obtain ⟨-, hnonempty, -, hletters⟩ := kind_letters kind hmem
    refine ⟨hnonempty, ?_⟩
    intro c hc
    exact Or.inr (of_decide_eq_true (List.all_eq_true.mp hletters c hc))

variable {c : Char} {sep : Chars}

theorem isSpace_of_between (hlow : 33 ≤ c.toNat) (hhigh : c.toNat ≤ 126) :
    Text.isSpace c = false := by
  simp [Text.isSpace]
  omega

theorem strip_eq_self {text : Chars} (hvisible : ∀ c ∈ text, Text.isSpace c = false) :
    Python.strip text = text := by
  apply trimBy_eq_self
  · intro c hc
    exact hvisible c (List.mem_of_mem_head? hc)
  · intro c hc
    exact hvisible c (List.mem_of_mem_getLast? hc)

theorem mem_listed {items : List Chars} (hc : c ∈ listed items) (hcomma : c ≠ ',') :
    ∃ item ∈ items, c ∈ item := by
  induction items with
  | nil => cases hc
  | cons item items ih =>
      cases items with
      | nil =>
          rw [listed, List.intercalate_singleton] at hc
          exact ⟨item, List.mem_cons_self, hc⟩
      | cons =>
          rw [listed, List.intercalate_cons_cons] at hc
          rcases List.mem_append.mp hc with hstart | hrest
          · rcases List.mem_append.mp hstart with hitem | hsep
            · exact ⟨item, List.mem_cons_self, hitem⟩
            · exact absurd (List.mem_singleton.mp hsep) hcomma
          · obtain ⟨other, hother, hmem⟩ := ih hrest
            exact ⟨other, List.mem_cons_of_mem item hother, hmem⟩

/-! ## Cutting at a mark -/

theorem cutAt_eq_none {sep text : Chars} {c : Char} (hc : c ∈ sep) (hmissing : c ∉ text) :
    cutAt sep text = none := by
  induction text with
  | nil => rfl
  | cons d text ih =>
      have hnot : ¬ sep <+: d :: text := fun hstart => hmissing (hstart.subset hc)
      have hrest : c ∉ text := fun hmem => hmissing (List.mem_cons_of_mem d hmem)
      rw [cutAt, if_neg hnot, ih hrest]
      rfl

theorem cutAt_self (hsep : sep ≠ []) (after : Chars) :
    cutAt sep (sep ++ after) = some ([], after) := by
  cases sep with
  | nil => exact absurd rfl hsep
  | cons first others =>
      have hprefix : first :: others <+: first :: (others ++ after) :=
        List.prefix_append (first :: others) after
      rw [List.cons_append, cutAt, if_pos hprefix, ← List.cons_append, List.drop_left]

theorem cutAt_behind {before : Chars} {first : Char} {others : Chars}
    (hsep : sep = first :: others) (hbefore : first ∉ before) (after : Chars) :
    cutAt sep (before ++ (sep ++ after)) = some (before, after) := by
  have hnonempty : sep ≠ [] := by
    rw [hsep]
    exact List.cons_ne_nil first others
  rw [cutAt_append_left hsep hbefore, cutAt_self hnonempty, Option.map_some, List.append_nil]

theorem cutAt_of_last {start before : Chars} {last : Char} (hstart : last ∉ start)
    (hbefore : last ∉ before) (after : Chars) :
    cutAt (start ++ [last]) (before ++ (start ++ [last]) ++ after) = some (before, after) := by
  induction before with
  | nil =>
      rw [List.nil_append]
      exact cutAt_self (List.append_ne_nil_of_right_ne_nil start (List.cons_ne_nil last [])) after
  | cons c before ih =>
      have hrest : last ∉ before := fun hmem => hbefore (List.mem_cons_of_mem c hmem)
      have hnot : ¬ start ++ [last] <+: c :: (before ++ (start ++ [last]) ++ after) := by
        intro hprefix
        have hwhole : c :: (before ++ start) <+: c :: (before ++ (start ++ [last]) ++ after) := by
          rw [List.prefix_cons_inj, List.append_assoc, List.append_assoc]
          exact (List.prefix_append_right_inj before).mpr (List.prefix_append start _)
        have hlength : (start ++ [last]).length ≤ (c :: (before ++ start)).length := by
          simp
        have hshort := List.prefix_of_prefix_length_le hprefix hwhole hlength
        have hmem : last ∈ c :: (before ++ start) :=
          hshort.subset (List.mem_append_right start List.mem_cons_self)
        rw [← List.cons_append] at hmem
        rcases List.mem_append.mp hmem with hhere | hhere
        · exact hbefore hhere
        · exact hstart hhere
      rw [List.cons_append, List.cons_append, cutAt, if_neg hnot, ih hrest]
      rfl

/-! ## Reading the tail -/

section
variable {handles kinds : List Chars}

variable {c : Char} {p : Char → Bool} {word : Chars}

theorem not_mem_handles (hhandles : ∀ handle ∈ handles, WellFormedHandle handle)
    (hc : isNameChar c = false) {handle : Chars} (hmem : handle ∈ handles) : c ∉ handle := by
  intro hin
  have hname := (hhandles handle hmem).chars c hin
  rw [hc] at hname
  cases hname

theorem visible_of_isNameChar (hc : isNameChar c = true) : Text.isSpace c = false := by
  have hboth := (Bool.and_eq_true _ _ ▸ hc : _ ∧ _)
  simpa using hboth.1

theorem replaceChar_eq_self {old new : Char} {text : Chars} (hmissing : old ∉ text) :
    replaceChar old new text = text := by
  have hsame : ∀ c ∈ text, (if c = old then new else c) = id c := by
    intro c hc
    have hne : c ≠ old := fun heq => hmissing (heq ▸ hc)
    exact if_neg hne
  rw [replaceChar, List.map_congr_left hsame, List.map_id]

theorem wordsBy_append_cons (hword : ∀ c ∈ word, p c = false) (hnonempty : word ≠ [])
    {blank : Char} (hblank : p blank = true) (rest : Chars) :
    wordsBy p (word ++ blank :: rest) = word :: wordsBy p rest := by
  rw [wordsBy, List.splitOnP_append_cons_of_forall_mem hword blank hblank, List.filter_cons,
    if_pos (decide_eq_true hnonempty)]
  rfl

theorem wordsBy_word (hword : ∀ c ∈ word, p c = false) (hnonempty : word ≠ []) :
    wordsBy p word = [word] := by
  rw [wordsBy, List.splitOnP_eq_singleton hword, List.filter_cons,
    if_pos (decide_eq_true hnonempty)]
  rfl

theorem wordsBy_listed (hhandles : ∀ handle ∈ handles, WellFormedHandle handle) {after : Chars}
    (hafter : after = [] ∨ after = [' ']) :
    wordsBy Text.isSpace (replaceChar ',' ' ' (listed handles ++ after)) = handles := by
  have hnone : wordsBy Text.isSpace [] = [] := by decide
  have hblank : Text.isSpace ' ' = true := by decide
  induction handles with
  | nil =>
      rcases hafter with rfl | rfl
      · exact hnone
      · decide
  | cons handle handles ih =>
      have hhandle := hhandles handle List.mem_cons_self
      have hvisible : ∀ c ∈ handle, Text.isSpace c = false :=
        fun c hc => visible_of_isNameChar (hhandle.chars c hc)
      have hnonempty : handle ≠ [] := by
        obtain ⟨name, rfl, -⟩ := hhandle
        exact List.cons_ne_nil '@' name
      have hsame : replaceChar ',' ' ' handle = handle :=
        replaceChar_eq_self (not_mem_handles hhandles (by decide) List.mem_cons_self)
      have hfirst := wordsBy_append_cons hvisible hnonempty hblank
      have hreplaced : ∀ rest : Chars, replaceChar ',' ' ' (handle ++ rest) =
          handle ++ replaceChar ',' ' ' rest := by
        intro rest
        rw [replaceChar, List.map_append]
        exact congrArg (· ++ replaceChar ',' ' ' rest) hsame
      cases handles with
      | nil =>
          rw [listed, List.intercalate_singleton, hreplaced]
          rcases hafter with rfl | rfl
          · have hwhole : handle ++ replaceChar ',' ' ' [] = handle := List.append_nil handle
            rw [hwhole]
            exact wordsBy_word hvisible hnonempty
          · have hend : replaceChar ',' ' ' [' '] = ' ' :: [] := by decide
            rw [hend, hfirst, hnone]
      | cons next handles =>
          have hrest := ih fun other hother => hhandles other (List.mem_cons_of_mem handle hother)
          rw [listed, List.intercalate_cons_cons, List.append_assoc, List.append_assoc,
            hreplaced]
          have hcomma : replaceChar ',' ' ' ([','] ++ ([','].intercalate (next :: handles) ++
              after)) = ' ' :: replaceChar ',' ' ' (listed (next :: handles) ++ after) := rfl
          rw [hcomma, hfirst, hrest]

theorem addHandle_new {handle : Chars} (hhandle : WellFormedHandle handle)
    (hnew : handle ∉ handles) : Python.addHandle handles handle = handles ++ [handle] := by
  have hstrip : Python.strip handle = handle :=
    strip_eq_self fun c hc => visible_of_isNameChar (hhandle.chars c hc)
  have hmarks : dropTrailingMarks handle = handle := by
    have hend : handle.reverse.dropWhile (fun c => c = ',' || c = ';') = handle.reverse := by
      apply dropWhile_eq_self
      intro c hc
      rw [List.head?_reverse] at hc
      have hname := hhandle.chars c (List.mem_of_mem_getLast? hc)
      have hne : c ≠ ',' ∧ c ≠ ';' := by
        constructor <;> (rintro rfl; revert hname; decide)
      simp [hne.1, hne.2]
    rw [dropTrailingMarks, hend, List.reverse_reverse]
  obtain ⟨name, rfl, hname, -⟩ := hhandle
  have hlong : 1 < ('@' :: name).length := by
    rw [List.length_cons]
    have := List.length_pos_iff.mpr hname
    omega
  have hadded : ('@' :: name).head? = some '@' ∧ 1 < ('@' :: name).length ∧
      '@' :: name ∉ handles := ⟨rfl, hlong, hnew⟩
  simp only [Python.addHandle, hstrip, hmarks]
  exact if_pos hadded

theorem foldl_addHandle {words : List Chars} (hhandles : ∀ word ∈ words, WellFormedHandle word)
    (hdistinct : (handles ++ words).Nodup) :
    words.foldl Python.addHandle handles = handles ++ words := by
  induction words generalizing handles with
  | nil => exact (List.append_nil handles).symm
  | cons word words ih =>
      have hnew : word ∉ handles := by
        intro hmem
        have hapart := (List.nodup_append.mp hdistinct).2.2
        exact hapart word hmem word List.mem_cons_self rfl
      have hmoved : handles ++ word :: words = handles ++ [word] ++ words := by simp
      rw [List.foldl_cons, addHandle_new (hhandles word List.mem_cons_self) hnew, hmoved]
      apply ih
      · exact fun other hother => hhandles other (List.mem_cons_of_mem word hother)
      · rw [← hmoved]
        exact hdistinct

theorem readHandles_listed (hhandles : ∀ handle ∈ handles, WellFormedHandle handle)
    (hdistinct : handles.Nodup) {after : Chars} (hafter : after = [] ∨ after = [' ']) :
    Python.readHandles (listed handles ++ after) = handles := by
  rw [Python.readHandles, wordsBy_listed hhandles hafter]
  exact foldl_addHandle hhandles hdistinct

theorem readKinds_listed (hkinds : ∀ kind ∈ kinds, WellFormedKind kind) (hsome : kinds ≠ []) :
    Python.readKinds (listed kinds) = kinds := by
  have hchars : ∀ kind ∈ kinds, ∀ c ∈ kind, 33 ≤ c.toNat ∧ c.toNat ≤ 126 ∧ c ≠ ',' ∧ c ≠ ' ' := by
    intro kind hkind c hc
    rcases (hkinds kind hkind).chars.2 c hc with rfl | ⟨hlow, hhigh⟩
    · decide
    · refine ⟨by omega, by omega, ?_, ?_⟩ <;> (rintro rfl; revert hlow; decide)
  have hsame : replaceChar ' ' ',' (listed kinds) = listed kinds := by
    apply replaceChar_eq_self
    intro hc
    obtain ⟨kind, hkind, hmem⟩ := mem_listed hc (by decide)
    exact (hchars kind hkind ' ' hmem).2.2.2 rfl
  have hsplit : (listed kinds).splitOn ',' = kinds := by
    apply List.splitOn_intercalate ',' _ hsome
    intro kind hkind hmem
    exact (hchars kind hkind ',' hmem).2.2.1 rfl
  have hstrip : ∀ kind ∈ kinds, Python.strip kind = id kind := by
    intro kind hkind
    apply strip_eq_self
    intro c hc
    obtain ⟨hlow, hhigh, -⟩ := hchars kind hkind c hc
    exact isSpace_of_between hlow hhigh
  rw [Python.readKinds, hsame, hsplit, List.map_congr_left hstrip, List.map_id,
    List.filter_eq_self]
  intro kind hkind
  exact decide_eq_true (hkinds kind hkind).chars.1

theorem parts_renderTail (hhandles : ∀ handle ∈ handles, WellFormedHandle handle)
    (hdistinct : handles.Nodup) (hkinds : ∀ kind ∈ kinds, WellFormedKind kind) :
    Python.readHandles (handlesPart (renderTail handles kinds)) = handles ∧
      Python.readKinds (kindsPart (renderTail handles kinds)) = kinds := by
  have hequals : '=' ∉ listed handles := by
    intro hmem
    obtain ⟨handle, hhandle, hin⟩ := mem_listed hmem (by decide)
    exact not_mem_handles hhandles (by decide) hhandle hin
  by_cases hnone : kinds = []
  · have htail : renderTail handles kinds = listed handles ++ [] := by
      rw [renderTail, if_pos hnone]
    have hcut : cutAt "kinds=".toList (listed handles ++ []) = none := by
      rw [List.append_nil]
      exact cutAt_eq_none (by decide) hequals
    rw [htail, handlesPart, kindsPart, hcut]
    refine ⟨readHandles_listed hhandles hdistinct (Or.inl rfl), ?_⟩
    rw [hnone]
    decide
  · have htail : renderTail handles kinds =
        (listed handles ++ [' ']) ++ ("kinds".toList ++ ['=']) ++ listed kinds := by
      rw [renderTail, if_neg hnone]
      simp
    have hbefore : '=' ∉ listed handles ++ [' '] := by
      intro hmem
      rcases List.mem_append.mp hmem with hhere | hhere
      · exact hequals hhere
      · exact absurd hhere (by decide)
    have hcut : cutAt "kinds=".toList (renderTail handles kinds) =
        some (listed handles ++ [' '], listed kinds) := by
      rw [htail]
      exact @cutAt_of_last "kinds".toList _ '=' (by decide) hbefore (listed kinds)
    rw [handlesPart, kindsPart, hcut]
    exact ⟨readHandles_listed hhandles hdistinct (Or.inr rfl), readKinds_listed hkinds hnone⟩

/-! ## Reading the prefix -/

section
variable {pointer : Pointer} {kind : Chars}

variable {c : Char}

theorem not_mem_renderTail (hhandles : ∀ handle ∈ handles, WellFormedHandle handle)
    (hkinds : ∀ kind ∈ kinds, WellFormedKind kind) (hc : isNameChar c = false)
    (hplain : c ∉ ", =kinds*".toList) (hletter : c.toNat < 95 ∨ 122 < c.toNat) :
    c ∉ renderTail handles kinds := by
  intro hmem
  rcases List.mem_append.mp hmem with hhere | hhere
  · have hcomma : c ≠ ',' := by
      rintro rfl
      exact hplain (by decide)
    obtain ⟨handle, hhandle, hin⟩ := mem_listed hhere hcomma
    exact not_mem_handles hhandles hc hhandle hin
  · split at hhere
    · cases hhere
    · rcases List.mem_append.mp hhere with hword | hlist
      · apply hplain
        have hwords : ' ' :: "kinds=".toList ⊆ ", =kinds*".toList := by decide
        exact hwords hword
      · have hcomma : c ≠ ',' := by
          rintro rfl
          exact hplain (by decide)
        obtain ⟨item, hitem, hin⟩ := mem_listed hlist hcomma
        rcases (hkinds item hitem).chars.2 c hin with rfl | ⟨hlow, hhigh⟩
        · exact hplain (by decide)
        · omega

theorem not_mem_uppered (hkind : kind ∈ allowedSpeechKinds) (hscore : c ≠ '_')
    (hletter : c.toNat < 65 ∨ 90 < c.toNat) : c ∉ uppered kind := by
  intro hc
  have hletters := (kind_letters kind hkind).2.2.1
  rcases of_decide_eq_true (List.all_eq_true.mp hletters c hc) with hsame | ⟨hlow, hhigh⟩
  · exact hscore hsame
  · omega

theorem renderTail_opens (hhandles : ∀ handle ∈ handles, WellFormedHandle handle)
    (hasks : handles ≠ []) : ∃ rest, renderTail handles kinds = '@' :: rest := by
  cases handles with
  | nil => exact absurd rfl hasks
  | cons handle handles =>
      obtain ⟨name, rfl, -⟩ := hhandles handle List.mem_cons_self
      cases handles with
      | nil => exact ⟨_, by rw [renderTail, listed, List.intercalate_singleton]; rfl⟩
      | cons => exact ⟨_, by rw [renderTail, listed, List.intercalate_cons_cons]; rfl⟩

/-- The kind is parted from the tail at the pointer. -/
theorem splitKind_renderInside (hkind : kind ∈ allowedSpeechKinds)
    (hhandles : ∀ handle ∈ handles, WellFormedHandle handle)
    (hkinds : ∀ kind ∈ kinds, WellFormedKind kind) (hasks : handles ≠ []) :
    splitKind (renderInside pointer kind handles kinds) =
      some (uppered kind, renderTail handles kinds) := by
  have harrow : '→' ∉ uppered kind := not_mem_uppered hkind (by decide) (by decide)
  have hhyphen : '-' ∉ uppered kind := not_mem_uppered hkind (by decide) (by decide)
  have hgreater : '>' ∉ uppered kind := not_mem_uppered hkind (by decide) (by decide)
  have hat : '@' ∉ uppered kind := not_mem_uppered hkind (by decide) (by decide)
  have harrowTail : '→' ∉ renderTail handles kinds :=
    not_mem_renderTail hhandles hkinds (by decide) (by decide) (by decide)
  have hgreaterTail : '>' ∉ renderTail handles kinds :=
    not_mem_renderTail hhandles hkinds (by decide) (by decide) (by decide)
  rw [renderInside, if_neg hasks, splitKind, separators]
  cases pointer with
  | arrow =>
      have hcut : cutAt "→".toList (uppered kind ++ (Pointer.arrow.mark ++
          renderTail handles kinds)) = some (uppered kind, renderTail handles kinds) :=
        cutAt_behind (by decide : "→".toList = ['→']) harrow _
      rw [List.findSome?_cons, hcut]
      rfl
  | hyphenArrow =>
      have hnone : cutAt "→".toList (uppered kind ++ (Pointer.hyphenArrow.mark ++
          renderTail handles kinds)) = none := by
        apply cutAt_eq_none (c := '→') (by decide)
        simp only [List.mem_append, not_or]
        exact ⟨harrow, by decide, harrowTail⟩
      have hcut : cutAt "->".toList (uppered kind ++ (Pointer.hyphenArrow.mark ++
          renderTail handles kinds)) = some (uppered kind, renderTail handles kinds) :=
        cutAt_behind (by decide : "->".toList = ['-', '>']) hhyphen _
      rw [List.findSome?_cons, hnone, List.findSome?_cons, hcut]
      rfl
  | bare =>
      have hnone : cutAt "→".toList (uppered kind ++ (Pointer.bare.mark ++
          renderTail handles kinds)) = none := by
        apply cutAt_eq_none (c := '→') (by decide)
        simp only [List.mem_append, not_or]
        exact ⟨harrow, by decide, harrowTail⟩
      have hnoHyphen : cutAt "->".toList (uppered kind ++ (Pointer.bare.mark ++
          renderTail handles kinds)) = none := by
        apply cutAt_eq_none (c := '>') (by decide)
        simp only [List.mem_append, not_or]
        exact ⟨hgreater, by decide, hgreaterTail⟩
      obtain ⟨rest, hopens⟩ : ∃ rest, renderTail handles kinds = '@' :: rest :=
        renderTail_opens hhandles hasks
      have hcut : cutAt "@".toList (uppered kind ++ (Pointer.bare.mark ++
          renderTail handles kinds)) = some (uppered kind, rest) := by
        have hrest : Pointer.bare.mark ++ renderTail handles kinds = "@".toList ++ rest := by
          rw [hopens]
          rfl
        rw [hrest]
        exact cutAt_behind (by decide : "@".toList = ['@']) hat rest
      rw [List.findSome?_cons, hnone, List.findSome?_cons, hnoHyphen, List.findSome?_cons, hcut,
        hopens]
      rfl

end

theorem getLast_of_append {start text : Chars} (htext : text ≠ [])
    (hlast : c ∈ (start ++ text).getLast?) : c ∈ text.getLast? := by
  rw [List.getLast?_append, List.getLast?_eq_some_getLast htext] at hlast
  rw [List.getLast?_eq_some_getLast htext]
  exact hlast

theorem listed_ne_nil {items : List Chars} (hwords : ∀ item ∈ items, item ≠ [])
    (hsome : items ≠ []) : listed items ≠ [] := by
  cases items with
  | nil => exact absurd rfl hsome
  | cons item items =>
      have hitem := hwords item List.mem_cons_self
      cases items with
      | nil =>
          rw [listed, List.intercalate_singleton]
          exact hitem
      | cons =>
          rw [listed, List.intercalate_cons_cons]
          exact List.append_ne_nil_of_left_ne_nil (List.append_ne_nil_of_left_ne_nil hitem _) _

theorem getLast_listed {items : List Chars} (hwords : ∀ item ∈ items, item ≠ [])
    (hlast : c ∈ (listed items).getLast?) : ∃ item ∈ items, c ∈ item := by
  induction items with
  | nil => cases hlast
  | cons item items ih =>
      cases items with
      | nil =>
          rw [listed, List.intercalate_singleton] at hlast
          exact ⟨item, List.mem_cons_self, List.mem_of_mem_getLast? hlast⟩
      | cons next items =>
          have hothers : ∀ other ∈ next :: items, other ≠ [] :=
            fun other hother => hwords other (List.mem_cons_of_mem item hother)
          rw [listed, List.intercalate_cons_cons] at hlast
          have hrest := getLast_of_append (listed_ne_nil hothers (List.cons_ne_nil _ _)) hlast
          obtain ⟨other, hother, hmem⟩ := ih hothers hrest
          exact ⟨other, List.mem_cons_of_mem item hother, hmem⟩

theorem getLast_renderTail (hhandles : ∀ handle ∈ handles, WellFormedHandle handle)
    (hkinds : ∀ kind ∈ kinds, WellFormedKind kind)
    (hlast : c ∈ (renderTail handles kinds).getLast?) : Text.isSpace c = false := by
  by_cases hnone : kinds = []
  · rw [renderTail, if_pos hnone, List.append_nil] at hlast
    have hwords : ∀ handle ∈ handles, handle ≠ [] := by
      intro handle hhandle
      obtain ⟨name, rfl, -⟩ := hhandles handle hhandle
      exact List.cons_ne_nil '@' name
    obtain ⟨handle, hhandle, hmem⟩ := getLast_listed hwords hlast
    exact visible_of_isNameChar ((hhandles handle hhandle).chars c hmem)
  · have hwords : ∀ kind ∈ kinds, kind ≠ [] := fun kind hkind => (hkinds kind hkind).chars.1
    rw [renderTail, if_neg hnone, ← List.append_assoc] at hlast
    have hlist := getLast_of_append (listed_ne_nil hwords hnone) hlast
    obtain ⟨item, hitem, hmem⟩ := getLast_listed hwords hlist
    rcases (hkinds item hitem).chars.2 c hmem with rfl | ⟨hlow, hhigh⟩
    · decide
    · exact isSpace_of_between (by omega) (by omega)

theorem visible_uppered (hkind : kind ∈ allowedSpeechKinds) (hc : c ∈ uppered kind) :
    Text.isSpace c = false := by
  have hletters := (kind_letters kind hkind).2.2.1
  rcases of_decide_eq_true (List.all_eq_true.mp hletters c hc) with rfl | ⟨hlow, hhigh⟩
  · decide
  · exact isSpace_of_between (by omega) (by omega)

theorem strip_renderInside (hkind : kind ∈ allowedSpeechKinds)
    (hhandles : ∀ handle ∈ handles, WellFormedHandle handle)
    (hkinds : ∀ kind ∈ kinds, WellFormedKind kind) :
    Python.strip (renderInside pointer kind handles kinds) =
      renderInside pointer kind handles kinds := by
  by_cases hnone : handles = []
  · rw [renderInside, if_pos hnone, List.append_nil]
    exact strip_eq_self fun c hc => visible_uppered hkind hc
  · rw [renderInside, if_neg hnone]
    apply trimBy_eq_self
    · intro c hc
      have hnonempty : uppered kind ≠ [] := by
        intro hnil
        exact (kind_letters kind hkind).2.1 (List.map_eq_nil_iff.mp hnil)
      obtain ⟨d, rest, hopens⟩ := List.exists_cons_of_ne_nil hnonempty
      rw [hopens] at hc
      obtain rfl := Option.some.inj hc
      exact visible_uppered hkind (hopens ▸ List.mem_cons_self)
    · intro c hc
      obtain ⟨rest, hopens⟩ : ∃ rest, renderTail handles kinds = '@' :: rest :=
        renderTail_opens hhandles hnone
      have hnonempty : renderTail handles kinds ≠ [] := by
        rw [hopens]
        exact List.cons_ne_nil '@' rest
      rw [← List.append_assoc] at hc
      exact getLast_renderTail hhandles hkinds (getLast_of_append hnonempty hc)

theorem not_mem_renderInside (hkind : kind ∈ allowedSpeechKinds)
    (hhandles : ∀ handle ∈ handles, WellFormedHandle handle)
    (hkinds : ∀ kind ∈ kinds, WellFormedKind kind) :
    ']' ∉ renderInside pointer kind handles kinds := by
  have hword : ']' ∉ uppered kind := not_mem_uppered hkind (by decide) (by decide)
  have htail : ']' ∉ renderTail handles kinds :=
    not_mem_renderTail hhandles hkinds (by decide) (by decide) (by decide)
  have hmark : ']' ∉ pointer.mark := by
    cases pointer <;> decide
  rw [renderInside]
  split
  · rw [List.append_nil]
    exact hword
  · simp only [List.mem_append, not_or]
    exact ⟨hword, hmark, htail⟩

theorem read_renderInside (pointer : Pointer) (hkind : kind ∈ allowedSpeechKinds)
    (hhandles : ∀ handle ∈ handles, WellFormedHandle handle) (hdistinct : handles.Nodup)
    (hkinds : ∀ kind ∈ kinds, WellFormedKind kind) :
    kindWord (renderInside pointer kind handles kinds) = uppered kind ∧
      responseOf (Python.readHandles (handlesPart (tailOf (renderInside pointer kind handles kinds))))
        (Python.readKinds (kindsPart (tailOf (renderInside pointer kind handles kinds)))) =
          responseOf handles kinds := by
  by_cases hnone : handles = []
  · have hword : renderInside pointer kind handles kinds = uppered kind := by
      rw [renderInside, if_pos hnone, List.append_nil]
    have hsplit : splitKind (uppered kind) = none := by
      have harrow : cutAt "→".toList (uppered kind) = none :=
        @cutAt_eq_none _ _ '→' (by decide) (not_mem_uppered hkind (by decide) (by decide))
      have hhyphen : cutAt "->".toList (uppered kind) = none :=
        @cutAt_eq_none _ _ '-' (by decide) (not_mem_uppered hkind (by decide) (by decide))
      have hat : cutAt "@".toList (uppered kind) = none :=
        @cutAt_eq_none _ _ '@' (by decide) (not_mem_uppered hkind (by decide) (by decide))
      rw [splitKind, separators, List.findSome?_cons, harrow, List.findSome?_cons, hhyphen,
        List.findSome?_cons, hat]
      rfl
    rw [hword, kindWord, tailOf, hsplit, hnone]
    exact ⟨rfl, rfl⟩
  · have hsplit : splitKind (renderInside pointer kind handles kinds) =
        some (uppered kind, renderTail handles kinds) :=
      splitKind_renderInside hkind hhandles hkinds hnone
    obtain ⟨hread, hreadKinds⟩ := parts_renderTail hhandles hdistinct hkinds
    rw [kindWord, tailOf, hsplit]
    simp only [Option.map_some, Option.getD_some, hread, hreadKinds, and_self]

/-- A reply that is rendered with a prefix within the bound is parsed to its kind, those it asks,
the kinds it expects of them, and its body without the blanks around it. -/
theorem parse_renderReply (pointer : Pointer) (hkind : kind ∈ allowedSpeechKinds)
    (hhandles : ∀ handle ∈ handles, WellFormedHandle handle) (hdistinct : handles.Nodup)
    (hkinds : ∀ kind ∈ kinds, WellFormedKind kind)
    (hbound : (renderPrefix pointer kind handles kinds).length ≤ 201) (body : Chars) :
    Python.parseReplyPrefix (renderReply pointer kind handles kinds body) =
      ⟨kind, responseOf handles kinds, Python.strip body⟩ := by
  let inside := renderInside pointer kind handles kinds
  let rest := ((' ' :: body).reverse.dropWhile Text.isSpace).reverse
  have hstrip : Python.strip (renderReply pointer kind handles kinds body) =
      '[' :: inside ++ ']' :: rest := by
    have hlast : (renderPrefix pointer kind handles kinds).getLast? = some ']' :=
      List.getLast?_concat
    have hfirst : ∀ c ∈ (renderPrefix pointer kind handles kinds).head?,
        Text.isSpace c = false := by
      intro c hc
      obtain rfl := Option.some.inj hc
      decide
    rw [Python.strip, renderReply, trimBy_append_of_kept hfirst hlast (by decide), renderPrefix,
      List.append_assoc]
    rfl
  obtain ⟨hword, hresponse⟩ := read_renderInside pointer hkind hhandles hdistinct hkinds
  have hinside : Python.strip inside = inside := strip_renderInside hkind hhandles hkinds
  have hlowered : lowered (Python.strip (kindWord (Python.strip inside))) = kind := by
    rw [hinside, hword, strip_eq_self fun c hc => visible_uppered hkind hc]
    exact (kind_letters kind hkind).1
  have hheader : PythonHeader (renderReply pointer kind handles kinds body) inside rest := by
    refine ⟨⟨hstrip, not_mem_renderInside hkind hhandles hkinds⟩, ?_, ?_⟩
    · rw [renderPrefix, List.length_append, List.length_cons] at hbound
      exact Nat.lt_of_succ_lt_succ (Nat.lt_of_lt_of_le (Nat.lt_succ_self _) hbound)
    · rw [PythonKnows, hlowered]
      exact hkind
  have hbody : rest.dropWhile Text.isSpace = Python.strip body := by
    have hblank : ∀ c ∈ [' '], Text.isSpace c = true := List.all_eq_true.mp (by decide)
    rw [dropWhile_reverse_dropWhile]
    exact trimBy_blank_append hblank body
  rw [parse_pythonHeader hheader, hlowered, hbody, hinside]
  exact congrArg (fun response => Python.Parsed.mk kind response (Python.strip body)) hresponse

end

/-- A question to two handles, one kind of answer expected of them. -/
theorem question_to_two_parsed :
    Python.parseReplyPrefix (renderReply .bare "question".toList ["@bob".toList, "@op-1".toList]
        ["answer".toList] " which port?\n".toList) =
      ⟨"question".toList, some ⟨["@bob".toList, "@op-1".toList], some ["answer".toList]⟩,
        "which port?".toList⟩ :=
  parse_renderReply .bare (by decide)
    (by
      intro handle hhandle
      rcases List.mem_cons.mp hhandle with rfl | hrest
      · exact ⟨"bob".toList, rfl, by decide, by decide⟩
      · rw [List.mem_singleton.mp hrest]
        exact ⟨"op-1".toList, rfl, by decide, by decide⟩)
    (by decide) (by unfold WellFormedKind; decide) (by decide) " which port?\n".toList

/-- A body loses the blank line at its end, and kinds that are expected of nobody are gone. -/
theorem blank_end_and_lone_kinds_lost :
    ¬ (∀ body : Chars, body.head? ≠ some '[' →
        (Python.parseReplyPrefix (renderReply .arrow "claim".toList ["@bob".toList] []
          body)).body = body) ∧
      (Python.parseReplyPrefix (renderReply .arrow "question".toList [] ["answer".toList]
        "go".toList)).expectedResponse = none := by
  constructor
  · intro hall
    exact absurd (hall "go\n".toList (by decide)) (by decide)
  · decide

end OpsCure.ReplyPrefix
