/-
Blocks between an opening and a closing mark, as a scan from the left finds them and as a
replacement takes them out.  A block starts where an opening stands that a closing follows, and
ends with the first closing behind it; the scan goes on after its end.  Taking the blocks out
joins what stood around them, so that a mark can be spelled in what is left that nobody wrote.
-/
import Mathlib.Data.List.Infix
import Mathlib.Data.List.Nodup
import Mathlib.Data.List.Perm.Basic

namespace Blocks

universe u v

variable {σ : Type u} {τ : Type v}

structure Marks (τ : Type v) where
  isOpening : List τ → Bool
  isClosing : List τ → Bool
  opening_nonempty : isOpening [] = false
  closing_nonempty : isClosing [] = false

/-- The marks of a text whose characters are read off something else. -/
def Marks.along (marks : Marks τ) (f : σ → τ) : Marks σ where
  isOpening piece := marks.isOpening (piece.map f)
  isClosing piece := marks.isClosing (piece.map f)
  opening_nonempty := marks.opening_nonempty
  closing_nonempty := marks.closing_nonempty

structure Block (τ : Type v) where
  opening : List τ
  inside : List τ
  closing : List τ
deriving DecidableEq, Repr

def Block.whole (block : Block τ) : List τ := block.opening ++ block.inside ++ block.closing

def Block.start (block : Block τ) : Option τ := block.opening.head?

def shortest (accepts : List τ → Bool) (text : List τ) : Option Nat :=
  (List.range (text.length + 1)).find? fun n => accepts (text.take n)

/-- The first closing of a text, after what stands before it. -/
def findClosing (isClosing : List τ → Bool) : List τ → Option (List τ × List τ)
  | [] => none
  | c :: rest =>
      match shortest isClosing (c :: rest) with
      | some n => some ([], (c :: rest).take n)
      | none => (findClosing isClosing rest).map fun found => (c :: found.1, found.2)

def blockAt (marks : Marks τ) (text : List τ) : Option (Block τ) :=
  match shortest marks.isOpening text with
  | none => none
  | some n => (findClosing marks.isClosing (text.drop n)).map fun found =>
      ⟨text.take n, found.1, found.2⟩

/-- The blocks of a text whose first characters belong to a block already. -/
def blocksFrom (marks : Marks τ) : Nat → List τ → List (Block τ)
  | _, [] => []
  | skip + 1, _ :: rest => blocksFrom marks skip rest
  | 0, c :: rest =>
      match blockAt marks (c :: rest) with
      | some block => block :: blocksFrom marks (block.whole.length - 1) rest
      | none => blocksFrom marks 0 rest

/-- What is left of such a text without its blocks. -/
def restFrom (marks : Marks τ) : Nat → List τ → List τ
  | _, [] => []
  | skip + 1, _ :: rest => restFrom marks skip rest
  | 0, c :: rest =>
      match blockAt marks (c :: rest) with
      | some block => restFrom marks (block.whole.length - 1) rest
      | none => c :: restFrom marks 0 rest

def blocks (marks : Marks τ) (text : List τ) : List (Block τ) := blocksFrom marks 0 text

def without (marks : Marks τ) (text : List τ) : List τ := restFrom marks 0 text

structure Spells (marks : Marks τ) (text : List τ) (block : Block τ) : Prop where
  opens : marks.isOpening block.opening
  closes : marks.isClosing block.closing
  within : block.whole <:+: text

structure Joined (marks : Marks τ) (text left : List τ) (block : Block τ) : Prop
    extends Spells marks left block where
  across : ¬ (block.opening <:+: text ∧ block.closing <:+: text)

/-! ## Finding blocks -/

variable {text piece rest left : List τ} {marks : Marks τ} {block : Block τ}

variable {isClosing : List τ → Bool} {closing : List τ} {p : τ → Bool} {c : τ}

theorem Marks.opening_ne (hopens : marks.isOpening piece) : piece ≠ [] := by
  rintro rfl
  rw [marks.opening_nonempty] at hopens
  exact Bool.false_ne_true hopens

theorem Spells.mono {larger : List τ} (hspells : Spells marks text block)
    (hwithin : text <:+: larger) : Spells marks larger block :=
  ⟨hspells.opens, hspells.closes, hspells.within.trans hwithin⟩

theorem Spells.dropWhile (hspells : Spells marks text block)
    (hopening : ∀ c rest, marks.isOpening (c :: rest) → p c = false) :
    Spells marks (text.dropWhile p) block := by
  refine ⟨hspells.opens, hspells.closes, ?_⟩
  obtain ⟨before, after, rfl⟩ := hspells.within
  obtain ⟨c, rest, hfirst⟩ := List.exists_cons_of_ne_nil (Marks.opening_ne hspells.opens)
  have hkept : p c = false := hopening c rest (hfirst ▸ hspells.opens)
  have hwhole : (block.whole ++ after).dropWhile p = block.whole ++ after := by
    simp only [Block.whole, hfirst, List.cons_append, List.dropWhile_cons, hkept]
    rfl
  rw [List.append_assoc, List.dropWhile_append, hwhole]
  split
  · exact ⟨[], after, rfl⟩
  · exact ⟨before.dropWhile p, after, List.append_assoc ..⟩

end Blocks
