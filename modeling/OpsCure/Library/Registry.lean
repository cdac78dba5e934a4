/-
A registry: one value for each name that is in it.  Values are put in and taken out by their name,
or all at once by what they are.
-/
import OpsCure.Library.Keyed

namespace OpsCure

universe u v

variable {κ : Type u} {ν : Type v}

/-- The entries in the order in which their names came. -/
abbrev Registry (κ : Type u) (ν : Type v) := Keyed (Prod.fst : κ × ν → κ)

namespace Registry

/-- The first name that stands for a value with this property. -/
def nameOf (registry : Registry κ ν) (is : ν → Bool) : Option κ :=
  (registry.rows.find? fun entry => is entry.2).map (·.1)

/-- The entries whose value has this property are taken out. -/
def expel (registry : Registry κ ν) (is : ν → Bool) : Registry κ ν :=
  registry.without fun entry => is entry.2

variable [DecidableEq κ]

def find (registry : Registry κ ν) (name : κ) : Option ν := (registry.get name).map (·.2)

def set (registry : Registry κ ν) (name : κ) (value : ν) : Registry κ ν :=
  registry.upsert (name, value) (fun entry => (entry.1, value)) fun _ => rfl

def pop (registry : Registry κ ν) (name : κ) : Registry κ ν :=
  registry.without fun entry => decide (entry.1 = name)

variable {registry : Registry κ ν} {name other : κ} {value : ν}

@[simp]
theorem find_empty : find (Keyed.empty : Registry κ ν) name = none := rfl

theorem find_eq_some_iff : registry.find name = some value ↔ (name, value) ∈ registry.rows := by
  rw [find, Option.map_eq_some_iff]
  constructor
  · rintro ⟨entry, hentry, rfl⟩
    have hname : entry.1 = name := Keyed.key_of_get hentry
    rw [← hname]
    exact Keyed.mem_of_get hentry
  · intro hentry
    have hfound : registry.get name = some (name, value) := Keyed.get_of_mem hentry
    exact ⟨_, hfound, rfl⟩

theorem value_unique {left right : ν} (hleft : (name, left) ∈ registry.rows)
    (hright : (name, right) ∈ registry.rows) : left = right := by
  rw [← find_eq_some_iff] at hleft hright
  rw [hleft] at hright
  exact Option.some.inj hright

@[simp]
theorem find_set (registry : Registry κ ν) (name : κ) (value : ν) (other : κ) :
    (registry.set name value).find other =
      if other = name then some value else registry.find other := by
  unfold find set
  by_cases hsame : other = name
  · subst hsame
    have hself : (registry.upsert (other, value) (fun entry => (entry.1, value)) fun _ => rfl).get
        other = some (((registry.get other).map fun entry => (entry.1, value)).getD
          (other, value)) := by
      have hkey : ∀ entry : κ × ν, ((entry.1, value) : κ × ν).1 = entry.1 := fun _ => rfl
      exact Keyed.get_upsert_self hkey
    rw [hself, if_pos rfl]
    cases registry.get other with
    | none => rfl
    | some => rfl
  · rw [Keyed.get_upsert_of_ne _ hsame, if_neg hsame]

@[simp]
theorem find_pop (registry : Registry κ ν) (name other : κ) :
    (registry.pop name).find other = if other = name then none else registry.find other := by
  unfold find pop
  rw [Keyed.get_without]
  cases hentry : registry.get other with
  | none => simp
  | some entry =>
      have hname : entry.1 = other := Keyed.key_of_get hentry
      by_cases hsame : other = name
      · simp [Option.filter, hname, hsame]
      · simp [Option.filter, hname, hsame]

theorem find_expel_eq_some_iff {is : ν → Bool} :
    (registry.expel is).find name = some value ↔
      registry.find name = some value ∧ is value = false := by
  rw [find_eq_some_iff, find_eq_some_iff, expel, Keyed.without, List.mem_filter]
  simp

end Registry

end OpsCure
