/-!
# Search trees over runs of code points

The properties of single characters come as runs of neighbouring code points, each with its
values, in ascending order.  `RunTree` arranges the runs for binary search.  The tree is built
from the list, so the list stays the one place that holds the data: what is true of every run of
the list is true of every run that a search can find (`mem_of_find?_ofList`).
-/

namespace TexGlyph

/-- Data that stand for the `size` consecutive code points from `first` on. -/
class CodeRun (ρ : Type) where
  /-- The first code point. -/
  first : ρ → Nat
  /-- The number of code points. -/
  size : ρ → Nat

/-- A binary tree of runs. -/
inductive RunTree (ρ : Type) where
  /-- No run. -/
  | leaf
  /-- A run between those before it and those after it. -/
  | node (before : RunTree ρ) (run : ρ) (after : RunTree ρ)

namespace RunTree

variable {ρ : Type}

/-- A tree of depth at most `depth` from the front of the list, and the runs it leaves over. -/
def build : Nat → List ρ → RunTree ρ × List ρ
  | 0, runs => (.leaf, runs)
  | depth + 1, runs =>
    match build depth runs with
    | (before, []) => (before, [])
    | (before, run :: rest) =>
      match build depth rest with
      | (after, rest) => (.node before run after, rest)

/-- The tree of the first `2 ^ depth - 1` runs of the list. -/
def ofList (depth : Nat) (runs : List ρ) : RunTree ρ := (build depth runs).1

/-- The runs of a tree, in order. -/
def toList : RunTree ρ → List ρ
  | leaf => []
  | node before run after => before.toList ++ run :: after.toList

/-- The run that covers code point `n`, and the place of `n` in it. -/
def find? [CodeRun ρ] : RunTree ρ → Nat → Option (ρ × Nat)
  | leaf, _ => none
  | node before run after, n =>
    bif Nat.blt n (CodeRun.first run) then before.find? n
    else bif Nat.blt n (CodeRun.first run + CodeRun.size run) then
      some (run, n - CodeRun.first run)
    else after.find? n

/-- Building a tree splits the list: the runs of the tree come first, then those left over. -/
theorem toList_build (depth : Nat) (runs : List ρ) :
    (build depth runs).1.toList ++ (build depth runs).2 = runs := by
  induction depth generalizing runs with
  | zero => rfl
  | succ depth ih =>
    have h := ih runs
    rw [build]
    split
    · rename_i before heq
      rw [heq] at h
      exact h
    · rename_i before run rest heq
      rw [heq] at h
      have h' := ih rest
      simp only [toList] at h ⊢
      rw [List.append_assoc, List.cons_append, h', h]

theorem mem_of_mem_ofList {depth : Nat} {runs : List ρ} {run : ρ}
    (h : run ∈ (ofList depth runs).toList) : run ∈ runs := by
  rw [← toList_build depth runs]
  exact List.mem_append_left _ h

variable [CodeRun ρ] {n i : Nat} {run : ρ}

/-- A search answers with a run of the tree that covers the code point. -/
theorem mem_of_find? {t : RunTree ρ} (h : t.find? n = some (run, i)) :
    run ∈ t.toList ∧ n = CodeRun.first run + i ∧ i < CodeRun.size run := by
  induction t with
  | leaf => simp [find?] at h
  | node before r after ihb iha =>
    simp only [find?, cond_eq_ite] at h
    split at h
    · obtain ⟨hm, hrest⟩ := ihb h
      exact ⟨by simp [toList, hm], hrest⟩
    · rename_i hge
      have hge' : ¬ n < CodeRun.first r := by simpa [Nat.blt_eq] using hge
      split at h
      · rename_i hlt
        have hlt' : n < CodeRun.first r + CodeRun.size r := by simpa [Nat.blt_eq] using hlt
        simp only [Option.some.injEq, Prod.mk.injEq] at h
        obtain ⟨rfl, rfl⟩ := h
        exact ⟨by simp [toList], by omega, by omega⟩
      · obtain ⟨hm, hrest⟩ := iha h
        exact ⟨by simp [toList, hm], hrest⟩

/-- A search in the tree of a list answers with a run of that list. -/
theorem mem_of_find?_ofList {depth : Nat} {runs : List ρ}
    (h : (ofList depth runs).find? n = some (run, i)) :
    run ∈ runs ∧ n = CodeRun.first run + i ∧ i < CodeRun.size run :=
  ⟨mem_of_mem_ofList (mem_of_find? h).1, (mem_of_find? h).2⟩

end RunTree

end TexGlyph
