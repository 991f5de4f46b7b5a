import TexGlyph.Unicode.Name.Scripts
import TexGlyph.Unicode.Name.Supplementary
import TexGlyph.Unicode.Name.Symbols

/-!
# The name of a character

Names are kept for the characters that the spelling of a character depends on: those with a font
or compatibility mapping, and the Greek ones.
-/

namespace TexGlyph

/-- Every name that is kept, in ascending order of code points. -/
def nameRuns : List NameRun :=
  NameData.latinGreek ++ NameData.eastern ++ NameData.extendedGreek ++ NameData.symbols ++
    NameData.ideographs ++ NameData.forms ++ NameData.ancientGreek ++ NameData.mathematical ++
    NameData.enclosed

/-- The names, arranged for search. -/
def nameTree : RunTree NameRun := .ofList 10 nameRuns

/-- The name of a character, if it is kept. -/
def charName? (c : Char) : Option String :=
  match nameTree.find? c.toNat with
  | none => none
  | some (run, i) => run.endings[i]?.map (run.stem ++ ·)

/-- A name that was found is the stem and one ending of a run of the table. -/
theorem exists_run_of_charName? {c : Char} {name : String} (h : charName? c = some name) :
    ∃ run ∈ nameRuns, ∃ ending ∈ run.endings, name = run.stem ++ ending ∧
      run.first ≤ c.toNat ∧ c.toNat < run.first + run.endings.length := by
  rw [charName?] at h
  cases hf : nameTree.find? c.toNat with
  | none => rw [hf] at h; simp at h
  | some found =>
    obtain ⟨run, i⟩ := found
    rw [hf] at h
    simp only [Option.map_eq_some_iff] at h
    obtain ⟨ending, he, rfl⟩ := h
    obtain ⟨hm, hn, hi⟩ := RunTree.mem_of_find?_ofList hf
    exact ⟨run, hm, ending, List.mem_of_getElem? he, rfl, by simp only [CodeRun.first] at hn; omega,
      by simp only [CodeRun.first, CodeRun.size] at hn hi; omega⟩

end TexGlyph
