import TexGlyph.Unicode.Mapping.Forms
import TexGlyph.Unicode.Mapping.Ideographs
import TexGlyph.Unicode.Mapping.Scripts
import TexGlyph.Unicode.Mapping.Supplementary
import TexGlyph.Unicode.Mapping.Symbols

/-!
# The mapping of a character

`Mapping.of?` looks a character up among the mappings of the database.  `exists_run_of_of?` leads
from an answer back to the entry of the table that gave it, so a property of the mappings can be
checked entry by entry.
-/

namespace TexGlyph

/-- Every mapping of the database, in ascending order of code points. -/
def mappingRuns : List MappingRun :=
  MappingData.latin ++ MappingData.greekCyrillic ++ MappingData.eastern ++ MappingData.extended ++
    MappingData.punctuation ++ MappingData.technical ++ MappingData.radicals ++
    MappingData.unified ++ MappingData.ligatures ++ MappingData.arabicForms ++
    MappingData.widths ++ MappingData.supplementaryScripts ++ MappingData.mathematical ++
    MappingData.enclosed ++ MappingData.supplement

/-- The mappings of the database, arranged for search. -/
def mappingTree : RunTree MappingRun := .ofList 10 mappingRuns

/-- The tag and the image of code point `n`, as code points. -/
def mappingAt? (n : Nat) : Option (Option Tag × List Nat) :=
  match mappingTree.find? n with
  | none => none
  | some (run, i) => run.images[i]?.map (run.tag, ·)

namespace Mapping

/-- The version of the Unicode Character Database that names and mappings are taken from.  Nothing here
depends on it: it is there for those who have to know whether a character is newer than the tables. -/
def unicodeVersion : String := "14.0.0"

/-- The decomposition mapping of a character, if it has one. -/
def of? (c : Char) : Option Mapping :=
  (mappingAt? c.toNat).map fun m => ⟨m.1, m.2.map Char.ofNat⟩

/-- A mapping that was found stands in the table, under the code point it was looked up for. -/
theorem exists_run_of_mappingAt? {n : Nat} {tag : Option Tag} {image : List Nat}
    (h : mappingAt? n = some (tag, image)) :
    ∃ run ∈ mappingRuns, run.tag = tag ∧ ∃ i, run.images[i]? = some image ∧ n = run.first + i := by
  rw [mappingAt?] at h
  cases hf : mappingTree.find? n with
  | none => rw [hf] at h; simp at h
  | some found =>
    obtain ⟨run, i⟩ := found
    rw [hf] at h
    simp only [Option.map_eq_some_iff, Prod.mk.injEq] at h
    obtain ⟨_, himg, htag, rfl⟩ := h
    obtain ⟨hm, hn, _⟩ := RunTree.mem_of_find?_ofList hf
    exact ⟨run, hm, htag, i, himg, hn⟩

end Mapping

end TexGlyph
