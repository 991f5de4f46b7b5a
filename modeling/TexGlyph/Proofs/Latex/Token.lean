import Mathlib.Data.List.TakeWhile
import TexGlyph.Latex.Token

/-!
# Texts and their tokens

A list of tokens is well formed (`WellFormed`) if each token has the shape of its kind and ends
where the next one begins.  Reading a text gives such a list, and such a list is read back from the
text that it makes up, so texts and well-formed lists correspond one to one (`scan_bijective`).

Where a token ends only depends on the next character.  `Ends` says this once for every kind of
token: `scan_source_append` reads a token in front of any text that it ends at, `exists_ends` finds
the first token of a text, and `scanInduction` follows the tokens of a text.
-/

namespace TexGlyph

/-! ### Categories -/

namespace Category

theorem isText_eq_false_iff {c : Char} :
    isText c = false ↔
      c = '\\' ∨ c = '%' ∨ c = '\x7b' ∨ c = '\x7d' ∨ c = '$' ∨ c = '&' ∨ c = '~' := by
  constructor
  · grind [isText, of]
  · rintro (rfl | rfl | rfl | rfl | rfl | rfl | rfl) <;> decide

/-- Letters belong to runs of plain text. -/
theorem isText_of_isLetter {c : Char} (h : isLetter c = true) : isText c = true := by
  cases htext : isText c with
  | true => rfl
  | false =>
    rcases isText_eq_false_iff.1 htext with rfl | rfl | rfl | rfl | rfl | rfl | rfl <;>
      exact absurd h (by decide)

/-- Line breaks belong to runs of plain text. -/
theorem isText_of_isLineBreak {c : Char} (h : isLineBreak c = true) : isText c = true := by
  rw [isLineBreak, Bool.or_eq_true, decide_eq_true_eq, decide_eq_true_eq] at h
  rcases h with rfl | rfl <;> decide

theorem of_eq_active_iff {c : Char} : of c = active ↔ c = '$' ∨ c = '&' ∨ c = '~' := by
  constructor
  · grind [of]
  · rintro (rfl | rfl | rfl) <;> decide

end Category

namespace Token

open Category

/-! ### Where a token ends -/

/-- Whether a token has the shape of its kind and ends before `next`, the character after it. -/
inductive Ends : Token → Option Char → Prop where
  /-- A control word goes on as long as there are letters. -/
  | word {name : List Char} {next : Option Char} (hne : name ≠ [])
      (hname : ∀ c ∈ name, isLetter c = true) (hnext : ∀ c ∈ next, isLetter c = false) :
    Ends (control (String.ofList name)) next
  /-- Any other control sequence has one character. -/
  | symbol {c : Char} {next : Option Char} (hc : isLetter c = false) :
    Ends (control (String.ofList [c])) next
  /-- A control sequence without a name stands at the end. -/
  | bare : Ends (control (String.ofList [])) none
  /-- A comment goes on to the end of the line. -/
  | comment {words : List Char} {next : Option Char}
      (hwords : ∀ c ∈ words, isLineBreak c = false) (hnext : ∀ c ∈ next, isLineBreak c = true) :
    Ends (comment (String.ofList words)) next
  /-- The opening brace is a token of its own. -/
  | beginGroup {next : Option Char} : Ends beginGroup next
  /-- The closing brace is a token of its own. -/
  | endGroup {next : Option Char} : Ends endGroup next
  /-- An active character is a token of its own. -/
  | active {c : Char} {next : Option Char} (hc : c = '$' ∨ c = '&' ∨ c = '~') :
    Ends (active c) next
  /-- Plain text goes on as long as there is plain text. -/
  | text {run : List Char} {next : Option Char} (hne : run ≠ [])
      (hrun : ∀ c ∈ run, isText c = true) (hnext : ∀ c ∈ next, isText c = false) :
    Ends (text (String.ofList run)) next

/-- A run of characters with a property is what is taken from a text, if the text goes on with a
character that does not have it. -/
theorem takeWhile_dropWhile_append {p : Char → Bool} {front rest : List Char}
    (hfront : ∀ c ∈ front, p c = true) (hrest : ∀ c ∈ rest.head?, p c = false) :
    (front ++ rest).takeWhile p = front ∧ (front ++ rest).dropWhile p = rest := by
  rw [List.takeWhile_append_of_pos hfront, List.dropWhile_append_of_pos hfront]
  cases rest with
  | nil => simp
  | cons c rest => simp [hrest c rfl]

/-- What is left after the characters with a property starts with one that does not have it. -/
theorem of_mem_head?_dropWhile {p : Char → Bool} {cs : List Char} {c : Char}
    (h : c ∈ (cs.dropWhile p).head?) : p c = false := by
  have hnot := List.head?_dropWhile_not p cs
  rw [Option.mem_def.1 h] at hnot
  exact hnot

/-- **A token is read in front of any text that it ends at.** -/
theorem scan_source_append {t : Token} {rest : List Char} (h : t.Ends rest.head?) :
    scan (t.source ++ rest) = t :: scan rest := by
  have hescape : of '\\' = escape := by decide
  have hcomment : of '%' = .comment := by decide
  generalize hnext : rest.head? = next at h
  -- The first character leads to the branch of the kind, and the runs stop where `h` says.
  cases h with
  | word hne hname hend =>
    obtain ⟨d, ds, rfl⟩ := List.exists_cons_of_ne_nil hne
    obtain ⟨htake, hdrop⟩ := takeWhile_dropWhile_append
      (fun c hc => hname c (List.mem_cons_of_mem d hc)) (hnext ▸ hend)
    simp only [source, String.toList_ofList, List.cons_append]
    rw [scan, hescape]
    simp only [hname d List.mem_cons_self, ↓reduceIte, htake, hdrop]
  | symbol hc =>
    simp only [source, String.toList_ofList, List.cons_append, List.nil_append]
    rw [scan, hescape]
    simp only [hc, Bool.false_eq_true, ↓reduceIte]
  | bare =>
    obtain rfl := List.head?_eq_none_iff.1 hnext
    simp only [source, String.toList_ofList, List.append_nil]
    rw [scan.eq_def, scan]
    simp only [hescape]
  | comment hwords hend =>
    obtain ⟨htake, hdrop⟩ := takeWhile_dropWhile_append (p := (!isLineBreak ·))
      (fun c hc => by rw [hwords c hc]; rfl)
      (fun c hc => by rw [hend c (hnext ▸ hc)]; rfl)
    simp only [source, String.toList_ofList, List.cons_append]
    rw [scan.eq_def]
    simp only [hcomment, htake, hdrop]
  | beginGroup =>
    have hopen : of '\x7b' = .beginGroup := by decide
    rw [source, List.singleton_append, scan.eq_def]
    simp only [hopen]
  | endGroup =>
    have hclose : of '\x7d' = .endGroup := by decide
    rw [source, List.singleton_append, scan.eq_def]
    simp only [hclose]
  | active hc =>
    rw [source, List.singleton_append, scan.eq_def]
    simp only [of_eq_active_iff.2 hc]
  | text hne hrun hend =>
    obtain ⟨d, ds, rfl⟩ := List.exists_cons_of_ne_nil hne
    obtain ⟨htake, hdrop⟩ := takeWhile_dropWhile_append
      (fun c hc => hrun c (List.mem_cons_of_mem d hc)) (hnext ▸ hend)
    have hd := hrun d List.mem_cons_self
    rw [isText] at hd
    simp only [source, String.toList_ofList, List.cons_append]
    rw [scan.eq_def]
    split at hd
    · rename_i hof
      simp only [hof, htake, hdrop]
    · rename_i hof
      simp only [hof, htake, hdrop]
    · cases hd

/-- **Every text that is not empty starts with a token.** -/
theorem exists_ends {cs : List Char} (h : cs ≠ []) :
    ∃ (t : Token) (rest : List Char), cs = t.source ++ rest ∧ t.Ends rest.head? := by
  obtain ⟨c, cs, rfl⟩ := List.exists_cons_of_ne_nil h
  -- The category of the first character decides the kind of the token; runs are taken whole.
  cases hc : of c with
  | escape =>
    obtain rfl := eq_of_of_eq_escape hc
    cases cs with
    | nil => exact ⟨control (String.ofList []), [], rfl, .bare⟩
    | cons d ds =>
      cases hd : isLetter d with
      | true =>
        refine ⟨control (String.ofList (d :: ds.takeWhile isLetter)), ds.dropWhile isLetter,
          by simp [source], .word (List.cons_ne_nil _ _) ?_ fun c => of_mem_head?_dropWhile⟩
        intro c hc
        rcases List.mem_cons.1 hc with rfl | hc
        · exact hd
        · exact List.mem_takeWhile_imp hc
      | false => exact ⟨control (String.ofList [d]), ds, by simp [source], .symbol hd⟩
  | comment =>
    obtain rfl := eq_of_of_eq_comment hc
    refine ⟨comment (String.ofList (cs.takeWhile (!isLineBreak ·))),
      cs.dropWhile (!isLineBreak ·), by simp [source], .comment ?_ ?_⟩
    · intro c hc
      simpa using List.mem_takeWhile_imp hc
    · intro c hc
      simpa using of_mem_head?_dropWhile hc
  | beginGroup =>
    obtain rfl := eq_of_of_eq_beginGroup hc
    exact ⟨beginGroup, cs, rfl, .beginGroup⟩
  | endGroup =>
    obtain rfl := eq_of_of_eq_endGroup hc
    exact ⟨endGroup, cs, rfl, .endGroup⟩
  | active => exact ⟨active c, cs, rfl, .active (of_eq_active_iff.1 hc)⟩
  | letter | other =>
    have htext : isText c = true := by rw [isText, hc]
    refine ⟨text (String.ofList (c :: cs.takeWhile isText)), cs.dropWhile isText,
      by simp [source], .text (List.cons_ne_nil _ _) ?_ fun c => of_mem_head?_dropWhile⟩
    intro x hx
    rcases List.mem_cons.1 hx with rfl | hx
    · exact htext
    · exact List.mem_takeWhile_imp hx

/-- No token is empty. -/
theorem Ends.source_ne_nil {t : Token} {next : Option Char} (h : t.Ends next) : t.source ≠ [] := by
  cases h with
  | text hne => simpa [source] using hne
  | _ => simp [source]

theorem Ends.exists_mem_head?_source {t : Token} {next : Option Char} (h : t.Ends next) :
    ∃ c, c ∈ t.source.head? := by
  obtain ⟨c, cs, hsource⟩ := List.exists_cons_of_ne_nil h.source_ne_nil
  exact ⟨c, by rw [hsource]; rfl⟩

theorem Ends.head?_source_append {t : Token} {next : Option Char} (h : t.Ends next)
    (rest : List Char) : (t.source ++ rest).head? = t.source.head? := by
  obtain ⟨c, cs, hsource⟩ := List.exists_cons_of_ne_nil h.source_ne_nil
  rw [hsource]
  rfl

/-- **Induction along the tokens of a text**: what holds of the empty text, and of a text as soon
as it holds of what comes after its first token, holds of every text. -/
theorem scanInduction {P : List Char → Prop} (nil : P [])
    (token : ∀ (t : Token) (rest : List Char), t.Ends rest.head? → P rest → P (t.source ++ rest))
    (cs : List Char) : P cs :=
  if hnil : cs = [] then hnil ▸ nil
  else by
    obtain ⟨t, rest, rfl, ht⟩ := exists_ends hnil
    have hpos := List.length_pos_iff.2 ht.source_ne_nil
    have hlt : rest.length < (t.source ++ rest).length := by
      rw [List.length_append]
      omega
    exact token t rest ht (scanInduction nil token rest)
termination_by cs.length

/-! ### Well-formed lists -/

/-- Whether a token has the shape of its kind and can stand before `next`, the token after it. -/
inductive Fits : Token → Option Token → Prop where
  /-- A control word has a name of letters, and the next token does not start with one. -/
  | word {name : String} {next : Option Token} (hne : name ≠ "")
      (hname : ∀ c ∈ name.toList, isLetter c = true)
      (hnext : ∀ t ∈ next, ∀ c ∈ t.source.head?, isLetter c = false) :
    Fits (control name) next
  /-- Any other control sequence is named by one character. -/
  | symbol {c : Char} {next : Option Token} (hc : isLetter c = false) :
    Fits (control (String.ofList [c])) next
  /-- A control sequence without a name comes last. -/
  | bare : Fits (control "") none
  /-- A comment has no line break in it, and plain text after it starts with one. -/
  | comment {words : String} {next : Option Token}
      (hwords : ∀ c ∈ words.toList, isLineBreak c = false)
      (hnext : ∀ t ∈ next, ∃ run, t = text run ∧ ∃ c ∈ run.toList.head?, isLineBreak c = true) :
    Fits (comment words) next
  /-- The opening brace stands anywhere. -/
  | beginGroup {next : Option Token} : Fits beginGroup next
  /-- The closing brace stands anywhere. -/
  | endGroup {next : Option Token} : Fits endGroup next
  /-- An active character stands anywhere. -/
  | active {c : Char} {next : Option Token} (hc : c = '$' ∨ c = '&' ∨ c = '~') :
    Fits (active c) next
  /-- Plain text is not empty, and no plain text comes after it. -/
  | text {run : String} {next : Option Token} (hne : run ≠ "")
      (hrun : ∀ c ∈ run.toList, isText c = true) (hnext : ∀ words, next ≠ some (text words)) :
    Fits (text run) next

/-- Whether every token of a list has the shape of its kind and can stand before the next one. -/
def WellFormed : List Token → Prop
  | [] => True
  | t :: ts => t.Fits ts.head? ∧ WellFormed ts

/-- A token starts with a plain character exactly if it is plain text. -/
theorem Ends.isText_head_iff {t : Token} {next : Option Char} (h : t.Ends next) {c : Char}
    (hc : c ∈ t.source.head?) : isText c = true ↔ ∃ run, t = Token.text run := by
  cases h with
  | text hne hrun =>
    rw [source, String.toList_ofList] at hc
    exact iff_of_true (hrun c (List.mem_of_mem_head? hc)) ⟨_, rfl⟩
  | word | symbol | bare =>
    obtain rfl : '\\' = c := by simpa [source] using hc
    exact iff_of_false (by decide) (by simp)
  | comment =>
    obtain rfl : '%' = c := by simpa [source] using hc
    exact iff_of_false (by decide) (by simp)
  | beginGroup =>
    obtain rfl : '\x7b' = c := by simpa [source] using hc
    exact iff_of_false (by decide) (by simp)
  | endGroup =>
    obtain rfl : '\x7d' = c := by simpa [source] using hc
    exact iff_of_false (by decide) (by simp)
  | @active a _ ha =>
    obtain rfl : a = c := by simpa [source] using hc
    refine iff_of_false ?_ (by simp)
    rcases ha with rfl | rfl | rfl <;> decide

/-- A token that ends where another one begins can stand before it. -/
theorem Ends.fits {t : Token} {next : Option Token} (h : t.Ends (next.bind (·.source.head?)))
    (hnext : ∀ t' ∈ next, ∃ after, t'.Ends after) : t.Fits next := by
  generalize hc : next.bind (·.source.head?) = c at h
  -- What holds of the next character holds of the first one of the next token.
  have hhead : ∀ {p : Char → Bool} {b : Bool}, (∀ x ∈ c, p x = b) →
      ∀ t' ∈ next, ∀ x ∈ t'.source.head?, p x = b := by
    rintro p b hp t' ht' x hx
    refine hp x ?_
    rw [← hc, Option.mem_def, Option.bind_eq_some_iff]
    exact ⟨t', ht', hx⟩
  cases h with
  | word hne hname hend =>
    refine .word (by simpa using hne) (by simpa using hname) (hhead hend)
  | symbol hsymbol => exact .symbol hsymbol
  | bare =>
    cases next with
    | none => exact .bare
    | some t' =>
      obtain ⟨_, ht'⟩ := hnext t' rfl
      exact absurd (List.head?_eq_none_iff.1 hc) ht'.source_ne_nil
  | comment hwords hend =>
    refine .comment (by simpa using hwords) fun t' ht' => ?_
    obtain ⟨_, hends⟩ := hnext t' ht'
    obtain ⟨x, hx⟩ := hends.exists_mem_head?_source
    have hbreak := hhead hend t' ht' x hx
    obtain ⟨run, rfl⟩ := (hends.isText_head_iff hx).1 (isText_of_isLineBreak hbreak)
    exact ⟨run, rfl, x, hx, hbreak⟩
  | beginGroup => exact .beginGroup
  | endGroup => exact .endGroup
  | active hactive => exact .active hactive
  | text hne hrun hend =>
    refine .text (by simpa using hne) (by simpa using hrun) ?_
    rintro words rfl
    obtain ⟨_, hends⟩ := hnext _ rfl
    obtain ⟨x, hx⟩ := hends.exists_mem_head?_source
    have htext := (hends.isText_head_iff hx).2 ⟨words, rfl⟩
    rw [hhead hend _ rfl x hx] at htext
    cases htext

/-- A token that can stand before another one ends where that one begins. -/
theorem Fits.ends {t : Token} {next : Option Token} (h : t.Fits next)
    (hnext : ∀ t' ∈ next, ∃ after, t'.Ends after) : t.Ends (next.bind (·.source.head?)) := by
  have hhead : ∀ {x : Char}, x ∈ next.bind (·.source.head?) →
      ∃ t', next = some t' ∧ x ∈ t'.source.head? := by
    intro x hx
    obtain ⟨t', ht', hx⟩ := Option.bind_eq_some_iff.1 hx
    exact ⟨t', ht', hx⟩
  -- What the shape says of the next token is read off at its first character.
  cases h with
  | @word name _ hne hname hend =>
    rw [← String.ofList_toList (s := name)]
    refine .word (by simpa using hne) hname fun x hx => ?_
    obtain ⟨t', ht', hx⟩ := hhead hx
    exact hend t' ht' x hx
  | symbol hsymbol => exact .symbol hsymbol
  | bare => exact .bare
  | @comment words _ hwords hend =>
    rw [← String.ofList_toList (s := words)]
    refine .comment hwords fun x hx => ?_
    obtain ⟨t', ht', hx⟩ := hhead hx
    obtain ⟨run, rfl, y, hy, hbreak⟩ := hend t' ht'
    obtain rfl : x = y := Option.some.inj (hx.symm.trans hy)
    exact hbreak
  | beginGroup => exact .beginGroup
  | endGroup => exact .endGroup
  | active hactive => exact .active hactive
  | @text run _ hne hrun hend =>
    rw [← String.ofList_toList (s := run)]
    refine .text (by simpa using hne) hrun fun x hx => ?_
    obtain ⟨t', ht', hx⟩ := hhead hx
    obtain ⟨_, hends⟩ := hnext t' ht'
    rw [← Bool.not_eq_true, hends.isText_head_iff hx]
    rintro ⟨words, rfl⟩
    exact hend words ht'

/-! ### Reading and writing -/

/-- The first token of a text starts with the first character of the text, and ends somewhere. -/
theorem head?_scan (cs : List Char) :
    (scan cs).head?.bind (·.source.head?) = cs.head? ∧
      ∀ t ∈ (scan cs).head?, ∃ after, t.Ends after := by
  by_cases hnil : cs = []
  · rw [hnil, scan]
    simp
  · obtain ⟨t, rest, rfl, ht⟩ := exists_ends hnil
    rw [scan_source_append ht, ht.head?_source_append]
    refine ⟨rfl, fun t' ht' => ?_⟩
    obtain rfl : t = t' := Option.some.inj ht'
    exact ⟨_, ht⟩

/-- Reading a text gives a well-formed list. -/
theorem wellFormed_scan (cs : List Char) : WellFormed (scan cs) := by
  induction cs using scanInduction with
  | nil =>
    rw [scan]
    trivial
  | token t rest ht ih =>
    obtain ⟨hhead, hends⟩ := head?_scan rest
    rw [scan_source_append ht]
    exact ⟨Ends.fits (hhead ▸ ht) hends, ih⟩

/-- The first token of a well-formed list ends somewhere. -/
theorem WellFormed.head_ends {ts : List Token} (h : WellFormed ts) :
    ∀ t ∈ ts.head?, ∃ after, t.Ends after := by
  induction ts with
  | nil => simp
  | cons t ts ih =>
    intro t' ht'
    obtain rfl : t = t' := Option.some.inj ht'
    exact ⟨_, h.1.ends (ih h.2)⟩

/-- The text of a well-formed list starts with its first token. -/
theorem WellFormed.head?_flatMap_source {ts : List Token} (h : WellFormed ts) :
    (ts.flatMap source).head? = ts.head?.bind (·.source.head?) := by
  cases ts with
  | nil => rfl
  | cons t ts =>
    obtain ⟨_, ht⟩ := h.head_ends t rfl
    rw [List.flatMap_cons, ht.head?_source_append]
    rfl

/-- A well-formed list is read back from the text that it makes up. -/
theorem scan_flatMap_source {ts : List Token} (h : WellFormed ts) :
    scan (ts.flatMap source) = ts := by
  induction ts with
  | nil => rw [List.flatMap_nil, scan]
  | cons t ts ih =>
    have hends : t.Ends (ts.flatMap source).head? :=
      WellFormed.head?_flatMap_source h.2 ▸ h.1.ends (WellFormed.head_ends h.2)
    rw [List.flatMap_cons, scan_source_append hends, ih h.2]

/-- **Texts and well-formed lists of tokens correspond one to one.**  Reading a text gives a
well-formed list, whose tokens make up the text again, and exactly the well-formed lists are read
back from the text that they make up. -/
theorem scan_bijective :
    (∀ text : List Char, (scan text).flatMap source = text ∧ WellFormed (scan text)) ∧
      ∀ tokens : List Token, WellFormed tokens ↔ scan (tokens.flatMap source) = tokens := by
  refine ⟨fun text => ⟨flatMap_source_scan text, wellFormed_scan text⟩, fun tokens => ⟨?_, ?_⟩⟩
  · exact scan_flatMap_source
  · intro h
    rw [← h]
    exact wellFormed_scan _

example : scan "\\a\x7bb\x7d% c\r\\\\~\\".toList =
    [control "a", beginGroup, text "b", endGroup, comment " c", text "\r", control "\\",
      active '~', control ""] := by
  decide +kernel

end Token

end TexGlyph
