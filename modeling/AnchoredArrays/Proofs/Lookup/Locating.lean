import AnchoredArrays.Lookup.Locate
import Mathlib.Data.List.DropRight
import Mathlib.Tactic.Common

/-!
Where a program is found, and under which name. The last part of a name is read from its end, up to
the last slash; whether a name is looked up at all is read from its start. Both readings agree on
what is found.

* `searchEntries_eq_iff`: the entries of a search path are the texts without colons that make it up;
* `LastPart`, `programName_lastPart`, `LastPart.unique`: the last part of a path is its longest
  ending without a slash; `programName_join`: a path below another one keeps its last part;
* `locate_bare`, `locate_of_slash`: a bare name, and one of several parts;
* `Locates`, `locate_locates`: **locating a program** keeps its name and takes the first entry under
  which there is a file.
-/

namespace AnchoredArrays.Lookup

/-! ### Entries of a search path -/

/-- The parts of a text between occurrences of a character. -/
lemma fields_eq_splitOn (c : Char) (cs : List Char) : fields c cs = cs.splitOn c := by
  induction cs with
  | nil => rfl
  | cons d rest ih =>
    rw [fields, List.splitOn_cons_eq_if_modifyHead, ih]
    by_cases hd : d = c
    · rw [if_pos hd, if_pos (beq_iff_eq.2 hd)]
    · obtain ⟨part, parts, hparts⟩ := List.exists_cons_of_ne_nil (List.splitOn_ne_nil c rest)
      rw [if_neg hd, if_neg (by rwa [beq_iff_eq]), hparts, List.modifyHead_cons]

/-- No part has the character that the text is split at. -/
lemma not_mem_of_mem_fields {c : Char} {cs part : List Char} (h : part ∈ fields c cs) :
    c ∉ part := by
  induction cs generalizing part with
  | nil =>
    rw [List.mem_singleton.1 h]
    exact List.not_mem_nil
  | cons d rest ih =>
    rw [fields] at h
    split_ifs at h with hd
    · obtain rfl | hpart := List.mem_cons.1 h
      · exact List.not_mem_nil
      · exact ih hpart
    · split at h
      · rw [List.mem_singleton.1 h, List.mem_singleton]
        exact Ne.symm hd
      · rename_i first others hrest
        rw [hrest] at ih
        obtain rfl | hpart := List.mem_cons.1 h
        · rw [List.mem_cons, not_or]
          exact ⟨Ne.symm hd, ih List.mem_cons_self⟩
        · exact ih (List.mem_cons_of_mem first hpart)

/-- The entries of a search path, empty ones among them, are the only texts without colons that make
up the path when they are put together with colons. -/
lemma searchEntries_eq_iff {path : String} {entries : List String} :
    searchEntries path = entries
      ↔ entries ≠ [] ∧ (∀ entry ∈ entries, ':' ∉ entry.toList) ∧ ":".intercalate entries = path := by
  have hlists : ∀ path, (searchEntries path).map String.toList = path.toList.splitOn ':' := by
    intro path
    rw [searchEntries, fields_eq_splitOn, List.map_map]
    exact List.map_id'' (fun _ => String.toList_ofList) _
  constructor
  · rintro rfl
    refine ⟨?_, ?_, ?_⟩
    · rw [searchEntries, fields_eq_splitOn, Ne, List.map_eq_nil_iff]
      exact List.splitOn_ne_nil ':' _
    · intro entry hentry
      obtain ⟨part, hpart, rfl⟩ := List.mem_map.1 hentry
      rw [String.toList_ofList]
      exact not_mem_of_mem_fields hpart
    · rw [← String.toList_inj, String.toList_intercalate, hlists]
      exact List.intercalate_splitOn ':'
  · rintro ⟨hsome, hcolon, rfl⟩
    refine List.map_injective_iff.2 (fun _ _ => String.toList_inj.1) ?_
    rw [hlists, String.toList_intercalate]
    refine List.splitOn_intercalate ':' ?_ ?_
    · intro part hpart
      obtain ⟨entry, hentry, rfl⟩ := List.mem_map.1 hpart
      exact hcolon entry hentry
    · rwa [Ne, List.map_eq_nil_iff]

/-! ### Last parts -/

/-- The longest ending of a path that has no slash. -/
structure LastPart (path last : String) : Prop where
  ending : last.toList <:+ path.toList
  slashless : '/' ∉ last.toList
  longest : ∀ ending, ending <:+ path.toList → '/' ∉ ending → ending <:+ last.toList

/-- A path has one last part only. -/
lemma LastPart.unique {path last last' : String} (h : LastPart path last)
    (h' : LastPart path last') : last = last' := by
  have hle := h'.longest last.toList h.ending h.slashless
  have hge := h.longest last'.toList h'.ending h'.slashless
  exact String.toList_inj.1 (hle.eq_of_length_le hge.length_le)

lemma toList_programName (path : String) :
    (programName path).toList = path.toList.rtakeWhile (· != '/') := String.toList_ofList

/-- What follows the last slash is the last part. -/
lemma programName_lastPart (path : String) : LastPart path (programName path) where
  ending := by
    rw [toList_programName]
    exact List.rtakeWhile_suffix _ _
  slashless := by
    rw [toList_programName]
    intro hmem
    exact absurd (List.mem_rtakeWhile_imp hmem) (by decide)
  longest ending hending hslash := by
    rw [toList_programName, List.rtakeWhile]
    obtain ⟨front, hfront⟩ := hending
    have hall : ∀ c ∈ ending.reverse, (c != '/') = true := by
      intro c hc
      rw [bne_iff_ne]
      rintro rfl
      exact hslash (List.mem_reverse.1 hc)
    rw [← hfront, List.reverse_append, List.takeWhile_append_of_pos hall, List.reverse_append,
      List.reverse_reverse]
    exact List.suffix_append _ _

/-- What is put in front of a path makes no difference to its last part if it ends in a slash. -/
lemma LastPart.append {path path' last : String} (h : LastPart path last) {front : List Char}
    (hpath : path'.toList = front ++ path.toList)
    (hfront : front = [] ∨ front.getLast? = some '/') : LastPart path' last := by
  refine ⟨hpath ▸ h.ending.trans (List.suffix_append _ _), h.slashless, ?_⟩
  intro ending hending hslash
  refine h.longest ending ?_ hslash
  rw [hpath] at hending
  rcases hfront with rfl | hlast
  · exact hending
  · obtain ⟨rest, rfl⟩ := List.getLast?_eq_some_iff.1 hlast
    rw [List.append_assoc, List.singleton_append] at hending
    -- an ending that is longer than the path has the slash in front of it
    rcases List.suffix_or_suffix_of_suffix hending (List.suffix_append _ _) with hshort | hlong
    · rcases List.suffix_cons_iff.1 hshort with rfl | hshorter
      · exact absurd List.mem_cons_self hslash
      · exact hshorter
    · exact absurd (hlong.subset List.mem_cons_self) hslash

/-- A path below another one keeps its last part. -/
lemma programName_join (base path : String) : programName (join base path) = programName path := by
  have hfront : ∃ front, (join base path).toList = front ++ path.toList
      ∧ (front = [] ∨ front.getLast? = some '/') := by
    rw [join]
    split_ifs with habsolute hbase
    · exact ⟨[], rfl, .inl rfl⟩
    · exact ⟨base.toList, String.toList_append, hbase⟩
    · refine ⟨base.toList ++ ['/'], ?_, .inr List.getLast?_concat⟩
      rw [String.toList_append, String.toList_append]
      rfl
  obtain ⟨front, hjoin, hend⟩ := hfront
  exact (programName_lastPart _).unique ((programName_lastPart path).append hjoin hend)

/-! ### Locating a program -/

variable {isFile : String → Bool} {name : String} {search workingDirectory : Option String}

/-- A bare name is looked up in the search path, whatever the working directory is. -/
lemma locate_bare (hsome : name ≠ "") (hslash : '/' ∉ name.toList) :
    locate isFile name search workingDirectory
      = search.bind fun path => ((searchEntries path).map (join · name)).find? isFile := by
  have habsolute : ¬ isAbsolute name = true := fun h =>
    hslash (List.mem_of_head? (beq_iff_eq.1 h))
  have hslash' : ¬ hasSlash name = true := fun h => hslash (List.contains_iff_mem.1 h)
  have hnil : name.toList ≠ [] := fun h => hsome (String.toList_eq_nil_iff.1 h)
  rw [locate, if_neg hnil, if_neg habsolute, if_neg hslash']

/-- A name of several parts is not looked up. -/
lemma locate_of_slash (hslash : '/' ∈ name.toList) :
    locate isFile name search workingDirectory
      = if name.toList.head? = some '/' then some name
        else workingDirectory.map (join · name) := by
  have hslash' : hasSlash name = true := List.contains_iff_mem.2 hslash
  rw [locate, if_neg (List.ne_nil_of_mem hslash), if_pos hslash']
  exact if_congr beq_iff_eq rfl rfl

/-- A file is found through the first entry of the search path under which there is one. -/
lemma find?_entries_eq_some_iff {entries : List String} {found : String} :
    (entries.map (join · name)).find? isFile = some found
      ↔ ∃ front entry back, entries = front ++ entry :: back ∧ found = join entry name
        ∧ isFile found = true ∧ ∀ other ∈ front, isFile (join other name) = false := by
  rw [List.find?_map, Option.map_eq_some_iff]
  constructor
  · rintro ⟨entry, hentry, rfl⟩
    obtain ⟨hfile, front, back, hentries, hfront⟩ := List.find?_eq_some_iff_append.1 hentry
    refine ⟨front, entry, back, hentries, rfl, hfile, fun other hother => ?_⟩
    exact (Bool.not_eq_true' _).mp (hfront other hother)
  · rintro ⟨front, entry, back, hentries, rfl, hfile, hfront⟩
    refine ⟨entry, List.find?_eq_some_iff_append.2 ⟨hfile, front, back, hentries, ?_⟩, rfl⟩
    exact fun other hother => (Bool.not_eq_true' _).mpr (hfront other hother)

/-- Where the program that was started as `name` is found, and under which name. -/
structure Locates (isFile : String → Bool) (name : String)
    (search workingDirectory : Option String) : Prop where
  /-- What is found has the name of the program. -/
  named : ∀ found, locate isFile name search workingDirectory = some found →
    programName found = programName name
  /-- A program without a name is not found. -/
  unnamed : name = "" → locate isFile name search workingDirectory = none
  /-- A bare name is found if there is a file of that name under some entry of the search path. -/
  bare_isSome : name ≠ "" → '/' ∉ name.toList →
    ((locate isFile name search workingDirectory).isSome = true
      ↔ ∃ path, search = some path ∧ ∃ entry ∈ searchEntries path, isFile (join entry name) = true)
  /-- The first such entry counts. -/
  bare_first : name ≠ "" → '/' ∉ name.toList →
    ∀ found, locate isFile name search workingDirectory = some found →
      ∃ path front entry back, search = some path ∧ searchEntries path = front ++ entry :: back
        ∧ found = join entry name ∧ isFile found = true
        ∧ ∀ other ∈ front, isFile (join other name) = false
  /-- A bare name is found wherever the program was started. -/
  bare_anywhere : name ≠ "" → '/' ∉ name.toList → ∀ elsewhere,
    locate isFile name search elsewhere = locate isFile name search workingDirectory
  /-- An absolute path is taken as it is, any other of several parts from the working directory. -/
  parts : '/' ∈ name.toList → locate isFile name search workingDirectory
    = if name.toList.head? = some '/' then some name else workingDirectory.map (join · name)
  /-- What files there are and what is searched makes no difference to a name of several parts. -/
  parts_anyhow : '/' ∈ name.toList → ∀ isFile' search',
    locate isFile' name search' workingDirectory = locate isFile name search workingDirectory

/-- What is found keeps the last part of the name. -/
lemma programName_of_locate {found : String}
    (h : locate isFile name search workingDirectory = some found) :
    programName found = programName name := by
  by_cases hsome : name = ""
  · subst hsome
    cases h
  by_cases hslash : '/' ∈ name.toList
  · rw [locate_of_slash hslash] at h
    split_ifs at h
    · cases h
      rfl
    · obtain ⟨base, -, rfl⟩ := Option.map_eq_some_iff.1 h
      exact programName_join base name
  · rw [locate_bare hsome hslash] at h
    obtain ⟨path, -, hfind⟩ := Option.bind_eq_some_iff.1 h
    obtain ⟨-, entry, -, -, rfl, -⟩ := find?_entries_eq_some_iff.1 hfind
    exact programName_join entry name

/-- **Locating a program** keeps the last part of its name, which is the longest ending without a
slash. A bare name is found through the first entry of the search path under which there is a file
of that name, where the entries are what the colons separate, empty ones among them; a name of
several parts is an absolute path or read from the working directory. -/
theorem locate_locates :
    (∀ path, LastPart path (programName path))
      ∧ (∀ path entries, searchEntries path = entries ↔ entries ≠ []
          ∧ (∀ entry ∈ entries, ':' ∉ entry.toList) ∧ ":".intercalate entries = path)
      ∧ ∀ isFile name search workingDirectory, Locates isFile name search workingDirectory := by
  refine ⟨programName_lastPart, fun _ _ => searchEntries_eq_iff, ?_⟩
  intro isFile name search workingDirectory
  refine ⟨fun _ => programName_of_locate, ?_, ?_, ?_, ?_, locate_of_slash, ?_⟩
  · rintro rfl
    rfl
  · intro hsome hslash
    rw [locate_bare hsome hslash, Option.isSome_bind, Option.any_eq_true]
    simp only [List.find?_isSome, List.mem_map, exists_exists_and_eq_and]
  · intro hsome hslash found hfound
    rw [locate_bare hsome hslash] at hfound
    obtain ⟨path, hpath, hfind⟩ := Option.bind_eq_some_iff.1 hfound
    obtain ⟨front, entry, back, hentries⟩ := find?_entries_eq_some_iff.1 hfind
    exact ⟨path, front, entry, back, hpath, hentries⟩
  · intro hsome hslash elsewhere
    rw [locate_bare hsome hslash, locate_bare hsome hslash]
  · intro hslash isFile' search'
    rw [locate_of_slash hslash, locate_of_slash hslash]

end AnchoredArrays.Lookup
