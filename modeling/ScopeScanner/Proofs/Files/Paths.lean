import ScopeScanner.Files.Path

/-!
# Parts of paths

Slashes divide a text into parts, whatever the text stands for:

* **`Path.split_append_slash`**: a slash ends the last part of what is before it, so the parts of a text
  that is put together of parts are these parts.
* **`Path.names_joinAll`**: the names of a file below a directory are those of the directory and those
  below it, as long as they are names of files (`Path.IsName`).
* **`Path.last_name_suffix`**: the last name of a path that can lead to a file is what the path ends with.
-/

namespace ScopeScanner.Path

@[simp] theorem split_nil : split [] = [[]] := rfl

@[simp] theorem split_slash (rest : List Char) : split ('/' :: rest) = [] :: split rest := by
  simp [split]

/-- There is always a first part, and a character that is no slash belongs to it. -/
theorem exists_split (text : List Char) : ∃ part parts, split text = part :: parts ∧
    ∀ c, c ≠ '/' → split (c :: text) = (c :: part) :: parts := by
  induction text with
  | nil => exact ⟨[], [], rfl, fun c hc => by simp [split, hc]⟩
  | cons first rest ih =>
    obtain ⟨part, parts, hrest, hjoin⟩ := ih
    by_cases hfirst : first = '/'
    · subst hfirst
      exact ⟨[], split rest, split_slash rest, fun c hc => by simp [split, hc]⟩
    · refine ⟨first :: part, parts, hjoin first hfirst, fun c hc => ?_⟩
      simp [split, hc, hfirst, hrest]

/-- **A slash ends a part.** -/
theorem split_append_slash (text rest : List Char) :
    split (text ++ '/' :: rest) = split text ++ split rest := by
  induction text with
  | nil => simp
  | cons c text ih =>
    by_cases hc : c = '/'
    · subst hc
      simp [ih]
    · obtain ⟨part, parts, htext, hjoin⟩ := exists_split text
      obtain ⟨part', parts', hwhole, hjoin'⟩ := exists_split (text ++ '/' :: rest)
      -- the first part of the whole text is that of the text before the slash
      rw [ih, htext, List.cons_append] at hwhole
      obtain ⟨rfl, rfl⟩ := List.cons.inj hwhole
      rw [List.cons_append, hjoin' c hc, hjoin c hc, List.cons_append]

/-- A text without slashes is one part. -/
theorem split_of_not_mem {text : List Char} (h : '/' ∉ text) : split text = [text] := by
  induction text with
  | nil => rfl
  | cons c text ih =>
    rw [List.mem_cons, not_or] at h
    obtain ⟨hc, htext⟩ := h
    obtain ⟨part, parts, hsplit, hjoin⟩ := exists_split text
    rw [ih htext] at hsplit
    obtain ⟨rfl, rfl⟩ := List.cons.inj hsplit
    exact hjoin c (Ne.symm hc)

/-- The name of a file in a directory. -/
structure IsName (name : String) : Prop where
  slash : '/' ∉ name.toList
  empty : name ≠ ""
  dot : name ≠ "."
  dots : name ≠ ".."

instance (name : String) : Decidable (IsName name) :=
  decidable_of_iff ('/' ∉ name.toList ∧ name ≠ "" ∧ name ≠ "." ∧ name ≠ "..")
    ⟨fun ⟨slash, empty, dot, dots⟩ => ⟨slash, empty, dot, dots⟩,
      fun h => ⟨h.slash, h.empty, h.dot, h.dots⟩⟩

/-- A beginning of two dots is no name of a file. -/
theorem IsName.not_begins {name : String} (h : IsName name) : ¬ name.toList <+: ['.', '.'] := by
  intro hbegins
  rcases List.prefix_cons_iff.mp hbegins with hempty | ⟨rest, hrest, hbegins⟩
  · exact h.empty (String.toList_eq_nil_iff.mp hempty)
  · rcases List.prefix_cons_iff.mp hbegins with rfl | ⟨rest', rfl, hnil⟩
    · exact h.dot (String.toList_inj.mp hrest)
    · obtain rfl := List.prefix_nil.mp hnil
      exact h.dots (String.toList_inj.mp hrest)

/-- What a name becomes with something behind it is a name. -/
theorem IsName.append {name : String} (h : IsName name) {behind : String}
    (hbehind : '/' ∉ behind.toList) : IsName (name ++ behind) := by
  have hbegins : name.toList <+: (name ++ behind).toList := by
    rw [String.toList_append]
    exact List.prefix_append _ _
  refine ⟨?_, ?_, ?_, ?_⟩
  · rw [String.toList_append, List.mem_append, not_or]
    exact ⟨h.slash, hbehind⟩
  all_goals
    intro heq
    rw [heq] at hbegins
    exact h.not_begins (hbegins.trans (by decide))

theorem isAbsolute_append {path : String} (h : path ≠ "") (rest : String) :
    isAbsolute (path ++ rest) = isAbsolute path := by
  obtain ⟨c, chars, hchars⟩ :=
    List.exists_cons_of_ne_nil fun hnil => h (String.toList_eq_nil_iff.mp hnil)
  simp [isAbsolute, String.toList_append, hchars]

/-- The parts of the path of a file in a directory: those of the directory, without an empty last one,
and the name. -/
theorem split_join {directory : String} (h : directory ≠ "") {name : String} (hname : IsName name) :
    ∃ front, split (join directory name).toList = front ++ [name.toList] ∧
      (split directory.toList = front ++ [[]] ∨ split directory.toList = front) := by
  have hsplit := split_of_not_mem hname.slash
  rw [join]
  split
  · next hnone =>
    exact absurd (String.toList_eq_nil_iff.mp (List.getLast?_eq_none_iff.mp hnone)) h
  · next hslash =>
    obtain ⟨front, hfront⟩ := List.getLast?_eq_some_iff.mp hslash
    refine ⟨split front, ?_, Or.inl ?_⟩
    · rw [String.toList_append, hfront, List.append_assoc, List.singleton_append, split_append_slash,
        hsplit]
    · rw [hfront, split_append_slash, split_nil]
  · refine ⟨split directory.toList, ?_, Or.inr rfl⟩
    rw [String.toList_append, String.toList_append, List.append_assoc]
    show split (directory.toList ++ '/' :: name.toList) = _
    rw [split_append_slash, hsplit]

theorem isTooLong_of_isUsable {path : String} (h : isUsable path = true) : isTooLong path = false := by
  rw [isUsable, Bool.and_eq_true] at h
  simpa using h.2

theorem join_ne_empty {directory : String} (h : directory ≠ "") (name : String) :
    join directory name ≠ "" := by
  rw [join]
  split
  · next hnone =>
    exact absurd (String.toList_eq_nil_iff.mp (List.getLast?_eq_none_iff.mp hnone)) h
  · exact fun heq => h (String.append_eq_empty_iff.mp heq).1
  · exact fun heq => h (String.append_eq_empty_iff.mp (String.append_eq_empty_iff.mp heq).1).1

theorem isAbsolute_join {directory : String} (h : directory ≠ "") (name : String) :
    isAbsolute (join directory name) = isAbsolute directory := by
  rw [join]
  split
  · next hnone =>
    exact absurd (String.toList_eq_nil_iff.mp (List.getLast?_eq_none_iff.mp hnone)) h
  · exact isAbsolute_append h name
  · rw [String.append_assoc]
    exact isAbsolute_append h _

/-- The names of a file in a directory. -/
theorem names_join {directory : String} (h : directory ≠ "") {name : String} (hname : IsName name) :
    names (join directory name) = names directory ++ [name] := by
  obtain ⟨front, hpath, hdirectory⟩ := split_join h hname
  have hparts : ((split (join directory name).toList).map String.ofList).filter
        (fun part => part ≠ "" && part ≠ ".") =
      ((split directory.toList).map String.ofList).filter (fun part => part ≠ "" && part ≠ ".") ++
        [name] := by
    have hkept : [name].filter (fun part => part ≠ "" && part ≠ ".") = [name] := by
      simp [hname.empty, hname.dot]
    rw [hpath, List.map_append, List.filter_append, List.map_singleton, String.ofList_toList, hkept]
    rcases hdirectory with hempty | hfront
    · rw [hempty]
      simp
    · rw [hfront]
  rw [names, names, isAbsolute_join h, hparts]
  split
  · rfl
  · rfl

theorem joinAll_append (directory : String) (front names : List String) :
    joinAll directory (front ++ names) = joinAll (joinAll directory front) names :=
  List.foldl_append

/-- **The names of a file below a directory.** -/
theorem names_joinAll {directory : String} (h : directory ≠ "") {row : List String}
    (hrow : ∀ name ∈ row, IsName name) :
    names (joinAll directory row) = names directory ++ row := by
  induction row generalizing directory with
  | nil => simp [joinAll]
  | cons name rest ih =>
    show names (joinAll (join directory name) rest) = _
    rw [ih (join_ne_empty h name) fun other hother => hrow other (List.mem_cons_of_mem _ hother),
      names_join h (hrow name List.mem_cons_self), List.append_assoc]
    rfl

/-- What is behind the path of a file is behind its name. -/
theorem join_append (directory name behind : String) :
    join directory name ++ behind = join directory (name ++ behind) := by
  rw [join, join]
  split
  · rfl
  · exact String.append_assoc
  · exact String.append_assoc

end ScopeScanner.Path
