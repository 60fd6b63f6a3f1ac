import Mathlib
import PackageLint.File.Sources
import PackageLint.Proofs.File.Order
import PackageLint.Proofs.File.Tree

/-!
# Which source files are found

The walk through a directory turns back at the directories that are left out. Seen from a file, it
is found if its name is that of a source file, no directory on the way to it is left out, and no
rule matches the file itself; each such file is found once, and the files come in the order of a
listing.

## Main definitions

* `Sources.keepsWay`: the walk turns back at none of the directories on the way;
* `Sources.IsListed`: what makes a file one that is found, seen from the file.

## Main results

* `Sources.mem_walk_directory_iff`: what one directory contributes;
* `Sources.mem_walk_iff`: which files the walk finds;
* `Sources.pairwise_walk`: their order;
* `Sources.walk_sublist_of_subset`: more rules only take files away;
* `Sources.find_of_directory`: the files that are found below a directory, and their order.
-/

namespace PackageLint.Sources

variable {rules : List IgnoreRule} {parts : List String} {entries : List (String × FileEntry)}

/-! ## The walk through one directory -/

/-- What an entry of a directory contributes, if anything. -/
def contribution? (rules : List IgnoreRule) (parts : List String) :
    String × FileEntry → Option (String × Contribution)
  | (name, .file _) | (name, .locked) =>
    if keepsFile rules parts name then some (name, .file (parts ++ [name])) else none
  | (name, .directory entries) =>
    if keepsDirectory rules parts name then
      some (name, .below (walk rules (parts ++ [name]) (.directory entries)))
    else none

/-- The entries of a directory contribute one by one. -/
theorem contributions_eq_filterMap (rules : List IgnoreRule) (parts : List String)
    (entries : List (String × FileEntry)) :
    contributions rules parts entries = entries.filterMap (contribution? rules parts) := by
  induction entries with
  | nil => rw [contributions, List.filterMap_nil]
  | cons entry rest ih =>
    obtain ⟨name, entry⟩ := entry
    cases entry with
    | file bytes =>
      rw [contributions, List.filterMap_cons, contribution?, ih]
      split_ifs <;> rfl
    | locked =>
      rw [contributions, List.filterMap_cons, contribution?, ih]
      split_ifs <;> rfl
    | directory inner =>
      rw [contributions, List.filterMap_cons, contribution?, ih]
      split_ifs <;> rfl

/-- A file contributes itself, whether it may be opened or not. -/
theorem contribution?_of_isFile {name : String} {entry : FileEntry} (h : entry.isFile = true) :
    contribution? rules parts (name, entry) =
      if keepsFile rules parts name then some (name, .file (parts ++ [name])) else none := by
  cases entry with
  | file bytes => rfl
  | locked => rfl
  | directory inner => cases h

/-- An entry contributes under its own name. -/
theorem fst_of_contribution?_eq_some {entry : String × FileEntry} {c : String × Contribution}
    (h : contribution? rules parts entry = some c) : c.1 = entry.1 := by
  unfold contribution? at h
  split at h <;> split_ifs at h <;> obtain rfl := Option.some.inj h <;> rfl

/-- A file is contributed by a file of the directory that is kept. -/
theorem mem_contributions_file_iff {name : String} {path : List String} :
    (name, .file path) ∈ contributions rules parts entries ↔
      ∃ entry, (name, entry) ∈ entries ∧ entry.isFile = true ∧ keepsFile rules parts name = true ∧
        path = parts ++ [name] := by
  rw [contributions_eq_filterMap, List.mem_filterMap]
  constructor
  · rintro ⟨⟨other, entry⟩, hentry, hc⟩
    -- A directory contributes no file, so what contributes one is a file.
    cases hfile : entry.isFile with
    | true =>
      rw [contribution?_of_isFile hfile] at hc
      split_ifs at hc with hkeeps
      cases hc
      exact ⟨entry, hentry, hfile, hkeeps, rfl⟩
    | false =>
      cases entry with
      | file bytes => cases hfile
      | locked => cases hfile
      | directory inner =>
        rw [contribution?] at hc
        split_ifs at hc
        cases hc
  · rintro ⟨entry, hentry, hfile, hkeeps, rfl⟩
    exact ⟨_, hentry, by rw [contribution?_of_isFile hfile, if_pos hkeeps]⟩

/-- The files below a subdirectory are contributed by one that is kept. -/
theorem mem_contributions_below_iff {name : String} {paths : List (List String)} :
    (name, .below paths) ∈ contributions rules parts entries ↔
      ∃ inner, (name, .directory inner) ∈ entries ∧ keepsDirectory rules parts name = true ∧
        paths = walk rules (parts ++ [name]) (.directory inner) := by
  rw [contributions_eq_filterMap, List.mem_filterMap]
  constructor
  · rintro ⟨⟨other, entry⟩, hentry, hc⟩
    cases entry with
    | file bytes =>
      rw [contribution?] at hc
      split_ifs at hc
      cases hc
    | locked =>
      rw [contribution?] at hc
      split_ifs at hc
      cases hc
    | directory inner =>
      rw [contribution?] at hc
      split_ifs at hc with hkeeps
      cases hc
      exact ⟨inner, hentry, hkeeps, rfl⟩
  · rintro ⟨inner, hentry, hkeeps, rfl⟩
    exact ⟨_, hentry, by rw [contribution?, if_pos hkeeps]⟩

/-- What the entries of a directory contribute, by name. -/
def sortedContributions (rules : List IgnoreRule) (parts : List String)
    (entries : List (String × FileEntry)) : List (String × Contribution) :=
  (contributions rules parts entries).mergeSort fun a b => a.1 ≤ b.1

/-- The file that is contributed. -/
def Contribution.file? : Contribution → Option (List String)
  | file path => some path
  | below _ => none

/-- The files that are contributed by a subdirectory. -/
def Contribution.paths : Contribution → List (List String)
  | file _ => []
  | below paths => paths

/-- A directory gives its own files and then what is below its subdirectories. -/
theorem walk_directory (rules : List IgnoreRule) (parts : List String)
    (entries : List (String × FileEntry)) :
    walk rules parts (.directory entries) =
      (sortedContributions rules parts entries).filterMap (·.2.file?) ++
        (sortedContributions rules parts entries).flatMap (·.2.paths) := by
  rw [walk]
  rfl

/-- A directory gives the files in it that are kept and what the subdirectories give that are. -/
theorem mem_walk_directory_iff {path : List String} :
    path ∈ walk rules parts (.directory entries) ↔
      (∃ name entry, (name, entry) ∈ entries ∧ entry.isFile = true ∧
        keepsFile rules parts name = true ∧ path = parts ++ [name]) ∨
      ∃ name inner, (name, .directory inner) ∈ entries ∧ keepsDirectory rules parts name = true ∧
        path ∈ walk rules (parts ++ [name]) (.directory inner) := by
  -- Sorting decides where a contribution stands, not whether it does.
  have hsorted : ∀ c, c ∈ sortedContributions rules parts entries ↔
      c ∈ contributions rules parts entries := fun c => List.mem_mergeSort
  rw [walk_directory, List.mem_append, List.mem_filterMap, List.mem_flatMap]
  refine or_congr ⟨?_, ?_⟩ ⟨?_, ?_⟩
  · rintro ⟨⟨name, c⟩, hc, hpath⟩
    cases c with
    | below paths => cases hpath
    | file other =>
      obtain rfl := Option.some.inj hpath
      obtain ⟨entry, h⟩ := mem_contributions_file_iff.1 ((hsorted _).1 hc)
      exact ⟨name, entry, h⟩
  · rintro ⟨name, entry, h⟩
    exact ⟨(name, .file path), (hsorted _).2 (mem_contributions_file_iff.2 ⟨entry, h⟩), rfl⟩
  · rintro ⟨⟨name, c⟩, hc, hpath⟩
    cases c with
    | file other => cases hpath
    | below paths =>
      obtain ⟨inner, hinner, hkeeps, rfl⟩ := mem_contributions_below_iff.1 ((hsorted _).1 hc)
      exact ⟨name, inner, hinner, hkeeps, hpath⟩
  · rintro ⟨name, inner, hinner, hkeeps, hpath⟩
    exact ⟨(name, .below _),
      (hsorted _).2 (mem_contributions_below_iff.2 ⟨inner, hinner, hkeeps, rfl⟩), hpath⟩

/-- The names of the contributions are some of those of the entries, in the same order. -/
theorem map_fst_contributions_sublist :
    ((contributions rules parts entries).map (·.1)).Sublist (entries.map (·.1)) := by
  rw [contributions_eq_filterMap]
  induction entries with
  | nil => exact List.Sublist.slnil
  | cons entry rest ih =>
    rw [List.filterMap_cons, List.map_cons]
    cases hc : contribution? rules parts entry with
    | none => exact ih.cons _
    | some c =>
      rw [List.map_cons, fst_of_contribution?_eq_some hc]
      exact ih.cons_cons _

/-- Where each name stands once, the contributions stand strictly by name. -/
theorem pairwise_sortedContributions (h : (entries.map (·.1)).Nodup) :
    (sortedContributions rules parts entries).Pairwise fun a b => a.1 < b.1 := by
  have hnodup : ((sortedContributions rules parts entries).map (·.1)).Nodup := by
    have hperm := (List.mergeSort_perm (contributions rules parts entries)
      (fun a b => a.1 ≤ b.1)).map (·.1)
    exact hperm.nodup_iff.2 (map_fst_contributions_sublist.nodup h)
  have hle : (sortedContributions rules parts entries).Pairwise
      fun a b => decide (a.1 ≤ b.1) = true := by
    refine List.pairwise_mergeSort (fun a b c hab hbc => ?_) (fun a b => ?_) _
    · simp only [decide_eq_true_eq] at hab hbc ⊢
      exact le_trans hab hbc
    · simp only [Bool.or_eq_true, decide_eq_true_eq]
      exact le_total a.1 b.1
  refine (hle.and (List.pairwise_map.1 hnodup)).imp fun {a b} hab => ?_
  exact lt_of_le_of_ne (of_decide_eq_true hab.1) hab.2

/-! ## The walk through a tree -/

/-- The walk turns back at none of the directories on the way down; `parts` lead to where it
begins. -/
def keepsWay (rules : List IgnoreRule) : (parts : List String) → List String → Bool
  | _, [] => true
  | parts, name :: rest => keepsDirectory rules parts name && keepsWay rules (parts ++ [name]) rest

/-- A way is kept if every directory on it is, each by the rules and by what leads to it. -/
theorem keepsWay_iff {way : List String} :
    keepsWay rules parts way = true ↔
      ∀ front name, front ++ [name] <+: way →
        keepsDirectory rules (parts ++ front) name = true := by
  induction way generalizing parts with
  | nil => simp [keepsWay]
  | cons first way ih =>
    rw [keepsWay, Bool.and_eq_true, ih]
    constructor
    · rintro ⟨hfirst, hrest⟩ front name hway
      cases front with
      | nil =>
        obtain ⟨rfl, -⟩ := List.cons_prefix_cons.1 hway
        rwa [List.append_nil]
      | cons other front =>
        obtain ⟨rfl, hbelow⟩ := List.cons_prefix_cons.1 hway
        rw [List.append_cons]
        exact hrest front name hbelow
    · intro h
      refine ⟨?_, fun front name hway => ?_⟩
      -- The first directory of the way has nothing in front of it, the others have the first one.
      · have hfirst := h [] first (List.cons_prefix_cons.2 ⟨rfl, List.nil_prefix⟩)
        rwa [List.append_nil] at hfirst
      · rw [← List.append_cons]
        exact h (first :: front) name (List.cons_prefix_cons.2 ⟨rfl, hway⟩)

/-- What is kept does not lead back. -/
theorem ne_of_keepsDirectory {name : String} (h : keepsDirectory rules parts name = true) :
    name ≠ ".." := by
  rintro rfl
  simp [keepsDirectory, isHidden] at h

/-- A file that is kept does not lead back. -/
theorem ne_of_keepsFile {name : String} (h : keepsFile rules parts name = true) : name ≠ ".." := by
  rintro rfl
  simp [keepsFile, isSource, isHidden] at h

/-- The walk through a tree finds the files on whose way no directory is left out and that are kept
themselves. -/
theorem mem_walk_iff {entry : FileEntry} (htree : entry.IsTree) (parts : List String)
    (above : List FileEntry) {path : List String} :
    path ∈ walk rules parts entry ↔
      ∃ way name, path = parts ++ (way ++ [name]) ∧ keepsWay rules parts way = true ∧
        keepsFile rules (parts ++ way) name = true ∧
        ∃ found, FileEntry.follow above entry (way ++ [name]) = .ok found ∧
          found.isFile = true := by
  -- Below a subdirectory both `parts` and the directories above it have grown.
  induction htree generalizing parts above with
  | file bytes =>
    rw [walk]
    simp only [List.not_mem_nil, false_iff]
    rintro ⟨way, name, -, -, -, found, hfollow, -⟩
    exact FileEntry.follow_ne_ok_of_isFile rfl (by simp) _ hfollow
  | locked =>
    rw [walk]
    simp only [List.not_mem_nil, false_iff]
    rintro ⟨way, name, -, -, -, found, hfollow, -⟩
    exact FileEntry.follow_ne_ok_of_isFile rfl (by simp) _ hfollow
  | @directory entries hnodup hbelow ih =>
    rw [mem_walk_directory_iff]
    constructor
    -- A file of the directory is found without a way; one below a subdirectory has it in front.
    · rintro (⟨name, found, hentry, hisFile, hkeeps, rfl⟩ | ⟨name, inner, hentry, hkeeps, hpath⟩)
      · refine ⟨[], name, rfl, rfl, by rwa [List.append_nil], found, ?_, hisFile⟩
        exact (FileEntry.follow_cons_eq_ok_iff hnodup (ne_of_keepsFile hkeeps)).2
          ⟨_, hentry, rfl⟩
      · obtain ⟨way, file, rfl, hway, hfile, found, hfollow, hisFile⟩ :=
          (ih _ hentry (parts ++ [name]) (.directory entries :: above)).1 hpath
        refine ⟨name :: way, file, by simp, ?_, ?_, found, ?_, hisFile⟩
        · rw [keepsWay, hkeeps, hway]
          rfl
        · rwa [List.append_cons]
        · exact (FileEntry.follow_cons_eq_ok_iff hnodup (ne_of_keepsDirectory hkeeps)).2
            ⟨_, hentry, hfollow⟩
    · rintro ⟨way, name, rfl, hway, hfile, found, hfollow, hisFile⟩
      cases way with
      | nil =>
        rw [List.append_nil] at hfile
        obtain ⟨next, hentry, hnext⟩ :=
          (FileEntry.follow_cons_eq_ok_iff hnodup (ne_of_keepsFile hfile)).1 hfollow
        obtain rfl := Except.ok.inj hnext
        exact .inl ⟨name, _, hentry, hisFile, hfile, rfl⟩
      | cons first way =>
        rw [keepsWay, Bool.and_eq_true] at hway
        obtain ⟨next, hentry, hnext⟩ :=
          (FileEntry.follow_cons_eq_ok_iff hnodup (ne_of_keepsDirectory hway.1)).1 hfollow
        cases next with
        | file other => exact absurd hnext (FileEntry.follow_ne_ok_of_isFile rfl (by simp) _)
        | locked => exact absurd hnext (FileEntry.follow_ne_ok_of_isFile rfl (by simp) _)
        | directory inner =>
          refine .inr ⟨first, inner, hentry, hway.1, ?_⟩
          refine (ih _ hentry (parts ++ [first]) (.directory entries :: above)).2
            ⟨way, name, by simp, hway.2, ?_, found, hnext, hisFile⟩
          rwa [← List.append_cons]

/-- What the walk through a tree finds is below where it begins. -/
theorem exists_append_of_mem_walk {entry : FileEntry} (htree : entry.IsTree) {path : List String}
    (h : path ∈ walk rules parts entry) : ∃ below, below ≠ [] ∧ path = parts ++ below := by
  obtain ⟨way, name, rfl, -⟩ := (mem_walk_iff htree parts []).1 h
  exact ⟨way ++ [name], by simp, rfl⟩

/-- A file comes under its own name. -/
theorem eq_of_file?_eq_some {c : String × Contribution}
    (hc : c ∈ sortedContributions rules parts entries) {path : List String}
    (h : c.2.file? = some path) : path = parts ++ [c.1] := by
  obtain ⟨name, c⟩ := c
  cases c with
  | below paths => cases h
  | file other =>
    obtain rfl := Option.some.inj h
    obtain ⟨entry, -, -, -, hpath⟩ := mem_contributions_file_iff.1 (List.mem_mergeSort.1 hc)
    exact hpath

/-- What comes from below is found by the walk through a directory. -/
theorem exists_of_mem_paths {c : String × Contribution}
    (hc : c ∈ sortedContributions rules parts entries) {path : List String}
    (h : path ∈ c.2.paths) :
    ∃ inner, (c.1, .directory inner) ∈ entries ∧
      c.2.paths = walk rules (parts ++ [c.1]) (.directory inner) := by
  obtain ⟨name, c⟩ := c
  cases c with
  | file other => cases h
  | below paths =>
    obtain ⟨inner, hinner, -, hpaths⟩ := mem_contributions_below_iff.1 (List.mem_mergeSort.1 hc)
    exact ⟨inner, hinner, hpaths⟩

/-- The files of a tree come in the order of a listing. -/
theorem pairwise_walk {entry : FileEntry} (htree : entry.IsTree) (rules : List IgnoreRule)
    (parts : List String) : (walk rules parts entry).Pairwise Precedes := by
  induction htree generalizing parts with
  | file bytes =>
    rw [walk]
    exact List.Pairwise.nil
  | locked =>
    rw [walk]
    exact List.Pairwise.nil
  | @directory entries hnodup hbelow ih =>
    have hnames := @pairwise_sortedContributions rules parts entries hnodup
    have hpaths : ∀ c ∈ sortedContributions rules parts entries, ∀ path ∈ c.2.paths,
        ∃ below, below ≠ [] ∧ path = parts ++ c.1 :: below := by
      intro c hc path hpath
      obtain ⟨inner, hinner, heq⟩ := exists_of_mem_paths hc hpath
      rw [heq] at hpath
      obtain ⟨below, hne, rfl⟩ := exists_append_of_mem_walk (hbelow _ hinner) hpath
      exact ⟨below, hne, (List.append_cons parts c.1 below).symm⟩
    rw [walk_directory, List.pairwise_append, List.pairwise_filterMap, List.pairwise_flatMap]
    refine ⟨?_, ⟨?_, ?_⟩, ?_⟩
    -- The files of the directory stand by name.
    · refine hnames.imp_of_mem fun {c d} hc hd hlt p hp q hq => ?_
      rw [eq_of_file?_eq_some hc hp, eq_of_file?_eq_some hd hq]
      exact precedes_append_singleton parts hlt
    -- What is below one subdirectory stands as it does by itself.
    · intro c hc
      cases hempty : c.2.paths with
      | nil => exact List.Pairwise.nil
      | cons path others =>
        obtain ⟨inner, hinner, heq⟩ := exists_of_mem_paths hc (hempty ▸ List.mem_cons_self)
        rw [← hempty, heq]
        exact ih _ hinner (parts ++ [c.1])
    -- What is below two subdirectories stands by their names.
    · refine hnames.imp_of_mem fun {c d} hc hd hlt p hp q hq => ?_
      obtain ⟨below, hne, rfl⟩ := hpaths c hc p hp
      obtain ⟨below', hne', rfl⟩ := hpaths d hd q hq
      exact precedes_append_cons_append_cons parts hlt hne hne'
    -- Files stand before what is below the subdirectories.
    · intro p hp q hq
      obtain ⟨c, hc, hp⟩ := List.mem_filterMap.1 hp
      obtain ⟨d, hd, hq⟩ := List.mem_flatMap.1 hq
      obtain ⟨below, hne, rfl⟩ := hpaths d hd q hq
      rw [eq_of_file?_eq_some hc hp]
      exact precedes_append_singleton_append_cons parts c.1 d.1 hne

/-! ## More rules -/

section Subset

variable {more : List IgnoreRule}

/-- What no rule matches no smaller number of rules does. -/
theorem isIgnored_eq_false_of_subset (h : rules ⊆ more) {path : List Char} {isDirectory : Bool}
    (hmore : isIgnored more path isDirectory = false) :
    isIgnored rules path isDirectory = false := by
  rw [isIgnored, List.any_eq_false] at hmore ⊢
  exact fun rule hrule => hmore rule (h hrule)

/-- With fewer rules no more files are left out. -/
theorem keepsFile_of_subset (h : rules ⊆ more) {name : String}
    (hmore : keepsFile more parts name = true) : keepsFile rules parts name = true := by
  simp only [keepsFile, Bool.and_eq_true, Bool.not_eq_true'] at hmore ⊢
  exact ⟨hmore.1, isIgnored_eq_false_of_subset h hmore.2⟩

/-- With fewer rules no more directories are left out. -/
theorem keepsDirectory_of_subset (h : rules ⊆ more) {name : String}
    (hmore : keepsDirectory more parts name = true) : keepsDirectory rules parts name = true := by
  simp only [keepsDirectory, Bool.and_eq_true, Bool.not_eq_true'] at hmore ⊢
  exact ⟨hmore.1, isIgnored_eq_false_of_subset h hmore.2⟩

/-- More rules only take files away, and leave the others in their order. -/
theorem walk_sublist_of_subset {entry : FileEntry} (htree : entry.IsTree) (h : rules ⊆ more)
    (parts : List String) : (walk more parts entry).Sublist (walk rules parts entry) := by
  -- Both walks list their files in one strict order, so it is enough to compare the files.
  refine sublist_of_subset_of_pairwise ?_ (pairwise_walk htree more parts)
    (pairwise_walk htree rules parts)
  intro path hpath
  obtain ⟨way, name, rfl, hway, hfile, hleads⟩ := (mem_walk_iff htree parts []).1 hpath
  refine (mem_walk_iff htree parts []).2
    ⟨way, name, rfl, ?_, keepsFile_of_subset h hfile, hleads⟩
  rw [keepsWay_iff] at hway ⊢
  exact fun front other hother => keepsDirectory_of_subset h (hway front other hother)

end Subset

/-! ## Seen from a file -/

/-- A file is one that is found, `way` leading to its directory: its name is that of a source file,
no rule matches it, and no directory on the way is hidden, excluded or matched by a rule. -/
structure IsListed (rules : List IgnoreRule) (way : List String) (name : String) : Prop where
  endsAsSource : suffix.toList <:+ name.toList
  not_hidden : ¬ ['.'] <+: name.toList
  not_ignored : isIgnored rules (relative (way ++ [name])) false = false
  directories : ∀ front directory, front ++ [directory] <+: way →
    ¬ ['.'] <+: directory.toList ∧ directory ∉ excludedDirectories ∧
      isIgnored rules (relative (front ++ [directory])) true = false

/-- A name is hidden by a dot in front. -/
theorem isHidden_eq_false_iff {name : String} :
    isHidden name = false ↔ ¬ ['.'] <+: name.toList := by
  rw [← Bool.not_eq_true, isHidden, List.isPrefixOf_iff_prefix]
  rfl

/-- What is said of a file as a whole is what the walk asks at each step. -/
theorem isListed_iff {way : List String} {name : String} :
    IsListed rules way name ↔
      keepsWay rules [] way = true ∧ keepsFile rules way name = true := by
  simp only [keepsWay_iff, List.nil_append, keepsFile, isSource, keepsDirectory, Bool.and_eq_true,
    Bool.not_eq_true', isHidden_eq_false_iff, List.isSuffixOf_iff_suffix, List.contains_eq_mem,
    decide_eq_false_iff_not]
  constructor
  · intro h
    refine ⟨fun front directory hway => ?_, ⟨h.not_hidden, h.endsAsSource⟩, h.not_ignored⟩
    obtain ⟨hhidden, hexcluded, hignored⟩ := h.directories front directory hway
    exact ⟨⟨hhidden, hexcluded⟩, hignored⟩
  · rintro ⟨hway, ⟨hhidden, hends⟩, hignored⟩
    refine ⟨hends, hhidden, hignored, fun front directory hfront => ?_⟩
    obtain ⟨⟨hhidden, hexcluded⟩, hignored⟩ := hway front directory hfront
    exact ⟨hhidden, hexcluded, hignored⟩

/-- A file is what is found as one at the end of its path. -/
theorem isFile_eq_true_iff {disk : Disk} {path : Path} :
    disk.isFile path = true ↔ ∃ found, disk.find path = .ok found ∧ found.isFile = true := by
  rw [Disk.isFile]
  cases disk.find path <;> simp

/-- Below a directory exactly the files are found that are listed, each once and in the order of a
listing: the files of a directory by name and before those of its subdirectories, which stand by
name too. More patterns only take files away and leave the others in their order. -/
theorem find_of_directory {disk : Disk} {path : Path} {entry : FileEntry}
    (hfind : disk.find path = .ok entry) (hdirectory : entry.isFile = false) (htree : entry.IsTree)
    (exclude : List String) :
    (∀ file, file ∈ find disk path exclude ↔
      ∃ way name, file = path.descend (way ++ [name]) ∧ disk.isFile file = true ∧
        IsListed (ignoreRules exclude) way name) ∧
    (find disk path exclude).Nodup ∧
    (∃ listing : List (List String), find disk path exclude = listing.map path.descend ∧
      listing.Pairwise Precedes) ∧
    ∀ more, exclude ⊆ more → (find disk path more).Sublist (find disk path exclude) := by
  -- A directory is walked whatever the patterns are.
  have hwalk : ∀ patterns, find disk path patterns =
      (walk (ignoreRules patterns) [] entry).map path.descend := by
    intro patterns
    cases entry with
    | file bytes => cases hdirectory
    | locked => cases hdirectory
    | directory entries => rw [find, hfind]; rfl
  have hordered := pairwise_walk htree (ignoreRules exclude) []
  refine ⟨fun file => ?_, ?_, ⟨_, hwalk exclude, hordered⟩, fun more hmore => ?_⟩
  -- The way down from the directory is the end of the path from the root.
  · obtain ⟨above, habove⟩ := Disk.find_descend hfind
    rw [hwalk, List.mem_map]
    constructor
    · rintro ⟨parts, hparts, rfl⟩
      obtain ⟨way, name, rfl, hway, hfile, hleads⟩ := (mem_walk_iff htree [] above).1 hparts
      refine ⟨way, name, rfl, isFile_eq_true_iff.2 ?_, isListed_iff.2 ⟨hway, hfile⟩⟩
      simpa [habove] using hleads
    · rintro ⟨way, name, rfl, hfile, hlisted⟩
      obtain ⟨hway, hname⟩ := isListed_iff.1 hlisted
      refine ⟨way ++ [name], (mem_walk_iff htree [] above).2 ⟨way, name, rfl, hway, hname, ?_⟩, rfl⟩
      rw [isFile_eq_true_iff, habove] at hfile
      exact hfile
  · rw [hwalk]
    exact hordered.nodup.map path.descend_injective
  -- More patterns are more rules.
  · rw [hwalk, hwalk]
    refine (walk_sublist_of_subset htree ?_ []).map path.descend
    exact List.filterMap_subset _ hmore

/-- The directory of a package with build products, and with a test beside a source file. -/
def packageDirectory : FileEntry := .directory [
  (".build", .directory [("Build.swift", .file [])]),
  ("Sources", .directory [("AppTests.swift", .file []), ("App.swift", .file [])])]

/-- The directory of the example holds no links. -/
theorem isTree_packageDirectory : packageDirectory.IsTree := by
  have hfile : ∀ (name : String) (bytes : List UInt8),
      FileEntry.IsTree (.directory [(name, .file bytes)]) := fun name bytes =>
    .directory (by simp) (by simp [FileEntry.IsTree.file])
  refine .directory (by decide) ?_
  simp only [List.forall_mem_cons, List.not_mem_nil, false_imp_iff, implies_true, and_true]
  refine ⟨hfile "Build.swift" [], .directory (by decide) ?_⟩
  simp [FileEntry.IsTree.file]

/-- A pattern takes the test away, and the build products are left out without one. -/
theorem find_of_directory_packageDirectory :
    let disk : Disk := { root := packageDirectory }
    let found := find disk {} ["*Tests.swift"]
    { parts := ["Sources", "App.swift"] } ∈ found ∧
      { parts := ["Sources", "AppTests.swift"] } ∉ found ∧
      { parts := [".build", "Build.swift"] } ∉ found ∧ found.Nodup ∧
      found.Sublist (find disk {} []) := by
  intro disk found
  have hfind : disk.find {} = .ok packageDirectory := rfl
  have hall := find_of_directory hfind rfl isTree_packageDirectory
  obtain ⟨hmem, hnodup, -, -⟩ := hall ["*Tests.swift"]
  have hlisted : ∀ {way name}, { parts := way ++ [name] } ∈ found →
      IsListed (ignoreRules ["*Tests.swift"]) way name := by
    intro way name hfound
    obtain ⟨way', name', hfile, -, hlisted⟩ := (hmem _).1 hfound
    have hparts : way ++ [name] = way' ++ [name'] := congrArg Path.parts hfile
    obtain ⟨rfl, hname⟩ := List.append_inj' hparts rfl
    obtain rfl := List.singleton_inj.1 hname
    exact hlisted
  refine ⟨?_, fun htest => ?_, fun hbuild => ?_, hnodup, (hall []).2.2.2 _ (List.nil_subset _)⟩
  · refine (hmem _).2 ⟨["Sources"], "App.swift", rfl, rfl, isListed_iff.2 ?_⟩
    decide +kernel
  · have hignored := (@hlisted ["Sources"] _ htest).not_ignored
    exact absurd hignored (by decide +kernel)
  · have hvisible := ((@hlisted [".build"] _ hbuild).directories [] _ List.prefix_rfl).1
    exact hvisible (by decide)

end PackageLint.Sources
