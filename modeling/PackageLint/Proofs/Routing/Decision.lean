import Mathlib
import PackageLint.Proofs.Routing.Classification
import PackageLint.Proofs.Text.Words
import PackageLint.Routing.Decision

/-!
# What is decided for a task

A decision follows the category that wins. A case study is found only for failures that have to be
mended, and then it is the one with the least name among the files that mention a longer word of the
task. Without a case study there is the advice of the category itself, since in a table without
repeated names the first category of its name is the category; without a category there is
nothing.

## Main definitions

* `CaseStudies.Mentions`: a file is a case study that mentions a longer word of a task.

## Main results

* `CaseStudies.globMatches_pattern_iff`: the names of case studies;
* `CaseStudies.result_search`: case studies that cannot be read are passed over;
* `CaseStudies.search_eq_some_iff`: the case study that is found is the least one that mentions a
  word;
* `RoutingDecision.guidanceOf_name`: the advice that is looked up by name is that of the category;
* `RoutingDecision.ofTask_follows_winner`: all of this for a task.
-/

namespace PackageLint

namespace CaseStudies

variable {disk : Disk} {directory : Path} {task name : String}

/-- A file of a directory has the name of a case study and mentions, in lower case, a word of a task
that has at least four characters. -/
structure Mentions (disk : Disk) (directory : Path) (task name : String) : Prop where
  /-- The directory has an entry of the name. -/
  listed : name ∈ disk.names directory
  /-- The name is that of a case study. -/
  named : ∃ middle, name.toList = "DISCOVERY-".toList ++ middle ++ ".md".toList
  /-- The entry is a file, and the word stands in its text. -/
  mentioned : ∃ bytes word, disk.readBytes (directory.child name) = .ok bytes ∧
    Text.IsWord word (Text.lower task.toList) ∧ 4 ≤ word.length ∧
    word <:+: Text.lower (Text.normalizeNewlines (Text.decodeLenient bytes))

/-- The names of case studies are those with the right beginning and end. -/
theorem globMatches_pattern_iff {cs : List Char} : Text.globMatches pattern cs = true ↔
    ∃ middle, cs = "DISCOVERY-".toList ++ middle ++ ".md".toList := by
  have hitems : Text.globItems pattern.length pattern =
      "DISCOVERY-".toList.map .one ++ .star :: (".md".toList.map .one ++ []) := by decide
  rw [Text.globMatches, hitems, Text.globHolds_literal_append_iff]
  simp only [Text.globHolds_star_cons_iff, Text.globHolds_literal_append_iff,
    Text.globHolds_nil_iff]
  constructor
  · rintro ⟨_, rfl, middle, _, rfl, _, rfl, rfl⟩
    exact ⟨middle, by simp⟩
  · rintro ⟨middle, rfl⟩
    exact ⟨_, List.append_assoc _ _ _, middle, _, rfl, [], by simp, rfl⟩

/-- What can be read is a file. -/
theorem isFile_of_readBytes_eq_ok {path : Path} {bytes : List UInt8}
    (h : disk.readBytes path = .ok bytes) : disk.isFile path = true := by
  rw [Disk.readBytes] at h
  rw [Disk.isFile]
  cases hfind : disk.find path with
  | error fault => simp [hfind] at h
  | ok entry => cases entry <;> simp_all [FileEntry.isFile]

/-- The case studies are the files of the directory with the right names. -/
theorem mem_names_iff : name ∈ names disk directory ↔
    name ∈ disk.names directory ∧ (∃ middle, name.toList = "DISCOVERY-".toList ++ middle ++
      ".md".toList) ∧ disk.isFile (directory.child name) = true := by
  rw [names, List.mem_mergeSort, List.mem_filter, Bool.and_eq_true, globMatches_pattern_iff]

theorem mem_wordsOf_iff {word : List Char} :
    word ∈ wordsOf task ↔ Text.IsWord word (Text.lower task.toList) ∧ 4 ≤ word.length := by
  rw [wordsOf, List.mem_filter, Text.mem_words_iff, decide_eq_true_eq, leastLength]

/-- A case study is found if it can be read and mentions one of the words. -/
def answers (disk : Disk) (directory : Path) (words : List (List Char)) (name : String) : Bool :=
  match textOf disk (directory.child name) with
  | .ok text => mentions words text
  | .error _ => false

/-- What cannot be read is passed over, and the rest is searched. -/
theorem result_searchIn (words : List (List Char)) (names : List String) :
    (searchIn disk directory words names).result =
      .ok (names.find? (answers disk directory words)) := by
  induction names with
  | nil => rfl
  | cons name rest ih =>
    rw [searchIn, List.find?_cons, answers]
    cases textOf disk (directory.child name) with
    | error fault => exact (Run.result_bind_of_ok rfl _).trans ih
    | ok text =>
      cases hmentions : mentions words text with
      | true => simp [hmentions]
      | false => simpa [hmentions] using ih

/-- A search finds the first case study that can be read and mentions a word. -/
theorem result_search : (search disk directory task).result =
    .ok ((names disk directory).find? (answers disk directory (wordsOf task))) := by
  rw [search]
  cases hwords : wordsOf task with
  | cons word words => exact result_searchIn _ _
  | nil =>
    have hnone : ∀ name, answers disk directory [] name = false := by
      intro name
      rw [answers]
      cases textOf disk (directory.child name) <;> rfl
    have hfind : (names disk directory).find? (answers disk directory []) = none :=
      List.find?_eq_none.2 fun name _ => by simp [hnone]
    rw [hfind]
    rfl

/-- The search looks for the case studies that mention a word. -/
theorem mentions_iff : Mentions disk directory task name ↔ name ∈ names disk directory ∧
    answers disk directory (wordsOf task) name = true := by
  have hmentions {text : List Char} : mentions (wordsOf task) text = true ↔
      ∃ word, Text.IsWord word (Text.lower task.toList) ∧ 4 ≤ word.length ∧ word <:+: text := by
    simp [mentions, mem_wordsOf_iff, Text.occursIn_iff_isInfix, and_assoc]
  rw [mem_names_iff, answers, textOf]
  constructor
  -- A file that mentions a word can be read, and one that cannot be read answers to nothing.
  · rintro ⟨hlisted, hnamed, bytes, word, hbytes, hword⟩
    refine ⟨⟨hlisted, hnamed, isFile_of_readBytes_eq_ok hbytes⟩, ?_⟩
    rw [hbytes]
    exact hmentions.2 ⟨word, hword⟩
  · rintro ⟨⟨hlisted, hnamed, -⟩, hanswers⟩
    cases hbytes : disk.readBytes (directory.child name) with
    | error fault => simp [hbytes, Except.map] at hanswers
    | ok bytes =>
      rw [hbytes] at hanswers
      obtain ⟨word, hword⟩ := hmentions.1 hanswers
      exact ⟨hlisted, hnamed, bytes, word, hbytes, hword⟩

/-- What is found first in a list in order is the least element that is looked for. -/
theorem find?_eq_some_iff_isLeast {xs : List String} (hsorted : xs.Pairwise (· ≤ ·))
    {p : String → Bool} {x : String} :
    xs.find? p = some x ↔ IsLeast {y | y ∈ xs ∧ p y = true} x := by
  have hleast {x : String} (h : xs.find? p = some x) : IsLeast {y | y ∈ xs ∧ p y = true} x := by
    obtain ⟨hx, before, after, rfl, hbefore⟩ := List.find?_eq_some_iff_append.1 h
    refine ⟨⟨by simp, hx⟩, ?_⟩
    rintro y ⟨hy, hpy⟩
    rcases List.mem_append.1 hy with hy | hy
    · exact absurd hpy (by simpa using hbefore y hy)
    · rcases List.mem_cons.1 hy with rfl | hy
      · exact le_refl _
      · exact (List.pairwise_cons.1 (List.pairwise_append.1 hsorted).2.1).1 y hy
  refine ⟨hleast, fun h => ?_⟩
  -- Something is found, and there is only one least element.
  obtain ⟨y, hy⟩ := Option.isSome_iff_exists.1 (List.find?_isSome.2 ⟨x, h.1.1, h.1.2⟩)
  rw [hy, (hleast hy).unique h]

/-- The case study that is found is the one with the least name among those that mention a word. -/
theorem search_eq_some_iff :
    (search disk directory task).result = .ok (some name) ↔
      IsLeast {name | Mentions disk directory task name} name := by
  have hsorted : (names disk directory).Pairwise (· ≤ ·) := List.pairwise_mergeSort' (· ≤ ·) _
  rw [result_search, Except.ok.injEq, find?_eq_some_iff_isLeast hsorted]
  simp only [mentions_iff]

/-- Nothing is found exactly if no case study mentions a word. -/
theorem search_eq_none_iff :
    (search disk directory task).result = .ok none ↔
      ¬ ∃ name, Mentions disk directory task name := by
  rw [result_search, Except.ok.injEq, List.find?_eq_none]
  simp only [mentions_iff, not_exists, not_and]

end CaseStudies

namespace RoutingDecision

open CaseStudies

variable {table : List TaskCategory} {disk : Disk} {directory : Path} {task : String}

/-- In a table without repeated names the advice that is looked up by the name of a category is the
advice of the category. -/
theorem guidanceOf_name (hnames : (table.map (·.name)).Nodup) {category : TaskCategory}
    (h : category ∈ table) : guidanceOf table category.name = category.guidance := by
  have hfound : table.find? (·.name = category.name) = some category := by
    obtain ⟨other, hother⟩ : ∃ other, table.find? (·.name = category.name) = some other := by
      rw [← Option.isSome_iff_exists, List.find?_isSome]
      exact ⟨category, h, by simp⟩
    have hname := List.find?_some hother
    rw [decide_eq_true_eq] at hname
    rw [hother, List.inj_on_of_nodup_map hnames (List.mem_of_find?_eq_some hother) h hname]
  rw [guidanceOf, hfound]
  rfl

/-- A case study takes the place of the advice of the category that wins. -/
theorem result_ofTask_of_classify {route : ReadingRoute} {study : Option String}
    (h : ReadingRoute.classify table task = some route)
    (hstudy : (caseStudy? disk directory route.category task).result = .ok study) :
    (ofTask table disk directory task).result = .ok {
      task, route
      caseStudy := study
      guidance := if study.isSome then [] else guidanceOf table route.category.name } := by
  simp only [ofTask, h]
  rw [Run.result_bind_of_ok hstudy]
  cases study <;> rfl

/-- Case studies are looked for in the category of failures only. There the least one that mentions
a word is found, and nothing if none does. -/
theorem exists_result_caseStudy? (category : TaskCategory) :
    ∃ study, (caseStudy? disk directory category task).result = .ok study ∧
      (∀ name, study = some name ↔
        category.name = "bugFix" ∧ IsLeast {name | Mentions disk directory task name} name) ∧
      (study.isSome = true ↔
        category.name = "bugFix" ∧ ∃ name, Mentions disk directory task name) := by
  rw [caseStudy?]
  -- Case studies are looked for in one category only, and the search always comes to an end.
  split_ifs with hname
  · replace hname : category.name = "bugFix" := hname
    obtain ⟨study, hstudy⟩ : ∃ study, (search disk directory task).result = .ok study :=
      ⟨_, result_search⟩
    refine ⟨study, hstudy, fun name => ?_, ?_⟩
    · rw [and_iff_right hname, ← search_eq_some_iff, hstudy, Except.ok.injEq]
    · have hnone := @search_eq_none_iff disk directory task
      rw [hstudy, Except.ok.injEq] at hnone
      rw [and_iff_right hname, Option.isSome_iff_ne_none, Ne, hnone, not_not]
  · exact ⟨none, rfl, fun name => iff_of_false nofun fun h => hname h.1,
      iff_of_false nofun fun h => hname h.1⟩

/-- A decision follows the category that wins. There is a case study exactly if this category is the
one for failures and some case study mentions a longer word of the task; it is then the least of
these by name, and there is no advice. Otherwise the advice is that of the category, and without a
category there is neither case study nor advice. -/
theorem ofTask_follows_winner (hnames : (table.map (·.name)).Nodup) (disk : Disk)
    (directory : Path) (task : String) :
    ∃ decision, (ofTask table disk directory task).result = .ok decision ∧
      decision.task = task ∧ decision.route = ReadingRoute.classify table task ∧
      (decision.route = none → decision.caseStudy = none ∧ decision.guidance = []) ∧
      ∀ route, decision.route = some route →
        (decision.caseStudy.isSome = true ↔
          route.category.name = "bugFix" ∧ ∃ name, Mentions disk directory task name) ∧
        (∀ name, decision.caseStudy = some name →
          IsLeast {name | Mentions disk directory task name} name ∧ decision.guidance = []) ∧
        (decision.caseStudy = none → decision.guidance = route.category.guidance) := by
  cases hwinner : ReadingRoute.classify table task with
  | none => exact ⟨_, ofTask_of_classify_eq_none hwinner disk directory, rfl, rfl, by simp, nofun⟩
  | some route =>
    obtain ⟨study, hstudy, hsome, hisSome⟩ := exists_result_caseStudy? route.category
    refine ⟨_, result_ofTask_of_classify hwinner hstudy, rfl, rfl, nofun, ?_⟩
    rintro _ ⟨⟩
    refine ⟨hisSome, fun name hname => ?_, fun hnone => ?_⟩
    · refine ⟨((hsome name).1 hname).2, if_pos ?_⟩
      exact Option.isSome_iff_exists.2 ⟨name, hname⟩
    -- The category that wins stands in the table, so that its name leads back to it.
    · obtain ⟨-, before, after, htable, -⟩ := ReadingRoute.classify_eq_some_iff.1 hwinner
      have hmem : route.category ∈ table := by simp [htable]
      have hnot : ¬ study.isSome = true := by simp [show study = none from hnone]
      exact (if_neg hnot).trans (guidanceOf_name hnames hmem)

/-- The file with a text. -/
def fileOf (text : String) : FileEntry := .file text.toUTF8.toList

/-- Two case studies about a crash, the later one by name first, notes about it, and a case study
that may not be opened. -/
def crashStudies : Disk where
  root := .directory [("DISCOVERY-9-CRASH.md", fileOf "A crash on launch"),
    ("CRASH.md", fileOf "crash crash crash"), ("DISCOVERY-2-CRASH.md", .locked),
    ("DISCOVERY-3-SHEET.md", fileOf "The Crash happens when dismissing"),
    ("DISCOVERY-1-BUG.md", fileOf "fix the bug")]

/-- The first case study by name is that of the bug, but it does not mention the crash. -/
theorem isLeast_mentions_crashStudies :
    IsLeast {name | Mentions crashStudies {} "Fix bug: CRASH on" name} "DISCOVERY-3-SHEET.md" := by
  refine ⟨mentions_iff.2 ⟨mem_names_iff.2 ⟨by decide, ⟨"3-SHEET".toList, by decide⟩, rfl⟩,
    by decide +kernel⟩, fun name hname => ?_⟩
  have hlisted : name ∈ ["DISCOVERY-9-CRASH.md", "CRASH.md", "DISCOVERY-2-CRASH.md",
    "DISCOVERY-3-SHEET.md", "DISCOVERY-1-BUG.md"] := hname.listed
  simp only [List.mem_cons, List.not_mem_nil, or_false] at hlisted
  rcases hlisted with rfl | rfl | rfl | rfl | rfl
  · decide
  · obtain ⟨middle, hnamed⟩ := hname.named
    simp at hnamed
  · obtain ⟨bytes, -, hbytes, -⟩ := hname.mentioned
    cases hbytes
  · exact le_refl _
  · have hanswers : answers crashStudies {} (wordsOf "Fix bug: CRASH on") "DISCOVERY-1-BUG.md" =
        false := by decide +kernel
    exact absurd (mentions_iff.1 hname).2 (by simp [hanswers])

/-- Of two case studies about a crash the first one by name takes the place of the advice. -/
theorem ofTask_follows_winner_crashStudies :
    (TaskCategory.standard.map (·.name)).Nodup ∧
      ∃ decision, (ofTask TaskCategory.standard crashStudies {} "Fix bug: CRASH on").result =
          .ok decision ∧
        decision.route = some { category := .bugFix, score := 2 } ∧
        decision.caseStudy = some "DISCOVERY-3-SHEET.md" ∧ decision.guidance = [] := by
  have hwinner : ReadingRoute.classify TaskCategory.standard "Fix bug: CRASH on" =
      some { category := .bugFix, score := 2 } := by decide +kernel
  have hnames := TaskCategory.nodup_standard_names
  obtain ⟨decision, hresult, -, hroute, -, hdecided⟩ :=
    ofTask_follows_winner hnames crashStudies {} "Fix bug: CRASH on"
  rw [hwinner] at hroute
  obtain ⟨hsome, hstudies, -⟩ := hdecided _ hroute
  have hmentions := isLeast_mentions_crashStudies
  obtain ⟨name, hname⟩ := Option.isSome_iff_exists.1 (hsome.2 ⟨rfl, _, hmentions.1⟩)
  obtain ⟨hfirst, hguidance⟩ := hstudies name hname
  rw [hfirst.unique hmentions] at hname
  exact ⟨hnames, decision, hresult, hroute, hname, hguidance⟩

end RoutingDecision

end PackageLint
