import Mathlib
import PackageLint.Document.Distinct
import PackageLint.Output.BuildLog
import PackageLint.Proofs.Interspersed
import PackageLint.Proofs.Text.Trim

/-!
# Messages of a log

A compiler writes a message on a line of its own, `path:line:column: level: text`, where the column
may be missing, or `level: text` where there is no place to name. The path ends at the first colon,
the numbers are followed by a blank, and the text is whatever is left, so that there is only one
way to read such a line, colons in the text and blanks around the line included.

A report names a file by the last part of its path. What a message is known by is therefore that
name and the line, the level and the text, and two messages are one issue exactly if they agree in
these.

## Main definitions

* `WrittenMessage`: a message with the parts that stand on its line;
* `HoldsMessages`: lines hold messages, among lines that hold none;
* `LogKey.issue`: what is reported under the key of a message.

## Main results

* `ofLine?_of_writesMessage`: a line is read as the message that is written on it;
* `LogReading.foldl_report`: what is known of a log after its messages;
* `issues_readBuildLog`: each key of a message is reported once, in the order of the log;
* `issues_readBuildLog_eq_distinct`: leaving out repeated keys leaves out repeated issues;
* `issues_of_holdsMessages`: what a log is read as.
-/

namespace PackageLint.Output

open Text

/-! ## What is written on a line -/

/-- Decimal digits of any script, at least one. -/
def IsNumeral (digits : List Char) : Prop := digits ≠ [] ∧ ∀ c ∈ digits, isDecimal c = true

/-- The usual digits are digits. -/
theorem IsNumeral.of_all_isDigit {digits : List Char} (hne : digits ≠ [])
    (h : digits.all Char.isDigit = true) : IsNumeral digits := by
  refine ⟨hne, fun c hc => ?_⟩
  rw [isDecimal, decimal?_of_isDigit (List.all_eq_true.1 h c hc), Option.isSome_some]

/-- What stands in front of a message that has a place. -/
structure WrittenPlace where
  /-- The path of the file. -/
  path : String
  /-- The digits of the line. -/
  line : String
  /-- The digits of the column, if it is named. -/
  column : Option String
  path_ne_empty : path ≠ ""
  path_plain : ∀ c ∈ path.toList, c ≠ ':' ∧ isLineEnd c = false
  path_start : ∀ c ∈ path.toList.head?, isBlank c = false
  line_numeral : IsNumeral line.toList
  column_numeral : ∀ digits ∈ column, IsNumeral digits.toList

/-- A message with the parts that stand on its line. -/
structure WrittenMessage where
  /-- Where the message belongs. -/
  place : Option WrittenPlace
  /-- How bad it is. -/
  level : LogLevel
  /-- What it says. -/
  text : String
  level_ne_note : place = none → level ≠ .note
  text_ne_empty : text ≠ ""
  text_plain : ∀ c ∈ text.toList, isLineEnd c = false
  text_start : ∀ c ∈ text.toList.head?, isBlank c = false
  text_end : ∀ c ∈ text.toList.getLast?, isBlank c = false

namespace WrittenPlace

/-- The number of the line. -/
def number (place : WrittenPlace) : Nat := (natural? place.line.toList).getD 0

/-- The characters in front of the blank before the level. -/
def written (place : WrittenPlace) : List Char :=
  place.path.toList ++ ':' :: (place.line.toList ++ ':' ::
    place.column.elim [] fun digits => digits.toList ++ [':'])

end WrittenPlace

namespace WrittenMessage

/-- The level and the text. -/
def label (message : WrittenMessage) : List Char :=
  message.level.name.toList ++ ':' :: ' ' :: message.text.toList

/-- The characters of the message. -/
def written (message : WrittenMessage) : List Char :=
  match message.place with
  | none => message.label
  | some place => place.written ++ ' ' :: message.label

/-- The message that is meant. -/
def meaning (message : WrittenMessage) : LogMessage where
  place := message.place.map fun place => (.ofText place.path, place.number)
  level := message.level
  text := message.text

/-- What the message is known by. -/
def key (message : WrittenMessage) : LogKey where
  place := message.place.map fun place => ((Path.ofText place.path).name, place.number)
  level := message.level
  text := message.text

end WrittenMessage

/-- The message is written on the line, with any blanks around it. -/
def WritesMessage (message : WrittenMessage) (line : List Char) : Prop :=
  ∃ front back, (∀ c ∈ front, isBlank c = true) ∧ (∀ c ∈ back, isBlank c = true) ∧
    line = front ++ message.written ++ back

/-- The lines hold messages one after the other, among lines that hold none. -/
def HoldsMessages : List WrittenMessage → List (List Char) → Prop :=
  Interspersed WritesMessage fun line => LogMessage.ofLine? line = none

/-! ## One line -/

namespace WrittenMessage

variable (message : WrittenMessage)

/-- A label starts with the name of its level. -/
theorem label_start : ∀ c ∈ message.label.head?, isBlank c = false := by
  cases h : message.level <;> simp [label, h, LogLevel.name, isBlank]

/-- The text stands behind the name of the level, a colon and a blank. -/
theorem drop_label : message.label.drop (message.level.name.toList.length + 1) =
    ' ' :: message.text.toList := by
  rw [label, List.append_cons]
  exact List.drop_left' (by simp)

theorem written_of_none (h : message.place = none) : message.written = message.label := by
  rw [written, h]

theorem written_of_some {place : WrittenPlace} (h : message.place = some place) :
    message.written = place.written ++ ' ' :: message.label := by
  rw [written, h]

/-- What is written starts with no blank. -/
theorem written_start : ∀ c ∈ message.written.head?, isBlank c = false := by
  cases h : message.place with
  | none => rw [message.written_of_none h]; exact message.label_start
  | some place =>
    have hhead : message.written.head? = place.path.toList.head? := by
      have hne : place.path.toList ≠ [] := by simpa using place.path_ne_empty
      rw [message.written_of_some h, WrittenPlace.written.eq_1 place, List.append_assoc,
        List.head?_append, List.head?_eq_some_head hne, Option.some_or]
    rw [hhead]
    exact place.path_start

/-- What is written ends as its text does. -/
theorem written_end : ∀ c ∈ message.written.getLast?, isBlank c = false := by
  obtain ⟨front, hfront⟩ : ∃ front, message.written = front ++ message.text.toList := by
    cases h : message.place with
    | none => exact ⟨_, by rw [message.written_of_none h, label, List.append_cons, List.append_cons]⟩
    | some place =>
      refine ⟨place.written ++ ' ' :: (message.level.name.toList ++ [':', ' ']), ?_⟩
      simp [message.written_of_some h, label]
  have hne : message.text.toList ≠ [] := by simpa using message.text_ne_empty
  have hlast : message.written.getLast? = message.text.toList.getLast? := by
    rw [hfront, List.getLast?_append, List.getLast?_eq_some_getLast hne, Option.some_or]
  rw [hlast]
  exact message.text_end

end WrittenMessage

namespace LogMessage

/-- A level is told from the others by its name. -/
theorem isPrefixOf_label (message : WrittenMessage) (level : LogLevel) :
    (level.name.toList ++ [':']).isPrefixOf message.label = decide (level = message.level) := by
  rw [WrittenMessage.label]
  cases message.level <;> cases level <;> simp [LogLevel.name, List.isPrefixOf]

/-- The level and the text are read from a label, if the level is one of those that may be there. -/
theorem levelAndText?_label (message : WrittenMessage) {levels : List LogLevel}
    (h : message.level ∈ levels) :
    levelAndText? levels message.label = some (message.level, message.text) := by
  have htext : trimStart (' ' :: message.text.toList) = message.text.toList :=
    @trimStart_append [' '] _ (by simp [isBlank]) message.text_start
  rw [levelAndText?]
  induction levels with
  | nil => cases h
  | cons level levels ih =>
    rw [List.findSome?_cons]
    -- Only the level of the message is found in front of its text.
    by_cases hlevel : level = message.level
    · simp [isPrefixOf_label, hlevel, message.drop_label, htext, message.text_ne_empty]
    · have hlater : message.level ∈ levels := (List.mem_cons.1 h).resolve_left (Ne.symm hlevel)
      simpa [isPrefixOf_label, hlevel] using ih hlater

/-- A number with a colon behind it is taken as a whole. -/
theorem takeNumber_numeral {digits : List Char} (h : IsNumeral digits) (rest : List Char) :
    takeNumber (digits ++ ':' :: rest) = some ((natural? digits).getD 0, rest) := by
  obtain ⟨hne, hdecimal⟩ := h
  obtain ⟨n, hn⟩ := Option.isSome_iff_exists.1 (isSome_natural? hne hdecimal)
  have hcolon : ¬ isDecimal ':' = true := by decide
  have htake : (digits ++ ':' :: rest).takeWhile isDecimal = digits := by
    rw [List.takeWhile_append_of_pos hdecimal, List.takeWhile_cons_of_neg hcolon, List.append_nil]
  rw [takeNumber]
  simp only [htake, List.drop_left, hn, Option.getD_some]

/-- There is no number behind a blank. -/
theorem takeNumber_space (rest : List Char) : takeNumber (' ' :: rest) = none := by
  have hspace : ¬ isDecimal ' ' = true := by decide
  rw [takeNumber]
  simp only [List.takeWhile_cons_of_neg hspace]
  rfl

/-- A message with a place is read from its line. -/
theorem located?_written {message : WrittenMessage} {place : WrittenPlace}
    (h : message.place = some place) : located? message.written = some message.meaning := by
  set behind := place.column.elim [] (fun digits => digits.toList ++ [':']) ++ ' ' :: message.label
    with hbehind
  have hwritten : message.written =
      place.path.toList ++ ':' :: (place.line.toList ++ ':' :: behind) := by
    simp [message.written_of_some h, WrittenPlace.written, hbehind]
  have hpath : message.written.takeWhile (· != ':') = place.path.toList := by
    have hplain : ∀ c ∈ place.path.toList, (c != ':') = true :=
      fun c hc => by simpa using (place.path_plain c hc).1
    rw [hwritten, List.takeWhile_append_of_pos hplain, List.takeWhile_cons_of_neg (by simp),
      List.append_nil]
  have hdrop : message.written.drop (place.path.toList.length + 1) =
      place.line.toList ++ ':' :: behind := by
    rw [hwritten, List.append_cons]
    exact List.drop_left' (by simp)
  -- With a column or without, the label comes next.
  have hrest : (takeNumber behind).elim behind (·.2) = ' ' :: message.label := by
    cases hcolumn : place.column with
    | none =>
      have hnone : behind = ' ' :: message.label := by rw [hbehind, hcolumn]; rfl
      rw [hnone, takeNumber_space, Option.elim_none]
    | some digits =>
      have hsome : behind = digits.toList ++ ':' :: ' ' :: message.label := by
        simp [hbehind, hcolumn]
      rw [hsome, takeNumber_numeral (place.column_numeral digits hcolumn), Option.elim_some]
  have hlabel : trimStart (' ' :: message.label) = message.label :=
    @trimStart_append [' '] _ (by simp [isBlank]) message.label_start
  have hlevel : message.level ∈ [LogLevel.error, .warning, .note] := by
    cases message.level <;> simp
  simp [located?, guard, hpath, place.path_ne_empty, hdrop, takeNumber_numeral place.line_numeral,
    hrest, hlabel, levelAndText?_label message hlevel, WrittenMessage.meaning, h,
    WrittenPlace.number]

/-- A bare message names no place. -/
theorem located?_written_of_none {message : WrittenMessage} (h : message.place = none) :
    located? message.written = none := by
  have hplain : ∀ c ∈ message.level.name.toList, (c != ':') = true := by
    cases message.level <;> simp [LogLevel.name]
  have hname : message.written.takeWhile (· != ':') = message.level.name.toList := by
    rw [message.written_of_none h, WrittenMessage.label, List.takeWhile_append_of_pos hplain,
      List.takeWhile_cons_of_neg (by simp), List.append_nil]
  have hdrop : message.written.drop (message.level.name.toList.length + 1) =
      ' ' :: message.text.toList := by
    rw [message.written_of_none h]
    exact message.drop_label
  simp [located?, hname, hdrop, takeNumber_space]

/-- A bare message is read from its line. -/
theorem bare?_written {message : WrittenMessage} (h : message.place = none) :
    bare? message.written = some message.meaning := by
  have hlevel : message.level ∈ [LogLevel.error, .warning] := by
    have hnote := message.level_ne_note h
    cases hl : message.level <;> simp_all
  rw [bare?, message.written_of_none h, levelAndText?_label message hlevel, Option.map_some]
  simp [WrittenMessage.meaning, h]

/-- A line is read as the message that is written on it. -/
theorem ofLine?_of_writesMessage {message : WrittenMessage} {line : List Char}
    (h : WritesMessage message line) : ofLine? line = some message.meaning := by
  obtain ⟨front, back, hfront, hback, rfl⟩ := h
  have hne : message.written ≠ [] := by
    cases h : message.place with
    | none => simp [message.written_of_none h, WrittenMessage.label]
    | some place => simp [message.written_of_some h]
  have htrim : trim (front ++ message.written ++ back) = message.written :=
    trim_append_append hfront hback hne message.written_start message.written_end
  simp only [ofLine?, htrim]
  cases h : message.place with
  | none => rw [located?_written_of_none h, Option.none_or, bare?_written h]
  | some place => rw [located?_written h, Option.some_or]

end LogMessage

/-! ## What a message is known by -/

namespace LogKey

/-- The issue that is reported under a key. -/
def issue (key : LogKey) : Issue where
  kind := if key.place.isSome then .compilation else .unknown
  severity := key.level.severity
  message := key.text
  file := key.place.map (·.1)
  line := key.place.map (·.2)

/-- Keys are told apart by what is reported. -/
theorem issue_inj (k k' : LogKey) (h : k.issue = k'.issue) : k = k' := by
  have hlevel : k.level = k'.level := by
    have hseverity : k.level.severity = k'.level.severity := congrArg (·.severity) h
    cases hk : k.level <;> cases hk' : k'.level <;> simp_all [LogLevel.severity]
  have htext : k.text = k'.text := congrArg (·.message) h
  have hfile : k.place.map (·.1) = k'.place.map (·.1) := congrArg (·.file) h
  have hline : k.place.map (·.2) = k'.place.map (·.2) := congrArg (·.line) h
  have hplace : k.place = k'.place := by
    cases hk : k.place <;> cases hk' : k'.place <;> simp_all [Prod.ext_iff]
  cases k
  cases k'
  simp_all

end LogKey

/-- A message raises the issue that is reported under its key. -/
theorem LogMessage.issue_eq (message : LogMessage) : message.issue = message.key.issue := by
  simp [issue, LogKey.issue, key, Function.comp_def]

/-- After the messages of a log each of their keys has been seen, and reported once. -/
theorem LogReading.foldl_report (messages : List LogMessage) :
    messages.foldl report {} = {
      seen := distinct (messages.map LogMessage.key)
      issues := (distinct (messages.map LogMessage.key)).map LogKey.issue } := by
  -- The last message adds its key to those of the messages before it, or is one of them.
  induction messages using List.reverseRecOn with
  | nil => rfl
  | append_singleton messages message ih =>
    rw [List.foldl_append, ih, List.foldl_cons, List.foldl_nil, List.map_append, List.map_singleton,
      distinct_append_singleton, report, message.issue_eq]
    simp only [mem_distinct]
    split_ifs with hseen
    · rfl
    · rw [List.map_append, List.map_singleton]

/-- A message that is written is known by the name of its file. -/
theorem WrittenMessage.key_meaning (message : WrittenMessage) :
    message.meaning.key = message.key := by
  simp [LogMessage.key, meaning, key, Function.comp_def]

/-! ## A whole log -/

/-- A log that holds messages is read as what they mean. -/
theorem logMessages_of_holdsMessages {text : String} {messages : List WrittenMessage}
    (h : HoldsMessages messages (linesOf text)) :
    logMessages text = messages.map WrittenMessage.meaning :=
  h.filterMap_eq (fun _ _ => LogMessage.ofLine?_of_writesMessage) fun _ => id

/-- Leaving out the messages whose keys have been seen comes to the same as leaving out the issues
that have been reported. -/
theorem issues_readBuildLog_eq_distinct (text : String) (filter : Option String) :
    (readBuildLog text filter).issues =
      distinct (((logMessages text).filter fun message => filter.all message.belongsTo).map
        LogMessage.issue) := by
  have hissue (messages : List LogMessage) : messages.map LogMessage.issue =
      (messages.map LogMessage.key).map LogKey.issue := by
    rw [List.map_map]
    exact List.map_congr_left fun message _ => message.issue_eq
  rw [hissue, distinct_map LogKey.issue_inj, readBuildLog, LogReading.foldl_report]

/-- No issue is reported twice. -/
theorem nodup_issues_readBuildLog (text : String) (filter : Option String) :
    (readBuildLog text filter).issues.Nodup := by
  rw [issues_readBuildLog_eq_distinct]
  exact nodup_distinct _

/-- Each key of a message is reported once, in the order of the log. -/
theorem issues_readBuildLog (text : String) :
    (readBuildLog text none).issues =
      (distinct ((logMessages text).map LogMessage.key)).map LogKey.issue := by
  have hall : (logMessages text).filter (fun message => Option.all message.belongsTo none) =
      logMessages text := List.filter_eq_self.2 fun _ _ => rfl
  rw [readBuildLog, hall, LogReading.foldl_report]

/-- A build succeeds if no message of its log is an error. -/
theorem success_readBuildLog_iff (text : String) (filter : Option String) :
    (readBuildLog text filter).success = true ↔
      ∀ issue ∈ (readBuildLog text filter).issues, issue.severity ≠ .error := by
  -- No level is worse than an error.
  have hlevel (message : LogMessage) :
      (!message.issue.severity.atLeast .error) = true ↔ message.issue.severity ≠ .error := by
    cases h : message.level <;> simp [LogMessage.issue, h, LogLevel.severity, Severity.atLeast,
      Severity.rank]
  have hsuccess : (readBuildLog text filter).success =
      (readBuildLog text filter).issues.all fun issue => !issue.severity.atLeast .error := rfl
  rw [hsuccess, issues_readBuildLog_eq_distinct]
  simp only [List.all_eq_true, mem_distinct, List.forall_mem_map, hlevel]

/-- A log behind itself holds its messages twice. -/
theorem logMessages_twice (text : String) :
    logMessages (text ++ "\n" ++ text) = logMessages text ++ logMessages text := by
  have hempty : LogMessage.ofLine? [] = none := by decide +kernel
  have hlines : linesOf (text ++ "\n" ++ text) =
      splitLines (text.toList ++ ['\n']) ++ linesOf text := by
    rw [linesOf, String.toList_append, String.toList_append]
    exact splitLines_append_newline_append _ _
  have hfirst : (splitLines (text.toList ++ ['\n'])).filterMap LogMessage.ofLine? =
      logMessages text := by
    rcases splitLines_append_newline_or text.toList with h | h
    · rw [h, logMessages, linesOf]
    · rw [h, List.filterMap_append, logMessages, linesOf]
      simp [hempty]
  rw [logMessages, hlines, List.filterMap_append, hfirst]
  rfl

/-- A log behind itself says nothing new. -/
theorem issues_readBuildLog_twice (text : String) :
    (readBuildLog (text ++ "\n" ++ text) none).issues = (readBuildLog text none).issues := by
  rw [issues_readBuildLog, issues_readBuildLog, logMessages_twice, List.map_append,
    distinct_append_of_subset fun _ => id]

/-- A log of messages among other lines is read as one issue for each key, in the order in which
the keys come first. It counts as a success unless one of them is an error, and nothing changes if
the log is read with itself behind it. -/
theorem issues_of_holdsMessages {text : String} {messages : List WrittenMessage}
    (h : HoldsMessages messages (linesOf text)) :
    (readBuildLog text none).issues =
        (distinct (messages.map WrittenMessage.key)).map LogKey.issue ∧
      (readBuildLog text none).issues.Nodup ∧
      ((readBuildLog text none).success = true ↔
        ∀ issue ∈ (readBuildLog text none).issues, issue.severity ≠ .error) ∧
      (readBuildLog (text ++ "\n" ++ text) none).issues = (readBuildLog text none).issues := by
  have hkeys : (logMessages text).map LogMessage.key = messages.map WrittenMessage.key := by
    rw [logMessages_of_holdsMessages h, List.map_map]
    exact List.map_congr_left fun message _ => message.key_meaning
  refine ⟨?_, nodup_issues_readBuildLog text none, success_readBuildLog_iff text none,
    issues_readBuildLog_twice text⟩
  rw [issues_readBuildLog, hkeys]

/-- An error with a column, and a colon in its text. -/
def placedError : WrittenMessage where
  place := some
    { path := "a/A.swift"
      line := "3"
      column := some "5"
      path_ne_empty := by decide
      path_plain := by simp [isLineEnd]
      path_start := by simp [isBlank]
      line_numeral := .of_all_isDigit (by decide) (by decide)
      column_numeral := by rintro _ ⟨⟩; exact .of_all_isDigit (by decide) (by decide) }
  level := .error
  text := "x: y"
  level_ne_note := by simp
  text_ne_empty := by decide
  text_plain := by simp [isLineEnd]
  text_start := by simp [isBlank]
  text_end := by simp [isBlank]

/-- A note without a column. -/
def placedNote : WrittenMessage where
  place := some
    { path := "B.swift"
      line := "04"
      column := none
      path_ne_empty := by decide
      path_plain := by simp [isLineEnd]
      path_start := by simp [isBlank]
      line_numeral := .of_all_isDigit (by decide) (by decide)
      column_numeral := by simp }
  level := .note
  text := "z"
  level_ne_note := by simp
  text_ne_empty := by decide
  text_plain := by simp [isLineEnd]
  text_start := by simp [isBlank]
  text_end := by simp [isBlank]

/-- A warning without a place. -/
def bareWarning : WrittenMessage where
  place := none
  level := .warning
  text := "w"
  level_ne_note := by simp
  text_ne_empty := by decide
  text_plain := by simp [isLineEnd]
  text_start := by simp [isBlank]
  text_end := by simp [isBlank]

/-- A log of four messages, one of them repeated, and a line of another kind. -/
def mixedLog : String :=
  "a/A.swift:3:5: error: x: y\nCompiling\n  B.swift:04: note: z \nwarning: w\nwarning: w"

theorem holdsMessages_mixedLog :
    HoldsMessages [placedError, placedNote, bareWarning, bareWarning] (linesOf mixedLog) := by
  have hlines : linesOf mixedLog = ["a/A.swift:3:5: error: x: y".toList, "Compiling".toList,
      "  B.swift:04: note: z ".toList, "warning: w".toList, "warning: w".toList] := by
    decide +kernel
  have herror : WritesMessage placedError "a/A.swift:3:5: error: x: y".toList :=
    ⟨[], [], by simp, by simp, by decide +kernel⟩
  have hnote : WritesMessage placedNote "  B.swift:04: note: z ".toList :=
    ⟨[' ', ' '], [' '], by simp [isBlank], by simp [isBlank], by decide +kernel⟩
  have hwarning : WritesMessage bareWarning "warning: w".toList :=
    ⟨[], [], by simp, by simp, by decide +kernel⟩
  rw [hlines]
  exact .shown herror (.other (by decide +kernel) (.shown hnote (.shown hwarning
    (.shown hwarning .nil))))

/-- The messages of a log are reported from among other lines, the repeated one once. -/
theorem issues_of_holdsMessages_mixedLog :
    HoldsMessages [placedError, placedNote, bareWarning, bareWarning] (linesOf mixedLog) ∧
      (readBuildLog mixedLog none).issues =
        [placedError, placedNote, bareWarning].map (·.key.issue) := by
  have hkeys : distinct ([placedError, placedNote, bareWarning, bareWarning].map
      WrittenMessage.key) = [placedError, placedNote, bareWarning].map WrittenMessage.key := by
    decide +kernel
  refine ⟨holdsMessages_mixedLog, ?_⟩
  rw [(issues_of_holdsMessages holdsMessages_mixedLog).1, hkeys, List.map_map]
  rfl

/-! ## Messages of different files -/

/-- The messages with a place, each on its line. -/
def placedMessages (text : String) : List LogMessage :=
  (linesOf text).filterMap fun line => LogMessage.located? (trim line)

namespace LogMessage

theorem isSome_place_of_located? {line : List Char} {message : LogMessage}
    (h : located? line = some message) : message.place.isSome := by
  simp only [located?, Option.bind_eq_bind, Option.bind_eq_some_iff] at h
  obtain ⟨_, _, _, _, _, _, heq⟩ := h
  cases heq
  rfl

theorem place_of_bare? {line : List Char} {message : LogMessage}
    (h : bare? line = some message) : message.place = none := by
  simp only [bare?, Option.map_eq_some_iff] at h
  obtain ⟨_, _, rfl⟩ := h
  rfl

/-- A line holds a message with a place exactly if it is read as one. -/
theorem filter_ofLine? (line : List Char) :
    (ofLine? line).filter (·.place.isSome) = located? (trim line) := by
  rw [ofLine?]
  cases hlocated : located? (trim line) with
  | some message =>
    have hplace : message.place.isSome := isSome_place_of_located? hlocated
    simp [hplace]
  | none =>
    rw [Option.none_or]
    cases hbare : bare? (trim line) with
    | none => rfl
    | some message => simp [place_of_bare? hbare]

end LogMessage

/-- The messages with a place are those that name one. -/
theorem filter_logMessages (text : String) :
    (logMessages text).filter (·.place.isSome) = placedMessages text := by
  simp only [logMessages, List.filter_filterMap, LogMessage.filter_ofLine?, placedMessages]

/-- The issues with a file are those of the messages with a place. -/
theorem placed_issues_readBuildLog (text : String) :
    (readBuildLog text none).issues.filter (·.file.isSome) =
      (distinct ((placedMessages text).map LogMessage.key)).map LogKey.issue := by
  have hfile : (fun issue : Issue => issue.file.isSome) ∘ LogKey.issue ∘ LogMessage.key =
      fun message : LogMessage => message.place.isSome := by
    funext message
    simp [LogKey.issue, LogMessage.key]
  rw [issues_readBuildLog, List.filter_map, filter_distinct, List.filter_map,
    Function.comp_assoc, hfile, filter_logMessages]

/-- Messages with a place are never reported together if their files have different names: there
are as many issues with a file as there are keys of messages with a place, each such message is
reported, and under another issue than the messages of files with other names. -/
theorem issues_of_placedMessages (text : String) :
    ((readBuildLog text none).issues.filter (·.file.isSome)).length =
        (distinct ((placedMessages text).map LogMessage.key)).length ∧
      ∀ m ∈ placedMessages text, ∀ m' ∈ placedMessages text,
        m.place.map (·.1.name) ≠ m'.place.map (·.1.name) →
        m.issue ∈ (readBuildLog text none).issues ∧ m'.issue ∈ (readBuildLog text none).issues ∧
          m.issue ≠ m'.issue := by
  have hreported (m : LogMessage) (hm : m ∈ placedMessages text) :
      m.issue ∈ (readBuildLog text none).issues := by
    have hplaced : m.issue ∈ (readBuildLog text none).issues.filter (·.file.isSome) := by
      rw [placed_issues_readBuildLog, m.issue_eq]
      exact List.mem_map_of_mem (mem_distinct.2 (List.mem_map_of_mem hm))
    exact (List.mem_filter.1 hplaced).1
  refine ⟨by rw [placed_issues_readBuildLog, List.length_map], fun m hm m' hm' hne => ?_⟩
  -- An issue shows the name of the file of its message.
  exact ⟨hreported m hm, hreported m' hm', fun heq => hne (congrArg (·.file) heq)⟩

/-- A log of three messages on files, two of them with one name. -/
def threeFiles : String := "a/A.swift:1: error: e\nb/A.swift:1: error: e\nb/B.swift:1: error: e"

/-- Files with different names have issues of their own. -/
theorem issues_of_placedMessages_threeFiles :
    ∃ m ∈ placedMessages threeFiles, ∃ m' ∈ placedMessages threeFiles,
      m.place.map (·.1.name) ≠ m'.place.map (·.1.name) ∧
      m.issue ∈ (readBuildLog threeFiles none).issues ∧
      m'.issue ∈ (readBuildLog threeFiles none).issues ∧ m.issue ≠ m'.issue := by
  let message (path : String) : LogMessage :=
    { place := some (.ofText path, 1), level := .error, text := "e" }
  have hA : message "b/A.swift" ∈ placedMessages threeFiles := by decide +kernel
  have hB : message "b/B.swift" ∈ placedMessages threeFiles := by decide +kernel
  have hne : (message "b/A.swift").place.map (·.1.name) ≠
      (message "b/B.swift").place.map (·.1.name) := by decide +kernel
  exact ⟨_, hA, _, hB, hne, (issues_of_placedMessages threeFiles).2 _ hA _ hB hne⟩

/-- Files of one name in different places share an issue if their messages agree. -/
theorem placed_issues_lt_threeFiles :
    (∃ m ∈ placedMessages threeFiles, ∃ m' ∈ placedMessages threeFiles,
      m.place.map (·.1) ≠ m'.place.map (·.1) ∧ m.issue = m'.issue) ∧
      ((readBuildLog threeFiles none).issues.filter (·.file.isSome)).length <
        (distinct (placedMessages threeFiles)).length := by
  decide +kernel

end PackageLint.Output
