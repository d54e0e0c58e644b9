import CoverageLink.Log.Logger
import CoverageLink.Proofs.Files.Moving

/-!
# Setting log files aside loses nothing but the past

A log file that is full is moved to a name beside it, over what lies there, and is begun again.
What is in the two files is judged by a log that nobody ever cuts (`Course.log`) and by where the
cuts would be in it (`Course.cuts`): the file holds what comes behind the last cut, and the file
beside it holds what comes between the last two (`rotation_keeps_log`).

## 1.  Writing to a file

`LogFile.write_cases` says once what can become of a line: the file is not full then, or it cannot
be set aside, or it is set aside and another one is begun.

## 2.  Calls

Each thread has its own words for itself, and what is admitted is a line for the file.
`Course.hear` keeps the account of a call beside the call itself.

## 3.  What holds between two calls

`Writing` ties the account to the volume.  The file lies under its own name, or it would be the link
to it that is set aside; the length the logger counts is that of the file; and what was set aside is
another file, so that nothing is written to it anymore.  A line behind which there is no cut keeps
that (`Writing.hear_whole`), and one behind which there is a cut keeps it as well
(`Writing.hear_cut`), whatever was beside the file before.

## 4.  Any calls

A file that was opened is written to (`Writing.start`), so what a call keeps holds after any calls
(`Writing.hearAll`).
-/

namespace CoverageLink
namespace Log

open Files (Location Path Volume)

/-! ## 1.  Writing to a file -/

namespace LogFile

/-- Sets the file aside, unless the host refuses to. -/
def setAside (file : LogFile) (refusal : Option Failure) (volume : Volume) :
    Except Failure Volume :=
  match refusal with
  | some failure => .error failure
  | none => volume.moveFile file.path file.aside

/-- The file after octets were written to its end. -/
def grown (file : LogFile) (bytes : Bytes) : LogFile :=
  { file with size := file.size + bytes.length }

@[simp] theorem path_grown (file : LogFile) (bytes : Bytes) : (file.grown bytes).path = file.path :=
  rfl

@[simp] theorem limit_grown (file : LogFile) (bytes : Bytes) :
    (file.grown bytes).limit = file.limit := rfl

@[simp] theorem number_grown (file : LogFile) (bytes : Bytes) :
    (file.grown bytes).number = file.number := rfl

@[simp] theorem size_grown (file : LogFile) (bytes : Bytes) :
    (file.grown bytes).size = file.size + bytes.length := rfl

/-- The file under the same name that is begun then. -/
def renewed (file : LogFile) (number : Nat) : LogFile := { file with number, size := 0 }

@[simp] theorem path_renewed (file : LogFile) (number : Nat) :
    (file.renewed number).path = file.path := rfl

@[simp] theorem limit_renewed (file : LogFile) (number : Nat) :
    (file.renewed number).limit = file.limit := rfl

@[simp] theorem number_renewed (file : LogFile) (number : Nat) :
    (file.renewed number).number = number := rfl

@[simp] theorem size_renewed (file : LogFile) (number : Nat) : (file.renewed number).size = 0 :=
  rfl

/-- What comes of setting the file aside after octets were written to it, if that is tried. -/
def settingAside (file : LogFile) (refusal : Option Failure) (bytes : Bytes) (volume : Volume) :
    Option (Except Failure Volume) :=
  if (file.grown bytes).isFull then
    some ((file.grown bytes).setAside refusal (volume.append file.number bytes))
  else none

variable {file : LogFile} {refusal : Option Failure} {bytes : Bytes} {volume : Volume}

theorem settingAside_of_full (full : (file.grown bytes).isFull = true) (volume : Volume) :
    file.settingAside none bytes volume =
      some ((volume.append file.number bytes).moveFile file.path file.aside) := by
  rw [settingAside, if_pos full]
  rfl

/-- **What writing comes to**: the file is not full, or it cannot be set aside, or it is. -/
theorem write_cases (file : LogFile) (refusal : Option Failure) (bytes : Bytes) (volume : Volume) :
    (file.settingAside refusal bytes volume = none ∧ (file.grown bytes).isFull = false ∧
      (file.write refusal bytes volume).2 =
        (file.grown bytes, volume.append file.number bytes)) ∨
    (∃ failure, file.settingAside refusal bytes volume = some (.error failure) ∧
      (file.write refusal bytes volume).2 =
        (file.grown bytes, volume.append file.number bytes)) ∨
    ∃ moved, file.settingAside refusal bytes volume = some (.ok moved) ∧
      (volume.append file.number bytes).moveFile file.path file.aside = .ok moved ∧
      ∀ number size after, moved.openFile .emptied file.path = (.ok (number, size), after) →
        (file.write refusal bytes volume).2 = ((file.grown bytes).renewed number, after) := by
  have write_eq : file.write refusal bytes volume =
      if (file.grown bytes).isFull then
        (file.grown bytes).rotate refusal (volume.append file.number bytes)
      else (.ok (), file.grown bytes, volume.append file.number bytes) := rfl
  rw [write_eq, settingAside]
  cases (file.grown bytes).isFull with
  | false => exact .inl ⟨rfl, rfl, rfl⟩
  | true =>
    simp only [if_true, rotate, setAside]
    cases refusal with
    | some failure => exact .inr (.inl ⟨failure, rfl, rfl⟩)
    | none =>
      rcases done : (volume.append file.number bytes).moveFile (file.grown bytes).path
        (file.grown bytes).aside with failure | moved
      · exact .inr (.inl ⟨failure, rfl, rfl⟩)
      · refine .inr (.inr ⟨moved, rfl, done, ?_⟩)
        intro number size after begun
        have begun : moved.openFile .emptied (file.grown bytes).path =
            (.ok (number, size), after) := begun
        simp only [begun, renewed]

end LogFile

/-! ## 2.  Calls -/

/-- A call of a logger: the thread it is made on, what is to be logged, and why the host refuses to
set the file aside, if it does. -/
structure Call where
  thread : Nat
  message : Message
  refusal : Option Failure

namespace Logger

/-- The octets that a call adds to a log if it is admitted. -/
def spelled (logger : Logger) (call : Call) : Bytes :=
  Utf8.encode (Speaker.line ⟨logger.speaker.process, call.thread⟩ call.message.line ++ "\n")

/-- The logger as it is called on a thread. -/
def onThread (logger : Logger) (thread : Nat) : Logger :=
  { logger with speaker := ⟨logger.speaker.process, thread⟩ }

/-- Makes a call: the logger and the volume after it. -/
def hear (logger : Logger) (call : Call) (volume : Volume) : Logger × Volume :=
  ((logger.onThread call.thread).log call.refusal call.message volume).2

/-- What comes of setting the file aside after a call, if that is tried. -/
def settingAside (logger : Logger) (call : Call) (volume : Volume) :
    Option (Except Failure Volume) :=
  match logger.admits call.message, logger.destination with
  | true, .file file => file.settingAside call.refusal (logger.spelled call) volume
  | _, _ => none

variable {logger : Logger} {call : Call} {volume : Volume} {file : LogFile}

theorem settingAside_of_admits (admitted : logger.admits call.message = true)
    (writing : logger.destination = .file file) :
    logger.settingAside call volume =
      file.settingAside call.refusal (logger.spelled call) volume := by
  rw [settingAside, admitted, writing]

/-- Nothing is tried when nothing is logged. -/
theorem settingAside_of_not_admits (silent : logger.admits call.message = false) :
    logger.settingAside call volume = none := by
  rw [settingAside, silent]

/-- The host's refusal is final. -/
theorem settingAside_of_refused {failure : Failure} (refused : call.refusal = some failure)
    (moved : Volume) : logger.settingAside call volume ≠ some (.ok moved) := by
  unfold settingAside
  split
  · rw [LogFile.settingAside, refused]
    split <;> exact nofun
  · exact nofun

theorem hear_of_not_admits (silent : logger.admits call.message = false) :
    logger.hear call volume = (logger.onThread call.thread, volume) := by
  have silent : (logger.onThread call.thread).admits call.message = false := silent
  rw [hear, log_of_not_admits silent]

theorem hear_of_admits (admitted : logger.admits call.message = true)
    (writing : logger.destination = .file file) :
    logger.hear call volume =
      ({ logger.onThread call.thread with
          destination := .file (file.write call.refusal (logger.spelled call) volume).2.1 },
        (file.write call.refusal (logger.spelled call) volume).2.2) := by
  have admitted : (logger.onThread call.thread).admits call.message = true := admitted
  have writing : (logger.onThread call.thread).destination = .file file := writing
  have text : Utf8.encode ((logger.onThread call.thread).speaker.line call.message.line ++ "\n") =
      logger.spelled call := rfl
  rw [hear, log, admitted, writing]
  simp only [Bool.not_true, Bool.false_eq_true, if_false, text]
  rcases file.write call.refusal (logger.spelled call) volume with ⟨_ | _, file', volume'⟩ <;> rfl

/-- What is logged, and in which words, does not change with what was logged. -/
theorem hear_keeps (logger : Logger) (call : Call) (volume : Volume) :
    (logger.hear call volume).1.admits = logger.admits ∧
      (logger.hear call volume).1.spelled = logger.spelled := by
  rw [hear, log]
  split
  · exact ⟨rfl, rfl⟩
  · simp only
    split
    · exact ⟨rfl, rfl⟩
    · split <;> exact ⟨rfl, rfl⟩

end Logger

/-- A run of calls, with what it is judged by: what the file held in the beginning, the lines that
were logged since then, and how much had been logged each time the file was set aside. -/
structure Course where
  logger : Logger
  volume : Volume
  initial : Bytes
  lines : List Bytes
  cuts : List Nat

namespace Course

/-- Everything that was logged. -/
def log (course : Course) : Bytes := course.initial ++ course.lines.flatten

/-- What was logged since the file was last set aside. -/
def current (course : Course) : Bytes := course.log.drop (course.cuts.getLastD 0)

/-- What was logged between the last two times, or before the only one. -/
def previous (course : Course) : Bytes :=
  (course.log.take (course.cuts.getLastD 0)).drop (course.cuts.dropLast.getLastD 0)

/-- A call: the line of a message that is admitted is logged, and there is a cut behind it if the
file is set aside then. -/
def hear (course : Course) (call : Call) : Course :=
  let lines :=
    if course.logger.admits call.message then course.lines ++ [course.logger.spelled call]
    else course.lines
  { logger := (course.logger.hear call course.volume).1
    volume := (course.logger.hear call course.volume).2
    initial := course.initial
    lines
    cuts :=
      match course.logger.settingAside call course.volume with
      | some (.ok _) => course.cuts ++ [(course.initial ++ lines.flatten).length]
      | _ => course.cuts }

/-- Calls, one after the other. -/
def hearAll (course : Course) (calls : List Call) : Course := calls.foldl hear course

variable {course : Course} {call : Call}

@[simp] theorem logger_hear (course : Course) (call : Call) :
    (course.hear call).logger = (course.logger.hear call course.volume).1 := rfl

@[simp] theorem volume_hear (course : Course) (call : Call) :
    (course.hear call).volume = (course.logger.hear call course.volume).2 := rfl

/-- A call that is left out changes nothing but the thread that was last heard of. -/
theorem hear_of_not_admits (silent : course.logger.admits call.message = false) :
    course.hear call = { course with logger := course.logger.onThread call.thread } := by
  rw [hear, Logger.hear_of_not_admits silent, silent, Logger.settingAside_of_not_admits silent]
  rfl

theorem lines_hear (admitted : course.logger.admits call.message = true) :
    (course.hear call).lines = course.lines ++ [course.logger.spelled call] := by
  simp only [hear, admitted, if_true]

/-- The last line is that of the call. -/
theorem eq_of_lines_hear (admitted : course.logger.admits call.message = true)
    {earlier : List Bytes} {line : Bytes} (lines : (course.hear call).lines = earlier ++ [line]) :
    line = course.logger.spelled call := by
  have last := congrArg List.getLast? lines
  rw [lines_hear admitted, List.getLast?_concat, List.getLast?_concat] at last
  exact (Option.some.inj last).symm

theorem log_hear (admitted : course.logger.admits call.message = true) :
    (course.hear call).log = course.log ++ course.logger.spelled call := by
  show (course.hear call).initial ++ (course.hear call).lines.flatten = _
  rw [lines_hear admitted, List.flatten_append, List.flatten_singleton, ← List.append_assoc]
  rfl

/-- **A line behind which there is no cut** is added to what the file holds. -/
theorem current_hear_of_whole (admitted : course.logger.admits call.message = true)
    (whole : ∀ moved, course.logger.settingAside call course.volume ≠ some (.ok moved))
    (within : course.cuts.getLastD 0 ≤ course.log.length) :
    (course.hear call).cuts = course.cuts ∧
      (course.hear call).current = course.current ++ course.logger.spelled call ∧
      (course.hear call).previous = course.previous := by
  have cuts : (course.hear call).cuts = course.cuts := by
    rcases tried : course.logger.settingAside call course.volume with _ | failure | moved
    · rw [hear, tried]
    · rw [hear, tried]
    · exact absurd tried (whole moved)
  refine ⟨cuts, ?_, ?_⟩
  · rw [current, current, cuts, log_hear admitted, List.drop_append_of_le_length within]
  · rw [previous, previous, cuts, log_hear admitted, List.take_append_of_le_length within]

/-- **A line behind which there is a cut** ends what was set aside. -/
theorem current_hear_of_cut (admitted : course.logger.admits call.message = true) {moved : Volume}
    (cut : course.logger.settingAside call course.volume = some (.ok moved))
    (within : course.cuts.getLastD 0 ≤ course.log.length) :
    (course.hear call).cuts = course.cuts ++ [(course.hear call).log.length] ∧
      (course.hear call).current = [] ∧
      (course.hear call).previous = course.current ++ course.logger.spelled call := by
  have cuts : (course.hear call).cuts = course.cuts ++ [(course.hear call).log.length] := by
    simp only [hear, cut, log]
  refine ⟨cuts, ?_, ?_⟩
  · rw [current, cuts, List.getLastD_concat, List.drop_length]
  · rw [previous, cuts, List.getLastD_concat, List.take_length, List.dropLast_concat,
      log_hear admitted, List.drop_append_of_le_length within, current]

/-- The line behind a cut is all that the file holds then. -/
theorem current_hear_of_cut_of_whole {first second : Call}
    (admitted : course.logger.admits first.message = true) {moved : Volume}
    (cut : course.logger.settingAside first course.volume = some (.ok moved))
    (within : course.cuts.getLastD 0 ≤ course.log.length)
    (admitted' : course.logger.admits second.message = true)
    (whole : ∀ moved, (course.hear first).logger.settingAside second (course.hear first).volume ≠
      some (.ok moved)) :
    ((course.hear first).hear second).cuts ≠ [] ∧
      ((course.hear first).hear second).current = course.logger.spelled second ∧
      ((course.hear first).hear second).previous =
        course.current ++ course.logger.spelled first := by
  obtain ⟨cuts, emptied, ended⟩ := current_hear_of_cut admitted cut within
  have within' : (course.hear first).cuts.getLastD 0 ≤ (course.hear first).log.length :=
    Nat.le_of_eq (by rw [cuts, List.getLastD_concat])
  obtain ⟨admits, spelled⟩ := course.logger.hear_keeps first course.volume
  have admitted' : (course.hear first).logger.admits second.message = true := by
    rw [logger_hear, admits, admitted']
  obtain ⟨cuts', grown, same⟩ := current_hear_of_whole admitted' whole within'
  refine ⟨?_, ?_, same.trans ended⟩
  · rw [cuts', cuts]
    simp
  · rw [grown, emptied, List.nil_append, logger_hear, spelled]

end Course

/-! ## 3.  What holds between two calls -/

/-- **What holds between two calls**: the file is written to where its path leads, under its own
name, and holds what was logged since it was last set aside. -/
structure Writing (path : Path) (limit : Nat) (course : Course) (file : LogFile) : Prop where
  writing : course.logger.destination = .file file
  path_eq : file.path = path
  limit_eq : file.limit = some limit
  sound : course.volume.Sound
  /-- The number of the file is that of the file under its name. -/
  current : ∃ location,
    course.volume.place .entry path = .ok (.found location (.file file.number course.current))
  size : file.size = course.current.length
  /-- What was set aside is another file. -/
  aside : course.cuts ≠ [] → ∃ location number, number ≠ file.number ∧
    course.volume.entryAt (path.extended ".old") = .ok (location, .file number course.previous)
  /-- What was logged was cut behind lines. -/
  ends : ∀ cut ∈ course.cuts, ∃ count, 0 < count ∧ count ≤ course.lines.length ∧
    cut = (course.initial ++ (course.lines.take count).flatten).length
  /-- The last line is at the end of one of the two files. -/
  latest : ∀ earlier line, course.lines = earlier ++ [line] →
    line <:+ course.current ∨ course.cuts ≠ [] ∧ line <:+ course.previous

namespace Writing

variable {path : Path} {limit : Nat} {course : Course} {file : LogFile} {call : Call}

/-- The last cut is not behind what was logged. -/
theorem within (writing : Writing path limit course file) :
    course.cuts.getLastD 0 ≤ course.log.length := by
  rcases List.eq_nil_or_concat course.cuts with none | ⟨earlier, last, some_cuts⟩
  · rw [none]
    exact Nat.zero_le _
  · rw [List.concat_eq_append] at some_cuts
    obtain ⟨count, -, -, same⟩ := writing.ends last (by simp [some_cuts])
    rw [some_cuts, List.getLastD_concat, same, Course.log, List.length_append, List.length_append]
    have whole : course.lines.flatten.length =
        (course.lines.take count).flatten.length + (course.lines.drop count).flatten.length := by
      rw [← List.length_append, ← List.flatten_append, List.take_append_drop]
    omega

/-- Lines that were counted before are counted now. -/
theorem ends_hear (writing : Writing path limit course file)
    (admitted : course.logger.admits call.message = true) {cut : Nat}
    (earlier : cut ∈ course.cuts) :
    ∃ count, 0 < count ∧ count ≤ (course.hear call).lines.length ∧
      cut = (course.initial ++ ((course.hear call).lines.take count).flatten).length := by
  obtain ⟨count, some_lines, few, same⟩ := writing.ends cut earlier
  have lines := Course.lines_hear admitted
  refine ⟨count, some_lines, ?_, ?_⟩
  · rw [lines, List.length_append]
    exact Nat.le_trans few (Nat.le_add_right _ _)
  · rw [lines, List.take_append_of_le_length few, same]

/-- What becomes of the file is written down. -/
theorem heard (writing : Writing path limit course file)
    (admitted : course.logger.admits call.message = true) {now : LogFile} {after : Volume}
    (written : (file.write call.refusal (course.logger.spelled call) course.volume).2 =
      (now, after)) :
    (course.hear call).logger.destination = .file now ∧ (course.hear call).volume = after := by
  rw [Course.logger_hear, Course.volume_hear, Logger.hear_of_admits admitted writing.writing,
    written]
  exact ⟨rfl, rfl⟩

/-- **A line behind which the file is not set aside.** -/
theorem hear_whole (writing : Writing path limit course file)
    (admitted : course.logger.admits call.message = true)
    (whole : ∀ moved, course.logger.settingAside call course.volume ≠ some (.ok moved))
    (written : (file.write call.refusal (course.logger.spelled call) course.volume).2 =
      (file.grown (course.logger.spelled call),
        course.volume.append file.number (course.logger.spelled call))) :
    Writing path limit (course.hear call) (file.grown (course.logger.spelled call)) := by
  obtain ⟨location, there⟩ := writing.current
  obtain ⟨sound, grown, others⟩ := Files.Volume.place_append writing.sound there
    (course.logger.spelled call)
  obtain ⟨cuts, current, previous⟩ :=
    Course.current_hear_of_whole admitted whole writing.within
  obtain ⟨destination, volume⟩ := writing.heard admitted written
  constructor
  case writing => exact destination
  case path_eq =>
    rw [LogFile.path_grown, writing.path_eq]
  case limit_eq =>
    rw [LogFile.limit_grown, writing.limit_eq]
  case sound =>
    rwa [volume]
  case current =>
    rw [volume, current, LogFile.number_grown]
    exact ⟨location, grown⟩
  case size =>
    rw [current, List.length_append, ← writing.size, LogFile.size_grown]
  case aside =>
    intro some_cuts
    rw [cuts] at some_cuts
    obtain ⟨beside, number, other, found⟩ := writing.aside some_cuts
    rw [volume, previous, LogFile.number_grown]
    exact ⟨beside, number, other, others _ _ _ _ other found⟩
  case ends =>
    intro cut member
    rw [cuts] at member
    exact writing.ends_hear admitted member
  case latest =>
    intro earlier line lines
    rw [current, Course.eq_of_lines_hear admitted lines]
    exact .inl (List.suffix_append _ _)

/-- **A line behind which the file is set aside.** -/
theorem hear_cut (writing : Writing path limit course file)
    (admitted : course.logger.admits call.message = true) {moved after : Volume}
    (cut : course.logger.settingAside call course.volume = some (.ok moved))
    (done : (course.volume.append file.number (course.logger.spelled call)).moveFile file.path
      file.aside = .ok moved)
    {number size : Nat} (begun : moved.openFile .emptied path = (.ok (number, size), after))
    (written : (file.write call.refusal (course.logger.spelled call) course.volume).2 =
      ((file.grown (course.logger.spelled call)).renewed number, after)) :
    Writing path limit (course.hear call)
      ((file.grown (course.logger.spelled call)).renewed number) := by
  obtain ⟨location, there⟩ := writing.current
  obtain ⟨sound, grown, -⟩ := Files.Volume.place_append writing.sound there
    (course.logger.spelled call)
  rw [LogFile.aside, writing.path_eq] at done
  obtain ⟨sound_after, other, fresh, beside, found⟩ :=
    Files.Volume.place_beside sound (by decide) grown done begun
  obtain ⟨cuts, current, previous⟩ :=
    Course.current_hear_of_cut admitted cut writing.within
  obtain ⟨destination, volume⟩ := writing.heard admitted written
  constructor
  case writing => exact destination
  case path_eq =>
    rw [LogFile.path_renewed, LogFile.path_grown, writing.path_eq]
  case limit_eq =>
    rw [LogFile.limit_renewed, LogFile.limit_grown, writing.limit_eq]
  case sound =>
    rwa [volume]
  case current =>
    rw [volume, current, LogFile.number_renewed]
    exact ⟨location, fresh⟩
  case size =>
    rw [current, LogFile.size_renewed, List.length_nil]
  case aside =>
    intro _
    rw [volume, previous, LogFile.number_renewed]
    exact ⟨beside, file.number, other, found⟩
  case ends =>
    intro place member
    rw [cuts] at member
    rcases List.mem_append.1 member with earlier | new
    · exact writing.ends_hear admitted earlier
    · refine ⟨(course.hear call).lines.length, ?_, Nat.le_refl _, ?_⟩
      · rw [Course.lines_hear admitted, List.length_append]
        exact Nat.succ_pos _
      · rw [List.mem_singleton.1 new, List.take_length]
        rfl
  case latest =>
    intro earlier line lines
    rw [cuts, previous, Course.eq_of_lines_hear admitted lines]
    exact .inr ⟨by simp, List.suffix_append _ _⟩

/-- **A call.**  A line that is logged makes the file stay or become shorter than its limit, unless
the file cannot be set aside. -/
theorem hear (writing : Writing path limit course file) (positive : 0 < limit)
    (begins : ∀ moved, course.logger.settingAside call course.volume = some (.ok moved) →
      ∃ opened after, moved.openFile .emptied path = (.ok opened, after)) :
    ∃ now, Writing path limit (course.hear call) now ∧
      (course.logger.admits call.message = true → now.size < limit ∨
        ∃ failure, course.logger.settingAside call course.volume = some (.error failure)) := by
  cases admitted : course.logger.admits call.message with
  | false =>
    rw [Course.hear_of_not_admits admitted]
    exact ⟨file, ⟨writing.writing, writing.path_eq, writing.limit_eq, writing.sound,
      writing.current, writing.size, writing.aside, writing.ends, writing.latest⟩, nofun⟩
  | true =>
    have tried : course.logger.settingAside call course.volume =
        file.settingAside call.refusal (course.logger.spelled call) course.volume :=
      Logger.settingAside_of_admits admitted writing.writing
    rcases file.write_cases call.refusal (course.logger.spelled call) course.volume with
      ⟨whole, room, written⟩ | ⟨failure, whole, written⟩ | ⟨moved, cut, done, written⟩
    · rw [← tried] at whole
      refine ⟨_, writing.hear_whole admitted (by rw [whole]; exact nofun) written, fun _ => .inl ?_⟩
      rw [LogFile.isFull, LogFile.limit_grown, writing.limit_eq] at room
      exact Nat.not_le.1 (of_decide_eq_false room)
    · rw [← tried] at whole
      exact ⟨_, writing.hear_whole admitted (by rw [whole]; exact nofun) written,
        fun _ => .inr ⟨failure, whole⟩⟩
    · rw [← tried] at cut
      obtain ⟨⟨number, size⟩, after, begun⟩ := begins moved cut
      have begun' := begun
      rw [← writing.path_eq] at begun'
      refine ⟨_, writing.hear_cut admitted cut done begun (written _ _ _ begun'), fun _ => .inl ?_⟩
      rwa [LogFile.size_renewed]

end Writing

/-! ## 4.  Any calls -/

namespace Course

theorem hearAll_concat (course : Course) (earlier : List Call) (call : Call) :
    course.hearAll (earlier ++ [call]) = (course.hearAll earlier).hear call := by
  rw [hearAll, List.foldl_append]
  rfl

theorem hearAll_keeps (course : Course) (calls : List Call) :
    (course.hearAll calls).logger.admits = course.logger.admits ∧
      (course.hearAll calls).logger.spelled = course.logger.spelled := by
  induction calls generalizing course with
  | nil => exact ⟨rfl, rfl⟩
  | cons call calls ih =>
    obtain ⟨admits, spelled⟩ := ih (course.hear call)
    obtain ⟨admits', spelled'⟩ := course.logger.hear_keeps call course.volume
    exact ⟨admits.trans admits', spelled.trans spelled'⟩

/-- **What is logged** is what is admitted, one line for each call. -/
theorem lines_hearAll (course : Course) (calls : List Call) :
    (course.hearAll calls).lines = course.lines ++
      (calls.filter fun call => course.logger.admits call.message).map course.logger.spelled := by
  induction calls generalizing course with
  | nil => exact (List.append_nil _).symm
  | cons call calls ih =>
    obtain ⟨admits, spelled⟩ := course.logger.hear_keeps call course.volume
    show ((course.hear call).hearAll calls).lines = _
    rw [ih, logger_hear, admits, spelled]
    cases admitted : course.logger.admits call.message with
    | false =>
      rw [hear_of_not_admits admitted, List.filter_cons, if_neg (by rw [admitted]; exact nofun)]
    | true =>
      rw [lines_hear admitted, List.filter_cons, if_pos admitted, List.map_cons, List.append_assoc]
      rfl

end Course

/-- If the file is set aside in a call, another one can be begun. -/
def Begins (path : Path) (course : Course) (call : Call) : Prop :=
  ∀ moved, course.logger.settingAside call course.volume = some (.ok moved) →
    ∃ opened after, moved.openFile .emptied path = (.ok opened, after)

namespace Writing

variable {path : Path} {limit : Nat} {course : Course} {file : LogFile}

/-- What was opened is written to. -/
theorem start {volume opened : Volume} (sound : volume.Sound)
    (plain : ∀ location target, volume.place .entry path ≠ .ok (.found location (.link target)))
    (positive : 0 < limit) (started : LogFile.start path (some limit) volume = (.ok file, opened))
    (threshold : Level) (speaker : Speaker) :
    Writing path limit ⟨⟨threshold, speaker, .file file⟩, opened,
      (volume.contentsAt path).toOption.getD [], [], []⟩ file := by
  rw [LogFile.start] at started
  rcases led : volume.openFile .kept path with ⟨failure | ⟨number, size⟩, after⟩
  · rw [led] at started
    cases started
  · rw [led] at started
    obtain ⟨same, rfl⟩ := Prod.mk.inj started
    obtain rfl := Except.ok.inj same
    obtain ⟨sound_after, long, there⟩ := Files.Volume.place_openFile sound plain led
    have nonzero : decide (limit ≠ 0) = true := decide_eq_true (Nat.ne_of_gt positive)
    have held : Course.current ⟨⟨threshold, speaker, .file ⟨path, (some limit).filter (· ≠ 0),
        number, size⟩⟩, after, (volume.contentsAt path).toOption.getD [], [], []⟩ =
        (volume.contentsAt path).toOption.getD [] := List.append_nil _
    refine ⟨rfl, rfl, ?_, sound_after, ?_, ?_, nofun, nofun, ?_⟩
    · rw [Option.filter_some, if_pos nonzero]
    · rwa [held]
    · rwa [held]
    · intro earlier line lines
      exact absurd lines.symm (by simp)

/-- The file is set aside if it is full, nobody refuses, and the name beside it is free. -/
theorem exists_settingAside (writing : Writing path limit course file) {call : Call}
    (admitted : course.logger.admits call.message = true) (willing : call.refusal = none)
    (full : limit ≤ file.size + (course.logger.spelled call).length) {new : Location}
    (free : (course.volume.append file.number (course.logger.spelled call)).place .entry
      (path.extended ".old") = .ok (.vacant new false)) :
    ∃ moved, course.logger.settingAside call course.volume = some (.ok moved) := by
  obtain ⟨location, there⟩ := writing.current
  obtain ⟨-, grown, -⟩ := Files.Volume.place_append writing.sound there
    (course.logger.spelled call)
  obtain ⟨moved, done⟩ := Files.Volume.moveFile_of_vacant grown free
  refine ⟨moved, ?_⟩
  have full' : (file.grown (course.logger.spelled call)).isFull = true := by
    rw [LogFile.isFull, LogFile.limit_grown, writing.limit_eq, LogFile.size_grown]
    exact decide_eq_true full
  rw [Logger.settingAside_of_admits admitted writing.writing, willing,
    LogFile.settingAside_of_full full', LogFile.aside, writing.path_eq, done]

/-- Where there are no links another file can always be begun. -/
theorem begins (writing : Writing path limit course file) (unlinked : course.volume.Unlinked [])
    (call : Call) : Begins path course call := by
  intro moved cut
  have admitted : course.logger.admits call.message = true := by
    cases admitted : course.logger.admits call.message with
    | true => rfl
    | false => cases (Logger.settingAside_of_not_admits admitted).symm.trans cut
  rw [Logger.settingAside_of_admits admitted writing.writing] at cut
  obtain ⟨location, there⟩ := writing.current
  obtain ⟨-, grown, -⟩ := Files.Volume.place_append writing.sound there
    (course.logger.spelled call)
  have change : course.volume.Change location
      (course.volume.append file.number (course.logger.spelled call)) :=
    .contents _ (Files.Volume.holds_of_place there)
  rcases file.write_cases call.refusal (course.logger.spelled call) course.volume with
    ⟨whole, -⟩ | ⟨failure, whole, -⟩ | ⟨moved', cut', done, -⟩
  · cases whole.symm.trans cut
  · cases whole.symm.trans cut
  · obtain rfl := Except.ok.inj (Option.some.inj (cut'.symm.trans cut))
    rw [LogFile.aside, writing.path_eq] at done
    exact Files.Volume.exists_openFile_of_beside (change.unlinked unlinked) (by decide) grown done

/-- **A run of calls.** -/
theorem hearAll (writing : Writing path limit course file) (positive : 0 < limit)
    {calls : List Call}
    (begins : ∀ earlier call later, calls = earlier ++ call :: later →
      Begins path (course.hearAll earlier) call) :
    ∃ now, Writing path limit (course.hearAll calls) now := by
  induction calls generalizing course file with
  | nil => exact ⟨file, writing⟩
  | cons call calls ih =>
    obtain ⟨now, writing', -⟩ := writing.hear positive (begins [] call calls rfl)
    exact ih writing' fun earlier other later split =>
      begins (call :: earlier) other later (by rw [split]; rfl)

end Writing

/-- **Setting log files aside loses nothing but the past**, whatever the file held when it was
opened, however low the limit is, whatever is logged and whenever the host refuses to have the file
moved, if another file can be made in its place whenever it was moved.  The path is that of the file
itself: a link would be set aside in place of the file that it leads to. -/
theorem rotation_keeps_log {volume opened : Volume} (sound : volume.Sound) {path : Path}
    (plain : ∀ location target, volume.place .entry path ≠ .ok (.found location (.link target)))
    {limit : Nat} (positive : 0 < limit) {file : LogFile}
    (started : LogFile.start path (some limit) volume = (.ok file, opened))
    (threshold : Level) (speaker : Speaker) {calls : List Call}
    (begins : ∀ earlier call later, calls = earlier ++ call :: later →
      Begins path (Course.hearAll ⟨⟨threshold, speaker, .file file⟩, opened,
        (volume.contentsAt path).toOption.getD [], [], []⟩ earlier) call) :
    let begun : Course := ⟨⟨threshold, speaker, .file file⟩, opened,
      (volume.contentsAt path).toOption.getD [], [], []⟩
    let course := begun.hearAll calls
    course.lines = (calls.filter fun call => begun.logger.admits call.message).map
      begun.logger.spelled ∧
    (∃ now, course.logger.destination = .file now ∧ now.path = path ∧
      now.size = course.current.length ∧
      ∀ earlier call, calls = earlier ++ [call] → begun.logger.admits call.message = true →
        now.size < limit ∨ ∃ failure, (begun.hearAll earlier).logger.settingAside call
          (begun.hearAll earlier).volume = some (.error failure)) ∧
    course.volume.contentsAt path = .ok course.current ∧
    (course.cuts ≠ [] → course.volume.contentsAt (path.extended ".old") = .ok course.previous) ∧
    (∀ cut ∈ course.cuts, ∃ count, 0 < count ∧ count ≤ course.lines.length ∧
      cut = (course.initial ++ (course.lines.take count).flatten).length) ∧
    ∀ earlier line, course.lines = earlier ++ [line] →
      line <:+ course.current ∨ course.cuts ≠ [] ∧ line <:+ course.previous := by
  intro begun course
  have start : Writing path limit begun file :=
    .start sound plain positive started threshold speaker
  obtain ⟨now, writing⟩ := start.hearAll positive begins
  refine ⟨?_, ⟨now, writing.writing, writing.path_eq, writing.size, ?_⟩, ?_, ?_, writing.ends,
    writing.latest⟩
  · exact (begun.lines_hearAll calls).trans (List.nil_append _)
  · rintro earlier call rfl admitted
    have begins' : ∀ first other later, earlier = first ++ other :: later →
        Begins path (begun.hearAll first) other := by
      rintro first other later rfl
      exact begins first other (later ++ [call]) (by simp)
    obtain ⟨before, middle⟩ := start.hearAll positive begins'
    obtain ⟨now', writing', short⟩ := middle.hear positive (begins earlier call [] rfl)
    obtain rfl : now = now' := by
      rw [← Course.hearAll_concat] at writing'
      exact Destination.file.inj (writing.writing.symm.trans writing'.writing)
    rw [(begun.hearAll_keeps earlier).1] at short
    exact short admitted
  · obtain ⟨location, there⟩ := writing.current
    exact Files.Volume.contentsAt_eq_ok_iff.2 ⟨_, _, Files.Volume.entryAt_of_place there⟩
  · intro some_cuts
    obtain ⟨location, number, -, found⟩ := writing.aside some_cuts
    exact Files.Volume.contentsAt_eq_ok_iff.2 ⟨_, _, found⟩

/-- What is written in the first call is set aside, and what is written in the second one stays,
because the host refuses to have the file moved. -/
theorem rotation_keeps_log_of_refusal :
    let path : Path := ⟨["", "store", "log"]⟩
    let volume := Volume.empty ⟨["", "store"]⟩
    let first : Call := ⟨7, ⟨Log.info "up", none⟩, none⟩
    let second : Call := ⟨8, ⟨Log.info "down", none⟩, some .notInitialized⟩
    let begun : Course := ⟨⟨.info, ⟨1, 7⟩, .file ⟨path, some 1, 0, 0⟩⟩, volume.putFile ["log"],
      (volume.contentsAt path).toOption.getD [], [], []⟩
    let course := begun.hearAll [first, second]
    LogFile.start path (some 1) volume = (.ok ⟨path, some 1, 0, 0⟩, volume.putFile ["log"]) ∧
    course.volume.contentsAt path = .ok (begun.logger.spelled second) ∧
    course.volume.contentsAt (path.extended ".old") = .ok (begun.logger.spelled first) := by
  intro path volume first second begun course
  have sound : volume.Sound := Files.Volume.sound_empty (.inl rfl)
  have unlinked : volume.Unlinked [] := Files.Volume.unlinked_empty _ _
  have free : volume.place .file path = .ok (.vacant ["log"] false) :=
    Files.Volume.place_eq_ok_iff.2 ⟨by decide, .free ⟨rfl, by decide⟩ rfl⟩
  have started : LogFile.start path (some 1) volume =
      (.ok ⟨path, some 1, 0, 0⟩, volume.putFile ["log"]) := by
    rw [LogFile.start, Volume.openFile, free]
    rfl
  have nothing : begun.initial = [] := by
    have missed : volume.place .target path = .ok (.vacant ["log"] false) :=
      Files.Volume.place_eq_ok_iff.2 ⟨by decide, .free ⟨rfl, by decide⟩ rfl⟩
    show (volume.contentsAt path).toOption.getD [] = []
    rw [Volume.contentsAt, Volume.entryAt, missed]
    rfl
  have start : Writing path 1 begun ⟨path, some 1, 0, 0⟩ :=
    .start sound (unlinked.place_ne_link path) (by decide) started .info ⟨1, 7⟩
  -- the first line fills the file, and there is room beside it
  have some_line : 1 ≤ 0 + (begun.logger.spelled first).length := by decide +kernel
  have room : ((volume.putFile ["log"]).append 0 (begun.logger.spelled first)).place .entry
      (path.extended ".old") = .ok (.vacant ["log.old"] false) := by
    refine Files.Volume.place_eq_ok_iff.2 ⟨by decide, .free ⟨rfl, by decide⟩ ?_⟩
    rw [Volume.append, Files.Volume.at?_alterFile]
    rfl
  obtain ⟨moved, cut⟩ := start.exists_settingAside rfl rfl some_line room
  -- the second line stays where it is written
  have refused (moved : Volume) :
      (begun.hear first).logger.settingAside second (begun.hear first).volume ≠ some (.ok moved) :=
    Logger.settingAside_of_refused rfl moved
  have begins : ∀ earlier call later, [first, second] = earlier ++ call :: later →
      Begins path (begun.hearAll earlier) call := by
    rintro (_ | ⟨one, _ | ⟨two, rest⟩⟩) call later split
    · have made : volume.Change ["log"] (volume.putFile ["log"]) :=
        .file (Files.Volume.holds_of_place free)
      exact start.begins (made.unlinked unlinked) call
    · obtain ⟨rfl, rest⟩ := List.cons.inj split
      obtain ⟨rfl, -⟩ := List.cons.inj rest
      exact fun other same => absurd same (refused other)
    · simp at split
  obtain ⟨-, -, current, aside, -, -⟩ :=
    rotation_keeps_log sound (unlinked.place_ne_link path) (by decide) started .info ⟨1, 7⟩ begins
  have admitted : begun.logger.admits first.message = true := rfl
  have admitted' : begun.logger.admits second.message = true := rfl
  have both : begun.hearAll [first, second] = (begun.hear first).hear second := rfl
  obtain ⟨some_cuts, grown, ended⟩ :=
    Course.current_hear_of_cut_of_whole admitted cut start.within admitted' refused
  rw [← both] at some_cuts grown ended
  have held : begun.current = [] := by
    show begun.initial ++ [] = []
    rw [nothing]
    rfl
  rw [held, List.nil_append] at ended
  exact ⟨started, current.trans (congrArg _ grown), (aside some_cuts).trans (congrArg _ ended)⟩

end Log
end CoverageLink
