/-
**A log is started once.**

Until the first start that is accepted a process has no log; from then on it has the one that this
start names, whatever else happens and whatever other starts ask for. A start that is refused before
leaves at most directories behind, and whatever could be started before it can be started after it.
Later starts are accepted exactly if they name the same level and respell the same directory; they
do nothing, whether accepted or refused.

* `Log.Spells`: a text that names a level;
* `LoggedHost.Deed`, `LoggedHost.pursue`: what happens in a process, in a row;
* `LoggedHost.accepted`: the texts of the starts among it that are accepted;
* `accepts_iff_of_off`, `accepts_iff_of_on`: which starts are accepted;
* `LoggedHost.started`, `startLog_of_accepts`: the process that has just started its log;
* `accepts_of_refused`: a refused start stands in the way of none;
* `log_started_once`: all of it, for whatever happens in a process.
-/

import InstanceHost.Log.Schedule
import InstanceHost.Proofs.FileSystem.Creation
import InstanceHost.Proofs.FileSystem.Respelling

namespace InstanceHost

/-! ### Settings as text -/

namespace Log

/-- **A text that names a level**: its name, or `warning` for `warn`, in letters of either case and
with any blanks around it. -/
def Spells (text : String) (level : Level) : Prop :=
  let name := String.ofList ((Text.trim text.toList).map Char.toLower)
  name = level.name ∨ level = .warn ∧ name = "warning"

theorem levelOf?_eq_some_iff {name : String} {level : Level} :
    levelOf? name = some level ↔ name = level.name ∨ level = .warn ∧ name = "warning" := by
  constructor
  · intro found
    unfold levelOf? at found
    split at found
    · cases found
      exact Or.inl ‹_›
    · split at found
      · cases found
        exact Or.inl ‹_›
      · split at found
        · cases found
          exact Or.inl ‹_›
        · split at found
          · next either =>
            cases found
            exact either.imp_right fun same => ⟨rfl, same⟩
          · split at found
            · cases found
              exact Or.inl ‹_›
            · cases found
  · rintro (rfl | ⟨rfl, rfl⟩)
    · cases level <;> decide
    · decide

theorem readLevel_eq_ok_iff {text : String} {level : Level} :
    readLevel text = .ok level ↔ Spells text level := by
  have named : levelOf? (String.ofList ((Text.trim text.toList).map lowerCase)) = some level ↔
      Spells text level := levelOf?_eq_some_iff
  refine Iff.trans ?_ named
  unfold readLevel
  simp only
  split
  · next found =>
    rw [found]
    exact ⟨fun same => congrArg some (Except.ok.inj same),
      fun same => congrArg Except.ok (Option.some.inj same)⟩
  · next missing =>
    rw [missing]
    exact ⟨nofun, nofun⟩

theorem readDirectory_eq_ok_iff {text directory : String} :
    readDirectory text = .ok directory ↔
      FileSystem.isAbsolute (Text.trimmed text) = true ∧ directory = Text.trimmed text := by
  unfold readDirectory
  simp only
  split
  · next empty =>
    rw [empty]
    exact ⟨nofun, fun both => absurd both.1 (by decide)⟩
  · split
    · next absolute =>
      exact ⟨fun same => ⟨absolute, (Except.ok.inj same).symm⟩, fun both => congrArg _ both.2.symm⟩
    · next relative => exact ⟨nofun, fun both => absurd both.1 relative⟩

theorem checkSettings_eq_ok_iff {active : Journal} {level : Level} {directory : String} :
    checkSettings active level directory = .ok () ↔
      FileSystem.properNames active.directory = FileSystem.properNames directory ∧
        active.level = level := by
  unfold checkSettings
  split
  · next other =>
    rw [sameDirectory, beq_eq_false_iff_ne] at other
    exact ⟨nofun, fun both => absurd both.1 other⟩
  · next same =>
    rw [Bool.not_eq_false, sameDirectory, beq_iff_eq] at same
    split
    · next other => exact ⟨nofun, fun both => absurd both.2 other⟩
    · next equal => exact ⟨fun _ => ⟨same, not_not.mp equal⟩, fun _ => rfl⟩

end Log

/-! ### Journals -/

namespace Journal

/-- The settings of a journal. -/
def settings (journal : Journal) : Level × String :=
  (journal.level, journal.directory)

/-- Writing out changes nothing in a journal but how much was written. -/
theorem exists_flush (journal : Journal) (labels : Labels) (files : FileSystem) :
    ∃ written, (journal.flush labels files).1 = { journal with written := written } := by
  unfold flush
  split
  · exact ⟨journal.written, rfl⟩
  · exact ⟨journal.kept.length, rfl⟩

/-- **Keeping an event** adds it to those that are kept, and changes nothing else but how much was
written. -/
theorem exists_keep (labels : Labels) (before : Journal × FileSystem) (event : Event) :
    ∃ written, (keep labels before event).1 =
      { before.1 with kept := before.1.kept ++ [event], written := written } := by
  unfold keep
  simp only
  -- whether the line goes to the file at once, and whether others went there before it
  split <;> split
  · obtain ⟨first, roomy⟩ := exists_flush before.1 labels before.2
    obtain ⟨second, longer⟩ := exists_flush
      { before.1 with kept := before.1.kept ++ [event], written := first } labels
      (before.1.flush labels before.2).2
    refine ⟨second, ?_⟩
    rw [← longer, roomy]
  · exact exists_flush { before.1 with kept := before.1.kept ++ [event] } labels before.2
  · obtain ⟨first, roomy⟩ := exists_flush before.1 labels before.2
    exact ⟨first, by rw [roomy]⟩
  · exact ⟨before.1.written, rfl⟩

theorem exists_foldl_keep (labels : Labels) (events : List Event)
    (before : Journal × FileSystem) :
    ∃ written, (events.foldl (keep labels) before).1 =
      { before.1 with kept := before.1.kept ++ events, written := written } := by
  induction events generalizing before with
  | nil => exact ⟨before.1.written, by rw [List.append_nil]; rfl⟩
  | cons event rest inductive_step =>
    obtain ⟨first, kept⟩ := exists_keep labels before event
    obtain ⟨last, others⟩ := inductive_step (keep labels before event)
    refine ⟨last, others.trans ?_⟩
    rw [kept, List.append_assoc]
    rfl

/-- **Following a host** looks at all its events. Those that are serious enough are kept, if the
file can be opened. -/
theorem follow_cases (journal : Journal) (labels : Labels) (host : Host) :
    ((journal.follow labels host).1 = { journal with seen := host.log.length } ∧
        ((host.log.drop journal.seen).filter journal.keeps = [] ∨
          ∃ failure, journal.openFile host.files = .error failure)) ∨
      ∃ place written, (journal.follow labels host).1 =
        { journal with
          seen := host.log.length
          place := some place
          kept := journal.kept ++ (host.log.drop journal.seen).filter journal.keeps
          written := written } := by
  unfold follow
  simp only
  split
  · next none => exact Or.inl ⟨rfl, Or.inl none⟩
  · split
    · next failure failed => exact Or.inl ⟨rfl, Or.inr ⟨failure, failed⟩⟩
    · next place files opened =>
      obtain ⟨written, kept⟩ := exists_foldl_keep labels
        ((host.log.drop journal.seen).filter journal.keeps)
        ({ journal with seen := host.log.length, place := some place }, files)
      exact Or.inr ⟨place, written, kept⟩

theorem settings_flush (journal : Journal) (labels : Labels) (files : FileSystem) :
    (journal.flush labels files).1.settings = journal.settings := by
  obtain ⟨written, same⟩ := journal.exists_flush labels files
  rw [same]
  rfl

/-- Following events does not change the settings. -/
theorem settings_follow (journal : Journal) (labels : Labels) (host : Host) :
    (journal.follow labels host).1.settings = journal.settings := by
  rcases journal.follow_cases labels host with ⟨same, _⟩ | ⟨_, _, same⟩ <;> rw [same] <;> rfl

end Journal

/-! ### What happens in a process -/

namespace LoggedHost

/-- **What happens in a process**: a log is started, the host becomes another one, another log
comes or goes, a panic occurs, or what waits is written out. -/
inductive Deed where
  | start (level directory : String)
  | change (host : Host)
  | backend (another : Bool)
  | panic (message : Option String)
  | flush

/-- The process after it. -/
def after (logged : LoggedHost) : Deed → LoggedHost
  | .start level directory => (logged.startLog level directory).2
  | .change host => logged.withHost host
  | .backend another => { logged with otherBackend := another }
  | .panic message => logged.panic message
  | .flush => logged.flush

/-- **The process after all of it.** -/
def pursue (logged : LoggedHost) (deeds : List Deed) : LoggedHost :=
  deeds.foldl after logged

/-- Whether a start would be accepted. -/
def Accepts (logged : LoggedHost) (level directory : String) : Prop :=
  (logged.startLog level directory).1 = .ok ()

/-- Accepting is decidable. -/
instance (logged : LoggedHost) (level directory : String) :
    Decidable (logged.Accepts level directory) :=
  inferInstanceAs (Decidable (_ = _))

/-- **The starts that are accepted**, in order. -/
def accepted (logged : LoggedHost) : List Deed → List (String × String)
  | [] => []
  | deed :: rest =>
    let others := (logged.after deed).accepted rest
    match deed with
    | .start level directory =>
      if logged.Accepts level directory then (level, directory) :: others else others
    | _ => others

variable {logged : LoggedHost} {level directory : String} {active : Level} {place : String}

theorem logSettings_eq (logged : LoggedHost) :
    logged.logSettings = logged.journal.map Journal.settings := rfl

theorem logSettings_eq_none_iff : logged.logSettings = none ↔ logged.journal = none := by
  rw [logSettings_eq, Option.map_eq_none_iff]

theorem exists_journal_of_on (on : logged.logSettings ≠ none) :
    ∃ journal, logged.journal = some journal :=
  Option.ne_none_iff_exists'.mp (mt logSettings_eq_none_iff.mpr on)

theorem settle_of_off (off : logged.journal = none) : logged.settle = logged := by
  unfold settle
  rw [off]

theorem settle_of_on {journal : Journal} (on : logged.journal = some journal) :
    logged.settle = { logged with
      host := (journal.follow logged.labels logged.host).2
      journal := some (journal.follow logged.labels logged.host).1 } := by
  unfold settle
  rw [on]

theorem flush_of_off (off : logged.journal = none) : logged.flush = logged := by
  unfold flush
  rw [off]

theorem flush_of_on {journal : Journal} (on : logged.journal = some journal) :
    logged.flush = { logged with
      host := { logged.host with
        files := (journal.flush logged.labels logged.host.files).2 }
      journal := some (journal.flush logged.labels logged.host.files).1 } := by
  unfold flush
  rw [on]

theorem logSettings_settle (logged : LoggedHost) :
    logged.settle.logSettings = logged.logSettings := by
  cases on : logged.journal with
  | none => rw [settle_of_off on]
  | some journal =>
    rw [settle_of_on on, logSettings_eq, logSettings_eq, on]
    exact congrArg some (journal.settings_follow logged.labels logged.host)

theorem logSettings_panic (logged : LoggedHost) (message : Option String) :
    (logged.panic message).logSettings = logged.logSettings := by
  unfold panic
  exact logSettings_settle _

theorem logSettings_flush (logged : LoggedHost) :
    logged.flush.logSettings = logged.logSettings := by
  cases on : logged.journal with
  | none => rw [flush_of_off on]
  | some journal =>
    rw [flush_of_on on, logSettings_eq, logSettings_eq, on]
    exact congrArg some (journal.settings_flush logged.labels logged.host.files)

/-! ### One start -/

/-- A start with readable settings. -/
theorem startLog_eq (spells : Log.Spells level active)
    (absolute : FileSystem.isAbsolute (Text.trimmed directory) = true) :
    logged.startLog level directory = logged.startWith active (Text.trimmed directory) := by
  rw [startLog, Log.readLevel_eq_ok_iff.mpr spells]
  simp only
  rw [Log.readDirectory_eq_ok_iff.mpr ⟨absolute, rfl⟩]

/-- A start with other settings does nothing. -/
theorem startLog_unreadable (logged : LoggedHost) (unreadable : ∀ active, Log.Spells level active →
      FileSystem.isAbsolute (Text.trimmed directory) ≠ true) :
    ∃ failure, logged.startLog level directory = (.error failure, logged) := by
  unfold startLog
  split
  · exact ⟨_, rfl⟩
  · next found =>
    split
    · exact ⟨_, rfl⟩
    · next readable =>
      exact absurd (Log.readDirectory_eq_ok_iff.mp readable).1
        (unreadable _ (Log.readLevel_eq_ok_iff.mp found))

/-- **Accepted starts have readable settings.** -/
theorem accepts_iff : logged.Accepts level directory ↔ ∃ active, Log.Spells level active ∧
    FileSystem.isAbsolute (Text.trimmed directory) = true ∧
      (logged.startWith active (Text.trimmed directory)).1 = .ok () := by
  constructor
  · intro accepts
    by_cases readable : ∃ active, Log.Spells level active ∧
        FileSystem.isAbsolute (Text.trimmed directory) = true
    · obtain ⟨active, spells, absolute⟩ := readable
      rw [Accepts, startLog_eq spells absolute] at accepts
      exact ⟨active, spells, absolute, accepts⟩
    · obtain ⟨failure, same⟩ := startLog_unreadable logged
        fun active spells absolute => readable ⟨active, spells, absolute⟩
      rw [Accepts, same] at accepts
      cases accepts
  · rintro ⟨active, spells, absolute, started⟩
    rwa [Accepts, startLog_eq spells absolute]

theorem startWith_of_off (off : logged.journal = none) :
    logged.startWith active place = logged.startFresh active place := by
  rw [startWith, off]

/-- The process where only directories were made. -/
def withDirectories (logged : LoggedHost) (directory : String) : LoggedHost :=
  { logged with
    host := { logged.host with files := (logged.host.files.createDirectories directory).2 } }

@[simp]
theorem journal_withDirectories (logged : LoggedHost) (directory : String) :
    (logged.withDirectories directory).journal = logged.journal := rfl

@[simp]
theorem otherBackend_withDirectories (logged : LoggedHost) (directory : String) :
    (logged.withDirectories directory).otherBackend = logged.otherBackend := rfl

@[simp]
theorem files_withDirectories (logged : LoggedHost) (directory : String) :
    (logged.withDirectories directory).host.files =
      (logged.host.files.createDirectories directory).2 := rfl

/-- The process that has just started its log. -/
def started (logged : LoggedHost) (active : Level) (place : String) : LoggedHost :=
  let made := logged.withDirectories place
  { logged.installReporter with
    host := made.host.record [.loggingStarted active place]
    journal := some ⟨active, place, made.host.log.length, none, [], 0⟩ }

theorem logSettings_started (logged : LoggedHost) (active : Level) (place : String) :
    (logged.started active place).logSettings = some (active, place) := rfl

/-- **A start without a log** starts one exactly if its directory can be made and no other log is
there, and makes the directory in any case. -/
theorem startFresh_cases (logged : LoggedHost) (active : Level) (place : String) :
    ((logged.host.files.createDirectories place).1 = .ok () ∧ logged.otherBackend = false ∧
        (logged.startFresh active place).1 = .ok () ∧
        (logged.startFresh active place).2 = (logged.started active place).settle) ∨
      (¬ ((logged.host.files.createDirectories place).1 = .ok () ∧ logged.otherBackend = false) ∧
        (logged.startFresh active place).1 ≠ .ok () ∧
        (logged.startFresh active place).2 = logged.withDirectories place) := by
  unfold startFresh started withDirectories
  cases made : logged.host.files.createDirectories place with
  | mk result files =>
    cases result with
    | error failure => exact Or.inr ⟨fun both => (nomatch both.1), nofun, rfl⟩
    | ok _ =>
      cases other : logged.otherBackend with
      | true => exact Or.inr ⟨fun both => (nomatch both.2), nofun, rfl⟩
      | false => exact Or.inl ⟨rfl, rfl, rfl, rfl⟩

/-- **Without a log** a start is accepted exactly if its settings are readable, its directory can be
made and no other log is there. -/
theorem accepts_iff_of_off (off : logged.journal = none) :
    logged.Accepts level directory ↔ (∃ active, Log.Spells level active) ∧
      FileSystem.isAbsolute (Text.trimmed directory) = true ∧
      (logged.host.files.createDirectories (Text.trimmed directory)).1 = .ok () ∧
      logged.otherBackend = false := by
  rw [accepts_iff]
  constructor
  · rintro ⟨active, spells, absolute, started⟩
    rw [startWith_of_off off] at started
    rcases startFresh_cases logged active (Text.trimmed directory) with
      ⟨made, free, _, _⟩ | ⟨_, refused, _⟩
    · exact ⟨⟨active, spells⟩, absolute, made, free⟩
    · exact absurd started refused
  · rintro ⟨⟨active, spells⟩, absolute, possible⟩
    refine ⟨active, spells, absolute, ?_⟩
    rw [startWith_of_off off]
    rcases startFresh_cases logged active (Text.trimmed directory) with
      ⟨_, _, started, _⟩ | ⟨impossible, _, _⟩
    · exact started
    · exact absurd possible impossible

/-- **An accepted start without a log** starts it. -/
theorem startLog_of_accepts (off : logged.journal = none)
    (accepts : logged.Accepts level directory) :
    ∃ active, Log.Spells level active ∧
      FileSystem.isAbsolute (Text.trimmed directory) = true ∧
      (logged.startLog level directory).2 =
        (logged.started active (Text.trimmed directory)).settle := by
  obtain ⟨active, spells, absolute, accepted⟩ := accepts_iff.mp accepts
  refine ⟨active, spells, absolute, ?_⟩
  rw [startLog_eq spells absolute, startWith_of_off off]
  rw [startWith_of_off off] at accepted
  rcases startFresh_cases logged active (Text.trimmed directory) with
    ⟨_, _, _, starting⟩ | ⟨_, refused, _⟩
  · exact starting
  · exact absurd accepted refused

/-- **A refused start without a log** changes nothing, or makes directories. -/
theorem startLog_of_refused (off : logged.journal = none)
    (refused : ¬ logged.Accepts level directory) :
    (logged.startLog level directory).2 = logged ∨
      (logged.startLog level directory).2 = logged.withDirectories (Text.trimmed directory) := by
  by_cases readable : ∃ active, Log.Spells level active ∧
      FileSystem.isAbsolute (Text.trimmed directory) = true
  · obtain ⟨active, spells, absolute⟩ := readable
    rw [Accepts, startLog_eq spells absolute, startWith_of_off off] at refused
    rw [startLog_eq spells absolute, startWith_of_off off]
    rcases startFresh_cases logged active (Text.trimmed directory) with
      ⟨_, _, started, _⟩ | ⟨_, _, changed⟩
    · exact absurd started refused
    · exact Or.inr changed
  · obtain ⟨failure, same⟩ := startLog_unreadable logged
      fun active spells absolute => readable ⟨active, spells, absolute⟩
    exact Or.inl (congrArg Prod.snd same)

/-- **A refused start stands in the way of none**: what would be accepted before it is accepted
after it. -/
theorem accepts_of_refused (off : logged.journal = none)
    (refused : ¬ logged.Accepts level directory) {otherLevel otherDirectory : String}
    (accepts : logged.Accepts otherLevel otherDirectory) :
    (logged.startLog level directory).2.Accepts otherLevel otherDirectory := by
  rcases startLog_of_refused off refused with same | changed
  · rw [same]
    exact accepts
  · rw [accepts_iff_of_off off] at accepts
    obtain ⟨spells, absolute, made, free⟩ := accepts
    have still : (logged.withDirectories (Text.trimmed directory)).journal = none := by
      rw [journal_withDirectories, off]
    have grows := logged.host.files.grows_createDirectories (Text.trimmed directory)
    rw [changed, accepts_iff_of_off still, files_withDirectories, otherBackend_withDirectories]
    exact ⟨spells, absolute, FileSystem.createDirectories_of_grows absolute grows made, free⟩

/-- **With a log** a start does nothing. -/
theorem startLog_of_on (on : logged.logSettings ≠ none) :
    (logged.startLog level directory).2 = logged := by
  by_cases readable : ∃ given, Log.Spells level given ∧
      FileSystem.isAbsolute (Text.trimmed directory) = true
  · obtain ⟨given, spells, rooted⟩ := readable
    obtain ⟨journal, running⟩ := exists_journal_of_on on
    rw [startLog_eq spells rooted, startWith, running]
  · obtain ⟨failure, same⟩ := startLog_unreadable logged
      fun given spells rooted => readable ⟨given, spells, rooted⟩
    rw [same]

/-- **With a log** a start is accepted exactly if it names the same level and respells the same
directory. -/
theorem accepts_iff_of_on (on : logged.logSettings = some (active, place))
    (absolute : FileSystem.isAbsolute place = true) :
    logged.Accepts level directory ↔ Log.Spells level active ∧
      FileSystem.isAbsolute (Text.trimmed directory) = true ∧
      FileSystem.Respelled place.toList (Text.trimmed directory).toList := by
  obtain ⟨journal, running, settings⟩ := Option.map_eq_some_iff.mp on
  cases settings
  have started_iff : ∀ given, FileSystem.isAbsolute (Text.trimmed directory) = true →
      ((logged.startWith given (Text.trimmed directory)).1 = .ok () ↔
        FileSystem.Respelled journal.directory.toList (Text.trimmed directory).toList ∧
          journal.level = given) := by
    intro given rooted
    rw [startWith, running, ← FileSystem.properNames_eq_iff absolute rooted]
    exact Log.checkSettings_eq_ok_iff
  rw [accepts_iff]
  constructor
  · rintro ⟨given, spells, rooted, started⟩
    obtain ⟨respelled, rfl⟩ := (started_iff given rooted).mp started
    exact ⟨spells, rooted, respelled⟩
  · rintro ⟨spells, rooted, respelled⟩
    exact ⟨journal.level, spells, rooted, (started_iff _ rooted).mpr ⟨respelled, rfl⟩⟩

/-! ### Everything that happens -/

/-- A log keeps its settings. -/
theorem logSettings_after (logged : LoggedHost) (deed : Deed)
    (idle : logged.logSettings ≠ none ∨ ∀ level directory, deed = .start level directory →
      ¬ logged.Accepts level directory) :
    (logged.after deed).logSettings = logged.logSettings := by
  cases deed with
  | start level directory =>
    by_cases on : logged.logSettings = none
    · have off := logSettings_eq_none_iff.mp on
      have refused := (idle.resolve_left fun some => some on) level directory rfl
      rw [after]
      rcases startLog_of_refused off refused with same | changed
      · rw [same]
      · rw [changed, logSettings_eq, journal_withDirectories, logSettings_eq]
    · exact congrArg logSettings (startLog_of_on on)
  | change host => exact logSettings_settle _
  | backend another => rfl
  | panic message => exact logSettings_panic logged message
  | flush => exact logSettings_flush logged

theorem pursue_cons (logged : LoggedHost) (deed : Deed) (rest : List Deed) :
    logged.pursue (deed :: rest) = (logged.after deed).pursue rest := rfl

/-- **A log keeps its settings** whatever happens. -/
theorem logSettings_pursue {logged : LoggedHost} (on : logged.logSettings ≠ none)
    (deeds : List Deed) : (logged.pursue deeds).logSettings = logged.logSettings := by
  induction deeds generalizing logged with
  | nil => rfl
  | cons deed rest inductive_step =>
    have same := logSettings_after logged deed (Or.inl on)
    exact (inductive_step (same ▸ on)).trans same

theorem accepted_cons_of_accepts (accepts : logged.Accepts level directory) (rest : List Deed) :
    logged.accepted (.start level directory :: rest) =
      (level, directory) :: (logged.after (.start level directory)).accepted rest := by
  simp only [accepted, if_pos accepts]

theorem accepted_cons_of_refused {deed : Deed} (idle : ∀ level directory,
      deed = .start level directory → ¬ logged.Accepts level directory) (rest : List Deed) :
    logged.accepted (deed :: rest) = (logged.after deed).accepted rest := by
  cases deed with
  | start level directory => simp only [accepted, if_neg (idle level directory rfl)]
  | _ => rfl

/-- **The first accepted start settles the log**, and without one there is none. -/
theorem pursue_cases (off : logged.journal = none) (deeds : List Deed) :
    (logged.accepted deeds = [] ∧ (logged.pursue deeds).logSettings = none) ∨
      ∃ level directory others active, logged.accepted deeds = (level, directory) :: others ∧
        Log.Spells level active ∧ FileSystem.isAbsolute (Text.trimmed directory) = true ∧
        (logged.pursue deeds).logSettings = some (active, Text.trimmed directory) := by
  induction deeds generalizing logged with
  | nil => exact Or.inl ⟨rfl, logSettings_eq_none_iff.mpr off⟩
  | cons deed rest inductive_step =>
    by_cases starts : ∃ level directory, deed = .start level directory ∧
        logged.Accepts level directory
    · obtain ⟨level, directory, rfl, accepts⟩ := starts
      obtain ⟨active, spells, absolute, starting⟩ := startLog_of_accepts off accepts
      have on : (logged.after (.start level directory)).logSettings =
          some (active, Text.trimmed directory) := by
        rw [after, starting, logSettings_settle, logSettings_started]
      refine Or.inr ⟨level, directory, _, active, accepted_cons_of_accepts accepts rest, spells,
        absolute, ?_⟩
      rw [pursue_cons, logSettings_pursue (on ▸ Option.some_ne_none _), on]
    · have idle : ∀ level directory, deed = .start level directory →
          ¬ logged.Accepts level directory :=
        fun level directory same accepts => starts ⟨level, directory, same, accepts⟩
      have same := logSettings_after logged deed (Or.inr idle)
      rw [accepted_cons_of_refused idle]
      exact inductive_step (logSettings_eq_none_iff.mp
        (same.trans (logSettings_eq_none_iff.mpr off)))

/-- **A log is started at most once and never switches.** Whatever happens in a process that has no
log yet: it has none until the first start that is accepted, and the settings of this start from
then on. Without a log, a start is accepted exactly if its level has a name, its directory is
absolute and can be made, and no other log is there; a refused one leaves the process without a log
and refuses no start that would have been accepted before it. With a log, a start is accepted
exactly if it names the level of the log and respells its directory, and does nothing at all. -/
theorem log_started_once (logged : LoggedHost) (off : logged.journal = none) (deeds : List Deed) :
    (logged.accepted deeds = [] → (logged.pursue deeds).logSettings = none) ∧
      (∀ level directory others, logged.accepted deeds = (level, directory) :: others →
        ∃ active, Log.Spells level active ∧
          (logged.pursue deeds).logSettings = some (active, Text.trimmed directory)) ∧
      (∀ level directory, (logged.pursue deeds).logSettings = none →
        ((logged.pursue deeds).Accepts level directory ↔ (∃ active, Log.Spells level active) ∧
          FileSystem.isAbsolute (Text.trimmed directory) = true ∧
          ((logged.pursue deeds).host.files.createDirectories (Text.trimmed directory)).1 = .ok () ∧
          (logged.pursue deeds).otherBackend = false) ∧
        (¬ (logged.pursue deeds).Accepts level directory →
          ((logged.pursue deeds).startLog level directory).2.logSettings = none ∧
          ∀ otherLevel otherDirectory, (logged.pursue deeds).Accepts otherLevel otherDirectory →
            ((logged.pursue deeds).startLog level directory).2.Accepts otherLevel otherDirectory)) ∧
      ∀ level directory active place, (logged.pursue deeds).logSettings = some (active, place) →
        ((logged.pursue deeds).startLog level directory).2 = logged.pursue deeds ∧
        ((logged.pursue deeds).Accepts level directory ↔ Log.Spells level active ∧
          FileSystem.isAbsolute (Text.trimmed directory) = true ∧
          FileSystem.Respelled place.toList (Text.trimmed directory).toList) := by
  refine ⟨fun none => ?_, fun level directory others first => ?_, fun level directory none => ?_,
    fun level directory active place on => ?_⟩
  · rcases pursue_cases off deeds with ⟨_, settings⟩ | ⟨_, _, _, _, some, _⟩
    · exact settings
    · cases none.symm.trans some
  · rcases pursue_cases off deeds with ⟨none, _⟩ | ⟨_, _, _, active, some, spells, _, settings⟩
    · cases none.symm.trans first
    · cases some.symm.trans first
      exact ⟨active, spells, settings⟩
  · have still := logSettings_eq_none_iff.mp none
    refine ⟨accepts_iff_of_off still, fun refused => ⟨?_, fun otherLevel otherDirectory =>
      accepts_of_refused still refused⟩⟩
    refine (logSettings_after _ (.start level directory) (Or.inr ?_)).trans none
    rintro _ _ ⟨⟩
    exact refused
  · have absolute : FileSystem.isAbsolute place = true := by
      rcases pursue_cases off deeds with ⟨_, none⟩ | ⟨_, _, _, _, _, _, absolute, settings⟩
      · cases none.symm.trans on
      · cases settings.symm.trans on
        exact absolute
    exact ⟨startLog_of_on (on ▸ Option.some_ne_none _), accepts_iff_of_on on absolute⟩

/-- Starts that are refused before and after the first accepted one: an unknown level, a directory
below a file, another log that is there, and another directory. -/
def mixedStarts : List Deed :=
  [.start "loud" "/var/log", .start "info" "/file/log", .backend true, .start "info" "/var/log",
    .backend false, .start " Warning\n" " /var/log/ ", .start "warn" "/var/../var/log"]

/-- A process with a file at the root and no log. -/
def unlogged : LoggedHost :=
  .fresh ((FileSystem.bare []).write "/file" []) ⟨"", fun _ => "", "", ""⟩

/-- There is no log before the one start that is accepted; then its directory is accepted in other
words only. -/
theorem log_started_once_mixed :
    unlogged.journal = none ∧
      (unlogged.pursue (mixedStarts.take 4)).logSettings = none ∧
      (unlogged.pursue mixedStarts).logSettings = some (.warn, "/var/log/") ∧
      (unlogged.pursue mixedStarts).Accepts "WARN" "/var//./log" ∧
      ¬ (unlogged.pursue mixedStarts).Accepts "warn" "/var/../var/log" := by
  have before := log_started_once unlogged rfl (mixedStarts.take 4)
  obtain ⟨_, first, _, later⟩ := log_started_once unlogged rfl mixedStarts
  have settings : (unlogged.pursue mixedStarts).logSettings = some (.warn, "/var/log/") := by
    have accepted : unlogged.accepted mixedStarts = [(" Warning\n", " /var/log/ ")] := by
      decide +kernel
    obtain ⟨active, spells, settings⟩ := first _ _ _ accepted
    have level : Log.readLevel " Warning\n" = .ok .warn := by decide +kernel
    cases level.symm.trans (Log.readLevel_eq_ok_iff.mpr spells)
    have trimmed : Text.trimmed " /var/log/ " = "/var/log/" := by decide +kernel
    rw [settings, trimmed]
  refine ⟨rfl, before.1 (by decide +kernel), settings, ?_, fun accepts => ?_⟩
  · refine (later _ _ _ _ settings).2.mpr ⟨Log.readLevel_eq_ok_iff.mp (by decide +kernel),
      by decide +kernel, ?_⟩
    exact (FileSystem.properNames_eq_iff (by decide +kernel) (by decide +kernel)).mp
      (by decide +kernel)
  · obtain ⟨_, absolute, respelled⟩ := (later _ _ _ _ settings).2.mp accepts
    have same := (FileSystem.properNames_eq_iff (by decide +kernel) absolute).mpr respelled
    exact absurd same (by decide +kernel)

end LoggedHost

end InstanceHost
