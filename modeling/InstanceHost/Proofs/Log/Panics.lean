/-
**Every panic is reported once, on one line.**

A panic becomes one event for every reporter that it goes through. A reporter is installed when the
log is started, and only then; the log is started once, and starts that are refused or repeated
install none. So there is one reporter exactly if there is a log, whatever happens in a process, and
a log has looked at all events when something is done. An event tells the message of a panic on one
line: a space stands for every line break, and of a long message only the front is kept. The line
that comes of this may be longer than what is kept of a message, but it stays as it is when it is
treated as a message again.

* `Log.Shortened`: a text on one line, told by its characters;
* `Log.shortened_onOneLine`: what becomes of a message;
* `LoggedHost.Watching`, `LoggedHost.Watching.pursue`: the reporters of a process;
* `LoggedHost.Watching.captures`: a panic with a log;
* `LoggedHost.log_pursue_of_off`, `LoggedHost.log_pursue_of_on`: all events before and after the
  start of the log, by induction over what happens;
* `panics_reported_once`: all of it.
-/

import InstanceHost.Proofs.Log.Once
import Mathlib.Data.List.Forall2

namespace InstanceHost

/-! ### Messages on one line -/

namespace Log

/-- **What stands for a character on one line**: a space for a line break, or else the character. -/
inductive OnLine : Char → Char → Prop
  | feed : OnLine '\n' ' '
  | carriageReturn : OnLine '\r' ' '
  | other {character : Char} (noFeed : character ≠ '\n') (noReturn : character ≠ '\r') :
      OnLine character character

/-- **A text on one line**, of which no more than a number of characters is kept. Where it is too
long, three full stops follow. -/
structure Shortened (limit : Nat) (text line : List Char) : Prop where
  unbroken : '\n' ∉ line ∧ '\r' ∉ line
  whole : text.length ≤ limit → List.Forall₂ OnLine text line
  cut : limit < text.length →
    ∃ kept, List.Forall₂ OnLine (text.take limit) kept ∧ line = kept ++ ['.', '.', '.']
  bounded : line.length ≤ limit + 3
  settled : onOneLine limit line = line

theorem onLine_flatten (character : Char) : OnLine character (flatten character) := by
  unfold flatten
  by_cases feed : character = '\n'
  · rw [if_pos (Or.inl feed), feed]
    exact .feed
  · by_cases carriageReturn : character = '\r'
    · rw [if_pos (Or.inr carriageReturn), carriageReturn]
      exact .carriageReturn
    · rw [if_neg (not_or.mpr ⟨feed, carriageReturn⟩)]
      exact .other feed carriageReturn

theorem OnLine.unbroken {character line : Char} (stands : OnLine character line) :
    line ≠ '\n' ∧ line ≠ '\r' := by
  cases stands with
  | feed => decide
  | carriageReturn => decide
  | other noFeed noReturn => exact ⟨noFeed, noReturn⟩

theorem forall₂_onLine_map_flatten (text : List Char) :
    List.Forall₂ OnLine text (text.map flatten) :=
  List.forall₂_map_right_iff.mpr (List.forall₂_same.mpr fun character _ => onLine_flatten character)

/-- No line break is left. -/
theorem not_mem_map_flatten (text : List Char) :
    '\n' ∉ text.map flatten ∧ '\r' ∉ text.map flatten := by
  constructor
  · intro member
    obtain ⟨character, _, same⟩ := List.mem_map.mp member
    exact (onLine_flatten character).unbroken.1 same
  · intro member
    obtain ⟨character, _, same⟩ := List.mem_map.mp member
    exact (onLine_flatten character).unbroken.2 same

/-- Without line breaks a text is on one line. -/
theorem map_flatten_of_unbroken {line : List Char} (unbroken : '\n' ∉ line ∧ '\r' ∉ line) :
    line.map flatten = line := by
  refine (List.map_congr_left fun character member => ?_).trans (List.map_id line)
  refine if_neg (not_or.mpr ⟨?_, ?_⟩)
  · rintro rfl
    exact unbroken.1 member
  · rintro rfl
    exact unbroken.2 member

/-- **What becomes of a message.** -/
theorem shortened_onOneLine (limit : Nat) (text : List Char) :
    Shortened limit text (onOneLine limit text) := by
  have stands := forall₂_onLine_map_flatten text
  have unbroken := not_mem_map_flatten text
  have length : (text.map flatten).length = text.length := List.length_map flatten
  by_cases long : limit < text.length
  · have line : onOneLine limit text = (text.map flatten).take limit ++ ['.', '.', '.'] :=
      if_pos (length.symm ▸ long)
    have front : ((text.map flatten).take limit).length = limit := by
      rw [List.length_take, length]
      omega
    have clean : '\n' ∉ (text.map flatten).take limit ++ ['.', '.', '.'] ∧
        '\r' ∉ (text.map flatten).take limit ++ ['.', '.', '.'] := by
      simp only [List.mem_append, not_or]
      exact ⟨⟨mt List.mem_of_mem_take unbroken.1, by decide⟩,
        mt List.mem_of_mem_take unbroken.2, by decide⟩
    rw [line]
    refine ⟨clean, fun short => absurd long (Nat.not_lt.mpr short), fun _ => ⟨_, ?_, rfl⟩, ?_, ?_⟩
    · exact List.forall₂_take limit stands
    · rw [List.length_append, front]
      exact Nat.le_refl _
    · -- the front of the line is what was kept before, and the line is too long once more
      have longer : limit < ((text.map flatten).take limit ++ ['.', '.', '.']).length := by
        rw [List.length_append, front]
        exact Nat.lt_add_of_pos_right (by decide)
      unfold onOneLine
      simp only
      rw [map_flatten_of_unbroken clean, if_pos longer, List.take_left' front]
  · have line : onOneLine limit text = text.map flatten :=
      if_neg (length.symm ▸ long)
    have short : (text.map flatten).length ≤ limit := length.symm ▸ Nat.not_lt.mp long
    rw [line]
    refine ⟨unbroken, fun _ => stands, fun other => absurd other long,
      Nat.le_add_right_of_le short, ?_⟩
    unfold onOneLine
    simp only
    rw [map_flatten_of_unbroken unbroken, if_neg (Nat.not_lt.mpr short)]

end Log

/-! ### The reporters of a process -/

namespace LoggedHost

/-- **The reporters of a process**: one if it has a log, and none otherwise. A log has looked at all
events. -/
structure Watching (logged : LoggedHost) : Prop where
  installed : logged.reporting = logged.journal.isSome
  reporters : logged.reporters = if logged.journal.isSome then 1 else 0
  seen : ∀ journal, logged.journal = some journal → journal.seen = logged.host.log.length

theorem reporting_started (logged : LoggedHost) (active : Level) (place : String) :
    (logged.started active place).reporting = (logged.started active place).journal.isSome := rfl

theorem reporters_started (logged : LoggedHost) (active : Level) (place : String) :
    (logged.started active place).reporters =
      if logged.reporting then logged.reporters else logged.reporters + 1 := rfl

theorem log_withDirectories (logged : LoggedHost) (place : String) :
    (logged.withDirectories place).host.log = logged.host.log := rfl

theorem log_started (logged : LoggedHost) (active : Level) (place : String) :
    (logged.started active place).host.log =
      logged.host.log ++ [.loggingStarted active place] := rfl

variable {logged : LoggedHost} {level directory : String}

theorem log_follow (journal : Journal) (labels : Labels) (host : Host) :
    (journal.follow labels host).2.log = host.log := by
  rw [journal.follow_host labels host]

/-- A log that follows the events adds none. -/
theorem log_settle (logged : LoggedHost) : logged.settle.host.log = logged.host.log := by
  cases on : logged.journal with
  | none => rw [settle_of_off on]
  | some journal =>
    rw [settle_of_on on]
    exact log_follow journal logged.labels logged.host

theorem watching_fresh (files : FileSystem) (labels : Labels) : (fresh files labels).Watching :=
  ⟨rfl, rfl, nofun⟩

theorem watching_settle (installed : logged.reporting = logged.journal.isSome)
    (reporters : logged.reporters = if logged.journal.isSome then 1 else 0) :
    logged.settle.Watching := by
  cases on : logged.journal with
  | none =>
    rw [settle_of_off on]
    exact ⟨installed, reporters, fun journal there => by cases on.symm.trans there⟩
  | some journal =>
    rw [on] at installed reporters
    rw [settle_of_on on]
    refine ⟨installed, reporters, ?_⟩
    rintro _ ⟨⟩
    rw [log_follow]
    rcases journal.follow_cases logged.labels logged.host with ⟨same, _⟩ | ⟨_, _, same⟩
    · rw [same]
    · rw [same]

namespace Watching

theorem withDirectories (watching : logged.Watching) (place : String) :
    (logged.withDirectories place).Watching := by
  obtain ⟨installed, reporters, seen⟩ := watching
  unfold LoggedHost.withDirectories
  exact ⟨installed, reporters, seen⟩

/-- **Whatever happens**, there is one reporter exactly if there is a log. -/
theorem after (watching : logged.Watching) (deed : Deed) : (logged.after deed).Watching := by
  have ⟨installed, reporters, seen⟩ := watching
  cases deed with
  | start level directory =>
    rw [LoggedHost.after]
    by_cases off : logged.journal = none
    · by_cases accepts : logged.Accepts level directory
      · obtain ⟨active, _, _, starting⟩ := startLog_of_accepts off accepts
        rw [off] at installed reporters
        rw [starting]
        refine watching_settle (reporting_started logged _ _) ?_
        rw [reporters_started, installed, reporters]
        rfl
      · rcases startLog_of_refused off accepts with same | changed
        · rw [same]
          exact watching
        · rw [changed]
          exact watching.withDirectories _
    · rw [startLog_of_on (mt logSettings_eq_none_iff.mp off)]
      exact watching
  | change host => exact watching_settle installed reporters
  | backend another => exact ⟨installed, reporters, seen⟩
  | panic message => exact watching_settle installed reporters
  | flush =>
    rw [LoggedHost.after]
    cases on : logged.journal with
    | none =>
      rw [flush_of_off on]
      exact watching
    | some journal =>
      rw [on] at installed reporters
      rw [flush_of_on on]
      refine ⟨installed, reporters, ?_⟩
      rintro _ ⟨⟩
      obtain ⟨written, same⟩ := journal.exists_flush logged.labels logged.host.files
      rw [same]
      exact seen journal on

theorem pursue (watching : logged.Watching) (deeds : List Deed) :
    (logged.pursue deeds).Watching := by
  induction deeds generalizing logged with
  | nil => exact watching
  | cons deed rest inductive_step => exact inductive_step (watching.after deed)

end Watching

/-! ### One panic -/

/-- **A panic that a log captures** is one event, of the most serious level, and the last of those
that the log keeps, if its file can be opened. -/
structure Captures (before after : LoggedHost) (journal : Journal) (payload : String) : Prop where
  serious : (Event.panicCaptured payload).level = .error
  told : after.host.log = before.host.log ++ [.panicCaptured payload]
  kept : ∀ opened, journal.openFile before.host.files = .ok opened →
    ∃ later, after.journal = some later ∧ later.kept = journal.kept ++ [.panicCaptured payload]

/-- A log of any level keeps panics. -/
theorem keeps_panicCaptured (journal : Journal) (payload : String) :
    journal.keeps (.panicCaptured payload) = true := by
  unfold Journal.keeps
  cases journal.level <;> rfl

namespace Watching

/-- **Without a log** a panic does nothing. -/
theorem panic_of_off (watching : logged.Watching) (off : logged.journal = none)
    (message : Option String) : logged.panic message = logged := by
  have events :
      List.replicate logged.reporters (Event.panicCaptured (Log.payload message)) = [] := by
    rw [watching.reporters, off]
    rfl
  have untold : logged.host.record [] = logged.host := by
    rw [Host.record, List.append_nil]
  show settle { logged with host := logged.host.record (List.replicate logged.reporters _) } =
    logged
  rw [events, untold]
  exact settle_of_off off

theorem panic_of_on (watching : logged.Watching) {journal : Journal}
    (on : logged.journal = some journal) (message : Option String) :
    logged.panic message =
      { logged with host := logged.host.record [.panicCaptured (Log.payload message)] }.settle := by
  have events : List.replicate logged.reporters (Event.panicCaptured (Log.payload message)) =
      [.panicCaptured (Log.payload message)] := by
    rw [watching.reporters, on]
    rfl
  show settle { logged with host := logged.host.record (List.replicate logged.reporters _) } = _
  rw [events]

/-- **With a log** a panic is captured. -/
theorem captures (watching : logged.Watching) {journal : Journal}
    (on : logged.journal = some journal) (message : Option String) :
    Captures logged (logged.panic message) journal (Log.payload message) := by
  rw [watching.panic_of_on on]
  refine ⟨rfl, log_settle _, fun opened opens => ?_⟩
  have fresh : ((logged.host.record [.panicCaptured (Log.payload message)]).log.drop
      journal.seen).filter journal.keeps = [.panicCaptured (Log.payload message)] := by
    rw [watching.seen journal on, Host.record, List.drop_left]
    exact List.filter_eq_self.mpr
      (List.forall_mem_singleton.mpr (keeps_panicCaptured journal _))
  have running : { logged with
      host := logged.host.record [.panicCaptured (Log.payload message)] }.journal =
        some journal := on
  refine ⟨_, congrArg LoggedHost.journal (settle_of_on running), ?_⟩
  rcases journal.follow_cases logged.labels
      (logged.host.record [.panicCaptured (Log.payload message)]) with
    ⟨_, nothing | ⟨failure, closed⟩⟩ | ⟨place, written, same⟩
  · rw [fresh] at nothing
    cases nothing
  · cases opens.symm.trans closed
  · exact (congrArg Journal.kept same).trans (congrArg (journal.kept ++ ·) fresh)

end Watching

/-! ### All events -/

/-- The event that reports a panic. Nothing else is reported. -/
def Deed.report? : Deed → Option Event
  | .panic message => some (.panicCaptured (Log.payload message))
  | _ => none

/-- Whether the host becomes another one. -/
def Deed.isChange : Deed → Bool
  | .change _ => true
  | _ => false

theorem log_flush (logged : LoggedHost) : logged.flush.host.log = logged.host.log := by
  cases on : logged.journal with
  | none => rw [flush_of_off on]
  | some journal => rw [flush_of_on on]

/-- **Without a log** nothing is an event but the start of the log. -/
theorem log_after_of_off (watching : logged.Watching) (off : logged.journal = none) {deed : Deed}
    (still : deed.isChange = false)
    (idle : ∀ level directory, deed = .start level directory → ¬ logged.Accepts level directory) :
    (logged.after deed).host.log = logged.host.log := by
  cases deed with
  | start level directory =>
    rw [after]
    rcases startLog_of_refused off (idle level directory rfl) with same | changed
    · rw [same]
    · rw [changed, log_withDirectories]
  | change host => cases still
  | backend another => rfl
  | panic message => exact congrArg (·.host.log) (watching.panic_of_off off message)
  | flush => exact log_flush logged

/-- **With a log** panics are events, and nothing else. -/
theorem log_after_of_on (watching : logged.Watching) (on : logged.logSettings ≠ none) {deed : Deed}
    (still : deed.isChange = false) :
    (logged.after deed).host.log = logged.host.log ++ deed.report?.toList := by
  cases deed with
  | start level directory =>
    rw [after, startLog_of_on on]
    exact (List.append_nil _).symm
  | change host => cases still
  | backend another => exact (List.append_nil _).symm
  | panic message =>
    obtain ⟨journal, running⟩ := exists_journal_of_on on
    exact (watching.captures running message).told
  | flush => exact (log_flush logged).trans (List.append_nil _).symm

/-- **No events before the log is started**, whatever panics there are. -/
theorem log_pursue_of_off (watching : logged.Watching) (off : logged.journal = none)
    {deeds : List Deed} (still : ∀ deed ∈ deeds, deed.isChange = false)
    (none : logged.accepted deeds = []) : (logged.pursue deeds).host.log = logged.host.log := by
  induction deeds generalizing logged with
  | nil => rfl
  | cons deed rest inductive_step =>
    obtain ⟨first, others⟩ := List.forall_mem_cons.mp still
    have idle : ∀ level directory, deed = .start level directory →
        ¬ logged.Accepts level directory := by
      rintro level directory rfl accepts
      rw [accepted_cons_of_accepts accepts] at none
      cases none
    have same := logSettings_after logged deed (Or.inr idle)
    have stillOff := logSettings_eq_none_iff.mp (same.trans (logSettings_eq_none_iff.mpr off))
    rw [accepted_cons_of_refused idle] at none
    rw [pursue_cons, inductive_step (watching.after deed) stillOff others none,
      log_after_of_off watching off first idle]

/-- **With a log every panic is one event**, in order. -/
theorem log_pursue_of_on (watching : logged.Watching) (on : logged.logSettings ≠ none)
    {deeds : List Deed} (still : ∀ deed ∈ deeds, deed.isChange = false) :
    (logged.pursue deeds).host.log = logged.host.log ++ deeds.filterMap Deed.report? := by
  induction deeds generalizing logged with
  | nil => exact (List.append_nil _).symm
  | cons deed rest inductive_step =>
    obtain ⟨first, others⟩ := List.forall_mem_cons.mp still
    have stillOn := (logSettings_after logged deed (Or.inl on)).symm ▸ on
    rw [pursue_cons, inductive_step (watching.after deed) stillOn others,
      log_after_of_on watching on first, List.append_assoc]
    cases deed <;> rfl

theorem pursue_append (logged : LoggedHost) (earlier later : List Deed) :
    logged.pursue (earlier ++ later) = (logged.pursue earlier).pursue later :=
  List.foldl_append

/-- **The events around the start of the log.** -/
theorem log_pursue_of_start (watching : logged.Watching) (off : logged.journal = none)
    {before later : List Deed} (still : ∀ deed ∈ before ++ .start level directory :: later,
      deed.isChange = false)
    (none : logged.accepted before = [])
    (accepts : (logged.pursue before).Accepts level directory) :
    ∃ active, Log.Spells level active ∧
      (logged.pursue (before ++ .start level directory :: later)).host.log =
        logged.host.log ++ .loggingStarted active (Text.trimmed directory) ::
          later.filterMap Deed.report? := by
  obtain ⟨earlier, others⟩ := List.forall_mem_append.mp still
  have stillOff : (logged.pursue before).journal = Option.none := by
    rcases pursue_cases off before with ⟨_, settings⟩ | ⟨_, _, _, _, some, _⟩
    · exact logSettings_eq_none_iff.mp settings
    · cases none.symm.trans some
  obtain ⟨active, spells, _, starting⟩ := startLog_of_accepts stillOff accepts
  have begun : (logged.pursue before).after (.start level directory) =
      ((logged.pursue before).started active (Text.trimmed directory)).settle := starting
  have on : ((logged.pursue before).after (.start level directory)).logSettings ≠ Option.none := by
    rw [begun, logSettings_settle, logSettings_started]
    exact Option.some_ne_none _
  refine ⟨active, spells, ?_⟩
  rw [pursue_append, pursue_cons, log_pursue_of_on ((watching.pursue before).after _) on
    (List.forall_mem_cons.mp others).2, begun, log_settle, log_started,
    log_pursue_of_off watching off earlier none, List.append_assoc]
  rfl

/-- **Every panic is reported once, on one line.** Whatever happens in a process from its beginning:
a panic does nothing at all without a log, and with one it is captured. If the host is left to the
process, then without an accepted start there are no events, and from the first accepted start on
there is the event of this start and then one for each panic, in order, whatever other starts there
are. A message becomes a text on one line, of which 160 characters are kept. -/
theorem panics_reported_once (files : FileSystem) (labels : Labels) (deeds : List Deed) :
    let logged := fresh files labels
    let now := logged.pursue deeds
    (∀ message, now.logSettings = none → now.panic message = now) ∧
      (∀ message, now.logSettings ≠ none → ∃ journal, now.journal = some journal ∧
        Captures now (now.panic message) journal (Log.payload message)) ∧
      ((∀ deed ∈ deeds, deed.isChange = false) →
        (logged.accepted deeds = [] → now.host.log = []) ∧
          ∀ before level directory later, deeds = before ++ .start level directory :: later →
            logged.accepted before = [] → (logged.pursue before).Accepts level directory →
              ∃ active, Log.Spells level active ∧
                now.host.log = .loggingStarted active (Text.trimmed directory) ::
                  later.filterMap Deed.report?) ∧
      ∀ text : String, Log.Shortened 160 text.toList (Log.payload (some text)).toList := by
  intro logged now
  have beginning : logged.Watching := watching_fresh files labels
  have watching : now.Watching := beginning.pursue deeds
  refine ⟨fun message off => ?_, fun message on => ?_, fun still => ⟨fun none => ?_, ?_⟩,
    fun text => ?_⟩
  · exact watching.panic_of_off (logSettings_eq_none_iff.mp off) message
  · obtain ⟨journal, running⟩ := exists_journal_of_on on
    exact ⟨journal, running, watching.captures running message⟩
  · exact log_pursue_of_off beginning rfl still none
  · rintro before level directory later rfl none accepts
    exact log_pursue_of_start beginning rfl still none accepts
  · rw [Log.payload, String.toList_ofList]
    exact Log.shortened_onOneLine 160 text.toList

/-- Panics before and after the one start that is accepted, among starts that are refused or
repeated. -/
def noisyHistory : List Deed :=
  [.panic (some "early"), .start "loud" "/var/log", .start " INFO" "/var/log",
    .panic (some "one\ntwo\r"), .start "info" "/var/log/", .start "warn" "/var/log", .panic none]

/-- Two of the three panics are events, and of a message of 161 line breaks none is kept. -/
theorem panics_reported_once_noisy :
    ((fresh (.bare []) ⟨"", fun _ => "", "", ""⟩).pursue noisyHistory).host.log =
        [.loggingStarted .info "/var/log", .panicCaptured "one two ",
          .panicCaptured "non-string panic payload"] ∧
      ∃ kept, kept.length = 160 ∧ '\n' ∉ kept ∧
        (Log.payload (some (String.ofList (List.replicate 161 '\n')))).toList =
          kept ++ ['.', '.', '.'] := by
  obtain ⟨_, _, events, shortened⟩ :=
    panics_reported_once (.bare []) ⟨"", fun _ => "", "", ""⟩ noisyHistory
  constructor
  · have still : ∀ deed ∈ noisyHistory, deed.isChange = false := by decide
    obtain ⟨active, spells, told⟩ := (events still).2 (noisyHistory.take 2) " INFO" "/var/log"
      (noisyHistory.drop 3) rfl (by decide +kernel) (by decide +kernel)
    have level : Log.readLevel " INFO" = .ok .info := by decide +kernel
    cases level.symm.trans (Log.readLevel_eq_ok_iff.mpr spells)
    have said : Event.loggingStarted .info (Text.trimmed "/var/log") ::
        (noisyHistory.drop 3).filterMap Deed.report? =
          [.loggingStarted .info "/var/log", .panicCaptured "one two ",
            .panicCaptured "non-string panic payload"] := by
      decide +kernel
    exact told.trans said
  · have line := shortened (String.ofList (List.replicate 161 '\n'))
    rw [String.toList_ofList] at line
    have long : 160 < (List.replicate 161 '\n').length := by
      rw [List.length_replicate]
      decide
    obtain ⟨kept, stands, shape⟩ := line.cut long
    have length : kept.length = 160 := by
      rw [← stands.length_eq, List.length_take_of_le (Nat.le_of_lt long)]
    refine ⟨kept, length, fun member => line.unbroken.1 ?_, shape⟩
    rw [shape]
    exact List.mem_append_left _ member

end LoggedHost

end InstanceHost
