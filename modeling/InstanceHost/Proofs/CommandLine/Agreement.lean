/-
**All ways to give a configuration agree.**

An argument that reads as a JSON object goes to the instance as an object, becomes text and is read
again; one that reads as a JSON string goes there as this string, and any other one as it is, and is
read there once. With a file, the argument is read at once and laid over the file, and what comes of
it becomes text and is read again. The instance ends up with the same configuration in every case.

* `argumentConfig`: what the text of an argument describes;
* `argumentValue_cases`: the value of an argument describes the same;
* `configured_of_ok`: an instance is built from the text of its configuration;
* `FileReader.Ordered`: what is asked of the reader of the file;
* `argument_forms_agree`: what every run ends with.
-/

import InstanceHost.CommandLine.Program
import InstanceHost.Proofs.Call.Sequence
import InstanceHost.Proofs.Config.Options
import InstanceHost.Proofs.Toml.Order

namespace InstanceHost

/-! ### The log leaves the instances alone -/

/-- The configuration of the published instance of a process. -/
def LoggedHost.config? (logged : LoggedHost) : Option Json :=
  (logged.slot.bind logged.host.find?).bind Instance.config?

/-- The published instance and all the others are as they were. -/
structure LoggedHost.Keeps (before after : LoggedHost) : Prop where
  slot : after.slot = before.slot
  instances : after.host.instances = before.host.instances

namespace LoggedHost.Keeps

variable {before middle after : LoggedHost}

theorem refl (logged : LoggedHost) : logged.Keeps logged :=
  ⟨rfl, rfl⟩

theorem trans (one : before.Keeps middle) (two : middle.Keeps after) : before.Keeps after :=
  ⟨two.slot.trans one.slot, two.instances.trans one.instances⟩

theorem config? (keeps : before.Keeps after) : after.config? = before.config? := by
  have same : after.host.find? = before.host.find? :=
    funext (Host.find?_congr keeps.instances)
  rw [LoggedHost.config?, LoggedHost.config?, keeps.slot, same]

theorem settle (logged : LoggedHost) : logged.Keeps logged.settle := by
  unfold LoggedHost.settle
  split
  · exact refl logged
  · next journal _ =>
    have kept := congrArg Host.instances (journal.follow_host logged.labels logged.host)
    exact ⟨rfl, kept⟩

theorem withEvents (logged : LoggedHost) (events : List Event) :
    logged.Keeps (logged.withHost (logged.host.record events)) := by
  have told : logged.Keeps { logged with host := logged.host.record events } := ⟨rfl, rfl⟩
  exact told.trans (settle _)

theorem startLog (logged : LoggedHost) (level directory : String) :
    logged.Keeps (logged.startLog level directory).2 := by
  unfold LoggedHost.startLog
  split
  · exact refl logged
  · split
    · exact refl logged
    · unfold LoggedHost.startWith
      split
      · exact refl logged
      · unfold LoggedHost.startFresh
        simp only
        split
        · exact ⟨rfl, rfl⟩
        · split
          · exact ⟨rfl, rfl⟩
          · dsimp only
            refine trans ?_ (settle _)
            exact ⟨rfl, rfl⟩

end LoggedHost.Keeps

/-! ### Calls that come to an instance -/

/-- A load that comes to an instance comes to one with the items that its module makes of the
text. -/
theorem Forecast.load_result {normal : NormalConfig} {plan : LoadPlan} {pauses : Nat}
    {config : Option Json} (delivers : (Forecast.load normal plan pauses).result = .ok config) :
    ∃ items, plan.building normal.canonical = .ok items ∧
      config = items.get? configurationKey := by
  unfold load at delivers
  split at delivers
  · cases delivers
  · replace delivers : (build normal plan plan.buildPauses).result = .ok config := delivers
    unfold build at delivers
    split at delivers
    · cases delivers
    · next items making =>
      replace delivers : (start plan.startFailure (items.get? configurationKey)
        plan.startPauses).result = .ok config := delivers
      unfold start at delivers
      split at delivers
      · cases delivers
      · cases delivers
        exact ⟨items, making, rfl⟩

section

variable {service : Service} {id : Nat}

theorem Foretold.delivers {own : Option Nat} {builds : List String}
    {handed : List (List (List String))} {result : Except BootFailure (Option Json)}
    {progress : Progress} (foretold : Foretold service own (.ended builds handed result) progress)
    (ended : progress.stage = .finished (.ok id)) :
    progress.service.slot = some id ∧ ∃ target, progress.service.host.find? id = some target ∧
      result = .ok target.config? := by
  cases foretold with
  | failed passes => cases ended
  | delivered passes reached found =>
    cases ended
    exact ⟨passes.slot, _, found, rfl⟩

/-- **A call that comes to an instance where none is published** has built it from the text of its
configuration. -/
theorem configured_of_ok {value : Json} (numbered : service.host.Numbered)
    (empty : service.current? = none) (reads : service.loader.ReadsText)
    (ended : (service.complete (.value value)).stage = .finished (.ok id)) :
    ∃ config normal entries, Config.ofJson value = .ok config ∧ config.toNormal = .ok normal ∧
      readConfig normal.canonical = .ok entries ∧
      (service.complete (.value value)).Configured id (.object entries) := by
  cases kind : Config.ofJson value with
  | error mismatch =>
    rw [complete_of_mismatch kind] at ended
    cases ended
  | ok config =>
    have missing : service.reuse? config = none := by rw [Service.reuse?, empty]
    cases resolved : config.toNormal with
    | error fault =>
      rw [complete_of_unresolved kind missing resolved] at ended
      cases ended
    | ok normal =>
      obtain ⟨count, polls⟩ := complete_of_resolved kind missing resolved
      rw [polls] at ended ⊢
      have asked : ((service.log [.bootStarted config.kindName]).askLoader
          normal.modulePath).host.Numbered := numbered
      have foretold := foretold_polls count asked (fun _ mine => by cases mine) rfl ended
      obtain ⟨slot, target, found, result⟩ := foretold.delivers ended
      obtain ⟨items, making, same⟩ := Forecast.load_result result
      have yields : (service.log [.bootStarted config.kindName]).loader.Yields Items.Configured :=
        reads.yields
      obtain ⟨entries, read, configured⟩ := Service.yields_answer yields _ _ items making
      exact ⟨config, normal, entries, rfl, resolved, read, ended, slot, target, found,
        same.trans configured⟩

/-- A text is read by the instance as it is. -/
theorem configured_of_string {text : String} (numbered : service.host.Numbered)
    (empty : service.current? = none) (reads : service.loader.ReadsText)
    (ended : (service.complete (.value (.string text))).stage = .finished (.ok id)) :
    ∃ entries, readConfig text = .ok entries ∧
      (service.complete (.value (.string text))).Configured id (.object entries) := by
  obtain ⟨config, normal, entries, kind, resolved, read, configured⟩ :=
    configured_of_ok numbered empty reads ended
  cases kind
  cases resolved
  exact ⟨entries, read, configured⟩

/-- An object becomes text, and comes back. -/
theorem configured_of_object {entries : Keyed Json} (numbered : service.host.Numbered)
    (empty : service.current? = none) (reads : service.loader.ReadsText)
    (ordered : (Json.object entries).Ordered)
    (integral : (Json.object entries).Integral)
    (ended : (service.complete (.value (.object entries))).stage = .finished (.ok id)) :
    (service.complete (.value (.object entries))).Configured id (.object entries) := by
  obtain ⟨config, normal, found, kind, resolved, read, configured⟩ :=
    configured_of_ok numbered empty reads ended
  cases kind
  rw [canonical_of_toNormal resolved] at read
  -- The instance refuses an object beyond the limit, so no call comes to an instance with it.
  rcases Nat.lt_or_ge Json.containerLimit (Json.object entries).depth with beyond | within
  · obtain ⟨fault, refused, _⟩ := readConfig_text_of_lt ordered integral beyond
    rw [refused] at read
    cases read
  · rw [readConfig_text ordered integral within] at read
    cases read
    exact configured

end

namespace CommandLine

theorem keeps_startLog (logged : LoggedHost) (invocation : Invocation) :
    logged.Keeps (startLog logged invocation).2 := by
  unfold startLog
  split
  · exact .refl logged
  · next directory _ =>
    have keeps := LoggedHost.Keeps.startLog logged
      (invocation.logLevel.getD Log.defaultLevel.name) directory
    simp only
    split
    · next started same =>
      rw [same] at keeps
      exact keeps
    · next failure changed same =>
      rw [same] at keeps
      exact keeps

/-! ### Arguments -/

/-- **What the text of an argument describes**: what the string describes that it reads as, or else
what it describes itself. -/
def argumentConfig (text : String) : Except Refusal (Keyed Json) :=
  match Json.parse? text with
  | some (.string content) => readConfig content
  | _ => readConfig text

/-- **The value of an argument describes the same**: it is the object, or a text that describes
it. -/
theorem argumentValue_cases (text : String) :
    (∃ entries, argumentValue text = .object entries ∧ argumentConfig text = .ok entries) ∨
      ∃ content, argumentValue text = .string content ∧
        argumentConfig text = readConfig content := by
  cases found : Json.parse? text with
  | none => exact Or.inr ⟨text, by rw [argumentValue, found], by rw [argumentConfig, found]⟩
  | some value =>
    cases value with
    | object entries =>
      have reading : Json.parse text = .ok (.object entries) := by
        rw [Json.parse?] at found
        cases parsed : Json.parse text with
        | error fault =>
          rw [parsed] at found
          cases found
        | ok value =>
          rw [parsed] at found
          cases found
          rfl
      refine Or.inl ⟨entries, by rw [argumentValue, found], ?_⟩
      rw [argumentConfig, found]
      exact readConfig_of_parse reading
    | string content =>
      exact Or.inr ⟨content, by rw [argumentValue, found], by rw [argumentConfig, found]⟩
    | _ => exact Or.inr ⟨text, by rw [argumentValue, found], by rw [argumentConfig, found]⟩

theorem ordered_of_argumentConfig {text : String} {entries : Keyed Json}
    (reading : argumentConfig text = .ok entries) : (Json.object entries).Ordered := by
  unfold argumentConfig at reading
  split at reading
  · exact ordered_of_readConfig reading
  · exact ordered_of_readConfig reading

/-- What an argument lays over a file is what its text describes. -/
theorem overlayOf_argumentValue (text : String) :
    overlayOf (argumentValue text) =
      match argumentConfig text with
      | .ok entries => .ok entries
      | .error refusal => .error (.argument refusal) := by
  rcases argumentValue_cases text with ⟨entries, value, described⟩ | ⟨content, value, described⟩
  · rw [value, described]
    rfl
  · rw [value, described]
    rfl

/-- The keys of what a reader finds are in order. -/
def FileReader.Ordered (reader : FileReader) : Prop :=
  ∀ text entries, reader text = some entries → (Json.object entries).Ordered

theorem ordered_of_readFile {reader : FileReader} {files : FileSystem} {path : String}
    {entries : Keyed Json} (ordered : reader.Ordered)
    (reading : readFileWith reader files path = .ok entries) : (Json.object entries).Ordered := by
  unfold readFileWith at reading
  split at reading
  · cases reading
  · split at reading
    · cases reading
    · next members parsed =>
      cases reading
      exact ordered _ _ parsed

/-! ### Runs -/

/-- A call that has come to a configuration leaves it in the process. -/
theorem config?_boot {logged : LoggedHost} {invocation : Invocation} {value config : Json}
    {id : Nat}
    (configured : ((logged.service true (.files invocation.moduleDirectory)).complete
      (.value value)).Configured id config) :
    (boot logged invocation value).2.config? = some config := by
  obtain ⟨ended, slot, target, found, same⟩ := configured
  simp only [boot, ended]
  rw [(LoggedHost.Keeps.withEvents _ _).config?, LoggedHost.config?, afterService, slot,
    Option.bind_some, found, Option.bind_some, same]

theorem exists_of_boot {logged : LoggedHost} {invocation : Invocation} {value shown : Json}
    (booted : (boot logged invocation value).1 = .ok shown) :
    ∃ id, ((logged.service true (.files invocation.moduleDirectory)).complete
      (.value value)).stage = .finished (.ok id) := by
  obtain ⟨result, ended⟩ := complete_finished
    (logged.service true (.files invocation.moduleDirectory)) (.value value)
  cases result with
  | ok id => exact ⟨id, ended⟩
  | error failure =>
    simp only [boot, ended] at booted
    cases booted

/-- **A run that succeeds** has started its log, put its configuration together and come to an
instance where none was published. -/
structure Comes (reader : FileReader) (logged started : LoggedHost) (invocation : Invocation)
    (value : Json) (id : Nat) : Prop where
  gathered : gatherConfigWith reader (startLog logged invocation).2.host.files
    invocation.configFile invocation.config = .ok value
  numbered : started.host.Numbered
  empty : (started.service true (.files invocation.moduleDirectory)).current? = none
  ended : ((started.service true (.files invocation.moduleDirectory)).complete
    (.value value)).stage = .finished (.ok id)
  ran : runWith reader logged invocation = boot started invocation value

theorem exists_of_run {reader : FileReader} {logged : LoggedHost} {invocation : Invocation}
    {shown : Json} (numbered : logged.host.Numbered) (empty : logged.slot = none)
    (succeeded : (runWith reader logged invocation).1 = .ok shown) :
    ∃ started value id, Comes reader logged started invocation value id := by
  have keeps := keeps_startLog logged invocation
  rw [runWith] at succeeded
  split at succeeded
  · cases succeeded
  · next started starting =>
    split at succeeded
    · cases succeeded
    · next value gathering =>
      rw [starting] at keeps
      obtain ⟨id, ended⟩ := exists_of_boot succeeded
      refine ⟨started, value, id, ?_, ?_, ?_, ended, ?_⟩
      · rw [starting]
        exact gathering
      · intro number target found
        exact numbered number target ((Host.find?_congr keeps.instances number).symm.trans found)
      · have unpublished : started.slot = none := keeps.slot.trans empty
        rw [Service.current?, LoggedHost.service, if_pos rfl, unpublished]
        rfl
      · rw [runWith, starting]
        simp only [gathering]

variable {reader : FileReader} {logged started : LoggedHost} {invocation : Invocation}
  {value : Json} {id : Nat}

/-- **Without a file** the argument describes the configuration. -/
theorem Comes.alone (comes : Comes reader logged started invocation value id)
    (without : invocation.configFile = none) :
    ∃ entries, argumentConfig invocation.config = .ok entries ∧
      ((Json.object entries).Integral →
        (runWith reader logged invocation).2.config? = some (.object entries)) := by
  have gathered := comes.gathered
  rw [without] at gathered
  have same : argumentValue invocation.config = value := Except.ok.inj gathered
  rcases argumentValue_cases invocation.config with
    ⟨entries, object, described⟩ | ⟨content, text, described⟩
  · cases same.symm.trans object
    have ordered := ordered_of_argumentConfig described
    refine ⟨entries, described, fun integral => ?_⟩
    rw [comes.ran]
    exact config?_boot
      (configured_of_object comes.numbered comes.empty trivial ordered integral comes.ended)
  · cases same.symm.trans text
    obtain ⟨entries, read, configured⟩ :=
      configured_of_string comes.numbered comes.empty trivial comes.ended
    refine ⟨entries, described.trans read, fun _ => ?_⟩
    rw [comes.ran]
    exact config?_boot configured

/-- **With a file** the argument describes what is laid over it. -/
theorem Comes.laid (comes : Comes reader logged started invocation value id) {path : String}
    (ordered : reader.Ordered) (file : invocation.configFile = some path) :
    ∃ entries below, argumentConfig invocation.config = .ok entries ∧
      readFileWith reader (startLog logged invocation).2.host.files path = .ok below ∧
      ((Json.object below).Integral → (Json.object entries).Integral →
        (runWith reader logged invocation).2.config? =
          some (.object (Json.overlayEntries below entries))) := by
  have gathered := comes.gathered
  rw [file] at gathered
  obtain ⟨below, read, gathered⟩ := Json.exists_of_bind_eq_ok gathered
  obtain ⟨entries, laid, ending⟩ := Json.exists_of_bind_eq_ok gathered
  rw [overlayOf_argumentValue] at laid
  cases described : argumentConfig invocation.config with
  | error refusal =>
    rw [described] at laid
    cases laid
  | ok found =>
    rw [described] at laid
    cases laid
    cases ending
    refine ⟨entries, below, rfl, read, fun lower_integral upper_integral => ?_⟩
    have laid := Json.hereditary_ordered.overlayEntries (ordered_of_readFile ordered read) entries
      (ordered_of_argumentConfig described)
    have integral := Json.hereditary_integral.overlayEntries lower_integral entries upper_integral
    rw [comes.ran]
    exact config?_boot
      (configured_of_object comes.numbered comes.empty trivial laid integral comes.ended)

/-- **All ways to give a configuration agree**, whatever reads the file. -/
theorem argument_forms_agree (reader : FileReader) (logged : LoggedHost) (invocation : Invocation)
    (ordered : reader.Ordered) (numbered : logged.host.Numbered) (empty : logged.slot = none) :
    let outcome := runWith reader logged invocation
    (∀ refusal, argumentConfig invocation.config = .error refusal →
        ∃ failure, outcome.1 = .error failure) ∧
      ∀ upper shown, argumentConfig invocation.config = .ok upper → outcome.1 = .ok shown →
        (Json.object upper).Integral →
          (invocation.configFile = none → outcome.2.config? = some (.object upper)) ∧
            ∀ path lower, invocation.configFile = some path →
              readFileWith reader (startLog logged invocation).2.host.files path = .ok lower →
                (Json.object lower).Integral →
                  outcome.2.config? = some (.object (Json.overlayEntries lower upper)) := by
  intro outcome
  constructor
  · intro refusal refused
    cases ended : outcome.1 with
    | error failure => exact ⟨failure, rfl⟩
    | ok shown =>
      exfalso
      obtain ⟨started, value, id, comes⟩ := exists_of_run numbered empty ended
      cases file : invocation.configFile with
      | none =>
        obtain ⟨entries, described, _⟩ := comes.alone file
        rw [refused] at described
        cases described
      | some path =>
        obtain ⟨entries, below, described, _⟩ := comes.laid ordered file
        rw [refused] at described
        cases described
  · intro upper shown described succeeded integral
    obtain ⟨started, value, id, comes⟩ := exists_of_run numbered empty succeeded
    constructor
    · intro without
      obtain ⟨entries, same, configured⟩ := comes.alone without
      rw [described] at same
      cases same
      exact configured integral
    · intro path lower file read lower_integral
      obtain ⟨entries, below, same, found, configured⟩ := comes.laid ordered file
      rw [described] at same
      rw [read] at found
      cases same
      cases found
      exact configured lower_integral integral

/-! ### One argument in three forms -/

/-- A process that finds a module and a file with a configuration where it starts. -/
def hostWithFile : LoggedHost :=
  let image := LoadedModule.magic ++ LoadedModule.version
  let files := (FileSystem.bare []).write moduleFileName image
  .fresh (files.write "host.toml" "a = 1\n[b]\nc = 2\n".toUTF8.toList) ⟨"", fun _ => "", "", ""⟩

/-- A command line that asks for the configuration, with the file or without it. -/
def askConfig (config : String) (file : Option String) : Invocation :=
  ⟨.get configurationKey, config, file, ".", none, none⟩

/-- What each of the arguments describes. -/
def argumentEntries : Keyed Json :=
  [("b", .object [("c", .number (.integer 3 (by decide)))])]

/-- What the file describes. -/
def fileEntries : Keyed Json :=
  [("a", .number (.integer 1 (by decide))),
    ("b", .object [("c", .number (.integer 2 (by decide)))])]

/-- What an argument and the file describe together. -/
def joinedEntries : Keyed Json :=
  [("a", .number (.integer 1 (by decide))),
    ("b", .object [("c", .number (.integer 3 (by decide)))])]

/-- A list of options, a JSON string and a JSON object, alone and over a file. -/
theorem argument_forms_agree_three_forms :
    FileReader.Ordered Toml.parse? ∧ hostWithFile.host.Numbered ∧ hostWithFile.slot = none ∧
      ∀ argument ∈ ["b.c=3", "\"b.c=3\"", " \x7b\"b\": \x7b\"c\": 3\x7d\x7d "],
        (run hostWithFile (askConfig argument none)).2.config? =
            some (.object argumentEntries) ∧
          (run hostWithFile (askConfig argument (some "host.toml"))).2.config? =
            some (.object joinedEntries) := by
  have numbered : hostWithFile.host.Numbered := by
    intro id target found
    cases found
  have upper : (Json.object argumentEntries).Integral := ⟨⟨trivial, trivial⟩, trivial⟩
  have lower : (Json.object fileEntries).Integral := ⟨trivial, ⟨trivial, trivial⟩, trivial⟩
  have read : readFileWith Toml.parse? hostWithFile.host.files "host.toml" = .ok fileEntries := by
    decide +kernel
  have runs : ∀ argument ∈ ["b.c=3", "\"b.c=3\"", " \x7b\"b\": \x7b\"c\": 3\x7d\x7d "],
      argumentConfig argument = .ok argumentEntries ∧
        (run hostWithFile (askConfig argument none)).1 = .ok (.object argumentEntries) ∧
        (run hostWithFile (askConfig argument (some "host.toml"))).1 =
          .ok (.object joinedEntries) := by
    decide +kernel
  have ordered : FileReader.Ordered Toml.parse? := fun _ _ => Toml.ordered_of_parse
  refine ⟨ordered, numbered, rfl, fun argument member => ?_⟩
  obtain ⟨described, alone, laid⟩ := runs argument member
  constructor
  · have agree := argument_forms_agree Toml.parse? hostWithFile (askConfig argument none)
      ordered numbered rfl
    exact (agree.2 _ _ described alone upper).1 rfl
  · have agree := argument_forms_agree Toml.parse? hostWithFile
      (askConfig argument (some "host.toml")) ordered numbered rfl
    exact (agree.2 _ _ described laid upper).2 "host.toml" _ rfl read lower

end CommandLine

end InstanceHost
