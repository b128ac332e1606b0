/-
**Instances from module files.**

A loader of files has a directory of its own. Where nothing is published, a call with a text or an
object comes to an instance exactly if the object says properly where the module lies, the file
there can be read, it starts with the header of a module, and the text of the configuration can be
read. Otherwise the call fails with the first of these that is not so, and nothing is published.

* `FirstFault`: which of the conditions fails first;
* `Supplied`: a call that has all it needs, with the entries of its configuration;
* `firstFault_iff`: the first stage that fails is the first condition that does;
* `supplied_or_first_fault`: the two ways in which such a call ends.
-/

import InstanceHost.Proofs.Call.FirstFailure
import InstanceHost.Proofs.Module.Reading

namespace InstanceHost

/-! ### What a call needs -/

/-- **A call has all it needs**, with the entries of its configuration. -/
inductive Supplied (files : FileSystem) (directory : String) (value : Json)
    (entries : Keyed Json) : Prop
  | intro {normal : NormalConfig} {bytes : List UInt8} (prepares : Prepares value normal)
      (read : files.read (normal.moduleFile directory) = .ok bytes)
      (headed : moduleHeader <+: bytes) (config : readConfig normal.canonical = .ok entries) :
      Supplied files directory value entries

/-- **The first of the conditions that fails.** -/
inductive FirstFault (files : FileSystem) (directory : String) (value : Json) : BootFailure → Prop
  | location {entries : Keyed Json} {fault : LocationFault} (object : value = .object entries)
      (misplaced : Misplaced entries fault) :
      FirstFault files directory value (.config (.invalidLocation fault))
  | unreadable {normal : NormalConfig} {failure : SystemFailure} (prepares : Prepares value normal)
      (unread : files.read (normal.moduleFile directory) = .error failure) :
      FirstFault files directory value
        (.moduleLoad (.unreadable (normal.moduleFile directory) failure))
  | invalid {normal : NormalConfig} {bytes : List UInt8} {fault : BinaryFault}
      (prepares : Prepares value normal)
      (read : files.read (normal.moduleFile directory) = .ok bytes)
      (headless : Headless bytes fault) :
      FirstFault files directory value
        (.moduleLoad (.invalidBinary (normal.moduleFile directory) fault))
  | refused {normal : NormalConfig} {bytes : List UInt8} {refusal : Refusal}
      (prepares : Prepares value normal)
      (read : files.read (normal.moduleFile directory) = .ok bytes)
      (headed : moduleHeader <+: bytes) (unread : readConfig normal.canonical = .error refusal) :
      FirstFault files directory value (.construction refusal)

/-! ### Plans of a loader of files -/

section

variable {directory : String} {scene : Scene} {normal : NormalConfig} {failure : LoadFailure}
  {value : Json}

theorem LoadPlan.building_smooth (text : String) :
    smooth.building text = Instance.readItems text := rfl

theorem Loader.plan_files_of_unloadable
    (unloadable : Unloadable scene.host.files (normal.moduleFile directory) failure) :
    ((Loader.files directory).plan scene normal.modulePath).loadFailure = some failure := by
  unfold Loader.plan
  simp only [loadModule_eq_error_iff.mpr unloadable]

theorem Loader.plan_files_of_header {bytes : List UInt8}
    (read : scene.host.files.read (normal.moduleFile directory) = .ok bytes)
    (headed : moduleHeader <+: bytes) :
    (Loader.files directory).plan scene normal.modulePath = .smooth := by
  obtain ⟨image, loaded⟩ := exists_loadModule_iff.mpr ⟨bytes, read, headed⟩
  unfold Loader.plan
  simp only [loaded]

/-- A load that does not fail has read a file with the header. -/
theorem Loader.headed_of_plan_files
    (loaded : ((Loader.files directory).plan scene normal.modulePath).loadFailure = none) :
    ∃ bytes, scene.host.files.read (normal.moduleFile directory) = .ok bytes ∧
      moduleHeader <+: bytes := by
  refine (unloadable_or_headed scene.host.files directory normal).resolve_left ?_
  rintro ⟨failure, unloadable⟩
  rw [plan_files_of_unloadable unloadable] at loaded
  cases loaded

/-- **The first stage of a call that fails is the first condition that does.** -/
theorem firstFault_iff (kind : ∃ config, Config.ofJson value = .ok config)
    (empty : scene.slot = none) {failure : BootFailure} :
    (∃ work, FirstFailure (.files directory) scene value work failure) ↔
      FirstFault scene.host.files directory value failure := by
  constructor
  · rintro ⟨work, fails⟩
    cases fails with
    | kind text object =>
      obtain ⟨config, kind⟩ := kind
      cases kind.symm.trans (Config.ofJson_of_ne text object)
    | location _ object misplaced => exact .location object misplaced
    | load _ prepares failed =>
      next normal failure _ =>
      rcases unloadable_or_headed scene.host.files directory normal with
        ⟨other, unloadable⟩ | ⟨bytes, read, headed⟩
      · rw [Loader.plan_files_of_unloadable unloadable] at failed
        cases failed
        cases unloadable with
        | unreadable unread => exact .unreadable prepares unread
        | invalid read headless => exact .invalid prepares read headless
      · rw [Loader.plan_files_of_header read headed] at failed
        cases failed
    | build _ prepares loaded failed =>
      obtain ⟨bytes, read, headed⟩ := Loader.headed_of_plan_files loaded
      rw [Loader.plan_files_of_header read headed, LoadPlan.building_smooth,
        Instance.readItems_eq_error_iff] at failed
      exact .refused prepares read headed failed
    | start _ prepares loaded built failed =>
      obtain ⟨bytes, read, headed⟩ := Loader.headed_of_plan_files loaded
      rw [Loader.plan_files_of_header read headed] at failed
      cases failed
  · intro fault
    cases fault with
    | location object misplaced => exact ⟨_, .location empty object misplaced⟩
    | unreadable prepares unread =>
      exact ⟨_, .load empty prepares (Loader.plan_files_of_unloadable (.unreadable unread))⟩
    | invalid prepares read headless =>
      exact ⟨_, .load empty prepares (Loader.plan_files_of_unloadable (.invalid read headless))⟩
    | refused prepares read headed unread =>
      refine ⟨_, .build empty prepares ?_ ?_⟩
      · rw [Loader.plan_files_of_header read headed]
        rfl
      · rw [Loader.plan_files_of_header read headed, LoadPlan.building_smooth]
        exact Instance.readItems_eq_error_iff.mpr unread

/-- **A call that has all it needs comes to an instance**, with any number. -/
theorem Supplied.ends {entries : Keyed Json}
    (supplied : Supplied scene.host.files directory value entries) (empty : scene.slot = none)
    (id : Nat) : ∃ work, Ends (.files directory) scene (.value value) work (.ok id) := by
  obtain ⟨prepares, read, headed, config⟩ := supplied
  have tries : Tries (.files directory) scene (.value value) _ _ := prepares.tries empty
  rw [Loader.plan_files_of_header read headed] at tries
  have built := (LoadPlan.building_smooth _).trans (Instance.readItems_of_ok config)
  exact ⟨_, .started tries rfl built rfl⟩

/-- What a call that comes to an instance has had. -/
theorem Ends.supplied {work : Work} {id : Nat} (empty : scene.slot = none)
    (ends : Ends (.files directory) scene (.value value) work (.ok id)) :
    ∃ entries, Supplied scene.host.files directory value entries := by
  cases ends with
  | reused _ published => cases empty.symm.trans published
  | started tries loaded built _ =>
    next normal plan items _ =>
    obtain ⟨_, prepares⟩ := tries.prepares
    rw [tries.planned] at loaded built
    obtain ⟨bytes, read, headed⟩ := Loader.headed_of_plan_files loaded
    rw [Loader.plan_files_of_header read headed, LoadPlan.building_smooth] at built
    obtain ⟨entries, config, _⟩ := Instance.readItems_eq_ok built
    exact ⟨entries, .intro prepares read headed config⟩

end

/-! ### The published instance -/

section

variable {service : Service} {value : Json}

/-- **A call that found nothing published** publishes the instance that it comes to, which is ready,
and nothing if it fails. -/
theorem slot_complete (numbered : service.host.Numbered) (empty : service.slot = none)
    (value : Json) :
    (∀ failure, (service.complete (.value value)).stage = .finished (.error failure) →
      (service.complete (.value value)).service.slot = none) ∧
    ∀ id, (service.complete (.value value)).stage = .finished (.ok id) →
      (service.complete (.value value)).service.slot = some id ∧
        ∃ target, (service.complete (.value value)).service.host.find? id = some target ∧
          target.ready = true := by
  have sound : service.scene.Sound service.loader.Makes [] [.fresh (.value value)] := by
    refine ⟨numbered, List.nodup_nil, ?_, List.forall_mem_nil _, fun id published => ?_⟩
    · exact fun stage member => List.mem_singleton.mp member ▸ trivial
    · cases empty.symm.trans published
  have stands := Life.stands_complete sound service.loader.yields_makes
  generalize service.complete (.value value) = progress at stands ⊢
  cases stands with
  | underway agrees _ _ =>
    refine ⟨fun failure ended => ?_, fun id ended => ?_⟩
    · subst ended
      exact agrees.elim
    · subst ended
      exact agrees.elim
  | failed _ _ _ same _ => exact ⟨fun failure _ => same.trans empty, nofun⟩
  | delivered _ _ same sound =>
    refine ⟨nofun, fun number ended => ?_⟩
    cases ended
    exact ⟨same, sound.ready _ (List.mem_append_right _ List.mem_cons_self)⟩
  | reused _ there => cases there

theorem Supplied.configured {directory : String} {entries : Keyed Json}
    (supplied : Supplied service.host.files directory value entries)
    (loader : service.loader = .files directory) (empty : service.slot = none) :
    ∃ id, (service.complete (.value value)).Configured id (.object entries) := by
  obtain ⟨prepares, read, headed, config⟩ := supplied
  obtain ⟨made, kind, resolved⟩ := prepares.exists_config
  refine configured_of_normal kind resolved config ?_ ?_
  · rw [Service.current?, empty, Option.bind_none]
  · have there : service.scene.host.files.read _ = .ok _ := read
    rw [service.answer_eq_plan, loader, Loader.plan_files_of_header there headed]
    exact ⟨rfl, rfl, fun _ => rfl, rfl⟩

end

/-- **A call comes to an instance exactly if it has all it needs**, and fails with its first fault
otherwise. For every file system, every directory of the loader, and every text or object: the
instance that it comes to is published, ready, and has the configuration that the canonical text
stands for; a failure leaves nothing published. A text has no say in where the module lies. -/
theorem supplied_or_first_fault (service : Service) (directory : String) (value : Json)
    (numbered : service.host.Numbered) (empty : service.slot = none)
    (loader : service.loader = .files directory)
    (kind : (∃ text, value = .string text) ∨ ∃ entries, value = .object entries) :
    let progress := service.complete (.value value)
    let files := service.host.files
    ((∃ id, progress.stage = .finished (.ok id)) ↔
        ∃ entries, Supplied files directory value entries) ∧
      (∀ id, progress.stage = .finished (.ok id) → progress.service.slot = some id ∧
        ∃ target entries, progress.service.host.find? id = some target ∧ target.ready = true ∧
          Supplied files directory value entries ∧ target.config? = some (.object entries)) ∧
      (∀ failure, progress.stage = .finished (.error failure) ↔
        FirstFault files directory value failure) ∧
      (∀ failure, progress.stage = .finished (.error failure) → progress.service.slot = none) ∧
      ∀ text normal, value = .string text → Prepares value normal →
        normal.canonical = text ∧ normal.moduleFile directory = moduleFileIn directory := by
  intro progress files
  have kept : ∃ config, Config.ofJson value = .ok config := by
    rcases kind with ⟨text, rfl⟩ | ⟨entries, rfl⟩
    · exact ⟨_, rfl⟩
    · exact ⟨_, rfl⟩
  obtain ⟨work, result, ended, ends⟩ := Life.ends_complete numbered
    (fun id published => nomatch empty.symm.trans published) (.value value)
  obtain ⟨unpublished, published⟩ := slot_complete numbered empty value
  rw [loader] at ends
  have ended_iff : ∀ other, progress.stage = .finished other ↔ result = other := fun other => by
    rw [show progress.stage = .finished result from ended, Stage.finished.injEq]
  refine ⟨?_, ?_, ?_, unpublished, ?_⟩
  · simp only [ended_iff]
    constructor
    · rintro ⟨id, rfl⟩
      have supplied := ends.supplied empty
      exact supplied
    · rintro ⟨entries, supplied⟩
      have there : Supplied service.scene.host.files directory value entries := supplied
      obtain ⟨_, other⟩ := there.ends empty 0
      exact ends.exists_ok other
  · intro id arrived
    obtain ⟨slot, target, found, ready⟩ := published id arrived
    rw [ended_iff] at arrived
    subst arrived
    obtain ⟨entries, supplied⟩ := ends.supplied empty
    obtain ⟨other, finished, _, changed, there, config⟩ := supplied.configured loader empty
    cases ended.symm.trans finished
    cases found.symm.trans there
    exact ⟨slot, target, entries, found, ready, supplied, config⟩
  · intro failure
    rw [ended_iff]
    have faults : (∃ work, FirstFailure (.files directory) service.scene value work failure) ↔
        FirstFault files directory value failure := firstFault_iff kept empty
    constructor
    · exact fun same => faults.mp ⟨work, ends.error_iff.mp ⟨same, rfl⟩⟩
    · intro fault
      obtain ⟨other, fails⟩ := faults.mpr fault
      exact (ends.error_iff.mpr fails).1
  · rintro text normal rfl prepares
    cases prepares
    exact ⟨rfl, rfl⟩

/-! ### A module in a directory -/

/-- A loader of files with a module in its directory, and nothing published. -/
def suppliedService : Service :=
  ⟨⟨(FileSystem.bare []).write "pkg/mize_bg.wasm" moduleHeader, [], []⟩, none, .files "pkg",
    .empty, []⟩

/-- A text that is an object which names another directory. -/
def distractingText : String :=
  "\x7b\"module_dir\":\x7b\"mize\":\"elsewhere\"\x7d\x7d"

theorem supplied_distractingText :
    Supplied suppliedService.host.files "pkg" (.string distractingText)
      [("module_dir", .object [("mize", .string "elsewhere")])] :=
  .intro .text (by decide +kernel) List.prefix_rfl (by decide +kernel)

/-- The module comes from the directory of the loader, and the text becomes the configuration. -/
theorem supplied_or_first_fault_distracting :
    suppliedService.host.Numbered ∧ suppliedService.slot = none ∧
      suppliedService.loader = .files "pkg" ∧
      ∃ id target entries, (suppliedService.complete (.value (.string distractingText))).stage =
          .finished (.ok id) ∧
        (suppliedService.complete (.value (.string distractingText))).service.host.find? id =
          some target ∧
        target.ready = true ∧
        Supplied suppliedService.host.files "pkg" (.string distractingText) entries ∧
        target.config? = some (.object entries) := by
  have numbered : suppliedService.host.Numbered := fun id target found => by cases found
  have ends := supplied_or_first_fault suppliedService "pkg" (.string distractingText) numbered rfl
    rfl (Or.inl ⟨_, rfl⟩)
  obtain ⟨id, ended⟩ := ends.1.mpr ⟨_, supplied_distractingText⟩
  obtain ⟨_, target, entries, found, ready, supplied, config⟩ := ends.2.1 id ended
  exact ⟨numbered, rfl, rfl, id, target, entries, ended, found, ready, supplied, config⟩

end InstanceHost
