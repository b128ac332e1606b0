/-
**Making directories.**

Making a directory with all its parents adds directories where nothing was and changes nothing else,
also where it fails in the end. What can be made is not hindered by directories that are there
already: it can still be made when others were added before.

* `Grows`: a tree with directories added to it;
* `Clear`, `Present`: every location on the way along names is a directory, or could be made one;
* `walk_append_singleton_eq_ok_iff`: a walk succeeds exactly if all locations before the last are
  directories;
* `settleCreation_eq_ok_iff`: a directory is made exactly if the way is clear and its parents are
  there;
* `createDirectories_eq_ok_iff`: when a directory is made with all its parents;
* `grows_createDirectories`: whatever comes of it, only directories were added;
* `createDirectories_of_grows`: what can be made can be made in a larger tree.
-/

import InstanceHost.FileSystem.Basic
import Mathlib.Data.List.Induction

namespace InstanceHost.FileSystem

/-! ### Trees that grow -/

/-- **A tree with directories added to it** where nothing was. -/
structure Grows (system larger : FileSystem) : Prop where
  current : larger.current = system.current
  kept : ∀ {location node}, system.nodeAt location = some node →
    larger.nodeAt location = some node
  added : ∀ {location node}, system.nodeAt location = none →
    larger.nodeAt location = some node → node = .directory

namespace Grows

variable {system middle larger : FileSystem}

theorem refl (system : FileSystem) : system.Grows system :=
  ⟨rfl, id, fun none some => nomatch none.symm.trans some⟩

theorem trans (one : system.Grows middle) (two : middle.Grows larger) : system.Grows larger := by
  refine ⟨two.current.trans one.current, fun found => two.kept (one.kept found), ?_⟩
  intro location node none found
  cases between : middle.nodeAt location with
  | none => exact two.added between found
  | some other =>
    cases found.symm.trans (two.kept between)
    exact one.added none between

end Grows

theorem nodeAt_put (system : FileSystem) (location : Location) (node : Node) (other : Location) :
    (system.put location node).nodeAt other =
      if other = [] then some .directory else if other = location then some node
      else system.nodeAt other := by
  rw [nodeAt, nodeAt]
  by_cases root : other = []
  · rw [if_pos root, if_pos root]
  · by_cases same : other = location
    · subst same
      rw [if_neg root, if_neg root, if_pos rfl, put, List.find?_cons_of_pos (by simp)]
      rfl
    · rw [if_neg root, if_neg root, if_neg same, if_neg root, put,
        List.find?_cons_of_neg (by simpa using fun equal => same equal.symm)]

theorem nodeAt_root (system : FileSystem) : system.nodeAt [] = some .directory :=
  if_pos rfl

/-- A location in a tree where a directory was ensured. -/
theorem nodeAt_ensureDirectory (system : FileSystem) (location other : Location) :
    (system.ensureDirectory location).nodeAt other =
      if other = location ∧ system.nodeAt location = none then some .directory
      else system.nodeAt other := by
  rw [ensureDirectory]
  cases found : system.nodeAt location with
  | some node => rw [Option.isSome_some, if_pos rfl, if_neg fun both => nomatch both.2]
  | none =>
    rw [Option.isSome_none, if_neg Bool.false_ne_true, nodeAt_put]
    by_cases same : other = location
    · subst same
      rw [if_pos rfl, ite_self, if_pos ⟨rfl, rfl⟩]
    · by_cases root : other = []
      · rw [if_pos root, if_neg fun both => same both.1, root, nodeAt_root]
      · rw [if_neg root, if_neg same, if_neg fun both => same both.1]

/-- Ensuring a directory adds at most that. -/
theorem grows_ensureDirectory (system : FileSystem) (location : Location) :
    system.Grows (system.ensureDirectory location) := by
  refine ⟨?_, fun {other node} found => ?_, fun {other node} none found => ?_⟩
  · rw [ensureDirectory]
    split <;> rfl
  · rw [nodeAt_ensureDirectory, if_neg]
    · exact found
    · rintro ⟨rfl, none⟩
      cases none.symm.trans found
  · rw [nodeAt_ensureDirectory] at found
    split at found
    · exact (Option.some.inj found).symm
    · cases none.symm.trans found

/-! ### Locations on the way -/

/-- The locations on the way along names, the first and the last included. -/
def visits (location : Location) : List String → List Location
  | [] => [location]
  | name :: rest => location :: visits (place location name) rest

/-- The location behind names, by the names alone. -/
def target (names : List String) : Location :=
  names.foldl place []

/-- Names that are short enough. -/
def Fit (names : List String) : Prop :=
  ∀ name ∈ names, name.utf8ByteSize ≤ nameLimit

/-- **Every location on the way is a directory or empty.** -/
structure Clear (system : FileSystem) (names : List String) : Prop where
  fit : Fit names
  free : ∀ location ∈ visits [] names, ∀ node, system.nodeAt location = some node →
    node = .directory

/-- **Every location on the way is a directory.** -/
structure Present (system : FileSystem) (names : List String) : Prop where
  fit : Fit names
  there : ∀ location ∈ visits [] names, system.nodeAt location = some .directory

variable {system larger : FileSystem} {names front blanks : List String} {name : String}

theorem visits_append_singleton (location : Location) (front : List String) (name : String) :
    visits location (front ++ [name]) =
      visits location front ++ [(front ++ [name]).foldl place location] := by
  induction front generalizing location with
  | nil => rfl
  | cons first rest inductive_step =>
    rw [List.cons_append, visits, visits, inductive_step]
    rfl

theorem target_append_singleton (front : List String) (name : String) :
    target (front ++ [name]) = place (target front) name := by
  rw [target, List.foldl_append]
  rfl

theorem target_mem_visits (names : List String) : target names ∈ visits [] names := by
  rcases List.eq_nil_or_concat names with rfl | ⟨front, name, rfl⟩
  · exact List.mem_singleton_self _
  · rw [List.concat_eq_append, visits_append_singleton]
    exact List.mem_append_right _ (List.mem_singleton_self _)

theorem fit_append_singleton :
    Fit (front ++ [name]) ↔ Fit front ∧ name.utf8ByteSize ≤ nameLimit := by
  rw [Fit, List.forall_mem_append, List.forall_mem_singleton]
  rfl

theorem Present.root (system : FileSystem) : system.Present [] :=
  ⟨List.forall_mem_nil _, List.forall_mem_singleton.mpr system.nodeAt_root⟩

theorem Present.clear (present : system.Present names) : system.Clear names := by
  refine ⟨present.fit, fun location member node found => ?_⟩
  cases found.symm.trans (present.there location member)
  rfl

theorem Present.grow (present : system.Present names) (grows : system.Grows larger) :
    larger.Present names :=
  ⟨present.fit, fun location member => grows.kept (present.there location member)⟩

/-- **Added directories do not stand in the way.** -/
theorem Grows.clear_iff (grows : system.Grows larger) :
    larger.Clear names ↔ system.Clear names := by
  constructor
  · exact fun clear => ⟨clear.fit, fun location member node found =>
      clear.free location member node (grows.kept found)⟩
  · refine fun clear => ⟨clear.fit, fun location member node found => ?_⟩
    cases before : system.nodeAt location with
    | none => exact grows.added before found
    | some other =>
      cases found.symm.trans (grows.kept before)
      exact clear.free location member _ before

theorem present_append_singleton : system.Present (front ++ [name]) ↔
    system.Present front ∧ name.utf8ByteSize ≤ nameLimit ∧
      system.nodeAt (target (front ++ [name])) = some .directory := by
  constructor
  · rintro ⟨fit, there⟩
    rw [visits_append_singleton, List.forall_mem_append, List.forall_mem_singleton] at there
    rw [fit_append_singleton] at fit
    exact ⟨⟨fit.1, there.1⟩, fit.2, there.2⟩
  · rintro ⟨⟨fit, there⟩, short, last⟩
    refine ⟨fit_append_singleton.mpr ⟨fit, short⟩, ?_⟩
    rw [visits_append_singleton, List.forall_mem_append, List.forall_mem_singleton]
    exact ⟨there, last⟩

theorem clear_append_singleton : system.Clear (front ++ [name]) ↔
    system.Clear front ∧ name.utf8ByteSize ≤ nameLimit ∧
      ∀ node, system.nodeAt (target (front ++ [name])) = some node → node = .directory := by
  constructor
  · rintro ⟨fit, free⟩
    rw [visits_append_singleton, List.forall_mem_append, List.forall_mem_singleton] at free
    rw [fit_append_singleton] at fit
    exact ⟨⟨fit.1, free.1⟩, fit.2, free.2⟩
  · rintro ⟨⟨fit, free⟩, short, last⟩
    refine ⟨fit_append_singleton.mpr ⟨fit, short⟩, ?_⟩
    rw [visits_append_singleton, List.forall_mem_append, List.forall_mem_singleton]
    exact ⟨free, last⟩

/-- Above a location that was reached there are directories only. -/
theorem Present.prefix (present : system.Present names) :
    ∀ location, location <+: target names → system.nodeAt location = some .directory := by
  induction names using List.reverseRecOn with
  | nil =>
    intro location above
    rw [List.prefix_nil.mp above, nodeAt_root]
  | append_singleton front name inductive_step =>
    obtain ⟨parents, _, last⟩ := present_append_singleton.mp present
    rw [target_append_singleton] at last
    intro location above
    rw [target_append_singleton] at above
    unfold place at above last
    split at above
    · exact inductive_step parents location above
    · split at above
      · exact inductive_step parents location (above.trans (List.dropLast_prefix _))
      · next ordinary upward =>
        rw [if_neg ordinary, if_neg upward] at last
        rcases List.prefix_concat_iff.mp above with rfl | shorter
        · exact last
        · exact inductive_step parents location shorter

/-! ### Walking -/

theorem stepTo_eq (location : Location) (name : String) :
    stepTo location name =
      if name.utf8ByteSize ≤ nameLimit then .ok (place location name) else .error .nameTooLong := by
  rw [stepTo, place]
  by_cases still : name = "" ∨ name = "."
  · have short : name.utf8ByteSize ≤ nameLimit := by
      rcases still with rfl | rfl <;> decide
    rw [if_pos still, if_pos still, if_pos short]
  · by_cases upward : name = ".."
    · have short : name.utf8ByteSize ≤ nameLimit := by
        rw [upward]
        decide
      rw [if_neg still, if_neg still, if_pos upward, if_pos upward, if_pos short]
    · rw [if_neg still, if_neg still, if_neg upward, if_neg upward]
      split
      · next long => rw [if_neg (Nat.not_le.mpr long)]
      · next short => rw [if_pos (Nat.not_lt.mp short)]

theorem walk_append (location : Location) (front back : List String) :
    system.walk location (front ++ back) =
      (system.walk location front).bind fun place => system.walk place back := by
  induction front generalizing location with
  | nil => rfl
  | cons name rest inductive_step =>
    rw [List.cons_append, walk, walk]
    cases system.needDirectory location with
    | error failure => rfl
    | ok _ =>
      cases stepTo location name with
      | error failure => rfl
      | ok next => exact inductive_step next

theorem needDirectory_eq_ok_iff {location : Location} :
    system.needDirectory location = .ok () ↔ system.nodeAt location = some .directory := by
  unfold needDirectory
  split <;> simp_all

/-- The last step of a walk. -/
theorem walk_append_singleton (start : Location) (front : List String) (name : String) :
    system.walk start (front ++ [name]) = (system.walk start front).bind fun location =>
      (system.needDirectory location).bind fun _ => stepTo location name := by
  rw [walk_append]
  congr 1
  funext location
  rw [walk]
  congr 1
  funext _
  cases stepTo location name <;> rfl

theorem walk_of_present (present : system.Present names) :
    system.walk [] names = .ok (target names) := by
  induction names using List.reverseRecOn with
  | nil => rfl
  | append_singleton front name inductive_step =>
    obtain ⟨parents, short, _⟩ := present_append_singleton.mp present
    have parent := parents.there _ (target_mem_visits front)
    rw [walk_append_singleton, inductive_step parents, Except.bind,
      needDirectory_eq_ok_iff.mpr parent, Except.bind, stepTo_eq, if_pos short,
      target_append_singleton]

/-- What the last step of a walk needs. -/
theorem exists_of_walk_append_singleton {location : Location}
    (walked : system.walk [] (front ++ [name]) = .ok location) :
    ∃ parent, system.walk [] front = .ok parent ∧ system.nodeAt parent = some .directory ∧
      name.utf8ByteSize ≤ nameLimit ∧ location = place parent name := by
  rw [walk_append_singleton] at walked
  cases before : system.walk [] front with
  | error failure =>
    rw [before] at walked
    cases walked
  | ok parent =>
    rw [before, Except.bind] at walked
    cases need : system.needDirectory parent with
    | error failure =>
      rw [need] at walked
      cases walked
    | ok _ =>
      rw [need, Except.bind, stepTo_eq] at walked
      split at walked
      · next short =>
        cases walked
        exact ⟨parent, rfl, needDirectory_eq_ok_iff.mp need, short, rfl⟩
      · cases walked

/-- A walk that ends at a directory leads over directories only. -/
theorem present_of_walk {location : Location} (walked : system.walk [] names = .ok location)
    (there : system.nodeAt location = some .directory) :
    system.Present names ∧ location = target names := by
  induction names using List.reverseRecOn generalizing location with
  | nil =>
    cases walked
    exact ⟨.root system, rfl⟩
  | append_singleton front name inductive_step =>
    obtain ⟨parent, before, directory, short, rfl⟩ := exists_of_walk_append_singleton walked
    obtain ⟨parents, rfl⟩ := inductive_step before directory
    rw [present_append_singleton, target_append_singleton]
    exact ⟨⟨parents, short, there⟩, rfl⟩

/-- **A walk succeeds** exactly if all locations before the last are directories. -/
theorem walk_append_singleton_eq_ok_iff {location : Location} :
    system.walk [] (front ++ [name]) = .ok location ↔
      system.Present front ∧ name.utf8ByteSize ≤ nameLimit ∧
        location = target (front ++ [name]) := by
  constructor
  · intro walked
    obtain ⟨parent, before, directory, short, rfl⟩ := exists_of_walk_append_singleton walked
    obtain ⟨parents, rfl⟩ := present_of_walk before directory
    exact ⟨parents, short, (target_append_singleton front name).symm⟩
  · rintro ⟨parents, short, rfl⟩
    rw [walk_append_singleton, walk_of_present parents, Except.bind, needDirectory_eq_ok_iff.mpr,
      Except.bind, stepTo_eq, if_pos short, target_append_singleton]
    exact parents.there _ (target_mem_visits front)

/-- **Along a clear way** a walk can only miss something. -/
theorem walk_of_clear (clear : system.Clear front) (absent : ¬ system.Present front)
    (name : String) : system.walk [] (front ++ [name]) = .error .notFound := by
  induction front using List.reverseRecOn generalizing name with
  | nil => exact absurd (.root system) absent
  | append_singleton front last inductive_step =>
    obtain ⟨before, short, free⟩ := clear_append_singleton.mp clear
    rw [walk_append_singleton]
    by_cases parents : system.Present front
    · have walked : system.walk [] (front ++ [last]) = .ok (target (front ++ [last])) :=
        walk_append_singleton_eq_ok_iff.mpr ⟨parents, short, rfl⟩
      have missing : system.nodeAt (target (front ++ [last])) = none := by
        cases found : system.nodeAt (target (front ++ [last])) with
        | none => rfl
        | some node =>
          cases free node found
          exact absurd (present_append_singleton.mpr ⟨parents, short, found⟩) absent
      rw [walked, Except.bind, needDirectory, missing]
      rfl
    · rw [inductive_step before parents last]
      rfl

theorem isDirectoryAt_iff : system.isDirectoryAt [] names = true ↔ system.Present names := by
  unfold isDirectoryAt
  constructor
  · intro directory
    split at directory
    · next location walked => exact (present_of_walk walked (beq_iff_eq.mp directory)).1
    · cases directory
  · intro present
    rw [walk_of_present present]
    exact beq_iff_eq.mpr (present.there _ (target_mem_visits names))

/-! ### One directory -/

theorem createAt_eq (start : Location) (front : List String) (name : String) :
    system.createAt start front name =
      (system.walk start (front ++ [name])).bind fun location =>
        if name = "." ∨ name = ".." ∨ (system.nodeAt location).isSome then .error .alreadyExists
        else .ok (system.put location .directory) := by
  rw [createAt, walk_append_singleton]
  cases system.walk start front with
  | error failure => rfl
  | ok parent =>
    simp only [Except.bind, bind]
    cases system.needDirectory parent <;> rfl

/-- What was made was not there before. -/
theorem exists_of_createAt {start : Location} {made : FileSystem}
    (created : system.createAt start front name = .ok made) :
    ∃ location, system.walk start (front ++ [name]) = .ok location ∧
      system.nodeAt location = none ∧ made = system.ensureDirectory location := by
  rw [createAt_eq] at created
  cases walked : system.walk start (front ++ [name]) with
  | error failure =>
    rw [walked] at created
    cases created
  | ok location =>
    rw [walked, Except.bind] at created
    split at created
    · cases created
    · next fresh =>
      cases created
      have missing := fun found => fresh (Or.inr (Or.inr found))
      refine ⟨location, rfl, Option.not_isSome_iff_eq_none.mp missing, ?_⟩
      rw [ensureDirectory, if_neg missing]

theorem createNames_eq (start : Location) (front : List String) (visible : name ≠ "")
    (blank : ∀ other ∈ blanks, other = "") :
    system.createNames start (front ++ name :: blanks) = system.createAt start front name := by
  have shape : (front ++ name :: blanks).reverse = blanks.reverse ++ name :: front.reverse := by
    simp
  have cut : (blanks.reverse ++ name :: front.reverse).dropWhile (· = "") =
      name :: front.reverse := by
    rw [List.dropWhile_append_of_pos fun other member =>
      decide_eq_true (blank other (List.mem_reverse.mp member)),
      List.dropWhile_cons_of_neg (by simpa using visible)]
  unfold createNames
  rw [shape, cut]
  simp only [List.reverse_reverse]

/-- Names at the end of which there are empty ones. -/
theorem blank_or_split (names : List String) :
    (∀ name ∈ names, name = "") ∨ ∃ front name blanks, names = front ++ name :: blanks ∧
      name ≠ "" ∧ ∀ blank ∈ blanks, blank = "" := by
  induction names using List.reverseRecOn with
  | nil => exact Or.inl (List.forall_mem_nil _)
  | append_singleton names last inductive_step =>
    by_cases empty : last = ""
    · subst empty
      rcases inductive_step with blank | ⟨front, name, blanks, rfl, visible, blank⟩
      · exact Or.inl (List.forall_mem_append.mpr ⟨blank, List.forall_mem_singleton.mpr rfl⟩)
      · refine Or.inr ⟨front, name, blanks ++ [""], by simp, visible, ?_⟩
        exact List.forall_mem_append.mpr ⟨blank, List.forall_mem_singleton.mpr rfl⟩
    · exact Or.inr ⟨names, last, [], rfl, empty, List.forall_mem_nil _⟩

/-- Empty names at the end do not lead anywhere. -/
theorem present_append_blanks (blank : ∀ other ∈ blanks, other = "") :
    system.Present (names ++ blanks) ↔ system.Present names := by
  induction blanks using List.reverseRecOn with
  | nil => rw [List.append_nil]
  | append_singleton blanks last inductive_step =>
    obtain ⟨before, empty⟩ := List.forall_mem_append.mp blank
    cases List.forall_mem_singleton.mp empty
    rw [← List.append_assoc, present_append_singleton, target_append_singleton,
      inductive_step before]
    refine ⟨And.left, fun present => ⟨present, by decide, ?_⟩⟩
    exact ((inductive_step before).mpr present).there _ (target_mem_visits _)

/-- **Making a directory whose parents are there** along a clear way succeeds. -/
theorem settleCreation_of_present (clear : system.Clear (front ++ [name]))
    (parents : system.Present front) (visible : name ≠ "")
    (blank : ∀ other ∈ blanks, other = "") :
    system.settleCreation [] (front ++ name :: blanks) =
      (.ok (), system.ensureDirectory (target (front ++ [name]))) := by
  obtain ⟨_, short, free⟩ := clear_append_singleton.mp clear
  have walked : system.walk [] (front ++ [name]) = .ok (target (front ++ [name])) :=
    walk_append_singleton_eq_ok_iff.mpr ⟨parents, short, rfl⟩
  rw [settleCreation, createNames_eq [] front visible blank, createAt_eq, walked, Except.bind]
  by_cases there : name = "." ∨ name = ".." ∨
      (system.nodeAt (target (front ++ [name]))).isSome
  · -- a name that only stays or goes up leads to a directory that was passed before
    have directory : system.nodeAt (target (front ++ [name])) = some .directory := by
      have step := target_append_singleton front name
      rcases there with rfl | rfl | found
      · rw [step]
        exact parents.there _ (target_mem_visits front)
      · rw [step]
        exact parents.prefix _ (List.dropLast_prefix _)
      · obtain ⟨node, found⟩ := Option.isSome_iff_exists.mp found
        rw [found, free node found]
    have present : system.Present (front ++ name :: blanks) := by
      rw [List.append_cons, present_append_blanks blank]
      exact present_append_singleton.mpr ⟨parents, short, directory⟩
    rw [if_pos there, ensureDirectory, directory, Option.isSome_some, if_pos rfl]
    exact if_pos (isDirectoryAt_iff.mpr present)
  · rw [if_neg there, ensureDirectory, if_neg fun found => there (Or.inr (Or.inr found))]

/-- **Making a directory whose parents are missing** along a clear way misses them. -/
theorem settleCreation_of_absent (clear : system.Clear (front ++ [name]))
    (absent : ¬ system.Present front) (visible : name ≠ "")
    (blank : ∀ other ∈ blanks, other = "") :
    system.settleCreation [] (front ++ name :: blanks) = (.error .notFound, system) := by
  have absent' : ¬ system.Present (front ++ name :: blanks) := by
    rw [List.append_cons, present_append_blanks blank]
    exact fun present => absent (present_append_singleton.mp present).1
  rw [settleCreation, createNames_eq [] front visible blank, createAt_eq,
    walk_of_clear (clear_append_singleton.mp clear).1 absent name, Except.bind]
  simp only
  rw [if_neg fun directory => absent' (isDirectoryAt_iff.mp directory)]

/-- **A directory is made exactly if** the way is clear and its parents are there. -/
theorem settleCreation_eq_ok_iff (visible : name ≠ "") (blank : ∀ other ∈ blanks, other = "") :
    (system.settleCreation [] (front ++ name :: blanks)).1 = .ok () ↔
      system.Clear (front ++ [name]) ∧ system.Present front := by
  constructor
  · intro settled
    unfold settleCreation at settled
    split at settled
    · next made created =>
      rw [createNames_eq [] front visible blank] at created
      obtain ⟨location, walked, missing, _⟩ := exists_of_createAt created
      obtain ⟨parents, short, rfl⟩ := walk_append_singleton_eq_ok_iff.mp walked
      refine ⟨clear_append_singleton.mpr ⟨parents.clear, short, fun node found => ?_⟩, parents⟩
      cases missing.symm.trans found
    · split at settled
      · next directory =>
        have present := isDirectoryAt_iff.mp directory
        rw [List.append_cons, present_append_blanks blank] at present
        exact ⟨present.clear, (present_append_singleton.mp present).1⟩
      · cases settled
  · rintro ⟨clear, parents⟩
    rw [settleCreation_of_present clear parents visible blank]

/-- Where there is nothing to make the root will do. -/
theorem settleCreation_of_blank (blank : ∀ name ∈ names, name = "") :
    system.settleCreation [] names = (.ok (), system) := by
  have nothing : system.createNames [] names = .error .alreadyExists := by
    have cut : names.reverse.dropWhile (· = "") = [] := by
      rw [← List.append_nil names.reverse, List.dropWhile_append_of_pos fun name member =>
        decide_eq_true (blank name (List.mem_reverse.mp member))]
      rfl
    unfold createNames
    rw [cut]
  have present : system.Present names := by
    have there : system.Present ([] ++ names) ↔ system.Present [] := present_append_blanks blank
    exact there.mpr (.root system)
  rw [settleCreation, nothing]
  exact if_pos (isDirectoryAt_iff.mpr present)

/-- Making a directory adds at most that. -/
theorem grows_settleCreation (system : FileSystem) (start : Location) (names : List String) :
    system.Grows (system.settleCreation start names).2 := by
  unfold settleCreation
  split
  · next made created =>
    unfold createNames at created
    split at created
    · cases created
    · obtain ⟨location, _, _, rfl⟩ := exists_of_createAt created
      exact grows_ensureDirectory system location
  · split <;> exact .refl system

/-! ### Directories with their parents -/

/-- Making parents adds directories only. -/
theorem grows_createParents (system : FileSystem) (start : Location) (names : List String)
    (count : Nat) : system.Grows (system.createParents start names count).2 := by
  induction count with
  | zero => exact .refl system
  | succ count inductive_step =>
    unfold createParents
    split
    · split
      · next made before =>
        rw [before] at inductive_step
        exact inductive_step.trans (grows_settleCreation made start _)
      · exact inductive_step
    · exact grows_settleCreation system start _

/-- The first names of a list are the ones before and the last of them. -/
theorem exists_take_succ {count : Nat} (whole : ∀ name ∈ names, name ≠ "")
    (within : count < names.length) :
    ∃ name, name ≠ "" ∧ names.take (count + 1) = names.take count ++ [name] :=
  ⟨names[count], whole _ (List.getElem_mem within), List.take_succ_eq_append_getElem within⟩

/-- Behind directories one more is made. -/
theorem Present.ensured (clear : system.Clear (front ++ [name])) (parents : system.Present front) :
    (system.ensureDirectory (target (front ++ [name]))).Present (front ++ [name]) := by
  obtain ⟨_, short, free⟩ := clear_append_singleton.mp clear
  refine present_append_singleton.mpr ⟨parents.grow (grows_ensureDirectory system _), short, ?_⟩
  rw [nodeAt_ensureDirectory]
  cases found : system.nodeAt (target (front ++ [name])) with
  | none => exact if_pos ⟨rfl, rfl⟩
  | some node =>
    cases free node found
    exact ite_self _

theorem directory_of_ensured {location : Location}
    (found : (system.ensureDirectory (target names)).nodeAt location = some .directory) :
    system.nodeAt location = some .directory ∨ location ∈ visits [] names := by
  rw [nodeAt_ensureDirectory] at found
  split at found
  · next here => exact Or.inr (here.1 ▸ target_mem_visits names)
  · exact Or.inl found

/-- **Parents are made along a clear way**, and nothing but them. -/
theorem createParents_of_clear {count : Nat} (whole : ∀ name ∈ names, name ≠ "")
    (within : count ≤ names.length) (clear : system.Clear (names.take count)) :
    ∃ made, system.createParents [] names count = (.ok (), made) ∧
      made.Present (names.take count) ∧
      ∀ location, made.nodeAt location = some .directory →
        system.nodeAt location = some .directory ∨ location ∈ visits [] (names.take count) := by
  induction count with
  | zero => exact ⟨system, rfl, .root system, fun location found => Or.inl found⟩
  | succ count inductive_step =>
    obtain ⟨name, visible, next⟩ := exists_take_succ whole within
    have last : ∀ {middle : FileSystem}, middle.Clear (names.take count ++ [name]) →
        middle.Present (names.take count) →
        middle.settleCreation [] (names.take count ++ [name]) =
          (.ok (), middle.ensureDirectory (target (names.take count ++ [name]))) :=
      fun clear parents =>
        settleCreation_of_present clear parents visible (List.forall_mem_nil _)
    rw [createParents, next]
    rw [next] at clear
    by_cases parents : system.Present (names.take count)
    · rw [last clear parents]
      exact ⟨_, rfl, parents.ensured clear, fun location => directory_of_ensured⟩
    · obtain ⟨made, before, there, origin⟩ := inductive_step (Nat.le_of_succ_le within)
        (clear_append_singleton.mp clear).1
      have further : made.Clear (names.take count ++ [name]) := by
        have grows := grows_createParents system [] names count
        rw [before] at grows
        exact grows.clear_iff.mpr clear
      rw [settleCreation_of_absent clear parents visible (List.forall_mem_nil _)]
      simp only [before]
      rw [last further there]
      refine ⟨_, rfl, there.ensured further, fun location found => ?_⟩
      rcases directory_of_ensured found with earlier | here
      · rcases origin location earlier with earlier | above
        · exact Or.inl earlier
        · rw [visits_append_singleton]
          exact Or.inr (List.mem_append_left _ above)
      · exact Or.inr here

/-- Where parents are made the way is clear. -/
theorem clear_of_createParents {count : Nat} (whole : ∀ name ∈ names, name ≠ "")
    (within : count ≤ names.length)
    (made : (system.createParents [] names count).1 = .ok ()) :
    system.Clear (names.take count) := by
  cases count with
  | zero => exact (Present.root system).clear
  | succ count =>
    obtain ⟨name, visible, next⟩ := exists_take_succ whole within
    have exactly : ∀ {middle : FileSystem},
        (middle.settleCreation [] (names.take (count + 1))).1 = .ok () →
        middle.Clear (names.take (count + 1)) := by
      intro middle settled
      rw [next] at settled ⊢
      exact ((settleCreation_eq_ok_iff visible (List.forall_mem_nil _)).mp settled).1
    unfold createParents at made
    split at made
    · split at made
      · next middle before =>
        have grows := grows_createParents system [] names count
        rw [before] at grows
        exact grows.clear_iff.mp (exactly made)
      · next other => exact (other _ (Prod.ext made rfl)).elim
    · exact exactly made

theorem properNames_ne_empty {path name : String} (member : name ∈ properNames path) :
    name ≠ "" := by
  rw [properNames, List.mem_filter, decide_eq_true_eq] at member
  exact member.2.1

/-- **Whatever comes of it**, making a directory with all its parents adds directories only. -/
theorem grows_createDirectories (system : FileSystem) (path : String) :
    system.Grows (system.createDirectories path).2 := by
  unfold createDirectories
  split
  · exact .refl system
  · simp only
    split
    · have parents := grows_createParents system (system.start path) (properNames path)
        ((properNames path).length - 1)
      split
      · next made before =>
        rw [before] at parents
        exact parents.trans (grows_settleCreation made _ _)
      · exact parents
    · exact grows_settleCreation system _ _

/-- The names of a path that count, but for the last. -/
def parentNames (path : String) : List String :=
  (properNames path).take ((properNames path).length - 1)

/-- A directory with all its parents, on a path with something to make. -/
theorem createDirectories_eq {path : String} (absolute : isAbsolute path = true)
    (checked : checkPath path = .ok ()) :
    system.createDirectories path =
      match system.settleCreation [] (FileSystem.names path) with
      | (.error .notFound, _) =>
        match system.createParents [] (properNames path) ((properNames path).length - 1) with
        | (.ok (), made) => made.settleCreation [] (FileSystem.names path)
        | failed => failed
      | settled => settled := by
  have top : system.start path = [] := if_pos absolute
  rw [createDirectories, checked]
  exact top ▸ rfl

/-- Once parents are made and nothing else, what was there and the parents are there. -/
theorem Grows.present_iff {made : FileSystem} {parents : List String} (grows : system.Grows made)
    (there : made.Present parents)
    (origin : ∀ location, made.nodeAt location = some .directory →
      system.nodeAt location = some .directory ∨ location ∈ visits [] parents)
    (clear : system.Clear front) :
    made.Present front ↔ ∀ location ∈ visits [] front,
      system.nodeAt location = some .directory ∨ location ∈ visits [] parents := by
  constructor
  · exact fun reached location member => origin location (reached.there location member)
  · refine fun reached => ⟨clear.fit, fun location member => ?_⟩
    rcases reached location member with earlier | above
    · exact grows.kept earlier
    · exact there.there location above

/-- **A directory is made with all its parents exactly if** the way is clear and either its parents
are there, or those that count can be made and the others are there then. -/
theorem createDirectories_eq_ok_iff {path : String} (absolute : isAbsolute path = true)
    (checked : checkPath path = .ok ()) (shape : FileSystem.names path = front ++ name :: blanks)
    (visible : name ≠ "") (blank : ∀ other ∈ blanks, other = "") :
    (system.createDirectories path).1 = .ok () ↔
      system.Clear (front ++ [name]) ∧
        (system.Present front ∨ system.Clear (parentNames path) ∧
          ∀ location ∈ visits [] front, system.nodeAt location = some .directory ∨
            location ∈ visits [] (parentNames path)) := by
  have whole : ∀ other ∈ properNames path, other ≠ "" := fun _ => properNames_ne_empty
  have within := Nat.sub_le (properNames path).length 1
  rw [createDirectories_eq absolute checked, shape]
  by_cases clear : system.Clear (front ++ [name])
  · by_cases parents : system.Present front
    · rw [settleCreation_of_present clear parents visible blank]
      exact ⟨fun _ => ⟨clear, Or.inl parents⟩, fun _ => rfl⟩
    · rw [settleCreation_of_absent clear parents visible blank]
      by_cases free : system.Clear (parentNames path)
      · obtain ⟨made, before, there, origin⟩ := createParents_of_clear whole within free
        have grows := grows_createParents system [] (properNames path)
          ((properNames path).length - 1)
        rw [before] at grows
        simp only [before]
        rw [settleCreation_eq_ok_iff visible blank, grows.clear_iff,
          grows.present_iff there origin (clear_append_singleton.mp clear).1]
        simp only [parents, free, false_or, true_and]
        exact Iff.rfl
      · constructor
        · intro made
          refine absurd (clear_of_createParents whole within ?_) free
          simp only at made
          split at made
          · next middle before => rw [before]
          · exact made
        · rintro ⟨_, reached | ⟨able, _⟩⟩
          · exact absurd reached parents
          · exact absurd able free
  · refine ⟨fun made => absurd ?_ clear, fun both => absurd both.1 clear⟩
    split at made
    · split at made
      · next middle before =>
        have grows := grows_createParents system [] (properNames path)
          ((properNames path).length - 1)
        rw [before] at grows
        exact grows.clear_iff.mp ((settleCreation_eq_ok_iff visible blank).mp made).1
      · next other => exact (other _ (Prod.ext made rfl)).elim
    · exact ((settleCreation_eq_ok_iff visible blank).mp made).1

/-- **What can be made can be made in a larger tree.** -/
theorem createDirectories_of_grows {path : String} (absolute : isAbsolute path = true)
    (grows : system.Grows larger) (made : (system.createDirectories path).1 = .ok ()) :
    (larger.createDirectories path).1 = .ok () := by
  have checked : checkPath path = .ok () := by
    unfold createDirectories at made
    split at made
    · cases made
    · assumption
  rcases blank_or_split (FileSystem.names path) with
    nothing | ⟨front, name, blanks, shape, visible, blank⟩
  · rw [createDirectories_eq absolute checked, settleCreation_of_blank nothing]
  · rw [createDirectories_eq_ok_iff absolute checked shape visible blank] at made ⊢
    obtain ⟨clear, parents⟩ := made
    refine ⟨grows.clear_iff.mpr clear, ?_⟩
    rcases parents with there | ⟨free, reached⟩
    · exact Or.inl (there.grow grows)
    · exact Or.inr ⟨grows.clear_iff.mpr free, fun location member =>
        (reached location member).imp_left grows.kept⟩

end InstanceHost.FileSystem
