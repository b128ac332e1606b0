/-
**Entries in the order of their names.**

Item trees, configuration objects and extension registries hold their entries by name, in the order
of the names' code points. Reading and writing walk the list up to the place of the name, so their
laws hold for every list of entries; `Ascending` says that the list is in order, which every
operation keeps.

* `lookup_insert_self`, `lookup_insert_of_ne`: a written name is read back, every other name is as
  it was;
* `insert_insert_self`, `insert_comm`, `insert_lookup`: the last write of a name counts, writes of
  two names commute, and writing what is there changes nothing;
* `ascending_insert`, `ascending_erase`: the order of names is kept;
* `lookup_erase_self`, `lookup_erase_of_ne`: in order, a name that is taken out is gone, and every
  other name is as it was;
* `contains_iff_mem_names`: in order, the names that are present are those that are listed;
* `insert_erase`: in order, a name need not be taken out before it is written;
* `perm_erase`, `insert_perm`: whatever the order, one entry goes or comes.
-/

namespace InstanceHost

/-- Entries by name. -/
abbrev Keyed (α : Type) := List (String × α)

namespace Keyed

variable {α : Type}

/-- The value under a name. -/
def lookup (name : String) : Keyed α → Option α
  | [] => none
  | (key, value) :: rest =>
    if name = key then some value
    else if name < key then none
    else lookup name rest

/-- Writes a value under a name, in the place of the value that was there. -/
def insert (name : String) (value : α) : Keyed α → Keyed α
  | [] => [(name, value)]
  | (key, old) :: rest =>
    if name = key then (name, value) :: rest
    else if name < key then (name, value) :: (key, old) :: rest
    else (key, old) :: insert name value rest

/-- Takes a name out. -/
def erase (name : String) : Keyed α → Keyed α
  | [] => []
  | (key, old) :: rest =>
    if name = key then rest
    else if name < key then (key, old) :: rest
    else (key, old) :: erase name rest

/-- The names, in their order. -/
def names (entries : Keyed α) : List String :=
  entries.map (·.1)

/-- Whether a name is present. -/
def contains (name : String) (entries : Keyed α) : Bool :=
  (lookup name entries).isSome

/-- The names increase strictly. -/
def Ascending (entries : Keyed α) : Prop :=
  (names entries).Pairwise (· < ·)

/-! ### The order of names -/

/-- Of two different names one comes first. -/
theorem lt_of_not_lt_of_ne {first second : String} (different : first ≠ second)
    (notBefore : ¬ first < second) : second < first := by
  apply Classical.byContradiction
  intro notAfter
  exact different (String.le_antisymm (String.not_lt.mp notAfter) (String.not_lt.mp notBefore))

/-- A name that comes first is not the other. -/
theorem ne_of_lt {first second : String} (before : first < second) : first ≠ second :=
  fun same => String.lt_irrefl _ (same ▸ before)

/-! ### Reading after writing -/

/-- **A written name is read back.** -/
@[simp]
theorem lookup_insert_self (name : String) (value : α) (entries : Keyed α) :
    lookup name (insert name value entries) = some value := by
  induction entries with
  | nil => simp [insert, lookup]
  | cons entry rest inductive_step =>
    obtain ⟨key, old⟩ := entry
    simp only [insert]
    split
    · simp [lookup]
    · next different =>
      split
      · simp [lookup]
      · next notBefore => simp [lookup, different, notBefore, inductive_step]

/-- **Every other name is as it was.** -/
theorem lookup_insert_of_ne {name other : String} (different : other ≠ name) (value : α)
    (entries : Keyed α) : lookup other (insert name value entries) = lookup other entries := by
  induction entries with
  | nil => simp [insert, lookup, different]
  | cons entry rest inductive_step =>
    obtain ⟨key, old⟩ := entry
    simp only [insert]
    split
    · next same =>
      subst same
      simp [lookup, different]
    · next unequal =>
      split
      · next before =>
        simp only [lookup, different, if_false]
        split
        · next earlier =>
          have first : other < key := String.lt_trans earlier before
          have apart : other ≠ key := fun same => String.lt_irrefl _ (same ▸ first)
          simp [apart, first]
        · rfl
      · simp only [lookup, inductive_step]

/-! ### Writing after writing -/

/-- **The last write of a name counts.** -/
@[simp]
theorem insert_insert_self (name : String) (first second : α) (entries : Keyed α) :
    insert name second (insert name first entries) = insert name second entries := by
  induction entries with
  | nil => simp [insert]
  | cons entry rest inductive_step =>
    obtain ⟨key, old⟩ := entry
    by_cases same : name = key
    · simp [insert, same]
    · by_cases before : name < key <;> simp [insert, same, before, inductive_step]

/-- **Writing what is there changes nothing.** -/
theorem insert_lookup {name : String} {value : α} {entries : Keyed α}
    (present : lookup name entries = some value) : insert name value entries = entries := by
  induction entries with
  | nil => simp [lookup] at present
  | cons entry rest inductive_step =>
    obtain ⟨key, old⟩ := entry
    simp only [lookup] at present
    split at present
    · next same => simp_all [insert]
    · next different =>
      split at present
      · cases present
      · next notBefore => simp [insert, different, notBefore, inductive_step present]

/-- **Writes of two names commute.** -/
theorem insert_comm {first second : String} (different : first ≠ second) (value other : α)
    (entries : Keyed α) :
    insert first value (insert second other entries) =
      insert second other (insert first value entries) := by
  induction entries with
  | nil =>
    by_cases before : first < second
    · have notAfter : ¬ second < first := fun after => String.lt_asymm before after
      simp [insert, different, different.symm, before, notAfter]
    · have after := lt_of_not_lt_of_ne different before
      simp [insert, different, different.symm, before, after]
  | cons entry rest inductive_step =>
    obtain ⟨key, old⟩ := entry
    by_cases firstSame : first = key
    · subst firstSame
      by_cases before : second < first
      · have notAfter : ¬ first < second := fun after => String.lt_asymm before after
        simp [insert, different, different.symm, before, notAfter]
      · simp [insert, different.symm, before]
    · by_cases secondSame : second = key
      · subst secondSame
        by_cases before : first < second
        · have notAfter : ¬ second < first := fun after => String.lt_asymm before after
          simp [insert, different, different.symm, before, notAfter]
        · simp [insert, different, before]
      · by_cases firstBefore : first < key
        · by_cases secondBefore : second < key
          · by_cases before : first < second
            · have notAfter : ¬ second < first := fun after => String.lt_asymm before after
              simp [insert, firstSame, secondSame, firstBefore, secondBefore, different,
                different.symm, before, notAfter]
            · have after := lt_of_not_lt_of_ne different before
              simp [insert, firstSame, secondSame, firstBefore, secondBefore, different,
                different.symm, before, after]
          · have keyBefore := lt_of_not_lt_of_ne secondSame secondBefore
            have before : first < second := String.lt_trans firstBefore keyBefore
            have notAfter : ¬ second < first := fun after => String.lt_asymm before after
            simp [insert, firstSame, secondSame, firstBefore, secondBefore, different.symm,
              notAfter]
        · by_cases secondBefore : second < key
          · have keyBefore := lt_of_not_lt_of_ne firstSame firstBefore
            have before : second < first := String.lt_trans secondBefore keyBefore
            have notAfter : ¬ first < second := fun after => String.lt_asymm before after
            simp [insert, firstSame, secondSame, firstBefore, secondBefore, different, notAfter]
          · simp [insert, firstSame, secondSame, firstBefore, secondBefore, inductive_step]

/-! ### The order is kept -/

/-- The names after a write. -/
theorem mem_names_insert {name other : String} {value : α} {entries : Keyed α} :
    other ∈ names (insert name value entries) ↔ other = name ∨ other ∈ names entries := by
  induction entries with
  | nil => simp [insert, names]
  | cons entry rest inductive_step =>
    obtain ⟨key, old⟩ := entry
    simp only [names] at inductive_step
    simp only [insert]
    split
    · next same =>
      subst same
      simp [names]
    · split
      · simp [names]
      · simp only [names, List.map_cons, List.mem_cons, inductive_step]
        constructor
        · rintro (here | here | here)
          · exact Or.inr (Or.inl here)
          · exact Or.inl here
          · exact Or.inr (Or.inr here)
        · rintro (here | here | here)
          · exact Or.inr (Or.inl here)
          · exact Or.inl here
          · exact Or.inr (Or.inr here)

/-- A write keeps the order. -/
theorem ascending_insert {name : String} {value : α} {entries : Keyed α}
    (ordered : Ascending entries) : Ascending (insert name value entries) := by
  induction entries with
  | nil => simp [insert, Ascending, names]
  | cons entry rest inductive_step =>
    obtain ⟨key, old⟩ := entry
    have parts := List.pairwise_cons.mp ordered
    simp only [insert]
    split
    · next same =>
      subst same
      exact List.pairwise_cons.mpr parts
    · next different =>
      split
      · next before =>
        refine List.pairwise_cons.mpr ⟨?_, ordered⟩
        intro other member
        rcases List.mem_cons.mp member with same | later
        · exact same ▸ before
        · exact String.lt_trans before (parts.1 other later)
      · next notBefore =>
        refine List.pairwise_cons.mpr ⟨?_, inductive_step parts.2⟩
        intro other member
        rcases mem_names_insert.mp member with same | later
        · exact same ▸ lt_of_not_lt_of_ne different notBefore
        · exact parts.1 other later

/-- Taking a name out leaves a sublist. -/
theorem erase_sublist (name : String) (entries : Keyed α) :
    (erase name entries).Sublist entries := by
  induction entries with
  | nil => exact List.Sublist.refl _
  | cons entry rest inductive_step =>
    obtain ⟨key, old⟩ := entry
    simp only [erase]
    split
    · exact List.sublist_cons_self _ _
    · split
      · exact List.Sublist.refl _
      · exact inductive_step.cons_cons _

/-- Taking a name out keeps the order. -/
theorem ascending_erase {name : String} {entries : Keyed α} (ordered : Ascending entries) :
    Ascending (erase name entries) :=
  List.Pairwise.sublist ((erase_sublist name entries).map _) ordered

/-! ### Reading after taking out -/

/-- A name before all others is not there. -/
theorem lookup_eq_none_of_lt {name : String} {entries : Keyed α}
    (before : ∀ other ∈ names entries, name < other) : lookup name entries = none := by
  cases entries with
  | nil => rfl
  | cons entry rest =>
    obtain ⟨key, old⟩ := entry
    have first : name < key := before key List.mem_cons_self
    rw [lookup, if_neg (ne_of_lt first), if_pos first]

/-- **The names that are present are those that are listed.** -/
theorem contains_iff_mem_names {name : String} {entries : Keyed α} (ordered : Ascending entries) :
    contains name entries = true ↔ name ∈ names entries := by
  induction entries with
  | nil => simp [contains, lookup, names]
  | cons entry rest inductive_step =>
    obtain ⟨key, value⟩ := entry
    obtain ⟨first, later⟩ := List.pairwise_cons.mp ordered
    show (lookup name ((key, value) :: rest)).isSome = true ↔ name ∈ key :: names rest
    rw [lookup, List.mem_cons]
    by_cases same : name = key
    · simp [same]
    · rw [if_neg same]
      by_cases before : name < key
      · have absent : name ∉ names rest :=
          fun there => String.lt_irrefl name (String.lt_trans before (first name there))
        simp [before, same, absent]
      · have listed := inductive_step later
        rw [contains] at listed
        rw [if_neg before, listed]
        simp [same]

/-- **A name that was taken out is gone.** -/
theorem lookup_erase_self {name : String} {entries : Keyed α} (ordered : Ascending entries) :
    lookup name (erase name entries) = none := by
  induction entries with
  | nil => rfl
  | cons entry rest inductive_step =>
    obtain ⟨key, old⟩ := entry
    have parts := List.pairwise_cons.mp ordered
    simp only [erase]
    split
    · next same =>
      subst same
      exact lookup_eq_none_of_lt parts.1
    · next different =>
      split
      · next before => rw [lookup, if_neg different, if_pos before]
      · next notBefore =>
        rw [lookup, if_neg different, if_neg notBefore]
        exact inductive_step parts.2

/-- **Every other name stays as it was.** -/
theorem lookup_erase_of_ne {name other : String} {entries : Keyed α} (different : other ≠ name)
    (ordered : Ascending entries) : lookup other (erase name entries) = lookup other entries := by
  induction entries with
  | nil => rfl
  | cons entry rest inductive_step =>
    obtain ⟨key, old⟩ := entry
    have parts := List.pairwise_cons.mp ordered
    simp only [erase]
    split
    · next same =>
      subst same
      rw [lookup, if_neg different]
      split
      · next before =>
        exact lookup_eq_none_of_lt fun later member => String.lt_trans before (parts.1 later member)
      · rfl
    · split
      · rfl
      · rw [lookup, lookup, inductive_step parts.2]

/-! ### Entries as a list -/

/-- A name that is not there leaves nothing to take out. -/
theorem erase_of_lookup_eq_none {name : String} {entries : Keyed α}
    (absent : lookup name entries = none) : erase name entries = entries := by
  induction entries with
  | nil => rfl
  | cons entry rest inductive_step =>
    obtain ⟨key, old⟩ := entry
    simp only [lookup] at absent
    split at absent
    · cases absent
    · next different =>
      split at absent
      · next before => simp [erase, different, before]
      · next notBefore => simp [erase, different, notBefore, inductive_step absent]

/-- Taking a name out takes one entry out. -/
theorem perm_erase {name : String} {value : α} {entries : Keyed α}
    (present : lookup name entries = some value) :
    entries.Perm ((name, value) :: erase name entries) := by
  induction entries with
  | nil => cases present
  | cons entry rest inductive_step =>
    obtain ⟨key, old⟩ := entry
    simp only [lookup] at present
    split at present
    · next same =>
      cases present
      subst same
      simp [erase]
    · next different =>
      split at present
      · cases present
      · next notBefore =>
        rw [erase, if_neg different, if_neg notBefore]
        exact (List.Perm.cons _ (inductive_step present)).trans (List.Perm.swap _ _ _)

/-- A name before all others is written in front of them. -/
theorem insert_of_lt {name : String} {entries : Keyed α}
    (before : ∀ other ∈ names entries, name < other) (value : α) :
    insert name value entries = (name, value) :: entries := by
  cases entries with
  | nil => rfl
  | cons entry rest =>
    obtain ⟨key, old⟩ := entry
    have first : name < key := before key List.mem_cons_self
    rw [insert, if_neg (ne_of_lt first), if_pos first]

/-- **A name need not be taken out before it is written.** -/
theorem insert_erase {name : String} {entries : Keyed α} (ordered : Ascending entries)
    (value : α) : insert name value (erase name entries) = insert name value entries := by
  induction entries with
  | nil => rfl
  | cons entry rest inductive_step =>
    obtain ⟨key, old⟩ := entry
    have parts := List.pairwise_cons.mp ordered
    simp only [erase]
    split
    · next same =>
      subst same
      rw [insert_of_lt parts.1, insert, if_pos rfl]
    · next different =>
      split
      · rfl
      · next notBefore =>
        rw [insert, if_neg different, if_neg notBefore, insert, if_neg different,
          if_neg notBefore, inductive_step parts.2]

/-- A name need not be written before it is taken out. -/
theorem erase_insert (name : String) (value : α) (entries : Keyed α) :
    erase name (insert name value entries) = erase name entries := by
  induction entries with
  | nil => simp [insert, erase]
  | cons entry rest inductive_step =>
    obtain ⟨key, old⟩ := entry
    by_cases same : name = key
    · simp [insert, erase, same]
    · by_cases before : name < key <;> simp [insert, erase, same, before, inductive_step]

/-- Writing a name is taking it out and adding an entry. -/
theorem insert_perm (name : String) (value : α) (entries : Keyed α) :
    (insert name value entries).Perm ((name, value) :: erase name entries) := by
  induction entries with
  | nil => exact List.Perm.refl _
  | cons entry rest inductive_step =>
    obtain ⟨key, old⟩ := entry
    simp only [insert, erase]
    split
    · exact List.Perm.refl _
    · split
      · exact List.Perm.refl _
      · exact (List.Perm.cons _ inductive_step).trans (List.Perm.swap _ _ _)

end Keyed

end InstanceHost
