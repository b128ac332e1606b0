/-
**A written value is read back, up to the limit on containers.**

The reader takes the compact form of a value from the front of a text. With a budget of containers
no smaller than the depth of the value it answers the value itself, and with a smaller one it says
that too many containers are open; there is no third case.

* `Reads`, `Fails`: what a reader makes of the compact form of a value, whatever follows;
* `readItems_cons`, `readEntries_cons`: one item or member, and the ones behind it;
* `reads_readValue`, `fails_readValue`: the two cases, by induction on the budget;
* `readWhole_compact`, `readWhole_compact_of_lt`: whole texts.

Two conditions carry the first case. The numbers are integers, which are written exactly. The keys
of every object increase, so that writing the members in the order of the text puts each at the end.
-/

import InstanceHost.Proofs.Json.Scalar

namespace InstanceHost

/-! ### Entries in order -/

namespace Keyed

variable {α : Type}

/-- A name behind all others is written at the end. -/
theorem insert_of_forall_lt {name : String} {value : α} {entries : Keyed α}
    (last : ∀ other ∈ names entries, other < name) :
    insert name value entries = entries ++ [(name, value)] := by
  induction entries with
  | nil => rfl
  | cons entry rest inductive_step =>
    obtain ⟨key, old⟩ := entry
    have before : key < name := last key List.mem_cons_self
    rw [insert, if_neg (ne_of_lt before).symm, if_neg (String.lt_asymm before),
      inductive_step fun other member => last other (List.mem_cons_of_mem _ member)]
    rfl

/-- Writing entries one after the other in the order of their names lines them up. -/
theorem foldl_insert_of_ascending (entries : Keyed α) (earlier : Keyed α)
    (ascending : Ascending (earlier ++ entries)) :
    entries.foldl (fun done entry => done.insert entry.1 entry.2) earlier = earlier ++ entries := by
  induction entries generalizing earlier with
  | nil => exact (List.append_nil _).symm
  | cons entry rest inductive_step =>
    obtain ⟨key, value⟩ := entry
    have last : ∀ other ∈ names earlier, other < key := by
      intro other member
      unfold Ascending names at ascending
      rw [List.map_append] at ascending
      exact (List.pairwise_append.mp ascending).2.2 other member key List.mem_cons_self
    have next : earlier.insert key value = earlier ++ [(key, value)] := insert_of_forall_lt last
    rw [List.foldl_cons, next, inductive_step _ (by rwa [List.append_assoc]), List.append_assoc]
    rfl

end Keyed

namespace Json

/-! ### What a reader makes of a value -/

/-- A reader of values, such as `readValue` with a budget. -/
abbrev Element := List Char → Except Fault (Json × List Char)

/-- **A reader answers a value** when it meets its compact form. -/
def Reads (element : Element) (value : Json) : Prop :=
  ∀ tail, Delimited tail → element (compact value ++ tail) = .ok (value, tail)

/-- **A reader runs out of containers** when it meets the compact form of a value. -/
def Fails (element : Element) (value : Json) : Prop :=
  ∀ tail, Delimited tail → ∃ fault, element (compact value ++ tail) = .error fault ∧
    fault.cause = .tooDeep

theorem Reads.not_fails {element : Element} {value : Json} (reads : Reads element value) :
    ¬ Fails element value := by
  intro fails
  obtain ⟨fault, refused, _⟩ := fails [] trivial
  rw [reads [] trivial] at refused
  cases refused

theorem ok_bind {α β : Type} (value : α) (next : α → Except Fault β) :
    (Except.ok value >>= next) = next value := rfl

theorem error_bind {α β : Type} (fault : Fault) (next : α → Except Fault β) :
    (Except.error fault >>= next) = .error fault := rfl

/-- The compact form starts with a character that no reader skips and that closes nothing. -/
def Visible (value : Json) : Prop :=
  ∃ first others, compact value = first :: others ∧ isSpacing first = false ∧ first ≠ ']'

theorem skipSpacing_cons {character : Char} (visible : isSpacing character = false)
    (rest : List Char) : skipSpacing (character :: rest) = character :: rest := by
  rw [skipSpacing, List.dropWhile_cons, visible]
  rfl

theorem Visible.skipSpacing {value : Json} (visible : Visible value) (tail : List Char) :
    skipSpacing (compact value ++ tail) = compact value ++ tail := by
  obtain ⟨first, others, shape, plain, _⟩ := visible
  rw [shape, List.cons_append, skipSpacing_cons plain]

theorem delimited_compactItems (rest : List Json) (tail : List Char) :
    Delimited (compactItems rest ++ tail) := by
  cases rest with
  | nil => exact Or.inr (Or.inl rfl)
  | cons item others => exact Or.inl rfl

theorem delimited_compactEntries (rest : List (String × Json)) (tail : List Char) :
    Delimited (compactEntries rest ++ tail) := by
  cases rest with
  | nil => exact Or.inr (Or.inr rfl)
  | cons entry others => exact Or.inl rfl

theorem isSpacing_of_isDigit {character : Char} (digit : character.isDigit = true) :
    isSpacing character = false := by
  have apart : ∀ other : Char, other.isDigit = false → (character == other) = false :=
    fun other plain => beq_eq_false_iff_ne.mpr (ne_of_isDigit digit plain)
  rw [isSpacing, apart ' ' (by decide), apart '\t' (by decide), apart '\n' (by decide),
    apart '\r' (by decide)]
  rfl

theorem visible_of_integral {value : Json} (integral : value.Integral) : Visible value := by
  cases value with
  | null => exact ⟨_, _, rfl, by decide, by decide⟩
  | bool truth => cases truth <;> exact ⟨_, _, rfl, by decide, by decide⟩
  | number number =>
    cases number with
    | binary value => exact integral.elim
    | integer value inRange =>
      have ends : Delimited [] := trivial
      obtain ⟨first, others, shape, start, _⟩ := readScalar_integer inRange ends
      refine ⟨first, others, shape, ?_⟩
      rcases start with rfl | digit
      · exact ⟨by decide, by decide⟩
      · exact ⟨isSpacing_of_isDigit digit, ne_of_isDigit digit (by decide)⟩
  | string content => exact ⟨_, _, rfl, by decide, by decide⟩
  | array items =>
    cases items with
    | nil => exact ⟨_, _, rfl, by decide, by decide⟩
    | cons item rest => exact ⟨_, _, rfl, by decide, by decide⟩
  | object entries =>
    cases entries with
    | nil => exact ⟨_, _, rfl, by decide, by decide⟩
    | cons entry rest => exact ⟨_, _, rfl, by decide, by decide⟩

/-! ### Items -/

section Items

variable {element : Element} {item second : Json} {rest : List Json} {tail : List Char}

/-- The last item of an array. -/
theorem readItems_last (reads : Reads element item) (bound : Nat) :
    readItems element (bound + 1) (compact item ++ (compactItems [] ++ tail)) =
      .ok ([item], tail) := by
  rw [readItems, reads _ (delimited_compactItems [] tail)]
  rfl

/-- An item of an array with another one behind it. -/
theorem readItems_cons (reads : Reads element item) (visible : Visible second) (bound : Nat) :
    readItems element (bound + 1) (compact item ++ (compactItems (second :: rest) ++ tail)) =
      (do
        let (others, rest) ← readItems element bound (compact second ++ (compactItems rest ++ tail))
        return (item :: others, rest)) := by
  have comma : skipSpacing (compactItems (second :: rest) ++ tail) =
      ',' :: (compact second ++ (compactItems rest ++ tail)) := by
    rw [compactItems, List.append_assoc, List.cons_append]
    exact skipSpacing_cons (by decide) _
  have start := visible.skipSpacing (compactItems rest ++ tail)
  rw [readItems, reads _ (delimited_compactItems _ tail)]
  simp only [ok_bind, comma, start]
  obtain ⟨first, others, shape, _, apart⟩ := visible
  simp only [shape, List.cons_append]
  split
  · next impossible => cases impossible
  · next impossible => cases impossible; exact absurd rfl apart
  · rfl

/-- **The items of an array** are read one after the other. -/
theorem readItems_compact (bound : Nat) (enough : rest.length < bound)
    (reads : ∀ value ∈ item :: rest, Reads element value)
    (visible : ∀ value ∈ rest, Visible value) :
    readItems element bound (compact item ++ (compactItems rest ++ tail)) =
      .ok (item :: rest, tail) := by
  induction rest generalizing item bound with
  | nil =>
    obtain ⟨bound, rfl⟩ := Nat.exists_eq_add_one.mpr (Nat.zero_lt_of_lt enough)
    exact readItems_last (reads item List.mem_cons_self) bound
  | cons second others inductive_step =>
    obtain ⟨bound, rfl⟩ := Nat.exists_eq_add_one.mpr (Nat.zero_lt_of_lt enough)
    have behind := inductive_step bound (Nat.lt_of_succ_lt_succ enough)
      (fun value member => reads value (List.mem_cons_of_mem _ member))
      (fun value member => visible value (List.mem_cons_of_mem _ member))
    rw [readItems_cons (reads item List.mem_cons_self) (visible second List.mem_cons_self), behind]
    rfl

theorem readItems_of_fails (fails : Fails element item) (bound : Nat) :
    ∃ fault, readItems element (bound + 1) (compact item ++ (compactItems rest ++ tail)) =
      .error fault ∧ fault.cause = .tooDeep := by
  obtain ⟨fault, refused, cause⟩ := fails _ (delimited_compactItems rest tail)
  refine ⟨fault, ?_, cause⟩
  rw [readItems, refused, error_bind]

/-- The first item with too many containers ends the reading. -/
theorem readItems_fails (tail : List Char) (bound : Nat) (enough : rest.length < bound)
    (either : ∀ value ∈ item :: rest, Reads element value ∨ Fails element value)
    (visible : ∀ value ∈ rest, Visible value)
    (fails : ∃ value ∈ item :: rest, Fails element value) :
    ∃ fault, readItems element bound (compact item ++ (compactItems rest ++ tail)) =
      .error fault ∧ fault.cause = .tooDeep := by
  obtain ⟨value, member, failing⟩ := fails
  induction rest generalizing item bound with
  | nil =>
    obtain ⟨bound, rfl⟩ := Nat.exists_eq_add_one.mpr (Nat.zero_lt_of_lt enough)
    rw [List.mem_singleton.mp member] at failing
    exact readItems_of_fails failing bound
  | cons second others inductive_step =>
    obtain ⟨bound, rfl⟩ := Nat.exists_eq_add_one.mpr (Nat.zero_lt_of_lt enough)
    rcases either item List.mem_cons_self with reads | here
    · rcases List.mem_cons.mp member with rfl | later
      · exact absurd failing reads.not_fails
      · obtain ⟨fault, refused, cause⟩ := inductive_step bound (Nat.lt_of_succ_lt_succ enough)
          (fun other there => either other (List.mem_cons_of_mem _ there))
          (fun other there => visible other (List.mem_cons_of_mem _ there)) later
        refine ⟨fault, ?_, cause⟩
        rw [readItems_cons reads (visible second List.mem_cons_self), refused, error_bind]
    · exact readItems_of_fails here bound

end Items

/-! ### Members -/

/-- A member behind the opening mark of its key. -/
def memberText (entry : String × Json) : List Char :=
  entry.1.toList.flatMap escaped ++ '"' :: ':' :: compact entry.2

theorem compact_object_cons (entry : String × Json) (rest : List (String × Json)) :
    compact (.object (entry :: rest)) =
      '\x7b' :: '"' :: (memberText entry ++ compactEntries rest) := by
  obtain ⟨key, value⟩ := entry
  simp [compact, quoted, memberText]

theorem compactEntries_cons (entry : String × Json) (rest : List (String × Json)) :
    compactEntries (entry :: rest) = ',' :: '"' :: (memberText entry ++ compactEntries rest) := by
  obtain ⟨key, value⟩ := entry
  simp [compactEntries, quoted, memberText]

section Entries

variable {element : Element} {entry second : String × Json} {rest : List (String × Json)}
  {tail : List Char}

theorem readMember_eq (entry : String × Json) (tail : List Char) :
    readMember element (memberText entry ++ tail) =
      (do
        let (value, rest) ← element (compact entry.2 ++ tail)
        return ((entry.1, value), rest)) := by
  have shape : memberText entry ++ tail =
      entry.1.toList.flatMap escaped ++ '"' :: (':' :: (compact entry.2 ++ tail)) := by
    simp [memberText]
  rw [readMember, shape, readString_quoted, ok_bind]
  simp only [skipSpacing_cons (show isSpacing ':' = false from by decide)]

theorem readMember_reads (reads : Reads element entry.2) (delimited : Delimited tail) :
    readMember element (memberText entry ++ tail) = .ok (entry, tail) := by
  rw [readMember_eq, reads tail delimited]
  rfl

/-- The last member of an object. -/
theorem readEntries_last (reads : Reads element entry.2) (bound : Nat) (earlier : Keyed Json) :
    readEntries element (bound + 1) earlier (memberText entry ++ (compactEntries [] ++ tail)) =
      .ok (earlier.insert entry.1 entry.2, tail) := by
  rw [readEntries, readMember_reads reads (delimited_compactEntries [] tail)]
  rfl

/-- A member of an object with another one behind it. -/
theorem readEntries_cons (reads : Reads element entry.2) (bound : Nat) (earlier : Keyed Json) :
    readEntries element (bound + 1) earlier
        (memberText entry ++ (compactEntries (second :: rest) ++ tail)) =
      readEntries element bound (earlier.insert entry.1 entry.2)
        (memberText second ++ (compactEntries rest ++ tail)) := by
  have comma : compactEntries (second :: rest) ++ tail =
      ',' :: '"' :: (memberText second ++ (compactEntries rest ++ tail)) := by
    rw [compactEntries_cons, List.cons_append, List.cons_append, List.append_assoc]
  rw [readEntries, readMember_reads reads (delimited_compactEntries _ tail), comma]
  rfl

/-- **The members of an object** are written one after the other. -/
theorem readEntries_compact (bound : Nat) (earlier : Keyed Json) (enough : rest.length < bound)
    (reads : ∀ member ∈ entry :: rest, Reads element member.2) :
    readEntries element bound earlier (memberText entry ++ (compactEntries rest ++ tail)) =
      .ok ((entry :: rest).foldl (fun done member => done.insert member.1 member.2) earlier,
        tail) := by
  induction rest generalizing entry bound earlier with
  | nil =>
    obtain ⟨bound, rfl⟩ := Nat.exists_eq_add_one.mpr (Nat.zero_lt_of_lt enough)
    exact readEntries_last (reads entry List.mem_cons_self) bound earlier
  | cons second others inductive_step =>
    obtain ⟨bound, rfl⟩ := Nat.exists_eq_add_one.mpr (Nat.zero_lt_of_lt enough)
    rw [readEntries_cons (reads entry List.mem_cons_self),
      inductive_step bound _ (Nat.lt_of_succ_lt_succ enough)
        fun member there => reads member (List.mem_cons_of_mem _ there)]
    rfl

theorem readEntries_of_fails (fails : Fails element entry.2) (bound : Nat)
    (earlier : Keyed Json) :
    ∃ fault, readEntries element (bound + 1) earlier
        (memberText entry ++ (compactEntries rest ++ tail)) = .error fault ∧
      fault.cause = .tooDeep := by
  obtain ⟨fault, refused, cause⟩ := fails _ (delimited_compactEntries rest tail)
  refine ⟨fault, ?_, cause⟩
  rw [readEntries, readMember_eq, refused, error_bind, error_bind]

/-- The first member with too many containers ends the reading. -/
theorem readEntries_fails (tail : List Char) (bound : Nat) (earlier : Keyed Json)
    (enough : rest.length < bound)
    (either : ∀ member ∈ entry :: rest, Reads element member.2 ∨ Fails element member.2)
    (fails : ∃ member ∈ entry :: rest, Fails element member.2) :
    ∃ fault, readEntries element bound earlier (memberText entry ++ (compactEntries rest ++ tail)) =
      .error fault ∧ fault.cause = .tooDeep := by
  obtain ⟨member, there, failing⟩ := fails
  induction rest generalizing entry bound earlier with
  | nil =>
    obtain ⟨bound, rfl⟩ := Nat.exists_eq_add_one.mpr (Nat.zero_lt_of_lt enough)
    rw [List.mem_singleton.mp there] at failing
    exact readEntries_of_fails failing bound earlier
  | cons second others inductive_step =>
    obtain ⟨bound, rfl⟩ := Nat.exists_eq_add_one.mpr (Nat.zero_lt_of_lt enough)
    rcases either entry List.mem_cons_self with reads | here
    · rcases List.mem_cons.mp there with rfl | later
      · exact absurd failing reads.not_fails
      · rw [readEntries_cons reads]
        exact inductive_step bound _ (Nat.lt_of_succ_lt_succ enough)
          (fun other known => either other (List.mem_cons_of_mem _ known)) later
    · exact readEntries_of_fails here bound earlier

end Entries

/-! ### Shape, item by item -/

/-- What holds of a list by recursion holds of its members. -/
theorem forall_mem_of_step {α : Type} {whole : List α → Prop} {part : α → Prop} {list : List α}
    (step : ∀ first rest, whole (first :: rest) → part first ∧ whole rest) (all : whole list) :
    ∀ member ∈ list, part member := by
  induction list with
  | nil => exact List.forall_mem_nil _
  | cons first rest inductive_step =>
    intro member there
    rcases List.mem_cons.mp there with rfl | later
    · exact (step _ _ all).1
    · exact inductive_step (step _ _ all).2 member later

theorem ordered_of_mem {items : List Json} (ordered : ItemsOrdered items) :
    ∀ item ∈ items, item.Ordered :=
  forall_mem_of_step (fun _ _ both => both) ordered

theorem entry_ordered_of_mem {entries : List (String × Json)} (ordered : EntriesOrdered entries) :
    ∀ entry ∈ entries, entry.2.Ordered :=
  forall_mem_of_step (fun _ _ both => both) ordered

theorem integral_of_mem {items : List Json} (integral : ItemsIntegral items) :
    ∀ item ∈ items, item.Integral :=
  forall_mem_of_step (fun _ _ both => both) integral

theorem entry_integral_of_mem {entries : List (String × Json)}
    (integral : EntriesIntegral entries) : ∀ entry ∈ entries, entry.2.Integral :=
  forall_mem_of_step (fun _ _ both => both) integral

/-- The deepest item is as deep as all of them. -/
theorem itemsDepth_le_iff {items : List Json} {bound : Nat} :
    itemsDepth items ≤ bound ↔ ∀ item ∈ items, item.depth ≤ bound := by
  induction items with
  | nil => exact ⟨fun _ => List.forall_mem_nil _, fun _ => Nat.zero_le bound⟩
  | cons first rest inductive_step =>
    rw [itemsDepth, Nat.max_le, inductive_step, List.forall_mem_cons]

theorem entriesDepth_le_iff {entries : List (String × Json)} {bound : Nat} :
    entriesDepth entries ≤ bound ↔ ∀ entry ∈ entries, entry.2.depth ≤ bound := by
  induction entries with
  | nil => exact ⟨fun _ => List.forall_mem_nil _, fun _ => Nat.zero_le bound⟩
  | cons first rest inductive_step =>
    obtain ⟨key, value⟩ := first
    rw [entriesDepth, Nat.max_le, inductive_step, List.forall_mem_cons]

theorem exists_deep_item {items : List Json} {bound : Nat} (deep : bound < itemsDepth items) :
    ∃ item ∈ items, bound < item.depth := by
  by_cases exists_deep : ∃ item ∈ items, bound < item.depth
  · exact exists_deep
  · refine absurd (itemsDepth_le_iff.mpr fun item member => ?_) (Nat.not_le_of_lt deep)
    exact Nat.le_of_not_lt fun deeper => exists_deep ⟨item, member, deeper⟩

theorem exists_deep_entry {entries : List (String × Json)} {bound : Nat}
    (deep : bound < entriesDepth entries) : ∃ entry ∈ entries, bound < entry.2.depth := by
  by_cases exists_deep : ∃ entry ∈ entries, bound < entry.2.depth
  · exact exists_deep
  · refine absurd (entriesDepth_le_iff.mpr fun entry member => ?_) (Nat.not_le_of_lt deep)
    exact Nat.le_of_not_lt fun deeper => exists_deep ⟨entry, member, deeper⟩

theorem length_lt_compactItems (rest : List Json) : rest.length < (compactItems rest).length := by
  induction rest with
  | nil => decide
  | cons item others inductive_step =>
    rw [compactItems, List.length_append, List.length_cons, List.length_cons]
    omega

theorem length_lt_compactEntries (rest : List (String × Json)) :
    rest.length < (compactEntries rest).length := by
  induction rest with
  | nil => decide
  | cons entry others inductive_step =>
    rw [compactEntries_cons, List.length_cons, List.length_cons, List.length_cons,
      List.length_append]
    omega

/-! ### Values -/

section Values

variable {budget : Nat}

theorem readValue_array (budget : Nat) (rest : List Char) :
    readValue (budget + 1) ('[' :: rest) = readArray (readValue budget) rest := by
  rw [readValue, skipSpacing_cons (by decide)]
  rfl

theorem readValue_object (budget : Nat) (rest : List Char) :
    readValue (budget + 1) ('\x7b' :: rest) = readObject (readValue budget) rest := by
  rw [readValue, skipSpacing_cons (by decide)]
  rfl

theorem readValue_scalar {character : Char} (visible : isSpacing character = false)
    (noBracket : character ≠ '[') (noBrace : character ≠ '\x7b') (budget : Nat)
    (rest : List Char) : readValue budget (character :: rest) = readScalar character rest := by
  cases budget <;>
    rw [readValue, skipSpacing_cons visible] <;>
    simp only [if_neg noBracket, if_neg noBrace]

/-- A value that is no container needs no budget. -/
theorem reads_scalar {value : Json} (integral : value.Integral) (flat : value.depth = 0)
    (budget : Nat) : Reads (readValue budget) value := by
  intro tail delimited
  cases value with
  | null =>
    show readValue budget ('n' :: 'u' :: 'l' :: 'l' :: tail) = _
    rw [readValue_scalar (by decide) (by decide) (by decide)]
    rfl
  | bool truth =>
    cases truth with
    | true =>
      show readValue budget ('t' :: 'r' :: 'u' :: 'e' :: tail) = _
      rw [readValue_scalar (by decide) (by decide) (by decide)]
      rfl
    | false =>
      show readValue budget ('f' :: 'a' :: 'l' :: 's' :: 'e' :: tail) = _
      rw [readValue_scalar (by decide) (by decide) (by decide)]
      rfl
  | number number =>
    cases number with
    | binary value => exact integral.elim
    | integer value inRange =>
      obtain ⟨first, others, shape, start, reading⟩ := readScalar_integer inRange delimited
      show readValue budget (writeInteger value ++ tail) = _
      rw [shape, List.cons_append]
      rcases start with rfl | digit
      · rw [readValue_scalar (by decide) (by decide) (by decide), reading]
      · rw [readValue_scalar (isSpacing_of_isDigit digit) (ne_of_isDigit digit (by decide))
          (ne_of_isDigit digit (by decide)), reading]
  | string content =>
    have shape : compact (.string content) ++ tail =
        '"' :: (content.toList.flatMap escaped ++ '"' :: tail) := by
      simp [compact, quoted]
    rw [shape, readValue_scalar (by decide) (by decide) (by decide), readScalar_quoted]
  | array items => cases flat
  | object entries => cases flat

/-- An array that is not empty. -/
theorem readValue_items {item : Json} (visible : Visible item) (budget : Nat) (rest : List Json)
    (tail : List Char) :
    readValue (budget + 1) (compact (.array (item :: rest)) ++ tail) =
      (do
        let body := compact item ++ (compactItems rest ++ tail)
        let (items, rest) ← readItems (readValue budget) body.length body
        return (.array items, rest)) := by
  have shape : compact (.array (item :: rest)) ++ tail =
      '[' :: (compact item ++ (compactItems rest ++ tail)) := by
    simp [compact]
  have start := visible.skipSpacing (compactItems rest ++ tail)
  obtain ⟨first, others, begins, _, apart⟩ := visible
  rw [shape, readValue_array, readArray, start, begins, List.cons_append]
  split
  · next impossible => cases impossible
  · next impossible =>
    cases impossible
    exact absurd rfl apart
  · rfl

/-- An object that is not empty. -/
theorem readValue_entries (budget : Nat) (entry : String × Json) (rest : List (String × Json))
    (tail : List Char) :
    readValue (budget + 1) (compact (.object (entry :: rest)) ++ tail) =
      (do
        let body := memberText entry ++ (compactEntries rest ++ tail)
        let (entries, rest) ← readEntries (readValue budget) (body.length + 1) [] body
        return (.object entries, rest)) := by
  rw [compact_object_cons, List.cons_append, List.cons_append, List.append_assoc, readValue_object,
    readObject, skipSpacing_cons (by decide)]
  rfl

/-- There is room for every item. -/
theorem length_lt_items (item : Json) (rest : List Json) (tail : List Char) :
    rest.length < (compact item ++ (compactItems rest ++ tail)).length := by
  have room := length_lt_compactItems rest
  rw [List.length_append, List.length_append]
  omega

theorem length_lt_entries (entry : String × Json) (rest : List (String × Json))
    (tail : List Char) :
    rest.length < (memberText entry ++ (compactEntries rest ++ tail)).length + 1 := by
  have room := length_lt_compactEntries rest
  rw [List.length_append, List.length_append]
  omega

/-- **With a budget no smaller than its depth a value is read.** -/
theorem reads_readValue {value : Json} (ordered : value.Ordered) (integral : value.Integral)
    (within : value.depth ≤ budget) : Reads (readValue budget) value := by
  -- on the budget and not on the value: the reader hands every part one container less
  induction budget generalizing value with
  | zero => exact reads_scalar integral (Nat.le_zero.mp within) 0
  | succ budget inductive_step =>
    cases value with
    | array items =>
      have reads : ∀ item ∈ items, Reads (readValue budget) item := fun item member =>
        inductive_step (ordered_of_mem ordered item member) (integral_of_mem integral item member)
          (itemsDepth_le_iff.mp (Nat.le_of_succ_le_succ within) item member)
      have visible : ∀ item ∈ items, Visible item := fun item member =>
        visible_of_integral (integral_of_mem integral item member)
      intro tail delimited
      cases items with
      | nil => exact readValue_array budget (']' :: tail)
      | cons item rest =>
        rw [readValue_items (visible item List.mem_cons_self)]
        simp only [readItems_compact _ (length_lt_items item rest tail) reads
          fun other there => visible other (List.mem_cons_of_mem _ there)]
        rfl
    | object entries =>
      have reads : ∀ entry ∈ entries, Reads (readValue budget) entry.2 := fun entry member =>
        inductive_step (entry_ordered_of_mem ordered.2 entry member)
          (entry_integral_of_mem integral entry member)
          (entriesDepth_le_iff.mp (Nat.le_of_succ_le_succ within) entry member)
      intro tail delimited
      cases entries with
      | nil => exact readValue_object budget ('\x7d' :: tail)
      | cons entry rest =>
        have all : Keyed.Ascending ([] ++ entry :: rest) := ordered.1
        rw [readValue_entries]
        simp only [readEntries_compact _ [] (length_lt_entries entry rest tail) reads,
          Keyed.foldl_insert_of_ascending (entry :: rest) [] all]
        rfl
    | _ => exact reads_scalar integral rfl _

/-- A container needs a budget. -/
theorem fails_container {value : Json} (deep : 0 < value.depth) : Fails (readValue 0) value := by
  intro tail _
  cases value with
  | array items =>
    obtain ⟨others, shape⟩ : ∃ others, compact (.array items) ++ tail = '[' :: others := by
      cases items <;> exact ⟨_, rfl⟩
    rw [shape, readValue, skipSpacing_cons (by decide)]
    exact ⟨_, rfl, rfl⟩
  | object entries =>
    obtain ⟨others, shape⟩ : ∃ others, compact (.object entries) ++ tail = '\x7b' :: others := by
      cases entries <;> exact ⟨_, rfl⟩
    rw [shape, readValue, skipSpacing_cons (by decide)]
    exact ⟨_, rfl, rfl⟩
  | _ => exact absurd deep (Nat.lt_irrefl 0)

/-- **With a smaller budget too many containers are open.** -/
theorem fails_readValue {value : Json} (ordered : value.Ordered) (integral : value.Integral)
    (beyond : budget < value.depth) : Fails (readValue budget) value := by
  induction budget generalizing value with
  | zero => exact fails_container beyond
  | succ budget inductive_step =>
    have either : ∀ part : Json, part.Ordered → part.Integral →
        Reads (readValue budget) part ∨ Fails (readValue budget) part := by
      intro part ordered integral
      rcases Nat.lt_or_ge budget part.depth with deep | shallow
      · exact Or.inr (inductive_step ordered integral deep)
      · exact Or.inl (reads_readValue ordered integral shallow)
    intro tail delimited
    cases value with
    | array items =>
      obtain ⟨bad, there, deeper⟩ := exists_deep_item (Nat.lt_of_succ_lt_succ beyond)
      have fails := inductive_step (ordered_of_mem ordered bad there)
        (integral_of_mem integral bad there) deeper
      have visible : ∀ item ∈ items, Visible item := fun item member =>
        visible_of_integral (integral_of_mem integral item member)
      cases items with
      | nil => cases there
      | cons item rest =>
        obtain ⟨fault, refused, cause⟩ := readItems_fails tail _ (length_lt_items item rest tail)
          (fun part member => either part (ordered_of_mem ordered part member)
            (integral_of_mem integral part member))
          (fun other member => visible other (List.mem_cons_of_mem _ member)) ⟨bad, there, fails⟩
        refine ⟨fault, ?_, cause⟩
        rw [readValue_items (visible item List.mem_cons_self)]
        simp only [refused]
        rfl
    | object entries =>
      obtain ⟨bad, there, deeper⟩ := exists_deep_entry (Nat.lt_of_succ_lt_succ beyond)
      have fails := inductive_step (entry_ordered_of_mem ordered.2 bad there)
        (entry_integral_of_mem integral bad there) deeper
      cases entries with
      | nil => cases there
      | cons entry rest =>
        have room := length_lt_entries entry rest tail
        obtain ⟨fault, refused, cause⟩ := readEntries_fails tail _ [] room
          (fun part member => either part.2 (entry_ordered_of_mem ordered.2 part member)
            (entry_integral_of_mem integral part member)) ⟨bad, there, fails⟩
        refine ⟨fault, ?_, cause⟩
        rw [readValue_entries]
        simp only [refused]
        rfl
    | _ => exact absurd beyond (Nat.not_lt_zero _)

end Values

/-! ### Whole texts -/

/-- **A whole text is read up to the limit on containers.** -/
theorem readWhole_compact {value : Json} {budget : Nat} (ordered : value.Ordered)
    (integral : value.Integral) (within : value.depth ≤ budget) :
    readWhole budget (compact value) = .ok value := by
  have reading := reads_readValue ordered integral within [] trivial
  rw [List.append_nil] at reading
  rw [readWhole, reading]
  rfl

theorem readWhole_compact_of_lt {value : Json} {budget : Nat} (ordered : value.Ordered)
    (integral : value.Integral) (beyond : budget < value.depth) :
    ∃ fault, readWhole budget (compact value) = .error fault ∧ fault.cause = .tooDeep := by
  obtain ⟨fault, refused, cause⟩ := fails_readValue ordered integral beyond [] trivial
  rw [List.append_nil] at refused
  refine ⟨fault, ?_, cause⟩
  rw [readWhole, refused, error_bind]

end Json

end InstanceHost
