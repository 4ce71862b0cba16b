import GuestResume.Proofs.AddressBlocks
import GuestResume.Proofs.SpaceAccess

/-! Reading whole tables. Reads leave the memory as it is, so that a table that could be read once is a
function from indices to entries, and the enumeration of tables is one over lists. -/

namespace GuestResume

namespace Access

variable {σ α β κ : Type} {first : Access σ α} {next : α → Access σ β} {state later : σ}

theorem exists_of_bind_ok {value : β} (done : (first >>= next) state = .ok value later) :
    ∃ answer middle, first state = .ok answer middle ∧ next answer middle = .ok value later := by
  cases start : first state with
  | ok answer middle =>
    rw [bind_ok start] at done
    exact ⟨answer, middle, rfl, done⟩
  | error error middle =>
    rw [bind_error start] at done
    cases done

/-- Queries one after the other, each of which leaves the state as it is. -/
theorem mapM_ok {ask : κ → Access σ α} {answer : κ → α}
    (reads : ∀ item value later, ask item state = .ok value later → value = answer item ∧ later = state)
    {items : List κ} {values : List α} (done : items.mapM ask state = .ok values later) :
    later = state ∧ values = items.map answer ∧ ∀ item ∈ items, ask item state = .ok (answer item) state := by
  induction items generalizing values later with
  | nil =>
    cases done
    exact ⟨rfl, rfl, fun _ none => nomatch none⟩
  | cons item rest ih =>
    rw [List.mapM_cons] at done
    obtain ⟨value, middle, asked, remaining⟩ := exists_of_bind_ok done
    obtain ⟨rfl, rfl⟩ := reads item value middle asked
    obtain ⟨more, last, further, finished⟩ := exists_of_bind_ok remaining
    obtain ⟨rfl, rfl, answers⟩ := ih further
    cases finished
    refine ⟨rfl, rfl, ?_⟩
    rintro other (_ | ⟨_, member⟩)
    · exact asked
    · exact answers other member

theorem mapM_answers {ask : κ → Access σ α} {answer : κ → α} {items : List κ}
    (answers : ∀ item ∈ items, ask item state = .ok (answer item) state) :
    items.mapM ask state = .ok (items.map answer) state := by
  induction items with
  | nil => rfl
  | cons item rest ih =>
    have further := ih fun other member => answers other (List.mem_cons_of_mem _ member)
    rw [List.mapM_cons, bind_ok (answers item List.mem_cons_self), bind_ok further]
    rfl

end Access

namespace Space

variable {space later : Space}

/-- The entry of a table, zero where there is no memory. -/
def entryAt (space : Space) (table : Address) (index : Nat) : Entry :=
  match bus.readEntry table index space with
  | .ok entry _ => entry
  | .error _ _ => 0

/-- All entries of the table are in memory. -/
def Readable (space : Space) (table : Address) : Prop :=
  ∀ index < Address.entriesPerTable, bus.readEntry table index space = .ok (space.entryAt table index) space

theorem readEntry_ok {table : Address} {index : Nat} {entry : Entry}
    (done : bus.readEntry table index space = .ok entry later) :
    entry = space.entryAt table index ∧ later = space := by
  have told : entry = space.entryAt table index := by rw [entryAt, done]
  refine ⟨told, ?_⟩
  obtain ⟨bytes, middle, read, same⟩ := Access.exists_of_bind_ok done
  cases same
  rw [read_eq] at read
  split at read
  · cases read
  · split at read
    · cases read
      rfl
    · cases read

/-- A table with its entries, as it is read. -/
def table (space : Space) (subtable : Subtable) : Subtable × List Entry :=
  (subtable, (List.range Address.entriesPerTable).map (space.entryAt subtable.table))

theorem readTable_ok {subtable : Subtable} {read : Subtable × List Entry}
    (done : bus.readTable subtable space = .ok read later) :
    read = space.table subtable ∧ later = space ∧ space.Readable subtable.table := by
  obtain ⟨entries, middle, mapped, finished⟩ := Access.exists_of_bind_ok done
  obtain ⟨same, told, answers⟩ := Access.mapM_ok (fun _ _ _ => readEntry_ok) mapped
  cases finished
  refine ⟨?_, same, fun index inside => answers index (List.mem_range.mpr inside)⟩
  rw [table, told]

theorem readTables_ok {subtables : List Subtable} {read : List (Subtable × List Entry)}
    (done : subtables.mapM bus.readTable space = .ok read later) :
    later = space ∧ read = subtables.map space.table ∧
      ∀ subtable ∈ subtables, space.Readable subtable.table := by
  have reads : ∀ subtable value later, bus.readTable subtable space = .ok value later →
      value = space.table subtable ∧ later = space := by
    intro subtable value later done
    obtain ⟨told, same, -⟩ := readTable_ok done
    exact ⟨told, same⟩
  obtain ⟨same, told, answers⟩ := Access.mapM_ok reads done
  exact ⟨same, told, fun subtable member => (readTable_ok (answers subtable member)).2.2⟩

end Space

/-- The places for entries in some tables. -/
def Subtable.slots (subtables : List Subtable) : List (Subtable × Nat) :=
  subtables.flatMap fun subtable => (List.range Address.entriesPerTable).map (subtable, ·)

theorem Subtable.slots_cons (subtable : Subtable) (rest : List Subtable) :
    slots (subtable :: rest) = (List.range Address.entriesPerTable).map (subtable, ·) ++ slots rest :=
  List.flatMap_cons

namespace Space

variable {space later : Space} {level : Nat} {subtables : List Subtable} {found : List Record}

/-- The leaves of some tables on one level. -/
def leaves (space : Space) (level : Nat) (subtables : List Subtable) : List Record :=
  (Subtable.slots subtables).filterMap fun (subtable, index) =>
    subtable.record? level index (space.entryAt subtable.table index)

/-- The tables below some tables on one level. -/
def nodes (space : Space) (level : Nat) (subtables : List Subtable) : List Subtable :=
  (Subtable.slots subtables).filterMap fun (subtable, index) =>
    subtable.below? level index (space.entryAt subtable.table index)

private theorem filterMap_zipIdx {α : Type} (count : Nat) (entry : Nat → Entry)
    (pick : Nat → Entry → Option α) :
    (((List.range count).map entry).zipIdx.filterMap fun (entry, index) => pick index entry) =
      (List.range count).filterMap fun index => pick index (entry index) := by
  have numbered : ((List.range count).map entry).zipIdx =
      (List.range count).map fun index => (entry index, index) := by
    apply List.ext_getElem
    · simp
    · intro index _ _
      simp
  rw [numbered, List.filterMap_map]
  rfl

/-- What is picked from tables that were read whole is picked place by place. -/
theorem flatMap_table {α : Type} (space : Space) (subtables : List Subtable)
    (pick : Subtable → Nat → Entry → Option α) :
    ((subtables.map space.table).flatMap fun (subtable, entries) =>
      entries.zipIdx.filterMap fun (entry, index) => pick subtable index entry) =
    (Subtable.slots subtables).filterMap fun (subtable, index) =>
      pick subtable index (space.entryAt subtable.table index) := by
  induction subtables with
  | nil => rfl
  | cons subtable rest ih =>
    rw [List.map_cons, List.flatMap_cons, ih, Subtable.slots_cons, List.filterMap_append, List.filterMap_map]
    dsimp only [table]
    rw [filterMap_zipIdx _ _ (pick subtable)]
    rfl

theorem records_table (space : Space) (level : Nat) (subtables : List Subtable) :
    ((subtables.map space.table).flatMap fun (subtable, entries) => subtable.records level entries) =
      space.leaves level subtables :=
  flatMap_table space subtables fun subtable index entry => subtable.record? level index entry

theorem below_table (space : Space) (level : Nat) (subtables : List Subtable) :
    ((subtables.map space.table).flatMap fun (subtable, entries) => subtable.below level entries) =
      space.nodes level subtables :=
  flatMap_table space subtables fun subtable index entry => subtable.below? level index entry

theorem enumerate_zero_ok (done : bus.enumerate 0 subtables space = .ok found later) :
    later = space ∧ found = space.leaves 0 subtables ∧
      ∀ subtable ∈ subtables, space.Readable subtable.table := by
  obtain ⟨tables, middle, read, finished⟩ := Access.exists_of_bind_ok done
  obtain ⟨same, rfl, readable⟩ := readTables_ok read
  cases finished
  exact ⟨same, records_table space 0 subtables, readable⟩

theorem enumerate_succ_ok (done : bus.enumerate (level + 1) subtables space = .ok found later) :
    (∀ subtable ∈ subtables, space.Readable subtable.table) ∧
    ∃ lower, bus.enumerate level (space.nodes (level + 1) subtables) space = .ok lower later ∧
      found = space.leaves (level + 1) subtables ++ lower := by
  obtain ⟨tables, middle, read, further⟩ := Access.exists_of_bind_ok done
  obtain ⟨same, told, readable⟩ := readTables_ok read
  obtain ⟨lower, last, below, finished⟩ := Access.exists_of_bind_ok further
  subst same told
  rw [below_table] at below
  cases finished
  exact ⟨readable, lower, below, congrArg (· ++ lower) (records_table middle (level + 1) subtables)⟩

theorem readTables_eq (readable : ∀ subtable ∈ subtables, space.Readable subtable.table) :
    subtables.mapM bus.readTable space = .ok (subtables.map space.table) space := by
  refine Access.mapM_answers fun subtable member => ?_
  have entries := Access.mapM_answers fun index listed =>
    readable subtable member index (List.mem_range.mp listed)
  exact Access.bind_ok entries

theorem enumerate_zero_eq (readable : ∀ subtable ∈ subtables, space.Readable subtable.table) :
    bus.enumerate 0 subtables space = .ok (space.leaves 0 subtables) space := by
  rw [Bus.enumerate, Access.bind_ok (readTables_eq readable), ← records_table]
  rfl

theorem enumerate_succ_eq (readable : ∀ subtable ∈ subtables, space.Readable subtable.table)
    (lower : bus.enumerate level (space.nodes (level + 1) subtables) space = .ok found space) :
    bus.enumerate (level + 1) subtables space = .ok (space.leaves (level + 1) subtables ++ found) space := by
  rw [← below_table] at lower
  rw [Bus.enumerate, Access.bind_ok (readTables_eq readable), Access.bind_ok lower, ← records_table]
  rfl

end Space

end GuestResume
