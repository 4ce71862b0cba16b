import GuestResume.Proofs.AccessInvariants
import GuestResume.Proofs.TableBinding

/-! Where pages are. A page that was given out is taken back, bound, or in somebody's hands, and nothing
is taken back that was not given out before. Each operation is said to be given some pages and to hand
others back; one that fails hands nothing back, so that whatever it was given is bound or taken back by
then. -/

namespace GuestResume

/-- An operation takes over pages and hands pages back when it succeeds. The others that are held
outside the memory do not matter to it. -/
structure Access.Accounts {ε σ α : Type} (books : σ → Nat → Prop) (given : Nat)
    (operation : EStateM ε σ α) (back : α → Nat) : Prop where
  settles : ∀ others state, books state (others + given) →
    match operation state with
    | .ok value later => books later (others + back value)
    | .error _ later => books later others

theorem Access.accounts_of_keeping {σ α : Type} {books : σ → Nat → Prop} {operation : Access σ α}
    (keeps : ∀ held, (Comparison.keeping fun state => books state held).Simulates operation operation) :
    Access.Accounts books 0 operation fun _ => 0 := by
  constructor
  intro others state balanced
  have later := Comparison.simulates_keeping.mp (keeps others) state balanced
  cases done : operation state with
  | ok value after => rwa [after_ok done] at later
  | error error after => rwa [after_error done] at later

namespace Access.Accounts

variable {ε σ α β : Type} {books : σ → Nat → Prop} {given : Nat}

theorem pure (value : α) (back : α → Nat) :
    Accounts books (back value) (Pure.pure value : EStateM ε σ α) back :=
  ⟨fun _ _ balanced => balanced⟩

theorem bind {first : EStateM ε σ α} {middle : α → Nat} {next : α → EStateM ε σ β} {back : β → Nat}
    (start : Accounts books given first middle)
    (continued : ∀ value, Accounts books (middle value) (next value) back) :
    Accounts books given (first >>= next) back := by
  constructor
  intro others state balanced
  have moved := start.settles others state balanced
  cases done : first state with
  | ok value later =>
    rw [done] at moved
    rw [bind_ok done]
    exact (continued value).settles others later moved
  | error error later =>
    rw [done] at moved
    rw [bind_error done]
    exact moved

theorem throw (error : ε) (back : α → Nat) :
    Accounts books 0 (MonadExcept.throw error : EStateM ε σ α) back :=
  ⟨fun _ _ balanced => balanced⟩

theorem after_kept {operation : EStateM ε σ α} (accounts : Accounts books 0 operation fun _ => 0)
    {held : Nat} {state : σ} (balanced : books state held) : books (after operation state) held := by
  have moved := accounts.settles held state balanced
  cases done : operation state with
  | ok value later =>
    rw [done] at moved
    rwa [after_ok done]
  | error error later =>
    rw [done] at moved
    rwa [after_error done]

end Access.Accounts

namespace Space

/-- The accounts of a space whose pages outside are `held` by others. -/
structure Balanced (space : Space) (held : Nat) : Prop where
  sum : space.allocated = space.released + space.bound.size + held
  covered : space.overdrawn = false

variable {space : Space} {held count : Nat}

theorem Balanced.allocate (balanced : space.Balanced held) (count : Nat) :
    (space.allocate count).Balanced (held + count) where
  sum := by
    have sum := balanced.sum
    simp only [Space.allocate]
    omega
  covered := balanced.covered

theorem Balanced.release (balanced : space.Balanced (held + count)) : (space.release count).Balanced held where
  sum := by
    have sum := balanced.sum
    simp only [Space.release]
    omega
  covered := by
    have sum := balanced.sum
    simp only [Space.release, balanced.covered, Bool.false_or, decide_eq_false_iff_not]
    omega

theorem Balanced.clear (balanced : space.Balanced held) : space.clear.2.Balanced held := by
  have empty : ({ space with bound := ∅ } : Space).Balanced (held + space.bound.size) := by
    refine ⟨?_, balanced.covered⟩
    have sum := balanced.sum
    simp only [Std.TreeMap.size_emptyc]
    omega
  exact empty.release

theorem size_insert_add (space : Space) (gpa : Address) (page : Page) :
    (space.bound.insert gpa page).size + (if (space.bound[gpa]?).isSome then 1 else 0) =
      space.bound.size + 1 := by
  rw [Std.TreeMap.size_insert, ← Std.TreeMap.contains_eq_isSome_getElem?]
  split <;> rfl

theorem size_erase_add {gpa : Address} (held : (space.page? gpa).isSome) :
    (space.bound.erase gpa.pageStart).size + 1 = space.bound.size := by
  have bound : space.bound.contains gpa.pageStart := by
    rwa [Std.TreeMap.contains_eq_isSome_getElem?]
  have positive : space.bound.size ≠ 0 := by
    intro none
    have empty : space.bound.isEmpty := by rw [Std.TreeMap.isEmpty_eq_size_eq_zero, none]; rfl
    rw [Std.TreeMap.contains_of_isEmpty empty] at bound
    cases bound
  rw [Std.TreeMap.size_erase, if_pos bound]
  omega

/-- A page that is bound comes out again as the one it displaces, and one that is refused is taken back. -/
theorem accounts_insert (gpa : Address) (page : Page) :
    Access.Accounts Balanced 1 (insert gpa page) fun old => if old.isSome then 1 else 0 := by
  constructor
  intro others space balanced
  cases done : insert gpa page space with
  | ok old later =>
    obtain ⟨-, rfl, rfl⟩ := insert_ok done
    refine ⟨?_, balanced.covered⟩
    have sum := balanced.sum
    have sizes := size_insert_add space gpa page
    simp only at sum ⊢
    omega
  | error error later =>
    rw [insert_error done]
    exact balanced.release

theorem accounts_remove (gpa : Address) : Access.Accounts Balanced 0 (remove gpa) fun _ => 1 := by
  constructor
  intro others space balanced
  cases held : space.page? gpa with
  | none =>
    simp only [remove, held]
    exact balanced
  | some page =>
    simp only [remove, held]
    refine ⟨?_, balanced.covered⟩
    have sum := balanced.sum
    have sizes := size_erase_add (show (space.page? gpa).isSome by rw [held]; rfl)
    simp only at sum ⊢
    omega

theorem accounts_insertTables (pages : List TablePage) :
    Access.Accounts Balanced pages.length (insertTables pages) fun _ => 0 := by
  induction pages with
  | nil => exact Access.Accounts.pure () fun _ => 0
  | cons table rest ih =>
    constructor
    intro others space balanced
    rw [List.length_cons, Nat.add_comm rest.length, ← Nat.add_assoc] at balanced
    rw [Nat.add_right_comm] at balanced
    have moved := (accounts_insert table.address table.page).settles (others + rest.length) space balanced
    cases done : insert table.address table.page space with
    | ok old later =>
      rw [done] at moved
      cases old with
      | none =>
        simp only [insertTables, done]
        exact ih.settles others later moved
      | some old =>
        simp only [insertTables, done]
        exact ih.settles others later.release moved.release
    | error error later =>
      rw [done] at moved
      simp only [insertTables, done]
      exact moved.release

/-- A table is bound whole or taken back as far as it is not bound. -/
theorem accounts_bindImage (image : TableImage) :
    Access.Accounts Balanced image.pages.length (bindImage image) fun _ => 0 := by
  constructor
  intro others space balanced
  cases taken : (if space.policy = .reject then
    (image.pages.map TablePage.address).find? space.bound.contains else none) with
  | some gpa =>
    simp only [bindImage, taken]
    exact balanced.release
  | none =>
    simp only [bindImage, taken]
    have tables := (accounts_insertTables image.pages).bind fun _ => Access.Accounts.pure image.root fun _ => 0
    exact tables.settles others space balanced

theorem balanced_write (gpa : Address) (data : List UInt8) {space : Space}
    (balanced : space.Balanced held) : (Access.after (bus.write gpa data) space).Balanced held := by
  rw [Access.after, write_eq]
  by_cases crosses : Address.pageSize - gpa.offset < data.length
  · rw [if_pos crosses]
    exact balanced
  · rw [if_neg crosses]
    cases found : space.page? gpa with
    | none => exact balanced
    | some page =>
      refine ⟨?_, balanced.covered⟩
      have sizes := size_insert_add space gpa.pageStart (page.write gpa.offset data)
      rw [page?] at found
      rw [found, Option.isSome_some, if_pos rfl] at sizes
      have sum := balanced.sum
      simp only at sum ⊢
      omega

theorem balanced_bus (held : Nat) :
    Bus.Linked (Comparison.keeping fun space : Space => space.Balanced held).congruence bus bus :=
  keeping_bus fun gpa data _ balanced => balanced_write gpa data balanced

end Space

namespace Paged

variable {η S α : Type}

/-- The resolver itself holds no pages. -/
def Balanced (memory : Paged η) (held : Nat) : Prop :=
  memory.space.Balanced held

theorem accounts_onSpace {operation : Access Space α} {given : Nat} {back : α → Nat}
    (accounts : Access.Accounts Space.Balanced given operation back) :
    Access.Accounts (Balanced (η := η)) given (onSpace operation) back := by
  constructor
  intro others memory balanced
  have moved := accounts.settles others memory.space balanced
  cases done : operation memory.space with
  | ok value space =>
    rw [done] at moved
    rw [onSpace_ok done]
    exact moved
  | error error space =>
    rw [done] at moved
    rw [onSpace_error done]
    exact moved

theorem balanced_supplied {memory : Paged (Pager S)} {held : Nat} {gpa : Address}
    (missing : ¬memory.space.isBound gpa) (content : Page) (balanced : memory.space.Balanced held) :
    (memory.supplied gpa.pageStart content).space.Balanced held := by
  have free : (memory.space.bound[gpa.pageStart]?).isSome = false := by
    rwa [Space.isBound_eq, Bool.not_eq_true] at missing
  have sizes := Space.size_insert_add memory.space gpa.pageStart content
  have sum := balanced.sum
  refine ⟨?_, balanced.covered⟩
  rw [free, if_neg Bool.false_ne_true] at sizes
  simp only [supplied, Space.allocate] at sizes ⊢
  omega

variable [PageSource S]

/-- A page that is brought in is bound, and one whose content does not come is taken back. -/
theorem balanced_resolve (held : Nat) (gpa : Address) :
    (Comparison.keeping fun memory : Paged (Pager S) => memory.space.Balanced held).Simulates
      (Resolver.resolve gpa) (Resolver.resolve gpa) :=
  keeping_resolve (fun space => space.Balanced held)
    (fun _ _ content missing balanced => balanced_supplied missing content balanced)
    (fun _ balanced => (balanced.allocate 1).release) gpa

theorem balanced_run (held : Nat) (command : ViewCommand) :
    (Comparison.keeping fun memory : Paged (Pager S) => memory.space.Balanced held).Simulates
      (run command) (run command) :=
  keeping_run (fun space => space.Balanced held) (balanced_resolve held) (Space.balanced_bus held) command

theorem balanced_run_idle (held : Nat) (command : ViewCommand) :
    (Comparison.keeping fun memory : Paged IdleResolver => memory.space.Balanced held).Simulates
      (run command) (run command) :=
  keeping_run (fun space => space.Balanced held) (fun _ => Comparison.simulates_pure ())
    (Space.balanced_bus held) command

end Paged

end GuestResume
