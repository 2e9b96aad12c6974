import PolicyReplica.Queue.Shared

/-
Where the keys of a work queue are.

A key that needs work is either ready or held by a worker, a ready key is not
held, and no key is ready twice. Each operation of the queue keeps this. What an
operation does is said once, by its cases, so that nothing else has to open it.
-/

namespace PolicyReplica

namespace WorkQueue

variable {κ : Type}

structure Placed (queue : WorkQueue κ) : Prop where
  readyNodup : queue.ready.Nodup
  dirtyNodup : queue.dirty.Nodup
  processingNodup : queue.processing.Nodup
  ready_dirty : ∀ key ∈ queue.ready, key ∈ queue.dirty
  ready_free : ∀ key ∈ queue.ready, key ∉ queue.processing
  dirty_placed : ∀ key ∈ queue.dirty, key ∈ queue.ready ∨ key ∈ queue.processing

theorem Placed.of_lists {queue other : WorkQueue κ} (placed : queue.Placed)
    (ready : other.ready = queue.ready) (dirty : other.dirty = queue.dirty)
    (processing : other.processing = queue.processing) : other.Placed := by
  constructor
  · rw [ready]
    exact placed.readyNodup
  · rw [dirty]
    exact placed.dirtyNodup
  · rw [processing]
    exact placed.processingNodup
  · rw [ready, dirty]
    exact placed.ready_dirty
  · rw [ready, processing]
    exact placed.ready_free
  · rw [ready, dirty, processing]
    exact placed.dirty_placed

theorem empty_placed : (empty : WorkQueue κ).Placed := by
  constructor <;> simp [empty]

theorem Placed.close {queue : WorkQueue κ} (placed : queue.Placed) : queue.close.Placed :=
  placed.of_lists rfl rfl rfl

private theorem nodup_line {line : List κ} {key : κ} (nodup : line.Nodup) (absent : key ∉ line) :
    (line ++ [key]).Nodup := by
  refine List.nodup_append.mpr ⟨nodup, by simp, ?_⟩
  intro other inLine last inLast same
  rw [List.mem_singleton.mp inLast] at same
  exact absent (same ▸ inLine)

variable [DecidableEq κ]

/-! ### What the operations do -/

/-- A key is refused, marked only, or marked and put in line. -/
theorem add_cases (queue : WorkQueue κ) (key : κ) :
    ((queue.closed = true ∨ key ∈ queue.dirty) ∧ queue.add key = (false, queue)) ∨
    (queue.closed = false ∧ key ∉ queue.dirty ∧ key ∈ queue.processing ∧
      queue.add key = (false, { queue with dirty := key :: queue.dirty })) ∨
    (queue.closed = false ∧ key ∉ queue.dirty ∧ key ∉ queue.processing ∧
      queue.add key =
        (true, { queue with dirty := key :: queue.dirty, ready := queue.ready ++ [key] })) := by
  unfold add
  by_cases refused : queue.closed = true ∨ key ∈ queue.dirty
  · exact .inl ⟨refused, by rw [if_pos refused]⟩
  · obtain ⟨isOpen, clean⟩ := not_or.mp refused
    have unclosed : queue.closed = false := Bool.eq_false_iff.mpr isOpen
    rw [if_neg refused]
    by_cases held : key ∈ queue.processing
    · exact .inr (.inl ⟨unclosed, clean, held, by rw [if_pos held]⟩)
    · exact .inr (.inr ⟨unclosed, clean, held, by rw [if_neg held]⟩)

@[simp] theorem add_processing (queue : WorkQueue κ) (key : κ) :
    (queue.add key).2.processing = queue.processing := by
  obtain ⟨_, added⟩ | ⟨_, _, _, added⟩ | ⟨_, _, _, added⟩ := queue.add_cases key <;> rw [added]

@[simp] theorem add_closed (queue : WorkQueue κ) (key : κ) :
    (queue.add key).2.closed = queue.closed := by
  obtain ⟨_, added⟩ | ⟨_, _, _, added⟩ | ⟨_, _, _, added⟩ := queue.add_cases key <;> rw [added]

@[simp] theorem add_delayed (queue : WorkQueue κ) (key : κ) :
    (queue.add key).2.delayed = queue.delayed := by
  obtain ⟨_, added⟩ | ⟨_, _, _, added⟩ | ⟨_, _, _, added⟩ := queue.add_cases key <;> rw [added]

@[simp] theorem add_deadlines (queue : WorkQueue κ) (key : κ) :
    (queue.add key).2.deadlines = queue.deadlines := by
  obtain ⟨_, added⟩ | ⟨_, _, _, added⟩ | ⟨_, _, _, added⟩ := queue.add_cases key <;> rw [added]

theorem mem_dirty_add (queue : WorkQueue κ) (isOpen : queue.closed = false) (key other : κ) :
    other ∈ (queue.add key).2.dirty ↔ other = key ∨ other ∈ queue.dirty := by
  obtain ⟨refused, added⟩ | ⟨_, _, _, added⟩ | ⟨_, _, _, added⟩ := queue.add_cases key
  · rw [added]
    have marked : key ∈ queue.dirty := by
      rw [isOpen] at refused
      exact refused.resolve_left Bool.false_ne_true
    constructor
    · exact .inr
    · intro either
      rcases either with rfl | before
      · exact marked
      · exact before
  all_goals rw [added]; exact List.mem_cons

theorem delay_cases (queue : WorkQueue κ) (time : Nat) (key : κ) :
    (queue.delay time key = (false, queue) ∧
      (queue.closed = true ∨ ∃ due, queue.deadlines.get? key = some due ∧ due ≤ time)) ∨
    (queue.closed = false ∧
      queue.delay time key =
        (true,
          { queue with
            deadlines := queue.deadlines.insert key time
            delayed := enqueue { time, key } queue.delayed })) := by
  unfold delay
  by_cases refused : queue.closed = true ∨ (queue.deadlines.get? key).any (· ≤ time) = true
  · refine .inl ⟨by rw [if_pos refused], refused.imp_right fun early => ?_⟩
    cases found : queue.deadlines.get? key with
    | none => simp [found] at early
    | some due => exact ⟨due, rfl, by simpa [found] using early⟩
  · rw [if_neg refused]
    exact .inr ⟨Bool.eq_false_iff.mpr (not_or.mp refused).1, rfl⟩

@[simp] theorem delay_ready (queue : WorkQueue κ) (time : Nat) (key : κ) :
    (queue.delay time key).2.ready = queue.ready := by
  obtain ⟨delayed, _⟩ | ⟨_, delayed⟩ := queue.delay_cases time key <;> rw [delayed]

@[simp] theorem delay_dirty (queue : WorkQueue κ) (time : Nat) (key : κ) :
    (queue.delay time key).2.dirty = queue.dirty := by
  obtain ⟨delayed, _⟩ | ⟨_, delayed⟩ := queue.delay_cases time key <;> rw [delayed]

@[simp] theorem delay_processing (queue : WorkQueue κ) (time : Nat) (key : κ) :
    (queue.delay time key).2.processing = queue.processing := by
  obtain ⟨delayed, _⟩ | ⟨_, delayed⟩ := queue.delay_cases time key <;> rw [delayed]

@[simp] theorem delay_closed (queue : WorkQueue κ) (time : Nat) (key : κ) :
    (queue.delay time key).2.closed = queue.closed := by
  obtain ⟨delayed, _⟩ | ⟨_, delayed⟩ := queue.delay_cases time key <;> rw [delayed]

theorem delay_of_closed (queue : WorkQueue κ) (closed : queue.closed = true) (time : Nat)
    (key : κ) : queue.delay time key = (false, queue) := by
  unfold delay
  rw [if_pos (.inl closed)]

/-- An entry in line adds its key if it still counts, and else does nothing. -/
theorem promoteEntry_cases (queue : WorkQueue κ) (entry : Delayed κ) :
    (queue.deadlines.get? entry.key = some entry.time ∧
      queue.promoteEntry entry =
        ({ queue with deadlines := queue.deadlines.erase entry.key }.add entry.key).2) ∨
    (queue.deadlines.get? entry.key ≠ some entry.time ∧ queue.promoteEntry entry = queue) := by
  unfold promoteEntry
  by_cases counts : queue.deadlines.get? entry.key = some entry.time
  · exact .inl ⟨counts, by rw [if_pos counts]⟩
  · exact .inr ⟨counts, by rw [if_neg counts]⟩

@[simp] theorem promoteEntry_processing (queue : WorkQueue κ) (entry : Delayed κ) :
    (queue.promoteEntry entry).processing = queue.processing := by
  obtain ⟨_, promoted⟩ | ⟨_, promoted⟩ := queue.promoteEntry_cases entry <;> simp [promoted]

@[simp] theorem promoteEntry_closed (queue : WorkQueue κ) (entry : Delayed κ) :
    (queue.promoteEntry entry).closed = queue.closed := by
  obtain ⟨_, promoted⟩ | ⟨_, promoted⟩ := queue.promoteEntry_cases entry <;> simp [promoted]

@[simp] theorem promoteEntry_delayed (queue : WorkQueue κ) (entry : Delayed κ) :
    (queue.promoteEntry entry).delayed = queue.delayed := by
  obtain ⟨_, promoted⟩ | ⟨_, promoted⟩ := queue.promoteEntry_cases entry <;> simp [promoted]

/-- What holds before the entries that are due are taken out of the line, and is
kept by each of them, holds after all of them. -/
theorem promote_induction {motive : WorkQueue κ → Prop} (queue : WorkQueue κ) (now : Nat)
    (start : motive { queue with delayed := queue.delayed.dropWhile (·.time ≤ now) })
    (step : ∀ before entry, motive before → motive (before.promoteEntry entry)) :
    motive (queue.promote now) := by
  unfold promote
  generalize queue.delayed.takeWhile (·.time ≤ now) = entries
  generalize { queue with delayed := queue.delayed.dropWhile (·.time ≤ now) } = before at start ⊢
  induction entries generalizing before with
  | nil => exact start
  | cons entry rest ih => exact ih _ (step before entry start)

@[simp] theorem promote_processing (queue : WorkQueue κ) (now : Nat) :
    (queue.promote now).processing = queue.processing := by
  apply queue.promote_induction (motive := fun after => after.processing = queue.processing) now
  · rfl
  · intro before entry same
    rw [promoteEntry_processing, same]

@[simp] theorem promote_closed (queue : WorkQueue κ) (now : Nat) :
    (queue.promote now).closed = queue.closed := by
  apply queue.promote_induction (motive := fun after => after.closed = queue.closed) now
  · rfl
  · intro before entry same
    rw [promoteEntry_closed, same]

@[simp] theorem promote_delayed (queue : WorkQueue κ) (now : Nat) :
    (queue.promote now).delayed = queue.delayed.dropWhile (·.time ≤ now) := by
  apply queue.promote_induction
    (motive := fun after => after.delayed = queue.delayed.dropWhile (·.time ≤ now)) now
  · rfl
  · intro before entry same
    rw [promoteEntry_delayed, same]

theorem handOut_cases (queue : WorkQueue κ) :
    (∃ key rest, queue.ready = key :: rest ∧
      queue.handOut =
        (.item key,
          { queue with
            ready := rest
            dirty := queue.dirty.erase key
            processing := key :: queue.processing })) ∨
    (queue.ready = [] ∧ queue.closed = true ∧ queue.handOut = (.closed, queue)) ∨
    (queue.ready = [] ∧ queue.closed = false ∧
      queue.handOut = (.wait (queue.delayed.head?.map Delayed.time), queue)) := by
  unfold handOut
  cases line : queue.ready with
  | cons key rest => exact .inl ⟨key, rest, rfl, rfl⟩
  | nil =>
      cases closed : queue.closed with
      | true => exact .inr (.inl ⟨rfl, rfl, rfl⟩)
      | false => exact .inr (.inr ⟨rfl, rfl, rfl⟩)

@[simp] theorem handOut_deadlines (queue : WorkQueue κ) :
    queue.handOut.2.deadlines = queue.deadlines := by
  obtain ⟨_, _, _, handed⟩ | ⟨_, _, handed⟩ | ⟨_, _, handed⟩ := queue.handOut_cases <;> rw [handed]

@[simp] theorem handOut_closed (queue : WorkQueue κ) :
    queue.handOut.2.closed = queue.closed := by
  obtain ⟨_, _, _, handed⟩ | ⟨_, _, handed⟩ | ⟨_, _, handed⟩ := queue.handOut_cases <;> rw [handed]

/-- A key that a worker is done with gets in line if it needs work again. -/
theorem complete_cases (queue : WorkQueue κ) (key : κ) :
    (key ∈ queue.dirty ∧
      queue.complete key =
        (true,
          { queue with
            processing := queue.processing.filter (· ≠ key)
            ready := queue.ready ++ [key] })) ∨
    (key ∉ queue.dirty ∧
      queue.complete key =
        (false, { queue with processing := queue.processing.filter (· ≠ key) })) := by
  unfold complete
  by_cases marked : key ∈ queue.dirty
  · exact .inl ⟨marked, by rw [if_pos marked]⟩
  · exact .inr ⟨marked, by rw [if_neg marked]⟩

@[simp] theorem complete_processing (queue : WorkQueue κ) (key : κ) :
    (queue.complete key).2.processing = queue.processing.filter (· ≠ key) := by
  obtain ⟨_, completed⟩ | ⟨_, completed⟩ := queue.complete_cases key <;> rw [completed]

@[simp] theorem complete_dirty (queue : WorkQueue κ) (key : κ) :
    (queue.complete key).2.dirty = queue.dirty := by
  obtain ⟨_, completed⟩ | ⟨_, completed⟩ := queue.complete_cases key <;> rw [completed]

@[simp] theorem complete_closed (queue : WorkQueue κ) (key : κ) :
    (queue.complete key).2.closed = queue.closed := by
  obtain ⟨_, completed⟩ | ⟨_, completed⟩ := queue.complete_cases key <;> rw [completed]

@[simp] theorem complete_delayed (queue : WorkQueue κ) (key : κ) :
    (queue.complete key).2.delayed = queue.delayed := by
  obtain ⟨_, completed⟩ | ⟨_, completed⟩ := queue.complete_cases key <;> rw [completed]

@[simp] theorem complete_deadlines (queue : WorkQueue κ) (key : κ) :
    (queue.complete key).2.deadlines = queue.deadlines := by
  obtain ⟨_, completed⟩ | ⟨_, completed⟩ := queue.complete_cases key <;> rw [completed]

/-! ### What they keep -/

theorem Placed.add {queue : WorkQueue κ} (placed : queue.Placed) (key : κ) :
    (queue.add key).2.Placed := by
  obtain ⟨_, added⟩ | ⟨_, clean, held, added⟩ | ⟨_, clean, free, added⟩ := queue.add_cases key
  · rw [added]
    exact placed
  · rw [added]
    exact
      { placed with
        dirtyNodup := List.nodup_cons.mpr ⟨clean, placed.dirtyNodup⟩
        ready_dirty := fun other ready => List.mem_cons_of_mem key (placed.ready_dirty other ready)
        dirty_placed := by
          intro other dirty
          rcases List.mem_cons.mp dirty with rfl | before
          · exact .inr held
          · exact placed.dirty_placed other before }
  · have waiting : key ∉ queue.ready := fun ready => clean (placed.ready_dirty key ready)
    rw [added]
    constructor
    · exact nodup_line placed.readyNodup waiting
    · exact List.nodup_cons.mpr ⟨clean, placed.dirtyNodup⟩
    · exact placed.processingNodup
    · intro other ready
      rcases List.mem_append.mp ready with before | last
      · exact List.mem_cons_of_mem key (placed.ready_dirty other before)
      · exact List.mem_cons.mpr (.inl (List.mem_singleton.mp last))
    · intro other ready
      rcases List.mem_append.mp ready with before | last
      · exact placed.ready_free other before
      · rw [List.mem_singleton.mp last]
        exact free
    · intro other dirty
      rcases List.mem_cons.mp dirty with rfl | before
      · exact .inl (by simp)
      · exact (placed.dirty_placed other before).imp_left (List.mem_append_left [key])

theorem Placed.delay {queue : WorkQueue κ} (placed : queue.Placed) (time : Nat) (key : κ) :
    (queue.delay time key).2.Placed :=
  placed.of_lists (by simp) (by simp) (by simp)

theorem Placed.promoteEntry {queue : WorkQueue κ} (placed : queue.Placed) (entry : Delayed κ) :
    (queue.promoteEntry entry).Placed := by
  obtain ⟨_, promoted⟩ | ⟨_, promoted⟩ := queue.promoteEntry_cases entry
  · rw [promoted]
    have same : { queue with deadlines := queue.deadlines.erase entry.key }.Placed :=
      placed.of_lists rfl rfl rfl
    exact same.add entry.key
  · rw [promoted]
    exact placed

theorem Placed.promote {queue : WorkQueue κ} (placed : queue.Placed) (now : Nat) :
    (queue.promote now).Placed :=
  queue.promote_induction now (placed.of_lists rfl rfl rfl)
    fun _ entry before => before.promoteEntry entry

theorem Placed.handOut {queue : WorkQueue κ} (placed : queue.Placed) :
    queue.handOut.2.Placed := by
  obtain ⟨key, rest, line, handed⟩ | ⟨_, _, handed⟩ | ⟨_, _, handed⟩ := queue.handOut_cases
  · have inLine : key ∈ queue.ready := by simp [line]
    obtain ⟨passed, restNodup⟩ := List.nodup_cons.mp (line ▸ placed.readyNodup)
    rw [handed]
    constructor
    · exact restNodup
    · exact placed.dirtyNodup.erase key
    · exact List.nodup_cons.mpr ⟨placed.ready_free key inLine, placed.processingNodup⟩
    · intro other ready
      have different : other ≠ key := fun same => passed (same ▸ ready)
      exact (List.mem_erase_of_ne different).mpr (placed.ready_dirty other (by simp [line, ready]))
    · intro other ready held
      rcases List.mem_cons.mp held with rfl | before
      · exact passed ready
      · exact placed.ready_free other (by simp [line, ready]) before
    · intro other dirty
      obtain ⟨different, before⟩ := (List.Nodup.mem_erase_iff placed.dirtyNodup).mp dirty
      rcases placed.dirty_placed other before with ready | held
      · rw [line] at ready
        exact .inl ((List.mem_cons.mp ready).resolve_left different)
      · exact .inr (List.mem_cons_of_mem key held)
  all_goals rw [handed]; exact placed

/-- Only what a worker holds can be completed: a key that is ready and completed
would be ready twice. -/
theorem Placed.complete {queue : WorkQueue κ} (placed : queue.Placed) (key : κ)
    (held : key ∈ queue.processing) : (queue.complete key).2.Placed := by
  have waiting : key ∉ queue.ready := fun ready => placed.ready_free key ready held
  obtain ⟨marked, completed⟩ | ⟨clean, completed⟩ := queue.complete_cases key
  · rw [completed]
    constructor
    · exact nodup_line placed.readyNodup waiting
    · exact placed.dirtyNodup
    · exact placed.processingNodup.filter _
    · intro other ready
      rcases List.mem_append.mp ready with before | last
      · exact placed.ready_dirty other before
      · rw [List.mem_singleton.mp last]
        exact marked
    · intro other ready stillHeld
      obtain ⟨before, different⟩ := List.mem_filter.mp stillHeld
      rcases List.mem_append.mp ready with earlier | last
      · exact placed.ready_free other earlier before
      · simp [List.mem_singleton.mp last] at different
    · intro other dirty
      by_cases same : other = key
      · exact .inl (by simp [same])
      · rcases placed.dirty_placed other dirty with ready | stillHeld
        · exact .inl (List.mem_append_left [key] ready)
        · exact .inr (List.mem_filter.mpr ⟨stillHeld, by simpa using same⟩)
  · rw [completed]
    constructor
    · exact placed.readyNodup
    · exact placed.dirtyNodup
    · exact placed.processingNodup.filter _
    · exact placed.ready_dirty
    · intro other ready stillHeld
      exact placed.ready_free other ready (List.mem_filter.mp stillHeld).1
    · intro other dirty
      have different : other ≠ key := fun same => clean (same ▸ dirty)
      exact (placed.dirty_placed other dirty).imp_right
        fun stillHeld => List.mem_filter.mpr ⟨stillHeld, by simpa using different⟩

end WorkQueue

end PolicyReplica
