import Mathlib.Data.List.Nodup
import PolicyReplica.Proofs.Queue.Session

/-
Keys that wait in a queue, and what they weigh.

A key is pending while it is ready or delayed. Additions make their key pending and
nothing else, the passing of time changes nothing about it, and only the key that is
handed out may stop being pending. A weight of the keys gives the queue a load, of
which no operation makes more than it adds.
-/

namespace PolicyReplica

namespace Table

variable {κ ν : Type} [DecidableEq κ]

theorem keys_erase (table : Table κ ν) (key : κ) :
    (table.erase key).keys = table.keys.filter (· ≠ key) := by
  unfold keys erase
  rw [List.filter_map]
  rfl

theorem keys_insert (table : Table κ ν) (key : κ) (value : ν) :
    (table.insert key value).keys = table.keys.filter (· ≠ key) ++ [key] := by
  rw [← keys_erase]
  unfold keys insert erase
  rw [List.map_append]
  rfl

end Table

namespace WorkQueue

variable {κ : Type}

def weigh (weight : κ → Nat) : List κ → Nat
  | [] => 0
  | key :: rest => weight key + weigh weight rest

theorem weigh_cons (weight : κ → Nat) (key : κ) (keys : List κ) :
    weigh weight (key :: keys) = weight key + weigh weight keys := rfl

theorem weigh_singleton (weight : κ → Nat) (key : κ) : weigh weight [key] = weight key := rfl

theorem weigh_append (weight : κ → Nat) (left right : List κ) :
    weigh weight (left ++ right) = weigh weight left + weigh weight right := by
  induction left with
  | nil => exact (Nat.zero_add _).symm
  | cons key rest ih =>
      rw [List.cons_append, weigh_cons, weigh_cons, ih]
      omega

theorem weigh_filter_le (weight : κ → Nat) (keep : κ → Bool) (keys : List κ) :
    weigh weight (keys.filter keep) ≤ weigh weight keys := by
  induction keys with
  | nil => exact Nat.le_refl _
  | cons key rest ih =>
      rw [weigh_cons]
      by_cases kept : keep key = true
      · rw [List.filter_cons_of_pos kept, weigh_cons]
        omega
      · rw [List.filter_cons_of_neg kept]
        omega

theorem mem_enqueue (entry other : Delayed κ) (line : List (Delayed κ)) :
    other ∈ enqueue entry line ↔ other = entry ∨ other ∈ line := by
  induction line with
  | nil => simp [enqueue]
  | cons first rest ih =>
      unfold enqueue
      by_cases before : first.time ≤ entry.time
      · rw [if_pos before, List.mem_cons, ih, List.mem_cons, or_left_comm]
      · rw [if_neg before, List.mem_cons]

variable [DecidableEq κ]

theorem weigh_filter_ne (weight : κ → Nat) {keys : List κ} (nodup : keys.Nodup) {key : κ}
    (member : key ∈ keys) :
    weigh weight (keys.filter (· ≠ key)) + weight key = weigh weight keys := by
  induction keys with
  | nil => cases member
  | cons first rest ih =>
      obtain ⟨passed, restNodup⟩ := List.nodup_cons.mp nodup
      rw [weigh_cons]
      by_cases same : first = key
      · subst same
        have others : rest.filter (· ≠ first) = rest := by
          refine List.filter_eq_self.mpr fun other inRest => ?_
          have different : other ≠ first := fun equal => passed (equal ▸ inRest)
          simpa using different
        rw [List.filter_cons_of_neg (by simp), others]
        omega
      · have inRest : key ∈ rest := (List.mem_cons.mp member).resolve_left (Ne.symm same)
        have saved := ih restNodup inRest
        rw [List.filter_cons_of_pos (by simpa using same), weigh_cons]
        omega

def Pending (queue : WorkQueue κ) (key : κ) : Prop :=
  key ∈ queue.ready ∨ (queue.deadlines.get? key).isSome = true

def load (queue : WorkQueue κ) (weight : κ → Nat) : Nat :=
  weigh weight queue.ready + weigh weight queue.deadlines.keys

def Lined (queue : WorkQueue κ) : Prop :=
  ∀ key time, queue.deadlines.get? key = some time → ⟨time, key⟩ ∈ queue.delayed

/-- An open queue with nothing ready, nothing delayed and nothing handed out. Entries
that were superseded may still stand in line. -/
structure Idle (queue : WorkQueue κ) : Prop where
  isOpen : queue.closed = false
  ready : queue.ready = []
  dirty : queue.dirty = []
  processing : queue.processing = []
  deadlines : ∀ key, queue.deadlines.get? key = none

theorem Idle.lined {queue : WorkQueue κ} (idle : queue.Idle) : queue.Lined := by
  intro key time found
  rw [idle.deadlines key] at found
  cases found

theorem Idle.placed {queue : WorkQueue κ} (idle : queue.Idle) : queue.Placed :=
  empty_placed.of_lists idle.ready idle.dirty idle.processing

theorem Placed.idle {queue : WorkQueue κ} (placed : queue.Placed) (isOpen : queue.closed = false)
    (lined : queue.Lined) (free : queue.processing = []) (noneReady : queue.ready = [])
    (noneInLine : queue.delayed = []) : queue.Idle where
  isOpen := isOpen
  ready := noneReady
  dirty := by
    refine List.eq_nil_iff_forall_not_mem.mpr fun key marked => ?_
    rcases placed.dirty_placed key marked with ready | held
    · rw [noneReady] at ready
      cases ready
    · rw [free] at held
      cases held
  processing := free
  deadlines := by
    intro key
    cases found : queue.deadlines.get? key with
    | none => rfl
    | some time =>
        have entry := lined key time found
        rw [noneInLine] at entry
        cases entry

/-! ### Growth -/

/-- A queue that came from another by the addition of some keys, at once or after a
delay. -/
structure Grows (queue other : WorkQueue κ) (keys : List κ) : Prop where
  placed : other.Placed
  isOpen : other.closed = false
  processing : other.processing = queue.processing
  pending : ∀ key, other.Pending key ↔ queue.Pending key ∨ key ∈ keys
  load : ∀ weight, other.load weight ≤ queue.load weight + weigh weight keys

theorem Grows.refl {queue : WorkQueue κ} (placed : queue.Placed) (isOpen : queue.closed = false) :
    Grows queue queue [] where
  placed := placed
  isOpen := isOpen
  processing := rfl
  pending := by
    intro key
    constructor
    · exact .inl
    · intro either
      rcases either with before | impossible
      · exact before
      · cases impossible
  load := fun _ => Nat.le_add_right _ _

theorem Grows.trans {first second third : WorkQueue κ} {keys others : List κ}
    (left : Grows first second keys) (right : Grows second third others) :
    Grows first third (keys ++ others) where
  placed := right.placed
  isOpen := right.isOpen
  processing := right.processing.trans left.processing
  pending := by
    intro key
    rw [right.pending, left.pending, List.mem_append, or_assoc]
  load := by
    intro weight
    have second := right.load weight
    have first := left.load weight
    rw [weigh_append]
    omega

theorem Grows.add {queue : WorkQueue κ} (placed : queue.Placed) (isOpen : queue.closed = false)
    {key : κ} (free : key ∉ queue.processing) : Grows queue (queue.add key).2 [key] where
  placed := placed.add key
  isOpen := by rw [add_closed, isOpen]
  processing := queue.add_processing key
  pending := by
    intro other
    unfold Pending
    rw [add_deadlines, List.mem_singleton]
    obtain ⟨refused, added⟩ | ⟨_, _, held, _⟩ | ⟨_, _, _, added⟩ := queue.add_cases key
    · have marked : key ∈ queue.dirty := by
        rw [isOpen] at refused
        exact refused.resolve_left Bool.false_ne_true
      have ready : key ∈ queue.ready := (placed.dirty_placed key marked).resolve_right free
      rw [added]
      constructor
      · exact .inl
      · intro either
        rcases either with before | rfl
        · exact before
        · exact .inl ready
    · exact absurd held free
    · rw [added, List.mem_append, List.mem_singleton, or_right_comm]
  load := by
    intro weight
    unfold WorkQueue.load
    rw [add_deadlines, weigh_singleton]
    obtain ⟨_, added⟩ | ⟨_, _, held, _⟩ | ⟨_, _, _, added⟩ := queue.add_cases key
    · rw [added]
      exact Nat.le_add_right _ _
    · exact absurd held free
    · rw [added, weigh_append, weigh_singleton]
      omega

theorem Grows.delay {queue : WorkQueue κ} (placed : queue.Placed) (isOpen : queue.closed = false)
    (time : Nat) (key : κ) : Grows queue (queue.delay time key).2 [key] where
  placed := placed.delay time key
  isOpen := by rw [delay_closed, isOpen]
  processing := queue.delay_processing time key
  pending := by
    intro other
    unfold Pending
    rw [delay_ready, List.mem_singleton]
    obtain ⟨delayed, reason⟩ | ⟨_, delayed⟩ := queue.delay_cases time key
    · have found : (queue.deadlines.get? key).isSome = true := by
        rcases reason with closed | ⟨due, found, _⟩
        · rw [isOpen] at closed
          cases closed
        · rw [found]
          rfl
      rw [delayed]
      constructor
      · exact .inl
      · intro either
        rcases either with before | rfl
        · exact before
        · exact .inr found
    · rw [delayed, Table.get?_insert]
      by_cases same : other = key
      · simp [same]
      · simp [same]
  load := by
    intro weight
    unfold WorkQueue.load
    rw [delay_ready, weigh_singleton]
    obtain ⟨delayed, _⟩ | ⟨_, delayed⟩ := queue.delay_cases time key
    · rw [delayed]
      exact Nat.le_add_right _ _
    · have saved := weigh_filter_le weight (· ≠ key) queue.deadlines.keys
      rw [delayed, Table.keys_insert, weigh_append, weigh_singleton]
      omega

theorem Lined.add {queue : WorkQueue κ} (lined : queue.Lined) (key : κ) :
    (queue.add key).2.Lined := by
  intro other time found
  rw [add_deadlines] at found
  rw [add_delayed]
  exact lined other time found

theorem Lined.delay {queue : WorkQueue κ} (lined : queue.Lined) (time : Nat) (key : κ) :
    (queue.delay time key).2.Lined := by
  obtain ⟨delayed, _⟩ | ⟨_, delayed⟩ := queue.delay_cases time key
  · rw [delayed]
    exact lined
  · rw [delayed]
    intro other due found
    rw [Table.get?_insert] at found
    rw [mem_enqueue]
    by_cases same : other = key
    · rw [if_pos same] at found
      obtain rfl := Option.some.inj found
      exact .inl (by rw [same])
    · rw [if_neg same] at found
      exact .inr (lined other due found)

/-! ### The passing of time -/

theorem Grows.promoteEntry {queue : WorkQueue κ} (placed : queue.Placed)
    (isOpen : queue.closed = false) (free : queue.processing = []) (entry : Delayed κ) :
    Grows queue (queue.promoteEntry entry) [] := by
  obtain ⟨counts, promoted⟩ | ⟨_, promoted⟩ := queue.promoteEntry_cases entry
  · let released : WorkQueue κ := { queue with deadlines := queue.deadlines.erase entry.key }
    have held : entry.key ∉ released.processing := by
      change entry.key ∉ queue.processing
      rw [free]
      exact List.not_mem_nil
    have settled : released.Placed := placed.of_lists rfl rfl rfl
    have added : Grows released (released.add entry.key).2 [entry.key] := .add settled isOpen held
    have known : entry.key ∈ queue.deadlines.keys := by
      rw [Table.mem_keys_iff, counts]
      rfl
    have saved : ∀ weight : κ → Nat,
        released.load weight + weight entry.key = queue.load weight := by
      intro weight
      have erased := weigh_filter_ne weight queue.deadlines.distinctKeys known
      unfold WorkQueue.load
      change weigh weight queue.ready + weigh weight (queue.deadlines.erase entry.key).keys +
        weight entry.key = _
      rw [Table.keys_erase]
      unfold Table.keys at erased ⊢
      omega
    rw [promoted]
    change Grows queue (released.add entry.key).2 []
    refine ⟨added.placed, added.isOpen, added.processing, ?_, ?_⟩
    · intro key
      rw [added.pending]
      unfold Pending
      change (key ∈ queue.ready ∨ ((queue.deadlines.erase entry.key).get? key).isSome = true) ∨
        key ∈ [entry.key] ↔ _
      rw [Table.get?_erase]
      by_cases same : key = entry.key
      · simp [same, counts]
      · simp [same]
    · intro weight
      have grown := added.load weight
      have before := saved weight
      rw [weigh_singleton] at grown
      omega
  · rw [promoted]
    exact .refl placed isOpen

theorem Grows.promote {queue : WorkQueue κ} (placed : queue.Placed)
    (isOpen : queue.closed = false) (free : queue.processing = []) (now : Nat) :
    Grows queue (queue.promote now) [] := by
  apply queue.promote_induction (motive := fun after => Grows queue after []) now
  · have start : Grows queue queue [] := .refl placed isOpen
    exact ⟨placed.of_lists rfl rfl rfl, isOpen, rfl, start.pending, start.load⟩
  · intro before entry grown
    have next : Grows before (before.promoteEntry entry) [] :=
      .promoteEntry grown.placed grown.isOpen (grown.processing.trans free) entry
    exact grown.trans next

private theorem lined_promote_all (entries : List (Delayed κ)) (queue : WorkQueue κ)
    (lined : ∀ key time, queue.deadlines.get? key = some time →
      (⟨time, key⟩ : Delayed κ) ∈ entries ++ queue.delayed) :
    (entries.foldl promoteEntry queue).Lined := by
  induction entries generalizing queue with
  | nil => exact lined
  | cons entry rest ih =>
      apply ih
      intro key time found
      rw [promoteEntry_delayed]
      obtain ⟨_, promoted⟩ | ⟨stale, promoted⟩ := queue.promoteEntry_cases entry
      · rw [promoted, add_deadlines, Table.get?_erase] at found
        by_cases same : key = entry.key
        · rw [if_pos same] at found
          cases found
        · rw [if_neg same] at found
          rcases List.mem_cons.mp (lined key time found) with here | later
          · exact absurd (congrArg Delayed.key here) same
          · exact later
      · rw [promoted] at found
        rcases List.mem_cons.mp (lined key time found) with here | later
        · subst here
          exact absurd found stale
        · exact later

theorem Lined.promote {queue : WorkQueue κ} (lined : queue.Lined) (now : Nat) :
    (queue.promote now).Lined := by
  apply lined_promote_all
  intro key time found
  rw [List.takeWhile_append_dropWhile]
  exact lined key time found

/-! ### Additions -/

/-- Growth in which no other keys than the added ones are marked, and deadlines keep
their entries in line. -/
structure Gains (queue other : WorkQueue κ) (keys : List κ) : Prop where
  grows : Grows queue other keys
  dirty : ∀ key ∈ other.dirty, key ∈ queue.dirty ∨ key ∈ keys
  lined : queue.Lined → other.Lined

theorem Gains.refl {queue : WorkQueue κ} (placed : queue.Placed) (isOpen : queue.closed = false) :
    Gains queue queue [] :=
  ⟨.refl placed isOpen, fun _ => .inl, id⟩

theorem Gains.trans {first second third : WorkQueue κ} {keys others : List κ}
    (left : Gains first second keys) (right : Gains second third others) :
    Gains first third (keys ++ others) := by
  refine ⟨left.grows.trans right.grows, ?_, fun lined => right.lined (left.lined lined)⟩
  intro key marked
  rw [List.mem_append, ← or_assoc]
  exact (right.dirty key marked).imp_left (left.dirty key)

theorem Gains.add {queue : WorkQueue κ} (placed : queue.Placed) (isOpen : queue.closed = false)
    {key : κ} (free : key ∉ queue.processing) : Gains queue (queue.add key).2 [key] := by
  refine ⟨.add placed isOpen free, ?_, fun lined => lined.add key⟩
  intro other marked
  rcases (queue.mem_dirty_add isOpen key other).mp marked with same | before
  · exact .inr (List.mem_singleton.mpr same)
  · exact .inl before

theorem Gains.delay {queue : WorkQueue κ} (placed : queue.Placed) (isOpen : queue.closed = false)
    (time : Nat) (key : κ) : Gains queue (queue.delay time key).2 [key] := by
  refine ⟨.delay placed isOpen time key, ?_, fun lined => lined.delay time key⟩
  intro other marked
  rw [delay_dirty] at marked
  exact .inl marked

end WorkQueue

theorem SharedQueue.gains_addRateLimited {κ : Type} [DecidableEq κ] {shared : SharedQueue κ}
    (placed : shared.queue.Placed) (isOpen : shared.queue.closed = false) (now : Nat) {key : κ}
    (free : key ∉ shared.queue.processing) :
    shared.queue.Gains (shared.addRateLimited now key).queue [key] := by
  rw [addRateLimited_queue]
  by_cases immediate : (shared.limiter.reserve now key).1 = 0
  · rw [if_pos immediate]
    exact .add placed isOpen free
  · rw [if_neg immediate]
    exact .delay placed isOpen _ key

namespace WorkQueue

variable {κ : Type} [DecidableEq κ]

/-! ### Hand-outs -/

structure Hands (queue other : WorkQueue κ) (key : κ) : Prop where
  placed : other.Placed
  isOpen : other.closed = false
  lined : other.Lined
  processing : other.processing = [key]
  clean : key ∉ other.dirty
  pending : ∀ k, queue.Pending k ↔ k = key ∨ other.Pending k
  load : ∀ weight, other.load weight + weight key ≤ queue.load weight

/-- How long a free worker can go on waiting: two for each entry in line, and one until
the clock shows the time of the first. -/
def lag (queue : WorkQueue κ) (now : Nat) : Nat :=
  2 * queue.delayed.length + if queue.delayed.head?.all (·.time ≤ now) then 0 else 1

theorem complete_of_clean {queue : WorkQueue κ} {key : κ} (clean : key ∉ queue.dirty) :
    (queue.complete key).2 = { queue with processing := queue.processing.filter (· ≠ key) } := by
  obtain ⟨marked, _⟩ | ⟨_, completed⟩ := queue.complete_cases key
  · exact absurd marked clean
  · rw [completed]

end WorkQueue

end PolicyReplica
