import TrtpNetwork.Library.SortedQueue
import TrtpNetwork.Linksimulator.MinQueue
import Mathlib.Data.Multiset.Sort

/-!
# What a client of the queue sees

A client pushes, peeks and pops in any order, and `realloc` may fail at any time.  Whatever it does,
the queue behaves as a sorted list of keys (`minq_refines`), and the elements themselves are neither
lost nor doubled: those that went in are those that came out and those still there, and what is left
comes out in order (`minq_drains`).
-/

namespace TrtpNetwork

variable {α β : Type*}

/-- A call of the client, with what `realloc` would return. -/
inductive QueueOp (α : Type*) where
  | push (v : α) (realloc : Option (ℕ → α))
  | pop

/-- The queue after a call. -/
def minqStep (q : MinQueue α) : QueueOp α → MinQueue α
  | .push v realloc => (minqPush q v realloc).2
  | .pop => minqPop q

/-- What a call adds: the element, if `minq_push` returned 0. -/
def pushedBy (q : MinQueue α) : QueueOp α → Multiset α
  | .push v realloc => if (minqPush q v realloc).1 = 0 then {v} else 0
  | .pop => 0

/-- What a call takes out: for `minq_pop` the element a `minq_peek` in front of it returns. -/
def poppedBy (q : MinQueue α) : QueueOp α → Multiset α
  | .push _ _ => 0
  | .pop => ((minqPeek q).toList : Multiset α)

/-- What a sequence of calls adds. -/
def pushed (q : MinQueue α) : List (QueueOp α) → Multiset α
  | [] => 0
  | op :: ops => pushedBy q op + pushed (minqStep q op) ops

/-- What a sequence of calls takes out. -/
def popped (q : MinQueue α) : List (QueueOp α) → Multiset α
  | [] => 0
  | op :: ops => poppedBy q op + popped (minqStep q op) ops

/-- Peeking and popping, `n` times at most. -/
def drain : ℕ → MinQueue α → List α
  | 0, _ => []
  | n + 1, q =>
    match minqPeek q with
    | none => []
    | some a => a :: drain n (minqPop q)

section

variable [LinearOrder β] {key : α → β} {q : MinQueue α} {s : SortedQueue β}

/-- The call on the list of keys. -/
def SortedQueue.step (key : α → β) (s : SortedQueue β) : QueueOp α → SortedQueue β
  | .push v realloc => s.insert slotsPerMalloc (key v) realloc.isSome
  | .pop => s.removeMin

/-- The queue holds these keys, and has the same room. -/
structure Refines (key : α → β) (q : MinQueue α) (s : SortedQueue β) : Prop where
  valid : q.Valid key
  keys : q.contents.map key = s.keys
  capacity : q.alloc = s.capacity

theorem Refines.length (h : Refines key q s) : s.keys.length = q.size := by
  have hcard := congrArg Multiset.card h.keys
  rw [Multiset.card_map, MinQueue.card_contents, Multiset.coe_card] at hcard
  exact hcard.symm

/-- Popping an empty queue does nothing. -/
theorem minqPop_of_empty (h : minqPeek q = none) : minqPop q = q := by
  unfold minqPeek at h
  split at h
  · rename_i hempty
    rw [minqPop, if_pos hempty]
  · cases h

theorem Refines.head (h : Refines key q s) : (minqPeek q).map key = s.keys.head? := by
  cases hpeek : minqPeek q with
  | none =>
    have hkeys := h.keys
    rw [minqPeek_eq_none_iff.mp hpeek, Multiset.map_zero] at hkeys
    rw [(Multiset.coe_eq_zero s.keys).mp hkeys.symm]
    rfl
  | some a =>
    obtain ⟨hmem, hleast⟩ := minqPeek_spec h.valid hpeek
    obtain ⟨-, hcontents, -, -⟩ := minqPop_spec h.valid hpeek
    have hkeys := h.keys
    rw [hcontents, Multiset.map_cons] at hkeys
    refine (s.keys_eq_cons hkeys.symm fun b hb => ?_).1.symm
    obtain ⟨c, hc, rfl⟩ := Multiset.mem_map.mp hb
    exact hleast c (hcontents ▸ Multiset.mem_cons_of_mem hc)

theorem Refines.push (h : Refines key q s) (v : α) (realloc : Option (ℕ → α)) :
    Refines key (minqPush q v realloc).2 (s.insert slotsPerMalloc (key v) realloc.isSome) := by
  have hlength := h.length
  have hcapacity := h.capacity
  have hroom := h.valid.capacity
  rcases minqPush_spec h.valid v realloc with ⟨hfull, rfl, hpush⟩ | ⟨q', hpush, hvalid, hc, halloc⟩
  · rw [hpush, SortedQueue.insert, if_neg (by omega)]
    exact h
  · rw [hpush]
    have hkeys : q'.contents.map key = s.keys.orderedInsert (· ≤ ·) (key v) := by
      rw [hc, Multiset.map_cons, h.keys, Multiset.cons_coe]
      exact Multiset.coe_eq_coe.mpr (List.perm_orderedInsert _ (key v) s.keys).symm
    by_cases hfull : q.size = q.alloc
    · have hsome : realloc.isSome = true := by
        cases realloc with
        | none =>
          rw [minqPush, reserve, if_pos hfull] at hpush
          exact absurd (congrArg Prod.fst hpush) (by simp)
        | some block => rfl
      rw [if_pos hfull] at halloc
      rw [SortedQueue.insert, if_neg (by omega), if_pos hsome]
      exact ⟨hvalid, hkeys, by rw [halloc, hcapacity]⟩
    · rw [if_neg hfull] at halloc
      rw [SortedQueue.insert, if_pos (by omega)]
      exact ⟨hvalid, hkeys, by rw [halloc, hcapacity]⟩

theorem Refines.pop (h : Refines key q s) : Refines key (minqPop q) s.removeMin := by
  cases hpeek : minqPeek q with
  | none =>
    have hnil : s.keys = [] := by
      have hhead := h.head
      rw [hpeek] at hhead
      exact List.head?_eq_none_iff.mp hhead.symm
    rw [minqPop_of_empty hpeek]
    refine ⟨h.valid, ?_, h.capacity⟩
    rw [h.keys]
    show (s.keys : Multiset β) = s.keys.tail
    rw [hnil, List.tail_nil]
  | some a =>
    obtain ⟨hmem, hleast⟩ := minqPeek_spec h.valid hpeek
    obtain ⟨hvalid, hcontents, halloc, -⟩ := minqPop_spec h.valid hpeek
    have hkeys := h.keys
    rw [hcontents, Multiset.map_cons] at hkeys
    refine ⟨hvalid, ?_, halloc.trans h.capacity⟩
    refine (s.keys_eq_cons hkeys.symm fun b hb => ?_).2.symm
    obtain ⟨c, hc, rfl⟩ := Multiset.mem_map.mp hb
    exact hleast c (hcontents ▸ Multiset.mem_cons_of_mem hc)

theorem Refines.step (h : Refines key q s) (op : QueueOp α) :
    Refines key (minqStep q op) (s.step key op) := by
  cases op with
  | push v realloc => exact h.push v realloc
  | pop => exact h.pop

theorem Refines.run (h : Refines key q s) (ops : List (QueueOp α)) :
    Refines key (ops.foldl minqStep q) (ops.foldl (SortedQueue.step key) s) := by
  induction ops generalizing q s with
  | nil => exact h
  | cons op ops ih => exact ih (h.step op)

theorem refines_new {cmp : α → α → Bool} (hcmp : Compares cmp key) {mallocQueue : Bool}
    {mallocSlots : Option (ℕ → α)} (h : minqNew cmp mallocQueue mallocSlots = some q) :
    Refines key q (SortedQueue.empty β slotsPerMalloc) := by
  obtain ⟨hvalid, hcontents, halloc⟩ := MinQueue.valid_new hcmp h
  refine ⟨hvalid, ?_, halloc⟩
  rw [hcontents]
  rfl

/-- **The queue is a sorted list of keys** to its clients.  After any sequence of calls, with any
outcomes of `realloc`, the sorted keys of its elements are those of the list on which the same calls
were made, `minq_peek` returns an element whose key heads that list, and the elements fit in the
allocated slots. -/
theorem minq_refines (cmp : α → α → Bool) (key : α → β) (hcmp : Compares cmp key)
    (mallocQueue : Bool) (mallocSlots : Option (ℕ → α)) (q₀ : MinQueue α)
    (hnew : minqNew cmp mallocQueue mallocSlots = some q₀) (ops : List (QueueOp α)) :
    let q := ops.foldl minqStep q₀
    let s := ops.foldl (SortedQueue.step key) (SortedQueue.empty β slotsPerMalloc)
    (q.contents.map key).sort (· ≤ ·) = s.keys ∧ (minqPeek q).map key = s.keys.head? ∧
      q.size ≤ q.alloc ∧ q.alloc = s.capacity := by
  intro q s
  have h : Refines key q s := (refines_new hcmp hnew).run ops
  refine ⟨?_, h.head, h.valid.capacity, h.capacity⟩
  rw [h.keys, Multiset.coe_sort]
  exact List.mergeSort_eq_self _ s.sorted

/-- Two elements with keys 1 and 2, pushed in the wrong order and one of them popped. -/
theorem minq_refines_two :
    let q := [QueueOp.push 2 none, .push 1 none, .pop].foldl minqStep
      { cmp := fun a b : ℕ => decide (b < a), size := 0, alloc := slotsPerMalloc, e := fun _ => 0 }
    let s := [QueueOp.push 2 none, .push 1 none, .pop].foldl (SortedQueue.step id)
      (SortedQueue.empty ℕ slotsPerMalloc)
    s.keys = [2] ∧ (q.contents.map id).sort (· ≤ ·) = s.keys ∧ (minqPeek q).map id = s.keys.head? ∧
      q.size ≤ q.alloc ∧ q.alloc = s.capacity := by
  refine ⟨by decide +kernel, ?_⟩
  exact minq_refines (fun a b : ℕ => decide (b < a)) id (fun a b => decide_eq_true_iff) true
    (some fun _ => 0) _ rfl [.push 2 none, .push 1 none, .pop]

/-! ## The elements -/

/-- A call conserves the elements. -/
theorem minqStep_conserves (h : q.Valid key) (op : QueueOp α) :
    (minqStep q op).Valid key ∧
      pushedBy q op + q.contents = poppedBy q op + (minqStep q op).contents := by
  cases op with
  | push v realloc =>
    simp only [minqStep, pushedBy, poppedBy, Multiset.zero_add]
    rcases minqPush_spec h v realloc with ⟨-, -, hpush⟩ | ⟨q', hpush, hvalid, hc, -⟩
    · rw [hpush]
      exact ⟨h, by simp⟩
    · rw [hpush, if_pos rfl, hc, Multiset.singleton_add]
      exact ⟨hvalid, rfl⟩
  | pop =>
    simp only [minqStep, pushedBy, poppedBy, Multiset.zero_add]
    cases hpeek : minqPeek q with
    | none =>
      rw [minqPop_of_empty hpeek]
      exact ⟨h, by simp⟩
    | some a =>
      obtain ⟨hvalid, hcontents, -, -⟩ := minqPop_spec h hpeek
      refine ⟨hvalid, ?_⟩
      rw [hcontents, Option.toList_some, Multiset.coe_singleton, Multiset.singleton_add]

theorem minqRun_conserves (h : q.Valid key) (ops : List (QueueOp α)) :
    (ops.foldl minqStep q).Valid key ∧
      pushed q ops + q.contents = popped q ops + (ops.foldl minqStep q).contents := by
  induction ops generalizing q with
  | nil => exact ⟨h, by simp [pushed, popped]⟩
  | cons op ops ih =>
    obtain ⟨hvalid, hstep⟩ := minqStep_conserves h op
    obtain ⟨hrest, hsum⟩ := ih hvalid
    refine ⟨hrest, ?_⟩
    calc pushed q (op :: ops) + q.contents
        = pushed (minqStep q op) ops + (pushedBy q op + q.contents) := by
          rw [pushed, Multiset.add_comm (pushedBy q op), Multiset.add_assoc]
      _ = poppedBy q op + (pushed (minqStep q op) ops + (minqStep q op).contents) := by
          rw [hstep, ← Multiset.add_assoc, Multiset.add_comm (pushed _ _), Multiset.add_assoc]
      _ = popped q (op :: ops) + ((op :: ops).foldl minqStep q).contents := by
          rw [hsum, popped, Multiset.add_assoc, List.foldl_cons]

/-- Draining a queue yields its elements in the order of their keys. -/
theorem drain_spec (h : q.Valid key) {n : ℕ} (hn : q.size ≤ n) :
    (drain n q : Multiset α) = q.contents ∧
      (drain n q).Pairwise fun a b => key a ≤ key b := by
  induction n generalizing q with
  | zero =>
    have hzero : q.contents = 0 := by
      rw [← Multiset.card_eq_zero, MinQueue.card_contents]
      omega
    rw [hzero, drain]
    exact ⟨rfl, List.Pairwise.nil⟩
  | succ n ih =>
    rw [drain]
    cases hpeek : minqPeek q with
    | none =>
      rw [minqPeek_eq_none_iff.mp hpeek]
      exact ⟨rfl, List.Pairwise.nil⟩
    | some a =>
      obtain ⟨-, hleast⟩ := minqPeek_spec h hpeek
      obtain ⟨hvalid, hcontents, -, hsize⟩ := minqPop_spec h hpeek
      obtain ⟨hrest, hsorted⟩ := ih hvalid (by omega)
      refine ⟨?_, List.pairwise_cons.mpr ⟨fun b hb => hleast b ?_, hsorted⟩⟩
      · rw [hcontents, ← hrest, Multiset.cons_coe]
      · rw [hcontents, ← hrest]
        exact Multiset.mem_cons_of_mem (Multiset.mem_coe.mpr hb)

/-- **Every element that was accepted comes out once**: at a `minq_pop` made so far, or when the
queue is emptied, and then in the order of the keys. -/
theorem minq_drains (cmp : α → α → Bool) (key : α → β) (hcmp : Compares cmp key)
    (mallocQueue : Bool) (mallocSlots : Option (ℕ → α)) (q₀ : MinQueue α)
    (hnew : minqNew cmp mallocQueue mallocSlots = some q₀) (ops : List (QueueOp α)) :
    let q := ops.foldl minqStep q₀
    pushed q₀ ops = popped q₀ ops + (drain (minqSize q) q : Multiset α) ∧
      (drain (minqSize q) q).Pairwise fun a b => key a ≤ key b := by
  intro q
  obtain ⟨hvalid₀, hempty, -⟩ := MinQueue.valid_new hcmp hnew
  obtain ⟨hvalid, hsum⟩ := minqRun_conserves hvalid₀ ops
  obtain ⟨hdrain, hsorted⟩ := drain_spec hvalid (le_refl (minqSize q))
  refine ⟨?_, hsorted⟩
  rw [hempty, Multiset.add_zero] at hsum
  rw [hsum, hdrain]

/-- Three elements pushed, and the queue emptied. -/
theorem minq_drains_three :
    let q := [QueueOp.push 3 none, .push 1 none, .push 2 none].foldl minqStep
      { cmp := fun a b : ℕ => decide (b < a), size := 0, alloc := slotsPerMalloc, e := fun _ => 0 }
    drain (minqSize q) q = [1, 2, 3] ∧ (drain (minqSize q) q).Pairwise fun a b => id a ≤ id b := by
  refine ⟨by decide +kernel, ?_⟩
  exact (minq_drains (fun a b : ℕ => decide (b < a)) id (fun a b => decide_eq_true_iff) true
    (some fun _ => 0) _ rfl [.push 3 none, .push 1 none, .push 2 none]).2

end

end TrtpNetwork
