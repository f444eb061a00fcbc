import Wms.Inbound.ReturnTask
import Wms.ReceiptDates

/-!
# Receiving against a return task

A return task has a line for every lot from which an item was shipped. Receiving names
only the item, and the received quantity always goes to the first line of the item. So a
sequence of quantities is accepted exactly when the first lines can take all of them, and
what the other lots of an item could still take plays no part.
-/

namespace Wms

open Foundation

variable {t t' : ReturnTables} {task task' : ReturnTask} {taskId itemId : ℕ} {qty : ℤ}

/-! ## What is received -/

/-- The arguments of `record_receive` besides the task. -/
structure ReceiveCall where
  itemId : ℕ
  qty : ℤ

/-- What a line expects. -/
def ReturnTaskLine.expected (l : ReturnTaskLine) : ℤ := l.expectedQty.getD 0

/-- What the calls receive of an item. -/
def callsQty (calls : List ReceiveCall) (i : ℕ) : ℤ :=
  ((calls.filter fun c => c.itemId = i).map ReceiveCall.qty).sum

/-- What is picked of an item on some lines. -/
def pickedOf (ls : List ReturnTaskLine) (i : ℕ) : ℤ :=
  ((ls.filter fun l => l.itemId = i).map ReturnTaskLine.pickedQty).sum

/-- What some lines expect of an item. -/
def expectedOf (ls : List ReturnTaskLine) (i : ℕ) : ℤ :=
  ((ls.filter fun l => l.itemId = i).map ReturnTaskLine.expected).sum

/-- The first of some lines that has an item. -/
def firstLine (ls : List ReturnTaskLine) (i : ℕ) : Option ReturnTaskLine :=
  ls.find? fun l => l.itemId = i

/-- The state after some calls for a task, each failure being rolled back. -/
def ReturnTables.receiveAll (taskId : ℕ) (calls : List ReceiveCall) (t : ReturnTables) :
    ReturnTables :=
  Tx.attemptAll (fun c => recordReceive taskId c.itemId c.qty) calls t

theorem receiveAll_nil (taskId : ℕ) (t : ReturnTables) : t.receiveAll taskId [] = t := rfl

/-- All calls succeed, and after each of them no line exceeds what it expects and the
picked quantities have grown by what was received. -/
structure ReceivesAll (t : ReturnTables) (taskId : ℕ) (calls : List ReceiveCall) : Prop where
  succeeds : ∀ n c, calls[n]? = some c → ∃ task t',
    (recordReceive taskId c.itemId c.qty).run (t.receiveAll taskId (calls.take n)) = .ok (task, t')
  within : ∀ n, ∀ l ∈ (t.receiveAll taskId (calls.take n)).linesOf taskId,
    l.pickedQty ≤ l.expected
  total : ∀ n i, pickedOf ((t.receiveAll taskId (calls.take n)).linesOf taskId) i =
    pickedOf (t.linesOf taskId) i + callsQty (calls.take n) i

/-- The item has a line, and the first one takes what the calls receive of the item. -/
def FirstLineTakes (ls : List ReturnTaskLine) (calls : List ReceiveCall) (i : ℕ) : Prop :=
  ∃ l, firstLine ls i = some l ∧ 0 ≤ l.pickedQty + callsQty calls i ∧
    l.pickedQty + callsQty calls i ≤ l.expected

instance (ls : List ReturnTaskLine) (calls : List ReceiveCall) (i : ℕ) :
    Decidable (FirstLineTakes ls calls i) :=
  inferInstanceAs (Decidable (∃ l ∈ firstLine ls i, _))

/-- The first line of its item takes every call with those before it. -/
def FirstLinesTake (ls : List ReturnTaskLine) (calls : List ReceiveCall) : Prop :=
  ∀ n c, calls[n]? = some c → FirstLineTakes ls (calls.take (n + 1)) c.itemId

theorem callsQty_append (calls : List ReceiveCall) (c : ReceiveCall) (i : ℕ) :
    callsQty (calls ++ [c]) i = callsQty calls i + if c.itemId = i then c.qty else 0 := by
  unfold callsQty
  rw [List.filter_append, List.map_append, List.sum_append]
  by_cases hi : c.itemId = i <;> simp [hi]

/-- Nothing is received of an item that no call names. -/
theorem callsQty_eq_zero {calls : List ReceiveCall} {i : ℕ} (h : ∀ c ∈ calls, c.itemId ≠ i) :
    callsQty calls i = 0 := by
  have hnone : (calls.filter fun c => c.itemId = i) = [] := by
    rw [List.filter_eq_nil_iff]
    intro c hc
    simpa using h c hc
  simp [callsQty, hnone]

theorem linesOf_nodup (t : ReturnTables) (taskId : ℕ) :
    ((t.linesOf taskId).map ReturnTaskLine.id).Nodup := by
  have hrows : (t.returnTaskLines.rows.map ReturnTaskLine.id).Nodup :=
    List.pairwise_map.mpr t.returnTaskLines.unique
  exact hrows.sublist (List.filter_sublist.map _)

/-! ## One call -/

/-- A call leaves a committed task alone; otherwise the first line of the item takes the
quantity. -/
theorem recordReceive_run_ok :
    (recordReceive taskId itemId qty).run t = .ok (task', t') ↔
      t.findTask taskId = some task' ∧ ((task'.status = .committed ∧ t = t') ∨
        (task'.status ≠ .committed ∧ ∃ l, firstLine (t.linesOf taskId) itemId = some l ∧
          0 ≤ l.pickedQty + qty ∧ l.pickedQty + qty ≤ l.expected ∧
          t.mapLines (ReturnTaskLine.setPicked l.id (l.pickedQty + qty))
            (fun x => (x.setPicked_keeps _ _).1) (fun x => (x.setPicked_keeps _ _).2) = t')) := by
  unfold recordReceive getTask
  simp only [Tx.run_bind_ok, Tx.run_get_ok, Tx.run_demand_ok]
  constructor
  · rintro ⟨found, _, ⟨_, _, ⟨rfl, rfl⟩, hfound, rfl⟩, hrest⟩
    split at hrest
    · rename_i hcommitted
      obtain ⟨rfl, rfl⟩ := Tx.run_pure_ok.mp hrest
      exact ⟨hfound, .inl ⟨hcommitted, rfl⟩⟩
    · rename_i hopen
      simp only [Tx.run_bind_ok, Tx.run_get_ok, Tx.run_demand_ok, Tx.run_failIf_ok, Tx.run_set_ok,
        Tx.run_pure_ok] at hrest
      obtain ⟨_, _, ⟨rfl, rfl⟩, l, _, ⟨hl, rfl⟩, _, _, ⟨hneg, rfl⟩, _, _, ⟨hover, rfl⟩, _, _, rfl,
        rfl, rfl⟩ := hrest
      exact ⟨hfound, .inr ⟨hopen, l, hl, not_lt.mp hneg, not_lt.mp hover, rfl⟩⟩
  · rintro ⟨hfound, hcases⟩
    refine ⟨task', t, ⟨t, t, ⟨rfl, rfl⟩, hfound, rfl⟩, ?_⟩
    rcases hcases with ⟨hcommitted, rfl⟩ | ⟨hopen, l, hl, hneg, hover, rfl⟩
    · rw [if_pos hcommitted]
      exact Tx.run_pure_ok.mpr ⟨rfl, rfl⟩
    · rw [if_neg hopen]
      refine Tx.run_bind_ok.mpr ⟨t, t, Tx.run_get_ok.mpr ⟨rfl, rfl⟩, ?_⟩
      refine Tx.run_bind_ok.mpr ⟨l, t, Tx.run_demand_ok.mpr ⟨hl, rfl⟩, ?_⟩
      refine Tx.run_bind_ok.mpr ⟨(), t, Tx.run_failIf_ok.mpr ⟨not_lt.mpr hneg, rfl⟩, ?_⟩
      refine Tx.run_bind_ok.mpr ⟨(), t, Tx.run_failIf_ok.mpr ⟨not_lt.mpr hover, rfl⟩, ?_⟩
      exact Tx.run_bind_ok.mpr ⟨⟨⟩, _, Tx.run_set_ok.mpr rfl, Tx.run_pure_ok.mpr ⟨rfl, rfl⟩⟩

/-- Rewriting lines within their task rewrites the lines of each task. -/
theorem linesOf_mapLines (t : ReturnTables) {f : ReturnTaskLine → ReturnTaskLine}
    (hid : ∀ l, (f l).id = l.id) (htask : ∀ l, (f l).taskId = l.taskId) (taskId : ℕ) :
    (t.mapLines f hid htask).linesOf taskId = (t.linesOf taskId).map f := by
  have hsame : (fun l : ReturnTaskLine => decide (l.taskId = taskId)) ∘ f =
      fun l => decide (l.taskId = taskId) := by
    funext l
    simp [htask]
  unfold ReturnTables.linesOf ReturnTables.mapLines
  rw [Table.rows_map, List.filter_map, hsame]

/-! ## A sequence of calls -/

/-- A line after some calls: a first line takes all that they receive of its item. -/
def ReturnTaskLine.after (ls : List ReturnTaskLine) (calls : List ReceiveCall)
    (l : ReturnTaskLine) : ReturnTaskLine :=
  if firstLine ls l.itemId = some l then
    { l with pickedQty := l.pickedQty + callsQty calls l.itemId }
  else l

@[simp] theorem ReturnTaskLine.after_itemId (ls : List ReturnTaskLine) (calls : List ReceiveCall)
    (l : ReturnTaskLine) : (l.after ls calls).itemId = l.itemId := by
  unfold ReturnTaskLine.after
  split <;> rfl

@[simp] theorem ReturnTaskLine.after_id (ls : List ReturnTaskLine) (calls : List ReceiveCall)
    (l : ReturnTaskLine) : (l.after ls calls).id = l.id := by
  unfold ReturnTaskLine.after
  split <;> rfl

@[simp] theorem ReturnTaskLine.after_expected (ls : List ReturnTaskLine)
    (calls : List ReceiveCall) (l : ReturnTaskLine) :
    (l.after ls calls).expected = l.expected := by
  unfold ReturnTaskLine.after
  split <;> rfl

theorem ReturnTaskLine.after_first {ls : List ReturnTaskLine} {l : ReturnTaskLine}
    (h : firstLine ls l.itemId = some l) (calls : List ReceiveCall) :
    l.after ls calls = { l with pickedQty := l.pickedQty + callsQty calls l.itemId } := by
  unfold ReturnTaskLine.after
  rw [if_pos h]

theorem ReturnTaskLine.after_other {ls : List ReturnTaskLine} {l : ReturnTaskLine}
    (h : firstLine ls l.itemId ≠ some l) (calls : List ReceiveCall) : l.after ls calls = l := by
  unfold ReturnTaskLine.after
  rw [if_neg h]

theorem ReturnTaskLine.after_nil (ls : List ReturnTaskLine) (l : ReturnTaskLine) :
    l.after ls [] = l := by
  by_cases h : firstLine ls l.itemId = some l
  · rw [ReturnTaskLine.after_first h]
    simp [callsQty]
  · exact ReturnTaskLine.after_other h []

theorem firstLine_mem {ls : List ReturnTaskLine} {i : ℕ} {l : ReturnTaskLine}
    (h : firstLine ls i = some l) : l ∈ ls ∧ l.itemId = i :=
  ⟨List.mem_of_find?_eq_some h, by simpa using List.find?_some h⟩

/-- The calls do not change which line is the first of an item. -/
theorem firstLine_after (ls : List ReturnTaskLine) (calls : List ReceiveCall) (i : ℕ) :
    firstLine (ls.map (ReturnTaskLine.after ls calls)) i =
      (firstLine ls i).map (ReturnTaskLine.after ls calls) := by
  have hsame : (fun l : ReturnTaskLine => decide (l.itemId = i)) ∘ ReturnTaskLine.after ls calls =
      fun l => decide (l.itemId = i) := by
    funext l
    simp
  unfold firstLine
  rw [List.find?_map, hsame]

/-- One more call moves every line on. -/
theorem setPicked_after {ls : List ReturnTaskLine} (hnodup : (ls.map ReturnTaskLine.id).Nodup)
    {calls : List ReceiveCall} {c : ReceiveCall} {first l : ReturnTaskLine}
    (hfirst : firstLine ls c.itemId = some first) (hl : l ∈ ls) :
    (l.after ls calls).setPicked first.id ((first.after ls calls).pickedQty + c.qty) =
      l.after ls (calls ++ [c]) := by
  obtain ⟨hmem, hitem⟩ := firstLine_mem hfirst
  by_cases hsame : l = first
  · have hself : firstLine ls first.itemId = some first := by rwa [hitem]
    have hpicked : first.pickedQty + callsQty calls first.itemId + c.qty =
        first.pickedQty + callsQty (calls ++ [c]) first.itemId := by
      rw [callsQty_append, if_pos hitem.symm, add_assoc]
    rw [hsame, ReturnTaskLine.after_first hself, ReturnTaskLine.after_first hself,
      ReturnTaskLine.setPicked, if_pos rfl]
    simp only [hpicked]
  · have hid : l.id ≠ first.id := fun hid => hsame (List.inj_on_of_nodup_map hnodup hl hmem hid)
    have hkept : (l.after ls calls).setPicked first.id ((first.after ls calls).pickedQty + c.qty) =
        l.after ls calls := by
      rw [ReturnTaskLine.setPicked, if_neg (by simpa using hid)]
    rw [hkept]
    by_cases hself : firstLine ls l.itemId = some l
    · -- a first line of another item, of which the call receives nothing
      have hother : c.itemId ≠ l.itemId := by
        intro heq
        rw [heq, hself] at hfirst
        exact hsame (Option.some.inj hfirst)
      rw [ReturnTaskLine.after_first hself, ReturnTaskLine.after_first hself, callsQty_append,
        if_neg hother, add_zero]
    · rw [ReturnTaskLine.after_other hself, ReturnTaskLine.after_other hself]

/-- The state after some calls for an open task of `t` that have all succeeded. -/
structure Received (t : ReturnTables) (task : ReturnTask) (calls : List ReceiveCall)
    (s : ReturnTables) : Prop where
  task_eq : s.findTask task.id = some task
  lines_eq : s.linesOf task.id =
    (t.linesOf task.id).map (ReturnTaskLine.after (t.linesOf task.id) calls)

theorem Received.refl (htask : t.findTask task.id = some task) : Received t task [] t := by
  refine ⟨htask, ?_⟩
  rw [List.map_congr_left fun l _ => l.after_nil _, List.map_id']

variable {calls : List ReceiveCall} {c : ReceiveCall} {s s' : ReturnTables}

/-- A call succeeds exactly when the first line of its item takes it. -/
theorem Received.takes_iff (h : Received t task calls s) (hopen : task.status ≠ .committed) :
    (∃ task' s', (recordReceive task.id c.itemId c.qty).run s = .ok (task', s')) ↔
      FirstLineTakes (t.linesOf task.id) (calls ++ [c]) c.itemId := by
  have hmoved : ∀ l, firstLine (t.linesOf task.id) c.itemId = some l →
      (l.after (t.linesOf task.id) calls).pickedQty + c.qty =
        l.pickedQty + callsQty (calls ++ [c]) c.itemId := by
    intro l hl
    have hitem := (firstLine_mem hl).2
    have hself : firstLine (t.linesOf task.id) l.itemId = some l := by rwa [hitem]
    rw [ReturnTaskLine.after_first hself, callsQty_append, if_pos rfl, hitem, add_assoc]
  constructor
  · rintro ⟨task', s', hrun⟩
    obtain ⟨hfound, ⟨hcommitted, -⟩ | ⟨-, l, hl, hneg, hover, -⟩⟩ := recordReceive_run_ok.mp hrun
    · rw [h.task_eq] at hfound
      rw [Option.some.inj hfound] at hopen
      exact absurd hcommitted hopen
    · rw [h.lines_eq, firstLine_after] at hl
      obtain ⟨first, hfirst, rfl⟩ := Option.map_eq_some_iff.mp hl
      rw [hmoved first hfirst] at hneg hover
      rw [ReturnTaskLine.after_expected] at hover
      exact ⟨first, hfirst, hneg, hover⟩
  · rintro ⟨first, hfirst, hneg, hover⟩
    refine ⟨task, _, recordReceive_run_ok.mpr ⟨h.task_eq, .inr ⟨hopen,
      first.after (t.linesOf task.id) calls, ?_, ?_, ?_, rfl⟩⟩⟩
    · rw [h.lines_eq, firstLine_after, hfirst]
      rfl
    · rwa [hmoved first hfirst]
    · rwa [hmoved first hfirst, ReturnTaskLine.after_expected]

/-- A call that succeeds moves the lines on. -/
theorem Received.step (h : Received t task calls s) (hopen : task.status ≠ .committed)
    (hrun : (recordReceive task.id c.itemId c.qty).run s = .ok (task', s')) :
    Received t task (calls ++ [c]) s' := by
  obtain ⟨hfound, ⟨hcommitted, -⟩ | ⟨-, l, hl, -, -, rfl⟩⟩ := recordReceive_run_ok.mp hrun
  · rw [h.task_eq] at hfound
    rw [Option.some.inj hfound] at hopen
    exact absurd hcommitted hopen
  · refine ⟨h.task_eq, ?_⟩
    rw [h.lines_eq, firstLine_after] at hl
    obtain ⟨first, hfirst, rfl⟩ := Option.map_eq_some_iff.mp hl
    rw [linesOf_mapLines, h.lines_eq, List.map_map]
    refine List.map_congr_left fun x hx => ?_
    rw [Function.comp_apply, ReturnTaskLine.after_id]
    exact setPicked_after (linesOf_nodup t task.id) hfirst hx

/-- After calls that the first lines take, the picked quantities have grown by what was
received. -/
theorem pickedOf_after {ls : List ReturnTaskLine} (hnodup : (ls.map ReturnTaskLine.id).Nodup)
    (hfirst : ∀ c ∈ calls, (firstLine ls c.itemId).isSome) (i : ℕ) :
    pickedOf (ls.map (ReturnTaskLine.after ls calls)) i = pickedOf ls i + callsQty calls i := by
  have hsame : (fun l : ReturnTaskLine => decide (l.itemId = i)) ∘ ReturnTaskLine.after ls calls =
      fun l => decide (l.itemId = i) := by
    funext l
    simp
  have hhead : (ls.filter fun l => l.itemId = i).head? = firstLine ls i := List.head?_filter ..
  have hids : ((ls.filter fun l => l.itemId = i).map ReturnTaskLine.id).Nodup :=
    hnodup.sublist (List.filter_sublist.map _)
  have hitems : ∀ l ∈ ls.filter fun l => l.itemId = i, l.itemId = i := by
    intro l hl
    simpa using (List.mem_filter.mp hl).2
  unfold pickedOf
  rw [List.filter_map, hsame]
  cases hls : ls.filter fun l => l.itemId = i with
  | nil =>
    -- no call has named the item
    rw [hls] at hhead
    have hnone : ∀ c ∈ calls, c.itemId ≠ i := by
      rintro c hc rfl
      have hsome := hfirst c hc
      rw [← hhead] at hsome
      cases hsome
    simp [callsQty_eq_zero hnone]
  | cons first rest =>
    rw [hls] at hhead hids hitems
    have hself : firstLine ls first.itemId = some first := by
      rw [hitems first List.mem_cons_self, ← hhead]
      rfl
    have hrest : rest.map (ReturnTaskLine.after ls calls) = rest := by
      refine (List.map_congr_left fun l hl => ?_).trans (List.map_id' rest)
      refine ReturnTaskLine.after_other ?_ calls
      rw [hitems l (List.mem_cons_of_mem _ hl), ← hhead]
      intro heq
      rw [List.map_cons, List.nodup_cons, Option.some.inj heq] at hids
      exact hids.1 (List.mem_map_of_mem hl)
    rw [List.map_cons, hrest, ReturnTaskLine.after_first hself, List.map_cons, List.map_cons,
      List.sum_cons, List.sum_cons, hitems first List.mem_cons_self]
    ring

/-! ## Runs -/

/-- While the calls of a run succeed, they are received. -/
theorem received_take (htask : t.findTask task.id = some task) (hopen : task.status ≠ .committed)
    {n : ℕ} (hsucceeds : ∀ m < n, ∀ c, calls[m]? = some c → ∃ task' t',
      (recordReceive task.id c.itemId c.qty).run (t.receiveAll task.id (calls.take m)) =
        .ok (task', t')) :
    Received t task (calls.take n) (t.receiveAll task.id (calls.take n)) := by
  induction n with
  | zero => exact .refl htask
  | succ n ih =>
    have hprev := ih fun m hm => hsucceeds m (by omega)
    cases hn : calls[n]? with
    | none =>
      have hlen : calls.length ≤ n := List.getElem?_eq_none_iff.mp hn
      rw [List.take_of_length_le hlen] at hprev
      rwa [List.take_of_length_le (by omega)]
    | some c =>
      obtain ⟨task', t', hrun⟩ := hsucceeds n (Nat.lt_succ_self n) c hn
      have hstate : t.receiveAll task.id (calls.take (n + 1)) = t' :=
        (Tx.attemptAll_take_succ hn t).trans (Tx.attempt_of_run hrun)
      rw [hstate, List.take_add_one, hn]
      exact hprev.step hopen hrun

/-- Calls that the first lines take never exceed what a first line expects. -/
theorem FirstLinesTake.within {ls : List ReturnTaskLine} {l : ReturnTaskLine}
    (h : FirstLinesTake ls calls) (hself : firstLine ls l.itemId = some l)
    (hl : l.pickedQty ≤ l.expected) (n : ℕ) :
    l.pickedQty + callsQty (calls.take n) l.itemId ≤ l.expected := by
  induction n with
  | zero => simpa [callsQty] using hl
  | succ n ih =>
    cases hn : calls[n]? with
    | none => simpa [List.take_add_one, hn] using ih
    | some c =>
      by_cases hitem : c.itemId = l.itemId
      · obtain ⟨first, hfirst, -, hover⟩ := h n c hn
        rw [hitem] at hfirst hover
        rw [hself] at hfirst
        obtain rfl := Option.some.inj hfirst
        exact hover
      · rw [List.take_add_one, hn, Option.toList_some, callsQty_append, if_neg hitem, add_zero]
        exact ih

/-- An open task receives all calls exactly when the first lines take them. -/
theorem receivesAll_iff_of_open (htask : t.findTask task.id = some task)
    (hopen : task.status ≠ .committed)
    (hwithin : ∀ l ∈ t.linesOf task.id, l.pickedQty ≤ l.expected) :
    ReceivesAll t task.id calls ↔ FirstLinesTake (t.linesOf task.id) calls := by
  constructor
  · intro h n c hn
    have hprev := received_take htask hopen (n := n) fun m _ => h.succeeds m
    rw [List.take_add_one, hn]
    exact (hprev.takes_iff hopen).mp (h.succeeds n c hn)
  · intro h
    have hsucceeds : ∀ n c, calls[n]? = some c → ∃ task' t',
        (recordReceive task.id c.itemId c.qty).run (t.receiveAll task.id (calls.take n)) =
          .ok (task', t') := by
      intro n
      induction n using Nat.strong_induction_on with
      | _ n ih =>
        intro c hn
        have htakes := h n c hn
        rw [List.take_add_one, hn] at htakes
        exact ((received_take htask hopen ih).takes_iff hopen).mpr htakes
    have hreceived : ∀ n, Received t task (calls.take n) (t.receiveAll task.id (calls.take n)) :=
      fun n => received_take htask hopen fun m _ => hsucceeds m
    refine ⟨hsucceeds, fun n l hl => ?_, fun n i => ?_⟩
    · rw [(hreceived n).lines_eq] at hl
      obtain ⟨x, hx, rfl⟩ := List.mem_map.mp hl
      rw [ReturnTaskLine.after_expected]
      by_cases hself : firstLine (t.linesOf task.id) x.itemId = some x
      · rw [ReturnTaskLine.after_first hself]
        exact h.within hself (hwithin x hx) n
      · rw [ReturnTaskLine.after_other hself]
        exact hwithin x hx
    · rw [(hreceived n).lines_eq]
      refine pickedOf_after (linesOf_nodup t task.id) (fun c hc => ?_) i
      obtain ⟨m, hm⟩ := List.mem_iff_getElem?.mp (List.mem_of_mem_take hc)
      obtain ⟨l, hl, -⟩ := h m c hm
      rw [hl]
      rfl

/-- A committed task is left alone by every call. -/
theorem receiveAll_of_committed (htask : t.findTask task.id = some task)
    (hcommitted : task.status = .committed) (calls : List ReceiveCall) :
    t.receiveAll task.id calls = t := by
  induction calls with
  | nil => rfl
  | cons c calls ih =>
    have hrun : (recordReceive task.id c.itemId c.qty).run t = .ok (task, t) :=
      recordReceive_run_ok.mpr ⟨htask, .inl ⟨hcommitted, rfl⟩⟩
    change ((recordReceive task.id c.itemId c.qty).attempt t).receiveAll task.id calls = t
    rw [Tx.attempt_of_run hrun]
    exact ih

/-- A committed task receives all calls exactly when they ask for nothing. -/
theorem receivesAll_iff_of_committed (htask : t.findTask task.id = some task)
    (hcommitted : task.status = .committed)
    (hwithin : ∀ l ∈ t.linesOf task.id, l.pickedQty ≤ l.expected) :
    ReceivesAll t task.id calls ↔ ∀ c ∈ calls, c.qty = 0 := by
  have hstate := receiveAll_of_committed htask hcommitted
  constructor
  · intro h c hc
    obtain ⟨n, hn⟩ := List.mem_iff_getElem?.mp hc
    have hbefore := h.total n c.itemId
    have hafter := h.total (n + 1) c.itemId
    rw [hstate] at hbefore hafter
    rw [List.take_add_one, hn, Option.toList_some, callsQty_append, if_pos rfl] at hafter
    omega
  · intro h
    refine ⟨fun n c _ => ⟨task, t, ?_⟩, fun n l hl => ?_, fun n i => ?_⟩
    · rw [hstate]
      exact recordReceive_run_ok.mpr ⟨htask, .inl ⟨hcommitted, rfl⟩⟩
    · rw [hstate] at hl
      exact hwithin l hl
    · have hnone : callsQty (calls.take n) i = 0 := by
        refine List.sum_eq_zero fun q hq => ?_
        obtain ⟨c, hc, rfl⟩ := List.mem_map.mp hq
        exact h c (List.mem_of_mem_take (List.mem_filter.mp hc).1)
      rw [hstate, hnone, add_zero]

/-! ## Every task -/

/-- No line has more picked than it expects. -/
def ReturnTables.LinesWithin (t : ReturnTables) : Prop :=
  ∀ l ∈ t.returnTaskLines.rows, l.pickedQty ≤ l.expected

theorem ReturnTables.LinesWithin.linesOf (h : t.LinesWithin) (taskId : ℕ) :
    ∀ l ∈ t.linesOf taskId, l.pickedQty ≤ l.expected :=
  fun l hl => h l (List.mem_filter.mp hl).1

/-- The lines stay within what they expect. -/
def StaysWithin (t t' : ReturnTables) : Prop := t.LinesWithin → t'.LinesWithin

instance : IsPreorder ReturnTables StaysWithin where
  refl _ := id
  trans _ _ _ h h' := h' ∘ h

theorem StaysWithin.of_rows (h : t'.returnTaskLines.rows = t.returnTaskLines.rows) :
    StaysWithin t t' := by
  intro hwithin l hl
  rw [h] at hl
  exact hwithin l hl

theorem insertTask_staysWithin (orderRef : String) (warehouseId : ℕ) :
    Tx.Follows StaysWithin (insertTask orderRef warehouseId) := by
  refine (Tx.follows_ofExcept _).bind fun orderId => ?_
  intro s a s' hrun
  obtain ⟨_, _, hget, hrest⟩ := Tx.run_bind_ok.mp hrun
  obtain ⟨rfl, rfl⟩ := Tx.run_get_ok.mp hget
  dsimp only at hrest
  split at hrest
  · cases hrest
  · obtain ⟨_, _, hset, hpure⟩ := Tx.run_bind_ok.mp hrest
    obtain ⟨-, rfl⟩ := Tx.run_pure_ok.mp hpure
    rw [← Tx.run_set_ok.mp hset]
    exact .of_rows rfl

theorem insertTaskLine_staysWithin (taskId : ℕ) {p : ShippedFact × String}
    (hpos : 0 ≤ p.1.shippedQty) : Tx.Follows StaysWithin (insertTaskLine taskId p) := by
  refine (Tx.follows_ofExcept _).bind fun lotCode => ?_
  intro s a s' hrun
  obtain ⟨_, _, hget, hrest⟩ := Tx.run_bind_ok.mp hrun
  obtain ⟨rfl, rfl⟩ := Tx.run_get_ok.mp hget
  obtain ⟨_, _, hcheck, hinsert⟩ := Tx.run_bind_ok.mp hrest
  obtain ⟨-, rfl⟩ := Tx.run_failIf_ok.mp hcheck
  split at hinsert
  · cases hinsert
  · rename_i lines hlines
    split at hinsert
    · rw [← Tx.run_set_ok.mp hinsert]
      intro hwithin l hl
      change l ∈ lines.rows at hl
      rw [(Table.insert_eq_some.mp hlines).2, List.mem_append, List.mem_singleton] at hl
      rcases hl with hold | rfl
      · exact hwithin l hold
      · exact hpos
    · cases hinsert

/-- What a task is created for has been shipped. -/
theorem shippedForReturn_pos {call : ReturnTaskCreateCall} {b : Books} {x : ShippedFact}
    (h : x ∈ shippedForReturn call b) : 0 < x.shippedQty := by
  have hsummary := (List.mem_filter.mp (List.mem_filter.mp h).1).1
  obtain ⟨p, hp, rfl⟩ := List.mem_map.mp hsummary
  simpa using (List.mem_filter.mp hp).2

theorem requireLotCode_eq_ok {x : ShippedFact} {p : ShippedFact × String}
    (h : requireLotCode x = .ok p) : p.1 = x := by
  unfold requireLotCode at h
  split at h
  · cases h
  · rw [← Except.ok.inj h]

theorem createForOrder_staysWithin (call : ReturnTaskCreateCall) :
    Tx.Follows StaysWithin (createForOrder call) := by
  refine (Tx.follows_failIf _ _).bind fun _ => ?_
  refine Tx.follows_get.bind fun t => ?_
  split
  · exact Tx.follows_pure _
  · refine (Tx.follows_failIf _ _).bind fun _ => (Tx.follows_ofExcept _).bind fun warehouseId => ?_
    refine (insertTask_staysWithin _ warehouseId).bind fun task => ?_
    intro s a s' hrun
    obtain ⟨lines, _, hlines, hrest⟩ := Tx.run_bind_ok.mp hrun
    obtain ⟨hcodes, rfl⟩ := Tx.run_ofExcept_ok.mp hlines
    obtain ⟨_, _, hforM, hpure⟩ := Tx.run_bind_ok.mp hrest
    obtain ⟨-, rfl⟩ := Tx.run_pure_ok.mp hpure
    refine Tx.follows_forM lines (fun p hp => insertTaskLine_staysWithin task.id ?_) _ _ _ hforM
    obtain ⟨x, hx, hcode⟩ := exists_of_forall₂ (forall₂_of_mapM_ok hcodes).flip hp
    rw [requireLotCode_eq_ok hcode]
    exact (shippedForReturn_pos hx).le

theorem recordReceive_staysWithin (taskId itemId : ℕ) (qty : ℤ) :
    Tx.Follows StaysWithin (recordReceive taskId itemId qty) := by
  intro t task t' hrun hwithin
  obtain ⟨-, ⟨-, rfl⟩ | ⟨-, first, hfirst, -, hover, rfl⟩⟩ := recordReceive_run_ok.mp hrun
  · exact hwithin
  · intro l hl
    obtain ⟨x, hx, rfl⟩ := List.mem_map.mp hl
    unfold ReturnTaskLine.setPicked
    split
    · rename_i hid
      have hmem : first ∈ t.returnTaskLines.rows :=
        (List.mem_filter.mp (firstLine_mem hfirst).1).1
      have hsame : x = first := t.returnTaskLines.eq_of_conflict (fun _ _ => Eq.symm) hx hmem hid
      rw [hsame]
      exact hover
    · exact hwithin x hx

theorem commitReturnTask_staysWithin (call : ReturnCommitCall) :
    Tx.Follows StaysWithin (commitReturnTask call) := by
  refine (Tx.follows_get.bind fun _ => Tx.follows_demand _ _).bind fun task => ?_
  split
  · exact Tx.follows_pure task
  · refine Tx.follows_get.bind fun t => ?_
    refine Tx.Follows.bind ?_ fun effects? => ?_
    · exact Tx.Follows.zoom (S := fun _ _ => True) (fun _ _ _ _ => trivial) fun _ _ _ => .of_rows rfl
    · refine (Tx.follows_modify fun s hwithin l hl => ?_).bind fun _ => ?_
      · obtain ⟨x, hx, rfl⟩ := List.mem_map.mp hl
        unfold ReturnTaskLine.commit
        split <;> exact hwithin x hx
      · intro s a s' hrun
        obtain ⟨_, _, hget, hrest⟩ := Tx.run_bind_ok.mp hrun
        obtain ⟨rfl, rfl⟩ := Tx.run_get_ok.mp hget
        obtain ⟨snapshots, _, hbooks, hwrite⟩ := Tx.run_bind_ok.mp hrest
        obtain ⟨-, rfl⟩ := Tx.run_ofExcept_ok.mp hbooks
        obtain ⟨_, _, hset, hpure⟩ := Tx.run_bind_ok.mp hwrite
        obtain ⟨-, rfl⟩ := Tx.run_pure_ok.mp hpure
        rw [← Tx.run_set_ok.mp hset]
        exact .of_rows rfl

/-- A request on return tasks, or an operation of the rest of the system. -/
inductive ReceivingOp
  | create (call : ReturnTaskCreateCall)
  | receive (taskId : ℕ) (call : ReceiveCall)
  | commit (call : ReturnCommitCall)
  | system (op : Op)

/-- Carry out a request; its answer is not looked at. -/
def ReceivingOp.exec : ReceivingOp → Tx ReturnTables Err PUnit
  | .create call => (fun _ => ⟨⟩) <$> createForOrder call
  | .receive taskId call => (fun _ => ⟨⟩) <$> recordReceive taskId call.itemId call.qty
  | .commit call => (fun _ => ⟨⟩) <$> commitReturnTask call
  | .system op => onDatabase op.exec

/-- Tables without rows. -/
def ReturnTables.empty : ReturnTables where
  db := .empty
  returnTasks := .empty
  returnTaskLines := .empty
  stockSnapshots := []
  lines_fk _ h := nomatch h

theorem ReceivingOp.exec_staysWithin (op : ReceivingOp) : Tx.Follows StaysWithin op.exec := by
  cases op with
  | create call =>
    intro t u t' hrun
    obtain ⟨task, hrun, -⟩ := Tx.run_map_ok.mp hrun
    exact createForOrder_staysWithin call t task t' hrun
  | receive taskId call =>
    intro t u t' hrun
    obtain ⟨task, hrun, -⟩ := Tx.run_map_ok.mp hrun
    exact recordReceive_staysWithin taskId call.itemId call.qty t task t' hrun
  | commit call =>
    intro t u t' hrun
    obtain ⟨task, hrun, -⟩ := Tx.run_map_ok.mp hrun
    exact commitReturnTask_staysWithin call t task t' hrun
  | system op =>
    exact Tx.Follows.zoom (S := fun _ _ => True) (fun _ _ _ _ => trivial) fun _ _ _ => .of_rows rfl

/-- In every state that requests lead to, the lines are within what they expect. -/
theorem linesWithin_attemptAll (ops : List ReceivingOp) :
    (Tx.attemptAll ReceivingOp.exec ops ReturnTables.empty).LinesWithin :=
  Tx.attemptAll_invariant (fun op t u t' h _ hrun => op.exec_staysWithin t u t' hrun h)
    (fun _ hl => nomatch hl) (Tx.allAccepted_true ops _)

/-! ## When a task receives all calls -/

/-- Five pieces of milk that were produced on a day. -/
def fiveMilk (code : Varchar 128) (day : Date) : CommitLineIn where
  itemId := some 1
  barcode := none
  uomId := some 1
  qtyInput := 5
  lotCodeInput := some code
  productionDate := some day
  expiryDate := some day
  sourceLineId := none
  remark := none
  qty_pos := five_pos
  identity := one_given
  uom_input := one_given
  dates_ordered pd hpd ed hed := by rw [← Option.some.inj hpd, ← Option.some.inj hed]

/-- The receipt of milk of two days. -/
def receiveTwoLots : CommitCall where
  warehouseId := 1
  sourceType := .manual
  sourceRef := none
  occurredAt := 0
  remark := none
  lines := [fiveMilk ⟨"MILK-1", by decide⟩ producedOn, fiveMilk ⟨"MILK-2", by decide⟩ earlyExpiry]
  userId := none
  eventNo := .lit "IE-MILK"
  traceId := .lit "IE-MILK"
  pms := datedPms
  utcNow := 0
  lines_ne := List.cons_ne_nil _ _

/-- The shipment of five pieces of a lot for an order. -/
def shipMilk (lotId : ℕ) : AdjustCall where
  itemId := 1
  warehouseId := 1
  lotId := some lotId
  delta := -5
  reason := "SHIPMENT"
  ref := "ORD:1"
  refLine := some lotId
  occurredAt := none
  info := ⟨false, some "ORDER_SHIP", none⟩
  lotCode := none
  productionDate := none
  expiryDate := none
  traceId := none

/-- Milk of two lots is received and shipped, and its return is opened. -/
def openMilkReturn : List ReceivingOp :=
  [.system (.addWarehouse ⟨1, .lit "W-MILK"⟩), .system (.commitInbound receiveTwoLots),
    .system (.adjustLot datedPms 0 (shipMilk 1)), .system (.adjustLot datedPms 0 (shipMilk 2)),
    .create ⟨"ORD:1", none, false⟩]

/-- The tables with the open return. -/
def milkReturn : ReturnTables := Tx.attemptAll ReceivingOp.exec openMilkReturn ReturnTables.empty

theorem linesWithin_milkReturn : milkReturn.LinesWithin := linesWithin_attemptAll openMilkReturn

/-- Three pieces and then two are received. -/
def threeThenTwo : List ReceiveCall := [⟨1, 3⟩, ⟨1, 2⟩]

end Wms
