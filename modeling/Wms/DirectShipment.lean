import Wms.Stock.DirectShip
import Wms.System

/-!
# Direct shipments

A reference is shipped by one or more calls. A call whose movements find their ledger
keys free leaves each item booked in the quantity it wants, unless more was booked
before; repeating it later changes nothing, and what it reports is what it took from
stock. A call that wants less than is booked takes nothing back.
-/

namespace Wms

open Foundation

/-- A call with the surroundings it runs in. -/
structure ShipRequest where
  env : AdjustEnv
  call : ShipCall

/-- Carry out one call. -/
def ShipRequest.exec (r : ShipRequest) : Tx Books Err ShipAnswer := shipCommitDirect r.env r.call

/-- The state before the call with the given number. -/
def booksBefore (requests : List ShipRequest) (n : ℕ) (b : Books) : Books :=
  Tx.attemptAll ShipRequest.exec (requests.take n) b

variable {requests : List ShipRequest} {ref : String} {b : Books}

/-- Later states of the sequence have at least as much booked. -/
theorem booksBefore_bookedMore (href : Varchar.Verbatim 128 ref)
    (hrefs : ∀ r ∈ requests, r.call.ref = ref) {n m : ℕ} (hle : n ≤ m) :
    BookedMore ref (booksBefore requests n b) (booksBefore requests m b) := by
  have hstep : ∀ (r : ShipRequest) (b : Books) (answer : ShipAnswer) (b' : Books), True →
      r.call.ref = ref → r.exec.run b = .ok (answer, b') → True ∧ BookedMore ref b b' :=
    fun r b answer b' _ hr hrun =>
      ⟨trivial, shipCommitDirect_bookedMore (by rw [hr]; exact href) ref b answer b' hrun⟩
  refine (Tx.attemptAll_along hstep trivial ?_ hle).2
  clear hstep hle
  induction requests generalizing b with
  | nil => trivial
  | cons r rest ih =>
    exact ⟨fun _ => hrefs r List.mem_cons_self,
      ih fun r' hr' => hrefs r' (List.mem_cons_of_mem r hr')⟩

/-- In a sequence of calls with one reference, a successful call that finds its keys free
books what it wants, reports what it takes, and changes nothing when it is repeated. -/
theorem shipments_exact {answer : ShipAnswer} {b' : Books} {n : ℕ} {r : ShipRequest}
    (href : Varchar.Verbatim 128 ref) (hrefs : ∀ r ∈ requests, r.call.ref = ref)
    (hr : requests[n]? = some r) (hrun : r.exec.run (booksBefore requests n b) = .ok (answer, b'))
    (hfresh : r.call.Fresh (booksBefore requests n b)) :
    (∀ i, b'.bookedFor r.call.warehouseId i ref = max (r.call.wanted i)
      ((booksBefore requests n b).bookedFor r.call.warehouseId i ref)) ∧
      answer.totalQty = (booksBefore requests n b).onHand - b'.onHand ∧
      r.exec.run b' = .ok (⟨true, false, ref, 0⟩, b') ∧
      ∀ m, n < m → ∀ env, (shipCommitDirect env r.call).attempt (booksBefore requests m b) =
        booksBefore requests m b := by
  have hname : r.call.ref = ref := hrefs r (List.mem_of_getElem? hr)
  have hverbatim : Varchar.Verbatim 128 r.call.ref := by
    rw [hname]
    exact href
  obtain ⟨hbooked, htotal⟩ := shipCommitDirect_books hverbatim hfresh hrun
  have hsatisfied : r.call.Satisfied b' := by
    intro i
    rw [hbooked]
    exact le_max_left _ _
  have hnext : booksBefore requests (n + 1) b = b' :=
    (Tx.attemptAll_take_succ hr b).trans (Tx.attempt_of_run hrun)
  refine ⟨?_, htotal, ?_, ?_⟩
  · rw [← hname]
    exact hbooked
  · rw [← hname]
    exact shipCommitDirect_run_of_satisfied hsatisfied hrun
  · intro m hm env
    refine shipCommitDirect_attempt_of_satisfied fun i => ?_
    have hmore := booksBefore_bookedMore (b := b) href hrefs (Nat.succ_le_of_lt hm)
    rw [hnext] at hmore
    have hlater := hmore r.call.warehouseId i
    rw [← hname] at hlater
    exact (hsatisfied i).trans hlater

/-! ## A warehouse with ten pieces -/

/-- A call under the reference `R-1` for some quantities of the first item. -/
def shipFirst (quantities : List ℤ) : ShipRequest where
  env := ⟨plainPms, [], 0⟩
  call :=
    { warehouseId := 1, ref := "R-1", lines := quantities.map fun q => ⟨1, q⟩
      occurredAt := none, traceId := none }

/-- The books before anything is shipped. -/
def tenPiecesBooks : Books := (Database.after stocked).books

/-- Two lines of one item, and later a smaller call. -/
def shipTwice : List ShipRequest := [shipFirst [2, 3], shipFirst [3]]

/-- The first call books five pieces, and does nothing when it is repeated. -/
theorem shipments_exact_firstOfTwo :
    ((shipFirst [2, 3]).exec.attempt tenPiecesBooks).bookedFor 1 1 "R-1" =
        max ((shipFirst [2, 3]).call.wanted 1) (tenPiecesBooks.bookedFor 1 1 "R-1") ∧
      (shipFirst [2, 3]).exec.run ((shipFirst [2, 3]).exec.attempt tenPiecesBooks) =
        .ok (⟨true, false, "R-1", 0⟩, (shipFirst [2, 3]).exec.attempt tenPiecesBooks) := by
  obtain ⟨answer, b', hrun⟩ := Tx.exists_run_of_toBool
    (x := (shipFirst [2, 3]).exec) (s := booksBefore shipTwice 0 tenPiecesBooks) (by decide +kernel)
  have hexact := shipments_exact (n := 0) (.inl (by decide))
    (show ∀ r ∈ shipTwice, r.call.ref = "R-1" by decide) rfl hrun (by decide +kernel)
  rw [← Tx.attempt_of_run hrun] at hexact
  exact ⟨hexact.1 1, hexact.2.2.1⟩

/-- The second call wants three pieces and leaves five booked. -/
theorem not_wanted_booked_shipTwice :
    ¬∀ answer b', (shipFirst [3]).exec.run (booksBefore shipTwice 1 tenPiecesBooks) =
      .ok (answer, b') → b'.bookedFor 1 1 "R-1" = (shipFirst [3]).call.wanted 1 := by
  intro h
  obtain ⟨answer, b', hrun⟩ := Tx.exists_run_of_toBool
    (x := (shipFirst [3]).exec) (s := booksBefore shipTwice 1 tenPiecesBooks) (by decide +kernel)
  have hbooked := h answer b' hrun
  rw [← Tx.attempt_of_run hrun] at hbooked
  exact absurd hbooked (by decide +kernel)

end Wms
