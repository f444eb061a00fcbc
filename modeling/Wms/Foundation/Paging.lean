import Wms.Foundation.Table

/-!
# Pages of a sorted result

A page is a stretch of a sorted list of rows. Two counts bound the place where a row can stand:
the rows with a smaller key come before it, and the rows with a greater key come after it. A row
with a key of its own has one place only. Rows that share a key can come in any order, which may
be another one for every request.
-/

namespace Foundation

/-- `OFFSET` and `LIMIT`. -/
def page {ρ : Type} (offset limit : ℕ) (rows : List ρ) : List ρ := (rows.drop offset).take limit

section Places

variable {ρ κ : Type} [LinearOrder κ] {key : ρ → κ} {rows : List ρ} {r : ρ} {i n : ℕ}

/-- The number of rows with a smaller key. -/
def rowsBefore (key : ρ → κ) (rows : List ρ) (r : ρ) : ℕ := rows.countP fun a => key a < key r

/-- The number of rows with the same or a smaller key. -/
def rowsUpTo (key : ρ → κ) (rows : List ρ) (r : ρ) : ℕ := rows.countP fun a => key a ≤ key r

/-! ## Where a row can stand -/

theorem countP_le_of_drop {P : ρ → Bool} (h : ∀ a ∈ rows.drop i, P a = false) :
    rows.countP P ≤ i := by
  have hsplit : rows.countP P = (rows.take i).countP P + (rows.drop i).countP P := by
    rw [← List.countP_append, List.take_append_drop]
  have hdrop : (rows.drop i).countP P = 0 := by
    rw [List.countP_eq_zero]
    intro a ha
    rw [h a ha]
    exact Bool.false_ne_true
  have htake : (rows.take i).countP P ≤ i :=
    List.countP_le_length.trans (List.length_take_le i rows)
  omega

theorem le_countP_of_take {P : ρ → Bool} (hi : i ≤ rows.length)
    (h : ∀ a ∈ rows.take i, P a = true) : i ≤ rows.countP P := by
  have hsplit : rows.countP P = (rows.take i).countP P + (rows.drop i).countP P := by
    rw [← List.countP_append, List.take_append_drop]
  have htake : (rows.take i).countP P = i := by
    rw [List.countP_eq_length.mpr h, List.length_take]
    omega
  omega

/-- The rows with a smaller key fit before a row of a sorted list. -/
theorem rowsBefore_le (h : rows.Pairwise fun a b => key a ≤ key b) (hi : i < rows.length) :
    rowsBefore key rows rows[i] ≤ i := by
  apply countP_le_of_drop
  intro a ha
  rw [List.drop_eq_getElem_cons hi] at ha
  have htail := h.sublist (List.drop_sublist i rows)
  rw [List.drop_eq_getElem_cons hi] at htail
  have hle : key rows[i] ≤ key a := by
    rcases List.mem_cons.mp ha with rfl | hmem
    · exact le_rfl
    · exact (List.pairwise_cons.mp htail).1 a hmem
  exact decide_eq_false (not_lt.mpr hle)

/-- A row of a sorted list has its place among the rows with no greater key. -/
theorem lt_rowsUpTo (h : rows.Pairwise fun a b => key a ≤ key b) (hi : i < rows.length) :
    i < rowsUpTo key rows rows[i] := by
  apply le_countP_of_take hi
  intro a ha
  obtain ⟨j, hj, rfl⟩ := List.mem_take_iff_getElem.mp ha
  rcases Nat.lt_or_ge j i with hlt | hge
  · exact decide_eq_true (List.pairwise_iff_getElem.mp h j i (by omega) hi hlt)
  · obtain rfl : j = i := by omega
    exact decide_eq_true le_rfl

/-- In a strictly sorted list the place of a row is the number of rows with a smaller key. -/
theorem rowsBefore_eq (h : rows.Pairwise fun a b => key a < key b) (hi : i < rows.length) :
    rowsBefore key rows rows[i] = i := by
  apply le_antisymm
  · exact rowsBefore_le (h.imp le_of_lt) hi
  · apply le_countP_of_take hi.le
    intro a ha
    obtain ⟨j, hj, rfl⟩ := List.mem_take_iff_getElem.mp ha
    have hlt : j < i := by omega
    exact decide_eq_true (List.pairwise_iff_getElem.mp h j i (by omega) hi hlt)

theorem mem_take_iff_rowsBefore (h : rows.Pairwise fun a b => key a < key b) :
    r ∈ rows.take n ↔ r ∈ rows ∧ rowsBefore key rows r < n := by
  constructor
  · intro hr
    obtain ⟨j, hj, rfl⟩ := List.mem_take_iff_getElem.mp hr
    have hlen : j < rows.length := by omega
    have hplace := rowsBefore_eq h hlen
    exact ⟨List.getElem_mem hlen, by omega⟩
  · rintro ⟨hr, hlt⟩
    obtain ⟨j, hj, rfl⟩ := List.mem_iff_getElem.mp hr
    rw [rowsBefore_eq h hj] at hlt
    exact List.mem_take_iff_getElem.mpr ⟨j, by omega, rfl⟩

theorem rowsBefore_perm {rows' : List ρ} (h : rows.Perm rows') (r : ρ) :
    rowsBefore key rows r = rowsBefore key rows' r :=
  h.countP_eq _

theorem rowsUpTo_perm {rows' : List ρ} (h : rows.Perm rows') (r : ρ) :
    rowsUpTo key rows r = rowsUpTo key rows' r :=
  h.countP_eq _

end Places

/-! ## A page of the rows with a property -/

section Filtered

variable {ρ : Type} {p : ρ → Bool} {rows : List ρ} {offset limit : ℕ}

theorem mem_of_mem_page {r : ρ} (h : r ∈ page offset limit rows) : r ∈ rows :=
  List.mem_of_mem_drop (List.mem_of_mem_take h)

theorem take_eq_append_page :
    rows.take (offset + limit) = rows.take offset ++ page offset limit rows := by
  unfold page
  rw [List.take_add]

/-- A page depends on the rows up to its end only. -/
theorem page_eq_drop_take :
    page offset limit rows = (rows.take (offset + limit)).drop offset := by
  unfold page
  rw [List.take_drop]

theorem take_filter_of_forall {n : ℕ} (h : ∀ r ∈ rows.take n, p r = true) :
    (rows.filter p).take n = rows.take n := by
  induction rows generalizing n with
  | nil => rw [List.filter_nil]
  | cons a as ih =>
    cases n with
    | zero => rw [List.take_zero, List.take_zero]
    | succ n =>
      rw [List.take_succ_cons] at h ⊢
      rw [List.filter_cons_of_pos (h a List.mem_cons_self), List.take_succ_cons,
        ih fun r hr => h r (List.mem_cons_of_mem a hr)]

/-- The first row of a page has lost none of the rows before it to a filter, if the filter
leaves it in its place. -/
theorem forall_take_of_filter (hrows : rows.Nodup) {x : ρ} (hx : rows[offset]? = some x)
    (hfilter : (rows.filter p)[offset]? = some x) : ∀ r ∈ rows.take offset, p r = true := by
  obtain ⟨hlen, hget⟩ := List.getElem?_eq_some_iff.mp hx
  have hpx : p x = true := (List.mem_filter.mp (List.mem_of_getElem? hfilter)).2
  have hsplit : rows.filter p =
      (rows.take offset).filter p ++ x :: (rows.drop (offset + 1)).filter p := by
    conv_lhs => rw [← List.take_append_drop offset rows, List.drop_eq_getElem_cons hlen, hget]
    rw [List.filter_append, List.filter_cons_of_pos hpx]
  have hplace : (rows.filter p)[((rows.take offset).filter p).length]? = some x := by
    rw [hsplit, List.getElem?_append_right le_rfl, Nat.sub_self, List.getElem?_cons_zero]
  have hbound : offset < (rows.filter p).length := (List.getElem?_eq_some_iff.mp hfilter).1
  have hsame : offset = ((rows.take offset).filter p).length :=
    (List.getElem?_inj hbound (hrows.filter p)).mp (hfilter.trans hplace.symm)
  apply List.filter_eq_self.mp
  apply List.filter_sublist.eq_of_length
  rw [← hsame, List.length_take]
  omega

/-- A filter leaves a page as it is exactly when no row before the end of the page is lost, or
there are no rows for the page in the first place. -/
theorem page_eq_filter_iff (hrows : rows.Nodup) (hlimit : 0 < limit) :
    page offset limit rows = page offset limit (rows.filter p) ↔
      rows.length ≤ offset ∨ ∀ r ∈ rows.take (offset + limit), p r = true := by
  constructor
  · intro heq
    rcases Nat.lt_or_ge offset rows.length with hlt | hge
    · right
      intro r hr
      rw [take_eq_append_page, List.mem_append] at hr
      rcases hr with hbefore | hpage
      · have hfirst : (page offset limit rows)[0]? = some rows[offset] := by
          unfold page
          rw [List.getElem?_take_of_lt hlimit, List.getElem?_drop, Nat.add_zero,
            List.getElem?_eq_getElem hlt]
        have hfilter : (rows.filter p)[offset]? = some rows[offset] := by
          rw [heq] at hfirst
          unfold page at hfirst
          rwa [List.getElem?_take_of_lt hlimit, List.getElem?_drop, Nat.add_zero] at hfirst
        exact forall_take_of_filter hrows (List.getElem?_eq_getElem hlt) hfilter r hbefore
      · rw [heq] at hpage
        exact (List.mem_filter.mp (mem_of_mem_page hpage)).2
    · exact .inl hge
  · rintro (hshort | hall)
    · have hfilter : (rows.filter p).length ≤ offset :=
        (List.length_filter_le p rows).trans hshort
      unfold page
      rw [List.drop_eq_nil_of_le hshort, List.drop_eq_nil_of_le hfilter]
    · rw [page_eq_drop_take, page_eq_drop_take, take_filter_of_forall hall]

/-- Sorting by distinct keys and filtering can change places. -/
theorem orderBy_filter {κ : Type} [LinearOrder κ] {key : ρ → κ} (h : (rows.map key).Nodup) :
    orderBy key (rows.filter p) = (orderBy key rows).filter p := by
  have hfiltered : ((rows.filter p).map key).Nodup := h.sublist (List.filter_sublist.map key)
  have hsorted : (orderBy key (rows.filter p)).Perm (rows.filter p) :=
    List.perm_insertionSort _ _
  have hrows : (orderBy key rows).Perm rows := List.perm_insertionSort _ _
  refine List.Perm.eq_of_pairwise (fun a b _ _ hab hba => ?_) (orderBy_pairwise hfiltered)
    ((orderBy_pairwise h).filter p) (hsorted.trans (hrows.symm.filter p))
  exact absurd hba (not_lt.mpr (le_of_lt hab))

/-- Rows with distinct keys are sorted into one order. -/
theorem orderBy_perm {κ : Type} [LinearOrder κ] {key : ρ → κ} {rows' : List ρ}
    (h : (rows.map key).Nodup) (hperm : rows.Perm rows') : orderBy key rows = orderBy key rows' := by
  have h' : (rows'.map key).Nodup := (hperm.map key).nodup_iff.mp h
  have hsorted : (orderBy key rows).Perm (orderBy key rows') :=
    (List.perm_insertionSort _ rows).trans (hperm.trans (List.perm_insertionSort _ rows').symm)
  refine List.Perm.eq_of_pairwise (fun a b _ _ hab hba => ?_) (orderBy_pairwise h)
    (orderBy_pairwise h') hsorted
  exact absurd hba (not_lt.mpr (le_of_lt hab))

theorem orderBy_map {κ σ : Type} [LinearOrder κ] {key : σ → κ} (f : ρ → σ) :
    orderBy key (rows.map f) = (orderBy (fun r => key (f r)) rows).map f :=
  (List.map_insertionSort _ _ f rows fun _ _ _ _ => Iff.rfl).symm

theorem page_map {σ : Type} (f : ρ → σ) :
    page offset limit (rows.map f) = (page offset limit rows).map f := by
  simp [page, List.map_take, List.map_drop]

end Filtered

/-! ## The pages of several requests -/

/-- The rows in an order that `ORDER BY` allows. -/
structure Arranges {ρ κ : Type} [LinearOrder κ] (key : ρ → κ) (rows order : List ρ) : Prop where
  perm : order.Perm rows
  sorted : order.Pairwise fun a b => key a ≤ key b

section Requests

variable {ρ κ : Type} [LinearOrder κ] {key : ρ → κ} {rows order : List ρ} {r x y : ρ}
  {limit n i k : ℕ}

/-- The rows that some requests answer, for one page after the other. -/
def pages (limit n : ℕ) (orders : ℕ → List ρ) : List ρ :=
  (List.range n).flatMap fun i => page (i * limit) limit (orders i)

/-- All places that a row can have are on one page. -/
def OnOnePage (key : ρ → κ) (limit : ℕ) (rows : List ρ) (r : ρ) : Prop :=
  rowsBefore key rows r / limit = (rowsUpTo key rows r - 1) / limit

instance : Decidable (OnOnePage key limit rows r) := inferInstanceAs (Decidable (_ = _))

theorem orderBy_arranges (key : ρ → κ) (rows : List ρ) : Arranges key rows (orderBy key rows) where
  perm := List.perm_insertionSort _ rows
  sorted := List.pairwise_insertionSort _ rows

/-- The rows on a page are those with their places there. -/
theorem mem_page_iff (hlimit : 0 < limit) :
    r ∈ page (k * limit) limit order ↔
      ∃ i, ∃ hi : i < order.length, order[i] = r ∧ i / limit = k := by
  unfold page
  rw [List.mem_take_iff_getElem]
  constructor
  · rintro ⟨j, hj, rfl⟩
    rw [List.length_drop] at hj
    refine ⟨k * limit + j, by omega, by rw [List.getElem_drop], ?_⟩
    rw [Nat.mul_comm, Nat.mul_add_div hlimit, Nat.div_eq_of_lt (by omega), Nat.add_zero]
  · rintro ⟨i, hi, rfl, rfl⟩
    have hmod := Nat.mod_lt i hlimit
    have hdiv : i / limit * limit + i % limit = i := Nat.div_add_mod' i limit
    refine ⟨i % limit, by rw [List.length_drop]; omega, ?_⟩
    rw [List.getElem_drop]
    congr 1

/-- Between the two counts of a row there are only rows with its key. -/
theorem Arranges.key_eq (h : Arranges key rows order) (hi : i < order.length)
    (hbefore : rowsBefore key rows r ≤ i) (hupTo : i < rowsUpTo key rows r) :
    key order[i] = key r := by
  rw [← rowsBefore_perm h.perm r] at hbefore
  rw [← rowsUpTo_perm h.perm r] at hupTo
  apply le_antisymm
  · by_contra hgt
    rw [not_le] at hgt
    have hcount : rowsUpTo key order r ≤ i := by
      apply countP_le_of_drop
      intro a ha
      obtain ⟨j, hj, rfl⟩ := List.mem_drop_iff_getElem.mp ha
      have hle : key order[i] ≤ key order[i + j] := by
        rcases Nat.eq_zero_or_pos j with rfl | hpos
        · exact le_rfl
        · exact List.pairwise_iff_getElem.mp h.sorted i (i + j) hi (by omega) (by omega)
      exact decide_eq_false (not_le.mpr (hgt.trans_le hle))
    omega
  · by_contra hlt
    rw [not_le] at hlt
    have hcount : i + 1 ≤ rowsBefore key order r := by
      apply le_countP_of_take hi
      intro a ha
      obtain ⟨j, hj, rfl⟩ := List.mem_take_iff_getElem.mp ha
      have hle : key order[j] ≤ key order[i] := by
        rcases Nat.lt_or_ge j i with hji | hge
        · exact List.pairwise_iff_getElem.mp h.sorted j i (by omega) hi hji
        · obtain rfl : j = i := by omega
          exact le_rfl
      exact decide_eq_true (hle.trans_lt hlt)
    omega

/-- A row whose places are on one page is on that page for every order. -/
theorem Arranges.mem_page (h : Arranges key rows order) (hlimit : 0 < limit)
    (hr : OnOnePage key limit rows r) (hmem : r ∈ page (k * limit) limit order) :
    k = rowsBefore key rows r / limit := by
  obtain ⟨i, hi, rfl, rfl⟩ := (mem_page_iff hlimit).mp hmem
  have hbefore := rowsBefore_le h.sorted hi
  have hupTo := lt_rowsUpTo h.sorted hi
  rw [rowsBefore_perm h.perm] at hbefore
  rw [rowsUpTo_perm h.perm] at hupTo
  unfold OnOnePage at hr
  apply le_antisymm
  · rw [hr]
    exact Nat.div_le_div_right (by omega)
  · exact Nat.div_le_div_right hbefore

/-- Two neighbours with the same key may change places. -/
theorem Arranges.swap {before after : List ρ}
    (h : Arranges key rows (before ++ x :: y :: after)) (hkey : key x = key y) :
    Arranges key rows (before ++ y :: x :: after) where
  perm := ((List.Perm.swap x y after).append_left before).trans h.perm
  sorted := by
    have hkeys : (before ++ y :: x :: after).map key = (before ++ x :: y :: after).map key := by
      simp [hkey]
    have hsorted : ((before ++ x :: y :: after).map key).Pairwise (· ≤ ·) :=
      List.pairwise_map.mpr h.sorted
    rw [← hkeys] at hsorted
    exact List.pairwise_map.mp hsorted

/-- Requests whose rows are all on one page answer every row once. -/
theorem pages_perm {orders : ℕ → List ρ} (hrows : rows.Nodup) (hlimit : 0 < limit)
    (hn : rows.length ≤ n * limit) (horders : ∀ i, Arranges key rows (orders i))
    (hone : ∀ r ∈ rows, OnOnePage key limit rows r) : (pages limit n orders).Perm rows := by
  have hnodup (i : ℕ) : (orders i).Nodup := (horders i).perm.nodup_iff.mpr hrows
  have hmem {i : ℕ} {r : ρ} (hr : r ∈ page (i * limit) limit (orders i)) : r ∈ rows :=
    (horders i).perm.mem_iff.mp (mem_of_mem_page hr)
  have hpages : (pages limit n orders).Nodup := by
    unfold pages
    rw [List.nodup_flatMap]
    refine ⟨fun i _ => ?_, ?_⟩
    · exact (hnodup i).sublist ((List.take_sublist _ _).trans (List.drop_sublist _ _))
    · refine List.nodup_range.imp ?_
      intro i j hij r hi hj
      have hri := (horders i).mem_page hlimit (hone r (hmem hi)) hi
      have hrj := (horders j).mem_page hlimit (hone r (hmem hj)) hj
      exact hij (hri.trans hrj.symm)
  rw [List.perm_ext_iff_of_nodup hpages hrows]
  intro r
  unfold pages
  rw [List.mem_flatMap]
  constructor
  · rintro ⟨i, -, hr⟩
    exact hmem hr
  · intro hr
    have horder := horders (rowsBefore key rows r / limit)
    obtain ⟨i, hi, hget⟩ := List.mem_iff_getElem.mp (horder.perm.mem_iff.mpr hr)
    have hpage : r ∈ page (i / limit * limit) limit
        (orders (rowsBefore key rows r / limit)) :=
      (mem_page_iff hlimit).mpr ⟨i, hi, hget, rfl⟩
    have hplace := horder.mem_page hlimit (hone r hr) hpage
    have hlen : i < rows.length := horder.perm.length_eq ▸ hi
    rw [hplace] at hpage
    refine ⟨rowsBefore key rows r / limit, List.mem_range.mpr ?_, hpage⟩
    rw [← hplace]
    exact Nat.div_lt_of_lt_mul (by rw [Nat.mul_comm]; omega)

/-- A row that two requests answer is answered twice. -/
theorem not_nodup_pages {orders : ℕ → List ρ} {j : ℕ} (hij : i < j) (hj : j < n)
    (hri : r ∈ page (i * limit) limit (orders i)) (hrj : r ∈ page (j * limit) limit (orders j)) :
    ¬(pages limit n orders).Nodup := by
  intro hnodup
  unfold pages at hnodup
  have hdisjoint := (List.nodup_flatMap.mp hnodup).2
  have hi : i < (List.range n).length := by
    rw [List.length_range]
    omega
  have hj' : j < (List.range n).length := by
    rw [List.length_range]
    omega
  have hpages := List.pairwise_iff_getElem.mp hdisjoint i j hi hj' hij
  rw [List.getElem_range, List.getElem_range] at hpages
  exact hpages hri hrj

/-- Between two places on different pages a page ends. -/
theorem exists_end_of_page {a b : ℕ} (hlimit : 0 < limit) (hab : a ≤ b)
    (h : a / limit ≠ b / limit) : ∃ p, a ≤ p ∧ p < b ∧ (p + 1) / limit = p / limit + 1 := by
  have hlt : a / limit < b / limit := lt_of_le_of_ne (Nat.div_le_div_right hab) h
  obtain ⟨m, hm⟩ : ∃ m, b / limit = m + 1 := Nat.exists_eq_add_one.mpr (Nat.zero_lt_of_lt hlt)
  have hfirst : a < (m + 1) * limit := by
    rw [← Nat.div_lt_iff_lt_mul hlimit]
    omega
  have hlast : (m + 1) * limit ≤ b := by
    rw [← hm]
    exact Nat.div_mul_le_self b limit
  obtain ⟨p, hp⟩ : ∃ p, (m + 1) * limit = p + 1 :=
    Nat.exists_eq_add_one.mpr (Nat.mul_pos (Nat.succ_pos m) hlimit)
  have hpage : p / limit = m := by
    have hplace : p = limit * m + (limit - 1) := by
      rw [Nat.add_mul, Nat.mul_comm m limit] at hp
      omega
    rw [hplace, Nat.mul_add_div hlimit, Nat.div_eq_of_lt (by omega), Nat.add_zero]
  refine ⟨p, by omega, by omega, ?_⟩
  rw [hpage, ← hp, Nat.mul_div_left _ hlimit]

/-- Equal rows on both sides of a page's end can be answered twice. -/
theorem exists_orders_of_not_onOnePage (hlimit : 0 < limit) (hn : rows.length ≤ n * limit)
    (hmem : r ∈ rows) (hr : ¬OnOnePage key limit rows r) :
    ∃ orders : ℕ → List ρ, (∀ i, Arranges key rows (orders i)) ∧
      ¬(pages limit n orders).Nodup := by
  have horder := orderBy_arranges key rows
  obtain ⟨i, hi, hget⟩ := List.mem_iff_getElem.mp (horder.perm.mem_iff.mpr hmem)
  have hbefore := rowsBefore_le horder.sorted hi
  have hupTo := lt_rowsUpTo horder.sorted hi
  rw [rowsBefore_perm horder.perm, hget] at hbefore
  rw [rowsUpTo_perm horder.perm, hget] at hupTo
  have hlength : (orderBy key rows).length = rows.length := horder.perm.length_eq
  have hcount : rowsUpTo key rows r ≤ rows.length := List.countP_le_length
  obtain ⟨p, hp, hp', hend⟩ := exists_end_of_page hlimit (by omega) hr
  generalize orderBy key rows = order at horder hlength
  have hx : p < order.length := by omega
  have hy : p + 1 < order.length := by omega
  have hkey : key order[p] = key order[p + 1] :=
    (horder.key_eq hx hp (by omega)).trans (horder.key_eq hy (by omega) (by omega)).symm
  have hsplit : order.take p ++ order[p] :: order[p + 1] :: order.drop (p + 2) = order := by
    rw [List.getElem_cons_drop, List.getElem_cons_drop, List.take_append_drop]
  have hswap : Arranges key rows
      (order.take p ++ order[p + 1] :: order[p] :: order.drop (p + 2)) := by
    rw [← hsplit] at horder
    exact horder.swap hkey
  -- The row in front of the page's end is asked for behind it the next time.
  refine ⟨fun k => if k = p / limit then order
    else order.take p ++ order[p + 1] :: order[p] :: order.drop (p + 2), fun k => ?_, ?_⟩
  · dsimp only
    split
    · exact horder
    · exact hswap
  · apply not_nodup_pages (Nat.lt_succ_self (p / limit)) (r := order[p])
    · have hlen : p + 1 < limit * n := by
        rw [Nat.mul_comm]
        omega
      rw [Nat.succ_eq_add_one, ← hend]
      exact Nat.div_lt_of_lt_mul hlen
    · rw [if_pos rfl, mem_page_iff hlimit]
      exact ⟨p, hx, rfl, rfl⟩
    · rw [if_neg (Nat.succ_ne_self _), mem_page_iff hlimit]
      have htake : (order.take p).length = p := by
        rw [List.length_take]
        omega
      refine ⟨p + 1, ?_, ?_, hend⟩
      · rw [List.length_append, htake, List.length_cons, List.length_cons]
        omega
      · rw [List.getElem_append_right (by omega)]
        simp [htake]

/-- The pages have every row once, whatever the order of equal rows is, exactly when no page
ends between rows that are equal. -/
theorem pages_perm_iff (hrows : rows.Nodup) (hlimit : 0 < limit)
    (hn : rows.length ≤ n * limit) :
    (∀ orders : ℕ → List ρ, (∀ i, Arranges key rows (orders i)) →
      (pages limit n orders).Perm rows) ↔ ∀ r ∈ rows, OnOnePage key limit rows r := by
  constructor
  · intro h r hmem
    by_contra hr
    obtain ⟨orders, horders, htwice⟩ := exists_orders_of_not_onOnePage hlimit hn hmem hr
    exact htwice ((h orders horders).nodup_iff.mpr hrows)
  · intro hone orders horders
    exact pages_perm hrows hlimit hn horders hone

end Requests

end Foundation
