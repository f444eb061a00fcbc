import Wms.Orders.Resolve
import Wms.Outbound.Submit

/-!
# References of orders

The reference of an order joins its platform, its store and its external number with colons, and
the resolver splits it at the colons again, without the blanks around the parts. An order is found
under its own reference exactly when nothing of it is lost in between: no colon stands before the
external number, no part has blanks at its ends, and the platform is in capital letters.
-/

namespace Wms

open Foundation

/-- The reference of an order. The platform is put in capital letters, by Python's rules for all
letters of Unicode. -/
def orderRef (capitals : String → String) (o : Order) : String :=
  "ORD:" ++ capitals o.platform.text ++ ":" ++ o.storeCode.text ++ ":" ++ o.extOrderNo.text

/-- The ledger and the submissions name an order by its reference. -/
theorem outboundRef_eq_orderRef (o : Order) : o.outboundRef = orderRef upper o := rfl

/-- The constraint on `orders`: no two have the same platform, store and external number. -/
def DistinctKeys (db : Database) : Prop :=
  ∀ o ∈ db.orders.rows, ∀ o' ∈ db.orders.rows, o.platform.text = o'.platform.text →
    o.storeCode.text = o'.storeCode.text → o.extOrderNo.text = o'.extOrderNo.text → o = o'

/-- Orders have different references, and each is found under its own. -/
structure Unambiguous (capitals : String → String) (db : Database) : Prop where
  differ : ∀ o ∈ db.orders.rows, ∀ o' ∈ db.orders.rows, o ≠ o' →
    orderRef capitals o ≠ orderRef capitals o'
  resolves : ∀ o ∈ db.orders.rows, resolveOrderId db (orderRef capitals o) = .ok o.id

/-- Nothing of the key is lost between the reference and the resolver. -/
structure Separable (capitals : String → String) (o : Order) : Prop where
  platform_capitals : strip (capitals o.platform.text) = o.platform.text
  platform_ne : o.platform.text ≠ ""
  platform_colon : ':' ∉ (capitals o.platform.text).toList
  store_strip : strip o.storeCode.text = o.storeCode.text
  store_ne : o.storeCode.text ≠ ""
  store_colon : ':' ∉ o.storeCode.text.toList
  ext_strip : strip o.extOrderNo.text = o.extOrderNo.text
  ext_ne : o.extOrderNo.text ≠ ""

/-! ## Texts cut at a separator -/

section Cut

variable {α : Type} {sep : α}

/-- A text that is cut at its first separator has no other way to be cut there: any other
separator stands behind. -/
theorem eq_or_behind_of_cut {u v a b : List α} (ha : sep ∉ a)
    (h : u ++ sep :: v = a ++ sep :: b) :
    (u = a ∧ v = b) ∨ ∃ u', u = a ++ sep :: u' ∧ b = u' ++ sep :: v := by
  rcases List.append_eq_append_iff.mp h with ⟨c, hac, hc⟩ | ⟨c, huc, hc⟩
  · cases c with
    | nil =>
      left
      simp only [List.append_nil, List.nil_append, List.cons.injEq, true_and] at hac hc
      exact ⟨hac.symm, hc⟩
    | cons x c =>
      rw [List.cons_append] at hc
      obtain ⟨rfl, -⟩ := List.cons.inj hc
      exact absurd (by rw [hac]; simp) ha
  · cases c with
    | nil =>
      left
      simp only [List.append_nil, List.nil_append, List.cons.injEq, true_and] at huc hc
      exact ⟨huc, hc.symm⟩
    | cons x c =>
      right
      rw [List.cons_append] at hc
      obtain ⟨rfl, hb⟩ := List.cons.inj hc
      exact ⟨c, huc, hb⟩

/-- Three parts, cut at the first two separators: these are the parts, or the last part stands
behind a separator that belongs to another part. -/
theorem eq_or_behind_of_cut_twice {u v w a b c : List α} (ha : sep ∉ a) (hb : sep ∉ b)
    (h : u ++ sep :: (v ++ sep :: w) = a ++ sep :: (b ++ sep :: c)) :
    (u = a ∧ v = b ∧ w = c) ∨ ∃ x, c = x ++ sep :: w := by
  rcases eq_or_behind_of_cut ha h with ⟨rfl, hrest⟩ | ⟨u', -, hrest⟩
  · rcases eq_or_behind_of_cut hb hrest with ⟨rfl, rfl⟩ | ⟨v', -, hc⟩
    · exact .inl ⟨rfl, rfl, rfl⟩
    · exact .inr ⟨v', hc⟩
  · right
    rcases eq_or_behind_of_cut hb hrest.symm with ⟨-, hc⟩ | ⟨x, -, hc⟩
    · exact ⟨v, hc.symm⟩
    · exact ⟨x ++ sep :: v, by rw [hc, List.append_assoc, List.cons_append]⟩

end Cut

/-! ## What the resolver makes of a reference -/

variable {capitals : String → String} {db : Database} {o : Order}

/-- A reference without the blanks at its end. -/
def strippedRef (capitals : String → String) (o : Order) : List Char :=
  ['O', 'R', 'D', ':'] ++ ((capitals o.platform.text).toList ++
    ':' :: (o.storeCode.text.toList ++ ':' :: o.extOrderNo.text.toList.rdropWhile isSpace))

theorem toList_strip_orderRef :
    (strip (orderRef capitals o)).toList = strippedRef capitals o := by
  have hshape : (orderRef capitals o).toList = 'O' :: 'R' :: 'D' :: ':' ::
      ((capitals o.platform.text).toList ++ ':' :: o.storeCode.text.toList) ++
        ':' :: o.extOrderNo.text.toList := by
    simp [orderRef]
  have hhead : (orderRef capitals o).toList.dropWhile isSpace = (orderRef capitals o).toList := by
    rw [hshape]
    exact List.dropWhile_cons_of_neg (by decide)
  rw [strip, String.toList_ofList, hhead, hshape, rdropWhile_append_cons (by decide)]
  simp [strippedRef]

/-- A text with three colons is taken apart at the first three. -/
theorem parseOrderKey_ord {s : String} {a b c : List Char} (ha : ':' ∉ a) (hb : ':' ∉ b)
    (hs : s.toList = ['O', 'R', 'D'] ++ ':' :: (a ++ ':' :: (b ++ ':' :: c))) :
    parseOrderKey s = orderKey (String.ofList a) (String.ofList b) [String.ofList c] := by
  have hsplit : splitColons s = "ORD" :: String.ofList a :: String.ofList b ::
      (c.splitOn ':').map String.ofList := by
    rw [splitColons, hs, List.splitOn_append_cons_self_of_not_mem (by decide),
      List.splitOn_append_cons_self_of_not_mem ha, List.splitOn_append_cons_self_of_not_mem hb]
    rfl
  have hjoin : ":".intercalate ((c.splitOn ':').map String.ofList) = String.ofList c := by
    have hlists : ((c.splitOn ':').map String.ofList).map String.toList = c.splitOn ':' := by
      simp [Function.comp_def]
    apply String.toList_injective
    rw [String.toList_intercalate, hlists]
    exact (List.intercalate_splitOn ':').trans String.toList_ofList.symm
  have hkey : orderKey (String.ofList a) (String.ofList b) ((c.splitOn ':').map String.ofList) =
      orderKey (String.ofList a) (String.ofList b) [String.ofList c] := by
    unfold orderKey
    rw [hjoin, String.intercalate_singleton]
  obtain ⟨d, ds, hds⟩ := List.exists_cons_of_ne_nil
    (mt List.map_eq_nil_iff.mp (List.splitOn_ne_nil ':' c) :
      (c.splitOn ':').map String.ofList ≠ [])
  rw [← hkey]
  unfold parseOrderKey
  rw [hsplit, hds]
  exact if_pos (by decide)

/-- The parts that the resolver takes a reference apart into. -/
theorem exists_parts (capitals : String → String) (o : Order) : ∃ a b c : List Char,
    ':' ∉ a ∧ ':' ∉ b ∧
    (capitals o.platform.text).toList ++
      ':' :: (o.storeCode.text.toList ++ ':' :: o.extOrderNo.text.toList.rdropWhile isSpace) =
        a ++ ':' :: (b ++ ':' :: c) ∧
    parseOrderKey (strip (orderRef capitals o)) =
      orderKey (String.ofList a) (String.ofList b) [String.ofList c] := by
  obtain ⟨a, rest, hrest, ha⟩ : ∃ a rest, (capitals o.platform.text).toList ++ ':' ::
      (o.storeCode.text.toList ++ ':' :: o.extOrderNo.text.toList.rdropWhile isSpace) =
        a ++ ':' :: rest ∧ ':' ∉ a :=
    List.eq_append_cons_of_mem (by simp)
  have hcolon : ':' ∈ rest := by
    rcases eq_or_behind_of_cut ha hrest with ⟨-, rfl⟩ | ⟨u, -, rfl⟩
    · simp
    · simp
  obtain ⟨b, c, rfl, hb⟩ := List.eq_append_cons_of_mem hcolon
  refine ⟨a, b, c, ha, hb, hrest, parseOrderKey_ord ha hb ?_⟩
  rw [toList_strip_orderRef, strippedRef, hrest]
  rfl

/-- Stripping a text whose end is stripped keeps a visible character and what is behind it. -/
theorem length_lt_of_strip {x e : List Char} {s : String} (he : e.rdropWhile isSpace = e)
    (h : strip (String.ofList (x ++ ':' :: e)) = s) : e.length < s.length := by
  have hcolon : isSpace ':' = false := by decide
  have hdrop : ∃ x', (x ++ ':' :: e).dropWhile isSpace = x' ++ ':' :: e := by
    rw [List.dropWhile_append]
    split
    · exact ⟨[], List.dropWhile_cons_of_neg (by simp [hcolon])⟩
    · exact ⟨_, rfl⟩
  obtain ⟨x', hx'⟩ := hdrop
  have hlist : s.toList = x' ++ ':' :: e := by
    rw [← h, strip, String.toList_ofList, String.toList_ofList, hx', rdropWhile_append_cons hcolon,
      he]
  have hlength : s.length = x'.length + (e.length + 1) := by
    rw [← String.length_toList, hlist, List.length_append, List.length_cons]
  omega

theorem rdropWhile_of_strip {s : String} (h : strip s = s) :
    s.toList.rdropWhile isSpace = s.toList := by
  rw [List.rdropWhile_eq_self_iff]
  intro hne
  have hlast := (stripped_of_strip h).2 _ (List.getLast?_eq_some_getLast hne)
  simp [hlast]

/-- The resolver takes a reference apart into the key of its order only when nothing of it is
lost. -/
theorem parseOrderKey_eq_some_iff :
    parseOrderKey (strip (orderRef capitals o)) =
        some ⟨o.platform.text, o.storeCode.text, o.extOrderNo.text⟩ ↔ Separable capitals o := by
  obtain ⟨a, b, c, ha, hb, hcut, hparse⟩ := exists_parts capitals o
  rw [hparse]
  unfold orderKey
  simp only [String.intercalate_singleton]
  constructor
  · intro h
    split at h
    · cases h
    · rename_i hblank
      simp only [Option.some.injEq, OrderKey.mk.injEq] at h
      obtain ⟨hplatform, hstore, hext⟩ := h
      have hext_strip : strip o.extOrderNo.text = o.extOrderNo.text := by
        rw [← hext, strip_strip]
      have hend := rdropWhile_of_strip hext_strip
      rw [hend] at hcut
      rcases eq_or_behind_of_cut_twice ha hb hcut with ⟨hu, hv, -⟩ | ⟨x, hx⟩
      · rw [hplatform, hstore, hext] at hblank
        rw [← hu, String.ofList_toList] at hplatform
        rw [← hv, String.ofList_toList] at hstore
        rw [not_or, not_or] at hblank
        exact ⟨hplatform, hblank.1, hu ▸ ha, hstore, hblank.2.1, hv ▸ hb, hext_strip, hblank.2.2⟩
      · -- the part of the external number would be longer than the number
        rw [hx] at hext
        have hlonger := length_lt_of_strip hend hext
        rw [String.length_toList] at hlonger
        omega
  · intro h
    have hend := rdropWhile_of_strip h.ext_strip
    rw [hend] at hcut
    obtain ⟨rfl, rfl, rfl⟩ : a = (capitals o.platform.text).toList ∧
        b = o.storeCode.text.toList ∧ c = o.extOrderNo.text.toList := by
      rcases eq_or_behind_of_cut h.platform_colon hcut.symm with ⟨hua, hrest⟩ | ⟨u, hu, -⟩
      · rcases eq_or_behind_of_cut h.store_colon hrest with ⟨hvb, hwc⟩ | ⟨v, hv, -⟩
        · exact ⟨hua, hvb, hwc⟩
        · exact absurd (by rw [hv]; simp) hb
      · exact absurd (by rw [hu]; simp) ha
    simp only [String.ofList_toList, h.platform_capitals, h.store_strip, h.ext_strip]
    rw [if_neg]
    rw [not_or, not_or]
    exact ⟨h.platform_ne, h.store_ne, h.ext_ne⟩

/-! ## Orders under their own references -/

theorem length_strippedRef :
    o.extOrderNo.text.toList.rdropWhile isSpace = o.extOrderNo.text.toList →
      o.extOrderNo.text.length < (strippedRef capitals o).length := by
  intro h
  rw [strippedRef, h, ← String.length_toList]
  simp only [List.length_append, List.length_cons]
  omega

/-- Orders with the same identifier are the same. -/
theorem order_eq_of_id {o o' : Order} (ho : o ∈ db.orders.rows) (ho' : o' ∈ db.orders.rows)
    (h : o.id = o'.id) : o = o' :=
  db.orders.eq_of_conflict (fun _ _ hid => hid.symm) ho ho' h

/-- An order is found under its own reference exactly when nothing of its key is lost. -/
theorem resolveOrderId_orderRef_iff (hkeys : DistinctKeys db) (ho : o ∈ db.orders.rows) :
    resolveOrderId db (orderRef capitals o) = .ok o.id ↔ Separable capitals o := by
  have hlist := @toList_strip_orderRef capitals o
  have hne : strip (orderRef capitals o) ≠ "" := by
    intro hempty
    rw [hempty] at hlist
    cases hlist
  have hdigits : isDigits (strip (orderRef capitals o)) = false := by
    unfold isDigits
    rw [hlist]
    simp [strippedRef]
  rw [← parseOrderKey_eq_some_iff]
  unfold resolveOrderId
  simp only
  rw [if_neg hne, hdigits, if_neg Bool.false_ne_true]
  constructor
  · intro h
    split at h
    · rename_i key hkey
      split at h
      · rename_i o' hfind
        have hmem := List.mem_of_find?_eq_some hfind
        have hmatch : o'.platform.text = key.platform ∧ o'.storeCode.text = key.storeCode ∧
            o'.extOrderNo.text = key.extOrderNo := by
          simpa using List.find?_some hfind
        obtain rfl := order_eq_of_id hmem ho (Except.ok.inj h)
        rw [hkey, hmatch.1, hmatch.2.1, hmatch.2.2]
      · cases h
    · -- no order has its whole reference as its external number
      exfalso
      split at h
      · cases h
      · rename_i o' hsorted
        have hmem : o' ∈ (db.orders.rows.filter fun x =>
            x.extOrderNo.text = strip (orderRef capitals o)).insertionSort
              fun a b => a.id ≤ b.id := by
          rw [hsorted]
          exact List.mem_singleton_self o'
        rw [List.mem_insertionSort, List.mem_filter, decide_eq_true_eq] at hmem
        obtain rfl := order_eq_of_id hmem.1 ho (Except.ok.inj h)
        have hstrip : strip o'.extOrderNo.text = o'.extOrderNo.text := by
          rw [hmem.2, strip_strip]
        have hlonger := @length_strippedRef capitals o' (rdropWhile_of_strip hstrip)
        rw [← hlist, String.length_toList, ← hmem.2] at hlonger
        omega
      · cases h
  · intro hkey
    rw [hkey]
    simp only
    have hfind : db.orders.rows.find? (fun x => decide (x.platform.text = o.platform.text ∧
        x.storeCode.text = o.storeCode.text ∧ x.extOrderNo.text = o.extOrderNo.text)) =
          some o := by
      cases h : db.orders.rows.find? (fun x => decide (x.platform.text = o.platform.text ∧
          x.storeCode.text = o.storeCode.text ∧ x.extOrderNo.text = o.extOrderNo.text)) with
      | none => exact absurd (List.find?_eq_none.mp h o ho) (by simp)
      | some o' =>
        obtain ⟨hplatform, hstore, hext⟩ : o'.platform.text = o.platform.text ∧
            o'.storeCode.text = o.storeCode.text ∧ o'.extOrderNo.text = o.extOrderNo.text := by
          simpa using List.find?_some h
        rw [hkeys o' (List.mem_of_find?_eq_some h) o ho hplatform hstore hext]
    rw [hfind]

/-- References are unambiguous exactly when nothing of any key is lost. -/
theorem unambiguous_iff (capitals : String → String) (db : Database) (hkeys : DistinctKeys db) :
    Unambiguous capitals db ↔ ∀ o ∈ db.orders.rows, Separable capitals o := by
  constructor
  · intro h o ho
    exact (resolveOrderId_orderRef_iff hkeys ho).mp (h.resolves o ho)
  · intro h
    have hresolves : ∀ o ∈ db.orders.rows,
        resolveOrderId db (orderRef capitals o) = .ok o.id :=
      fun o ho => (resolveOrderId_orderRef_iff hkeys ho).mpr (h o ho)
    refine ⟨fun o ho o' ho' hne href => ?_, hresolves⟩
    have hid := hresolves o ho
    rw [href, hresolves o' ho'] at hid
    exact hne (order_eq_of_id ho ho' (Except.ok.inj hid).symm)

/-! ## Orders with colons -/

/-- An order from a platform. -/
def pddOrder (id : ℕ) (storeCode : Varchar 64) (extOrderNo : Varchar 128) : Order :=
  ⟨id, .lit "PDD", storeCode, extOrderNo, none, none, none⟩

/-- The orders of some stores, and nothing else. -/
def ordersOnly (orders : Table Order fun a b => a.id = b.id) : Database :=
  { Database.empty with orders := orders }

/-- Two orders of one store. -/
def oneStore : Database :=
  ordersOnly ⟨[pddOrder 1 (.lit "S1") ⟨"E:1", by decide⟩,
    pddOrder 2 (.lit "S1") ⟨"E:2", by decide⟩], by decide⟩

/-- Orders whose external numbers have colons are told apart. -/
theorem unambiguous_oneStore : Unambiguous upper oneStore := by
  refine (unambiguous_iff upper oneStore (by unfold DistinctKeys; decide)).mpr ?_
  intro o ho
  rcases List.mem_cons.mp ho with rfl | ho
  · exact ⟨by decide, by decide, by decide, by decide, by decide, by decide, by decide, by decide⟩
  · obtain rfl := List.mem_singleton.mp ho
    exact ⟨by decide, by decide, by decide, by decide, by decide, by decide, by decide, by decide⟩

/-- An order of a store with a colon in its code, and one of the store whose code stands before the
colon. -/
def colonStore : Database :=
  ordersOnly ⟨[pddOrder 1 ⟨"S:1", by decide⟩ ⟨"E", by decide⟩,
    pddOrder 2 ⟨"S", by decide⟩ ⟨"1:E", by decide⟩], by decide⟩

/-- Their keys differ, but they have the same reference, which leads to the second of them. -/
theorem not_unambiguous_colonStore : DistinctKeys colonStore ∧ ¬Unambiguous upper colonStore := by
  refine ⟨by unfold DistinctKeys; decide, fun h => ?_⟩
  have hsame : orderRef upper (pddOrder 1 ⟨"S:1", by decide⟩ ⟨"E", by decide⟩) =
      orderRef upper (pddOrder 2 ⟨"S", by decide⟩ ⟨"1:E", by decide⟩) := by
    decide +kernel
  exact h.differ _ List.mem_cons_self _ (List.mem_cons_of_mem _ List.mem_cons_self) (by decide) hsame

end Wms
