import Wms.Projections.PmsSync

/-!
# The projection mirrors the product master

The feed of a resource is served in pages of any size. A sync is accepted exactly when the rows
convert, their keys are their own, and a key that moves was given up before. After a run of syncs
a table has, for each identifier that was ever listed, the row that listed it last.
-/

namespace Wms

open Foundation

/-! ## Feeds that are served -/

/-- The state of the product master, whose identifiers are unique. -/
structure PmsFeeds where
  rows : (k : ProjectionResource) → List k.FeedRow
  ids_nodup : ∀ k, ((rows k).map k.resource.feedId).Nodup

/-- The feeds are served by offset. -/
def PmsFeeds.source (f : PmsFeeds) : PmsSource := fun k => servedPage (f.rows k)

/-- So many pages are enough, whatever their size. -/
def PmsFeeds.fuel (f : PmsFeeds) : ℕ :=
  (ProjectionResource.order.map fun k => (f.rows k).length).sum + 1

/-- A request to sync, and what the product master has then. -/
structure PmsSyncCall where
  feeds : PmsFeeds
  limit : ℤ
  now : ℤ
  resources : List ProjectionResource

namespace PmsSyncCall

/-- Carry out the sync. -/
def exec (call : PmsSyncCall) : Tx PmsProjection Err (List ResourceSyncResult) :=
  syncPmsReadProjectionOnce call.feeds.source call.feeds.fuel call.limit call.now call.resources

/-- The resources that are synced. -/
def selected (call : PmsSyncCall) : List ProjectionResource :=
  ProjectionResource.order.filter
    (· ∈ if call.resources = [] then ProjectionResource.order else call.resources)

/-- The sync writes the row. -/
def Writes (call : PmsSyncCall) (k : ProjectionResource) (a : Synced k.Row) : Prop :=
  k ∈ call.selected ∧ a.syncedAt = call.now ∧
    ∃ row ∈ call.feeds.rows k, k.resource.params row = .ok a.row

/-- The sync lists the identifier. -/
def Lists (call : PmsSyncCall) (k : ProjectionResource) (id : ℤ) : Prop :=
  k ∈ call.selected ∧ some id ∈ (call.feeds.rows k).map k.resource.feedId

/-- The rows that the sync would write fit into a table: they convert, no two of them share a
key, and a key that another stored row has is given up by an earlier row. -/
def Fits (call : PmsSyncCall) (k : ProjectionResource) (t : k.resource.Rows) : Prop :=
  ∃ params, (call.feeds.rows k).mapM' k.resource.params = .ok params ∧
    (params.map k.resource.key).Nodup ∧ Mirror.InOrder t (params.map (Synced.mk · call.now))

end PmsSyncCall

/-! ## One sync -/

section Sync

variable {call : PmsSyncCall} {p p' : PmsProjection} {k : ProjectionResource}

theorem length_lt_fuel (f : PmsFeeds) (k : ProjectionResource) :
    (f.rows k).length < f.fuel := by
  have hmem : k ∈ ProjectionResource.order := by cases k <;> decide
  exact Nat.lt_succ_of_le (List.single_le_sum (fun _ _ => Nat.zero_le _) _
    (List.mem_map_of_mem hmem))

/-- Syncing a resource puts its feed into its table. -/
theorem sync_run_ok (f : PmsFeeds) {limit now : ℤ} {t t' : k.resource.Rows} :
    (∃ r, (k.resource.sync (f.source k) f.fuel limit now).run t = .ok (r, t')) ↔
      k.resource.Puts now (f.rows k) t t' := by
  have hfuel : (f.rows k).length < 0 + f.fuel := by
    rw [Nat.zero_add]
    exact length_lt_fuel f k
  exact k.resource.syncPages_served (safeLimit_pos limit) (Nat.zero_le _) hfuel

theorem update_self (p : PmsProjection) (t : k.resource.Rows) :
    (Function.update p k t : PmsProjection) k = t :=
  Function.update_self k t p

theorem update_of_ne (p : PmsProjection) (t : k.resource.Rows) {k' : ProjectionResource}
    (hne : k' ≠ k) : (Function.update p k t : PmsProjection) k' = p k' :=
  Function.update_of_ne hne t p

theorem syncResource_run_ok (f : PmsFeeds) {limit now : ℤ} :
    (∃ r, (syncResource f.source f.fuel limit now k).run p = .ok (r, p')) ↔
      k.resource.Puts now (f.rows k) (p k) (p' k) ∧ ∀ k', k' ≠ k → p' k' = p k' := by
  constructor
  · rintro ⟨r, hrun⟩
    obtain ⟨t, hsync, heq⟩ := Tx.run_zoom_ok.mp hrun
    have hself : p' k = t := by
      rw [← heq]
      exact update_self p t
    refine ⟨?_, fun k' hne => ?_⟩
    · rw [hself]
      exact (sync_run_ok f).mp ⟨r, hsync⟩
    · rw [← heq]
      exact update_of_ne p t hne
  · rintro ⟨hputs, hothers⟩
    obtain ⟨r, hsync⟩ : ∃ r, (k.resource.sync (f.source k) f.fuel limit now).run (p k) =
        .ok (r, p' k) := (sync_run_ok f).mpr hputs
    refine ⟨r, Tx.run_zoom_ok.mpr ⟨p' k, hsync, ?_⟩⟩
    funext k'
    by_cases hk : k' = k
    · subst hk
      exact update_self p (p' k')
    · exact (update_of_ne p (p' k) hk).trans (hothers k' hk).symm

/-- Syncing some resources puts their feeds into their tables and leaves the others alone. -/
theorem syncResources_run_ok (f : PmsFeeds) {limit now : ℤ} {ks : List ProjectionResource}
    (hks : ks.Nodup) :
    (∃ rs, (ks.mapM' (syncResource f.source f.fuel limit now)).run p = .ok (rs, p')) ↔
      (∀ k ∈ ks, k.resource.Puts now (f.rows k) (p k) (p' k)) ∧ ∀ k, k ∉ ks → p' k = p k := by
  induction ks generalizing p with
  | nil =>
    constructor
    · rintro ⟨rs, hrun⟩
      obtain ⟨-, rfl⟩ := Tx.run_mapM_nil_ok.mp hrun
      exact ⟨fun k hk => absurd hk List.not_mem_nil, fun _ _ => rfl⟩
    · rintro ⟨-, hsame⟩
      have hp : p = p' := funext fun k => (hsame k List.not_mem_nil).symm
      exact ⟨[], Tx.run_mapM_nil_ok.mpr ⟨rfl, hp⟩⟩
  | cons k ks ih =>
    obtain ⟨hk, hks⟩ := List.nodup_cons.mp hks
    constructor
    · rintro ⟨rs, hrun⟩
      obtain ⟨r, p₁, rs', hfirst, hrest, -⟩ := Tx.run_mapM_cons_ok.mp hrun
      obtain ⟨hputs, hothers⟩ := (syncResource_run_ok f).mp ⟨r, hfirst⟩
      obtain ⟨hrows, hsame⟩ := (ih hks).mp ⟨rs', hrest⟩
      refine ⟨List.forall_mem_cons.mpr ⟨?_, fun k' hk' => ?_⟩, fun k' hk' => ?_⟩
      · rw [hsame k hk]
        exact hputs
      · have hne : k' ≠ k := fun heq => hk (heq ▸ hk')
        rw [← hothers k' hne]
        exact hrows k' hk'
      · rw [List.mem_cons, not_or] at hk'
        exact (hsame k' hk'.2).trans (hothers k' hk'.1)
    · rintro ⟨hrows, hsame⟩
      obtain ⟨hputs, hrows⟩ := List.forall_mem_cons.mp hrows
      have hself := update_self p (p' k)
      have hfirst : ∃ r, (syncResource f.source f.fuel limit now k).run p =
          .ok (r, Function.update p k (p' k)) := by
        refine (syncResource_run_ok f).mpr ⟨?_, fun k' hne => update_of_ne p (p' k) hne⟩
        rw [hself]
        exact hputs
      obtain ⟨r, hfirst⟩ := hfirst
      have hrest : ∃ rs, (ks.mapM' (syncResource f.source f.fuel limit now)).run
          (Function.update p k (p' k)) = .ok (rs, p') := by
        refine (ih hks).mpr ⟨fun k' hk' => ?_, fun k' hk' => ?_⟩
        · have hne : k' ≠ k := fun heq => hk (heq ▸ hk')
          rw [update_of_ne p (p' k) hne]
          exact hrows k' hk'
        · by_cases hne : k' = k
          · subst hne
            exact hself.symm
          · rw [update_of_ne p (p' k) hne]
            exact hsame k' (by simp [hne, hk'])
      obtain ⟨rs, hrest⟩ := hrest
      exact ⟨r :: rs, Tx.run_mapM_cons_ok.mpr ⟨r, _, rs, hfirst, hrest, rfl⟩⟩

theorem selected_nodup (call : PmsSyncCall) : call.selected.Nodup :=
  List.Nodup.filter _ (by decide)

/-- A sync puts the feeds that are selected into their tables. -/
theorem PmsSyncCall.exec_run_ok : (∃ rs, call.exec.run p = .ok (rs, p')) ↔
    (∀ k ∈ call.selected, k.resource.Puts call.now (call.feeds.rows k) (p k) (p' k)) ∧
      ∀ k, k ∉ call.selected → p' k = p k :=
  syncResources_run_ok call.feeds (selected_nodup call)

theorem params_ids {rows : List k.FeedRow} {params : List k.Row}
    (h : rows.mapM' k.resource.params = .ok params) :
    rows.map k.resource.feedId = params.map fun r => some (k.resource.id r) := by
  induction rows generalizing params with
  | nil =>
    obtain rfl := Except.ok.inj h
    rfl
  | cons row rows ih =>
    rw [List.mapM'_cons] at h
    obtain ⟨r, hr, h⟩ := except_bind_eq_ok.mp h
    obtain ⟨rs, hrs, h⟩ := except_bind_eq_ok.mp h
    obtain rfl := Except.ok.inj h
    rw [List.map_cons, List.map_cons, ih hrs, k.resource.id_eq hr]

theorem mem_params {rows : List k.FeedRow} {params : List k.Row}
    (h : rows.mapM' k.resource.params = .ok params) {r : k.Row} :
    r ∈ params ↔ ∃ row ∈ rows, k.resource.params row = .ok r := by
  induction rows generalizing params with
  | nil =>
    obtain rfl := Except.ok.inj h
    simp
  | cons row rows ih =>
    rw [List.mapM'_cons] at h
    obtain ⟨r', hr', h⟩ := except_bind_eq_ok.mp h
    obtain ⟨rs, hrs, h⟩ := except_bind_eq_ok.mp h
    obtain rfl := Except.ok.inj h
    rw [List.mem_cons, ih hrs, List.exists_mem_cons_iff, hr', Except.ok.injEq, eq_comm]

section Rows

variable {rows : List k.FeedRow} {params : List k.Row} {now : ℤ} {t t' : k.resource.Rows}

/-- The rows that a sync writes have different identifiers. -/
theorem written_nodup (hids : (rows.map k.resource.feedId).Nodup)
    (h : rows.mapM' k.resource.params = .ok params) :
    ((params.map (Synced.mk · now)).map fun s => k.resource.id s.row).Nodup := by
  rw [params_ids h] at hids
  have hsome : ((params.map k.resource.id).map some).Nodup := by rwa [List.map_map]
  rw [List.map_map]
  exact hsome.of_map some

end Rows

/-- The rows that a sync would write fit exactly when the table takes them in. -/
theorem exists_puts_iff (call : PmsSyncCall) (t : k.resource.Rows) :
    (∃ t', k.resource.Puts call.now (call.feeds.rows k) t t') ↔ call.Fits k t := by
  unfold Resource.Puts PmsSyncCall.Fits
  rw [exists_comm]
  refine exists_congr fun params => ?_
  rw [exists_and_left, and_congr_right_iff]
  intro hparams
  rw [← Option.isSome_iff_exists,
    Mirror.putAll_isSome_iff (written_nodup (call.feeds.ids_nodup k) hparams), List.map_map]
  rfl

theorem PmsSyncCall.exists_run_iff : (∃ rs p', call.exec.run p = .ok (rs, p')) ↔
    ∀ k ∈ call.selected, call.Fits k (p k) := by
  constructor
  · rintro ⟨rs, p', hrun⟩ k hk
    exact (exists_puts_iff call (p k)).mp ⟨p' k, (exec_run_ok.mp ⟨rs, hrun⟩).1 k hk⟩
  · intro hfits
    have hnext : ∀ k, ∃ t, (k ∈ call.selected →
        k.resource.Puts call.now (call.feeds.rows k) (p k) t) ∧ (k ∉ call.selected → t = p k) := by
      intro k
      by_cases hk : k ∈ call.selected
      · obtain ⟨t, ht⟩ := (exists_puts_iff call (p k)).mpr (hfits k hk)
        exact ⟨t, fun _ => ht, fun hnot => absurd hk hnot⟩
      · exact ⟨p k, fun hmem => absurd hmem hk, fun _ => rfl⟩
    choose p' hp' using hnext
    obtain ⟨rs, hrun⟩ := exec_run_ok.mpr ⟨fun k hk => (hp' k).1 hk, fun k hk => (hp' k).2 hk⟩
    exact ⟨rs, p', hrun⟩

/-- A sync writes its rows, and the rows that it does not list stay. -/
theorem PmsSyncCall.mem_of_run {rs : List ResourceSyncResult}
    (h : call.exec.run p = .ok (rs, p')) (a : Synced k.Row) :
    a ∈ (p' k).rows ↔
      call.Writes k a ∨ (a ∈ (p k).rows ∧ ¬call.Lists k (k.resource.id a.row)) := by
  obtain ⟨hputs, hsame⟩ := PmsSyncCall.exec_run_ok.mp ⟨rs, h⟩
  by_cases hk : k ∈ call.selected
  · obtain ⟨params, hparams, hput⟩ := hputs k hk
    rw [Mirror.mem_putAll (written_nodup (call.feeds.ids_nodup k) hparams) hput]
    have hwrites : a ∈ params.map (Synced.mk · call.now) ↔ call.Writes k a := by
      rw [List.mem_map]
      constructor
      · rintro ⟨r, hr, rfl⟩
        exact ⟨hk, rfl, (mem_params hparams).mp hr⟩
      · rintro ⟨-, hnow, hrow⟩
        exact ⟨a.row, (mem_params hparams).mpr hrow, by rw [← hnow]⟩
    have hlists : k.resource.id a.row ∈
        (params.map (Synced.mk · call.now)).map (fun s => k.resource.id s.row) ↔
          call.Lists k (k.resource.id a.row) := by
      unfold PmsSyncCall.Lists
      rw [params_ids hparams]
      simp [hk]
    rw [hwrites, hlists]
  · rw [hsame k hk]
    simp [PmsSyncCall.Writes, PmsSyncCall.Lists, hk]

end Sync

/-! ## Runs of syncs -/

/-- The projection after a run of syncs, of which those that fail change nothing. -/
def PmsProjection.after (calls : List PmsSyncCall) : PmsProjection :=
  Tx.attemptAll PmsSyncCall.exec calls .empty

/-- The tables have what the syncs wrote last. -/
def PmsProjection.Recorded (calls : List PmsSyncCall) (p : PmsProjection) : Prop :=
  ∀ (k : ProjectionResource) (a : Synced k.Row), a ∈ (p k).rows ↔
    ∃ call, Last (fun later => later.Lists k (k.resource.id a.row)) calls call ∧ call.Writes k a

theorem PmsProjection.Recorded.step {calls : List PmsSyncCall} {call : PmsSyncCall}
    {p p' : PmsProjection} {rs : List ResourceSyncResult} (h : PmsProjection.Recorded calls p)
    (hrun : call.exec.run p = .ok (rs, p')) : PmsProjection.Recorded (calls ++ [call]) p' := by
  intro k a
  rw [PmsSyncCall.mem_of_run hrun, h k a, exists_last_append_singleton]

/-- A sync is accepted in a state of a run exactly when what it would write fits into each table
that it is for, and then the table has it: the rows of the feed, and those of identifiers that
the feed does not list. -/
theorem pms_sync_accepted_iff (calls : List PmsSyncCall) (call : PmsSyncCall) :
    ((∃ rs p', call.exec.run (.after calls) = .ok (rs, p')) ↔
      ∀ k ∈ call.selected, call.Fits k (PmsProjection.after calls k)) ∧
    ∀ rs p', call.exec.run (.after calls) = .ok (rs, p') → ∀ (k : ProjectionResource) a,
      a ∈ (p' k).rows ↔ call.Writes k a ∨
        (a ∈ (PmsProjection.after calls k).rows ∧ ¬call.Lists k (k.resource.id a.row)) :=
  ⟨PmsSyncCall.exists_run_iff, fun _ _ hrun _ a => PmsSyncCall.mem_of_run hrun a⟩

/-- After any run of syncs a table has the rows that were written by an accepted sync after which
no accepted sync listed their identifiers: what the product master drops stays. -/
theorem pms_rows_after (calls : List PmsSyncCall) :
    PmsProjection.Recorded (Tx.acceptedAlong PmsSyncCall.exec calls .empty) (.after calls) := by
  have hempty : PmsProjection.Recorded [] .empty := by
    intro k a
    simp [PmsProjection.empty, not_last_nil]
  have hrun : PmsProjection.Recorded ([] ++ Tx.acceptedAlong PmsSyncCall.exec calls .empty)
      (Tx.attemptAll PmsSyncCall.exec calls .empty) :=
    Tx.attemptAll_recorded (fun _ _ _ _ _ hcalls hrun => hcalls.step hrun) hempty
  exact hrun

/-! ## Syncing again -/

theorem inOrder_synced_iff {k : ProjectionResource} {t : k.resource.Rows} {params : List k.Row}
    {now now' : ℤ} (h : Mirror.InOrder t (params.map (Synced.mk · now))) :
    Mirror.InOrder t (params.map (Synced.mk · now')) := by
  intro before r after heq a ha hkey
  obtain ⟨ps, qs, rfl, rfl, hqs⟩ := List.map_eq_append_iff.mp heq
  obtain ⟨r', rest, rfl, rfl, rfl⟩ := List.map_eq_cons_iff.mp hqs
  have hold := h (ps.map (Synced.mk · now)) ⟨r', now⟩ (rest.map (Synced.mk · now)) (by simp) a ha hkey
  rw [List.map_map] at hold ⊢
  exact hold

/-- What a sync has written may be written again. -/
theorem PmsSyncCall.again {call : PmsSyncCall} {p p' : PmsProjection}
    {rs : List ResourceSyncResult} (h : call.exec.run p = .ok (rs, p')) (limit now : ℤ) :
    ∃ rs' p'', { call with limit, now }.exec.run p' = .ok (rs', p'') ∧
      ∀ k, (p'' k).rows.map Synced.row = (p' k).rows.map Synced.row := by
  have hnext : ∀ k, ∃ t : k.resource.Rows, (k ∈ call.selected →
      k.resource.Puts now (call.feeds.rows k) (p' k) t) ∧ (k ∉ call.selected → t = p' k) ∧
        t.rows.map Synced.row = (p' k).rows.map Synced.row := by
    intro k
    by_cases hk : k ∈ call.selected
    · obtain ⟨params, hparams, -⟩ := (exec_run_ok.mp ⟨rs, h⟩).1 k hk
      have hmem : ∀ s ∈ params.map (Synced.mk · now), s.row ∈ (p' k).rows.map Synced.row := by
        intro s hs
        obtain ⟨r, hr, rfl⟩ := List.mem_map.mp hs
        have hwrites : call.Writes k ⟨r, call.now⟩ := ⟨hk, rfl, (mem_params hparams).mp hr⟩
        have hstored := (mem_of_run h ⟨r, call.now⟩).mpr (.inl hwrites)
        exact List.mem_map.mpr ⟨⟨r, call.now⟩, hstored, rfl⟩
      obtain ⟨t, hput, hsame⟩ := Mirror.putAll_of_mem
        (fun a b hrow => congrArg k.resource.id hrow)
        (fun a b hrow => congrArg k.resource.key hrow) hmem
      exact ⟨t, fun _ => ⟨params, hparams, hput⟩, fun hnot => absurd hk hnot, hsame⟩
    · exact ⟨p' k, fun hmem => absurd hmem hk, fun _ => rfl, rfl⟩
  choose p'' hp'' using hnext
  let later : PmsSyncCall := { call with limit, now }
  obtain ⟨rs', hrun⟩ : ∃ rs', later.exec.run p' = .ok (rs', p'') :=
    exec_run_ok.mpr ⟨fun k hk => (hp'' k).1 hk, fun k hk => (hp'' k).2.1 hk⟩
  exact ⟨rs', p'', hrun, fun k => (hp'' k).2.2⟩

/-- Syncing the same feeds again, at another time and with another page size, is accepted exactly
when the first sync was, and changes nothing but the times. -/
theorem pms_sync_again (call : PmsSyncCall) (limit now : ℤ) (p : PmsProjection) :
    ((∃ rs p', { call with limit, now }.exec.run (call.exec.attempt p) = .ok (rs, p')) ↔
      ∃ rs p', call.exec.run p = .ok (rs, p')) ∧
    ∀ k, ({ call with limit, now }.exec.attempt (call.exec.attempt p) k).rows.map Synced.row =
      (call.exec.attempt p k).rows.map Synced.row := by
  cases hrun : call.exec.run p with
  | ok r =>
    obtain ⟨rs, p'⟩ := r
    obtain ⟨rs', p'', hagain, hsame⟩ := PmsSyncCall.again hrun limit now
    rw [Tx.attempt_of_run hrun, Tx.attempt_of_run hagain]
    exact ⟨iff_of_true ⟨rs', p'', hagain⟩ ⟨rs, p', rfl⟩, hsame⟩
  | error e =>
    have hattempt : call.exec.attempt p = p := by
      unfold Tx.attempt
      rw [hrun]
    have hrejected : ¬∃ rs p', call.exec.run p = .ok (rs, p') := by
      rw [hrun]
      rintro ⟨rs, p', h⟩
      cases h
    have hagain : ¬∃ rs p', { call with limit, now }.exec.run p = .ok (rs, p') := by
      rw [PmsSyncCall.exists_run_iff] at hrejected ⊢
      intro hfits
      apply hrejected
      intro k hk
      obtain ⟨params, hparams, hkeys, horder⟩ := hfits k hk
      exact ⟨params, hparams, hkeys, inOrder_synced_iff horder⟩
    rw [hattempt]
    refine ⟨iff_of_false hagain nofun, fun k => ?_⟩
    rcases Tx.attempt_cases ({ call with limit, now }.exec) p with hsame | ⟨rs, h⟩
    · rw [hsame]
    · exact absurd ⟨rs, _, h⟩ hagain

end Wms
