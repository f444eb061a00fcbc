import Wms.Users.Sessions

/-!
# The last administrator

No request may take `page.admin.write` from the last active user who has it. The requests count
the administrators before they write and take no lock, so two of them can count each other's
users. The count protects the last administrator as long as no request commits while another one
that has been let through relies on its user.
-/

namespace Wms.Users

open Foundation

variable (cat : Catalogue)

/-- The active users who hold `page.admin.write`. -/
abbrev Accounts.admins (a : Accounts) : List ℕ :=
  a.activeUsersWithPermission cat adminWritePermission

/-- The request will take the right from its user, whichever permissions it reads. -/
def Request.Strips : Request → Prop
  | .updateMatrixForUser userId actorUserId body =>
    (checkColumns cat body).toBool = true ∧ actorUserId ≠ userId ∧
      adminWritePermission ∈ cat.managedPermissionNames ∧
      adminWritePermission ∉ desiredManagedPermissionNames cat body
  | .updateUser _ _ => False
  | .deleteUser _ => True

/-- The request takes the right from its user, as it has read him. -/
def Request.Takes (user : User) (names : List String) : Request → Prop
  | .updateMatrixForUser _ _ body => adminWritePermission ∉ finalPermissionNames cat body names
  | .updateUser _ body => body.isActive = some false ∧ user.isActive = true
  | .deleteUser _ => True

instance : DecidablePred (Request.Strips cat)
  | .updateMatrixForUser _ _ _ => inferInstanceAs (Decidable (_ ∧ _))
  | .updateUser _ _ => .isFalse id
  | .deleteUser _ => .isTrue trivial

instance (user : User) (names : List String) : DecidablePred (Request.Takes cat user names)
  | .updateMatrixForUser _ _ _ => inferInstanceAs (Decidable (¬_))
  | .updateUser _ _ => inferInstanceAs (Decidable (_ ∧ _))
  | .deleteUser _ => .isTrue trivial

/-- The session will take the right from its user, and no check stops it any more: it has
counted the administrators, or it has read its user as none. -/
def Session.Cleared (s : Session) : Prop :=
  match s.phase with
  | .selected user => user.isActive = false ∧ s.request.Strips cat
  | .asking user _ => user.isActive = false ∧ s.request.Strips cat
  | .passed user _ names => s.request.Takes cat user names
  | .writing user names _ _ => s.request.Takes cat user names
  | _ => False

instance : DecidablePred (Session.Cleared cat)
  | ⟨_, .begun⟩ | ⟨_, .counting _ _ _⟩ | ⟨_, .committed⟩ | ⟨_, .refused _⟩ => .isFalse id
  | ⟨r, .selected user⟩ | ⟨r, .asking user _⟩ =>
    inferInstanceAs (Decidable (user.isActive = false ∧ r.Strips cat))
  | ⟨r, .passed user _ names⟩ | ⟨r, .writing user names _ _⟩ =>
    inferInstanceAs (Decidable (r.Takes cat user names))

/-- The session has executed its statements and commits next. -/
def Session.Commits (s : Session) : Prop :=
  match s.phase with
  | .writing _ _ _ [] => True
  | _ => False

instance : DecidablePred Session.Commits
  | ⟨_, .writing _ _ _ []⟩ => .isTrue trivial
  | ⟨_, .writing _ _ _ (_ :: _)⟩ | ⟨_, .begun⟩ | ⟨_, .selected _⟩ | ⟨_, .asking _ _⟩
  | ⟨_, .counting _ _ _⟩ | ⟨_, .passed _ _ _⟩ | ⟨_, .committed⟩ | ⟨_, .refused _⟩ => .isFalse id

/-- A session that takes the right from its user commits only while every other cleared session
has an administrator besides its own user and this one. -/
def LeavesAnother : Event → Config → Prop
  | .exec i, c => ∀ s ∈ c.running[i]?, s.Commits → s.Cleared cat → ∀ t ∈ c.running, t.Cleared cat →
      t.request.userId ≠ s.request.userId →
        ∃ h ∈ c.store.admins cat, h ≠ s.request.userId ∧ h ≠ t.request.userId
  | .start _, _ => True
  | .stop _, _ => True

instance (c : Config) : DecidablePred (LeavesAnother cat · c)
  | .exec i => inferInstanceAs (Decidable (∀ s ∈ c.running[i]?, s.Commits → _))
  | .start _ | .stop _ => .isTrue trivial

variable {cat} {a : Accounts} {w : Pending} {r : Request} {s : Session} {h userId : ℕ}
  {user : User} {permissions : List Permission} {names : List String}

/-! ## Requests that leave the right alone -/

/-- What is written, and what remains to be written, leaves the right to the user. -/
structure Keeps (cat : Catalogue) (w : Pending) (rest : List Statement) : Prop where
  stays : w.deleted = false ∧ .deleteUser ∉ rest
  active : w.changes.isActive ≠ some false ∧ ∀ c, .updateUser c ∈ rest → c.isActive ≠ some false
  right : (∃ p ∈ cat.permissions.rows, p.name = adminWritePermission ∧
      (p.id ∈ w.granted ∨ .insertUserPermission p.id ∈ rest)) ∨
    (w.revoked = ∅ ∧ .deleteUserPermissions ∉ rest ∧ ∀ i, .deleteUserPermission i ∉ rest)

theorem Keeps.execute {statement : Statement} {rest : List Statement}
    (hw : Keeps cat w (statement :: rest)) : Keeps cat (w.execute userId a statement) rest := by
  obtain ⟨⟨hdeleted, hrow⟩, ⟨hactive, hupdates⟩, hright⟩ := hw
  cases statement with
  | updateUser c =>
    refine ⟨⟨hdeleted, fun hmem => hrow (List.mem_cons_of_mem _ hmem)⟩,
      ⟨hupdates c List.mem_cons_self, fun c' hc' => hupdates c' (List.mem_cons_of_mem _ hc')⟩, ?_⟩
    simpa [Pending.execute] using hright
  | deleteUser => exact absurd List.mem_cons_self hrow
  | deleteUserPermissions =>
    refine ⟨⟨hdeleted, fun hmem => hrow (List.mem_cons_of_mem _ hmem)⟩,
      ⟨hactive, fun c' hc' => hupdates c' (List.mem_cons_of_mem _ hc')⟩, .inl ?_⟩
    simpa [Pending.execute] using hright
  | deleteUserPermission i =>
    refine ⟨⟨hdeleted, fun hmem => hrow (List.mem_cons_of_mem _ hmem)⟩,
      ⟨hactive, fun c' hc' => hupdates c' (List.mem_cons_of_mem _ hc')⟩, .inl ?_⟩
    rcases hright with hinsert | ⟨-, -, hnone⟩
    · simpa [Pending.execute] using hinsert
    · exact absurd List.mem_cons_self (hnone i)
  | insertUserPermission i =>
    refine ⟨⟨hdeleted, fun hmem => hrow (List.mem_cons_of_mem _ hmem)⟩,
      ⟨hactive, fun c' hc' => hupdates c' (List.mem_cons_of_mem _ hc')⟩, ?_⟩
    rcases hright with ⟨p, hp, hname, hgrant⟩ | ⟨hrevoked, hall, heach⟩
    · left
      refine ⟨p, hp, hname, ?_⟩
      simp only [Pending.execute, Finset.mem_insert]
      rcases hgrant with hgranted | hinsert
      · exact .inl (.inr hgranted)
      · rcases List.mem_cons.mp hinsert with heq | hrest
        · simp only [Statement.insertUserPermission.injEq] at heq
          exact .inl (.inl heq)
        · exact .inr hrest
    · right
      exact ⟨hrevoked, fun hmem => hall (List.mem_cons_of_mem _ hmem),
        fun i hmem => heach i (List.mem_cons_of_mem _ hmem)⟩

/-- A user who keeps the right is still an administrator after the commit. -/
theorem Keeps.commit (hw : Keeps cat w []) (h : userId ∈ a.admins cat) :
    userId ∈ (w.commit userId a).admins cat := by
  obtain ⟨⟨hdeleted, -⟩, ⟨hactive, -⟩, hright⟩ := hw
  obtain ⟨u, hu, huactive, p, hp, hname⟩ := mem_activeUsersWithPermission.mp h
  rw [Accounts.admins, mem_activeUsersWithPermission]
  refine ⟨_, getUserById_commit hdeleted hu, ?_, ?_⟩
  · cases hc : w.changes.isActive with
    | none => simpa [UserChanges.apply, hc] using huactive
    | some b =>
      cases b with
      | false => exact absurd hc hactive
      | true => simp [UserChanges.apply, hc]
  · rcases hright with ⟨q, hq, hqname, hgrant⟩ | ⟨hrevoked, -, -⟩
    · have hgranted : q.id ∈ w.granted := by simpa using hgrant
      exact ⟨q, (mem_permissionsOf_commit hdeleted).mpr ⟨hq, .inr hgranted⟩, hqname⟩
    · have hrow : p ∈ cat.permissions.rows := List.mem_of_mem_filter hp
      have hkept : p.id ∉ w.revoked := by simp [hrevoked]
      exact ⟨p, (mem_permissionsOf_commit hdeleted).mpr ⟨hrow, .inl ⟨hp, hkept⟩⟩, hname⟩

/-- The statements of a request that does not take the right leave it to the user. -/
theorem keeps_statements {statements : List Statement}
    (hok : r.statements cat user permissions names = .ok statements)
    (hkeeps : ¬r.Takes cat user names) : Keeps cat {} statements := by
  cases r with
  | updateMatrixForUser userId actorUserId body =>
    have hfinal : adminWritePermission ∈ finalPermissionNames cat body names :=
      not_not.mp hkeeps
    simp only [Request.statements] at hok
    cases hids : resolvePermissionIdsByNames cat (finalPermissionNames cat body names) with
    | error e =>
      rw [hids] at hok
      cases hok
    | ok ids =>
      rw [hids] at hok
      obtain rfl := Except.ok.inj hok
      obtain ⟨p, hp, hname, hid⟩ := exists_of_resolvePermissionIdsByNames hids hfinal
      refine ⟨⟨rfl, by simp⟩, ⟨by simp, by simp⟩, .inl ⟨p, hp, hname, .inr ?_⟩⟩
      simpa using hid
  | updateUser userId body =>
    obtain rfl := Except.ok.inj hok
    have hupdates : ∀ c, .updateUser c ∈ updateStatements user body → c.isActive ≠ some false := by
      intro c hc hfalse
      unfold updateStatements at hc
      simp only at hc
      split at hc
      · cases hc
      · rw [List.mem_singleton, Statement.updateUser.injEq] at hc
        rw [hc] at hfalse
        simp only [User.changes, User.assign] at hfalse
        cases hbody : body.isActive with
        | none => simp [hbody] at hfalse
        | some b =>
          simp only [hbody, Option.getD_some, ite_eq_iff, reduceCtorEq, and_false, false_or,
            Option.some.injEq] at hfalse
          obtain ⟨hne, rfl⟩ := hfalse
          exact hkeeps ⟨hbody, by simpa using Ne.symm hne⟩
    have hothers : ∀ st ∈ updateStatements user body, ∃ c, st = .updateUser c := by
      intro st hst
      unfold updateStatements at hst
      simp only at hst
      split at hst
      · cases hst
      · exact ⟨_, List.mem_singleton.mp hst⟩
    refine ⟨⟨rfl, fun hmem => ?_⟩, ⟨by simp, hupdates⟩, .inr ⟨rfl, fun hmem => ?_, fun i hmem => ?_⟩⟩
    · obtain ⟨c, hc⟩ := hothers _ hmem
      cases hc
    · obtain ⟨c, hc⟩ := hothers _ hmem
      cases hc
    · obtain ⟨c, hc⟩ := hothers _ hmem
      cases hc
  | deleteUser userId => exact absurd trivial hkeeps

/-! ## Requests that are let through -/

/-- The tables have an administrator. -/
def HasAdmin (cat : Catalogue) (a : Accounts) : Prop := ∃ h, h ∈ a.admins cat

/-- A user who is read as none of the administrators is not the only one. -/
theorem HasAdmin.exists_ne (ha : HasAdmin cat a) (hnot : userId ∉ a.admins cat) :
    ∃ h ∈ a.admins cat, h ≠ userId := by
  obtain ⟨h, hh⟩ := ha
  exact ⟨h, hh, fun heq => hnot (heq ▸ hh)⟩

theorem notMem_admins_of_inactive (hu : a.getUserById userId = some user)
    (hinactive : user.isActive = false) : userId ∉ a.admins cat := by
  intro hmem
  obtain ⟨u, hu', hactive, -⟩ := mem_activeUsersWithPermission.mp hmem
  obtain rfl := Option.some.inj (hu.symm.trans hu')
  rw [hinactive] at hactive
  cases hactive

theorem notMem_admins_of_names
    (hnames : adminWritePermission ∉ permissionNames (a.permissionsOf cat userId)) :
    userId ∉ a.admins cat := by
  intro hmem
  obtain ⟨u, -, -, hright⟩ := mem_activeUsersWithPermission.mp hmem
  apply hnames
  exact (mem_permissionNames (by decide)).mpr hright

/-- When the administrators are not counted, the user is read as none, or he keeps the right. -/
theorem guard_ok_false (hguard : r.guard cat user names = .ok false)
    (hcheck : (r.check cat).toBool = true) (htakes : r.Takes cat user names) :
    adminWritePermission ∉ names ∨ (user.isActive = false ∧ r.Strips cat) := by
  by_cases hnames : adminWritePermission ∈ names
  · right
    cases r with
    | updateMatrixForUser userId actorUserId body =>
      have hfinal : adminWritePermission ∉ finalPermissionNames cat body names := htakes
      simp only [Request.guard] at hguard
      split at hguard
      · cases hguard
      · rename_i hself
        have hother : actorUserId ≠ userId := fun heq => hself ⟨heq, hnames, hfinal⟩
        have hinactive : user.isActive = false := by
          have := Except.ok.inj hguard
          simpa [hnames, hfinal] using this
        have hparts : adminWritePermission ∈ cat.managedPermissionNames ∧
            adminWritePermission ∉ desiredManagedPermissionNames cat body := by
          unfold finalPermissionNames at hfinal
          simpa [hnames] using hfinal
        exact ⟨hinactive, hcheck, hother, hparts⟩
    | updateUser userId body =>
      obtain ⟨hbody, hactive⟩ := htakes
      have := Except.ok.inj hguard
      simp [hbody, isActiveAdminWriteUser, hactive, hnames] at this
    | deleteUser userId =>
      have := Except.ok.inj hguard
      refine ⟨?_, trivial⟩
      simpa [isActiveAdminWriteUser, hnames] using this
  · exact .inl hnames

/-! ## Sessions -/

/-- A cleared session has another administrator than its user to rely on, and what a session
writes leaves the right to its user unless it takes it. -/
structure Session.Sound (cat : Catalogue) (s : Session) (a : Accounts) : Prop where
  another : s.Cleared cat → ∃ h ∈ a.admins cat, h ≠ s.request.userId
  keeps : ∀ user names w rest, s.phase = .writing user names w rest →
    ¬s.request.Takes cat user names → Keeps cat w rest
  checked : ∀ user permissions, s.phase = .asking user permissions →
    (s.request.check cat).toBool = true

theorem Session.Sound.refused {e : Err} : Session.Sound cat ⟨r, .refused e⟩ a :=
  ⟨False.elim, by simp, by simp⟩

/-- The names were read of what is committed. -/
theorem sound_afterNames (ha : HasAdmin cat a) (hcheck : (r.check cat).toBool = true)
    (hnames : ∀ name ≠ "", name ∈ names ↔ name ∈ permissionNames (a.permissionsOf cat r.userId))
    (hinactive : user.isActive = false ∧ r.Strips cat → ∃ h ∈ a.admins cat, h ≠ r.userId) :
    Session.Sound cat ⟨r, afterNames cat r user permissions names⟩ a := by
  unfold afterNames
  split
  · exact .refused
  · exact ⟨False.elim, by simp, by simp⟩
  · rename_i hguard
    refine ⟨fun htakes => ?_, by simp, by simp⟩
    rcases guard_ok_false hguard hcheck htakes with hnot | hstrips
    · apply ha.exists_ne
      apply notMem_admins_of_names
      rwa [← hnames _ (by decide)]
    · exact hinactive hstrips

theorem sound_afterLoad (ha : HasAdmin cat a)
    (hinactive : user.isActive = false ∧ r.Strips cat → ∃ h ∈ a.admins cat, h ≠ r.userId) :
    Session.Sound cat ⟨r, afterLoad cat r user (a.permissionsOf cat r.userId)⟩ a := by
  unfold afterLoad
  split
  · exact .refused
  · rename_i hcheck
    have hcheck' : (r.check cat).toBool = true := by
      rw [hcheck]
      rfl
    split
    · split
      · exact ⟨hinactive, by simp, fun _ _ _ => hcheck'⟩
      · rename_i name rest hnames
        apply sound_afterNames ha hcheck' _ hinactive
        intro n _
        rw [hnames]
    · rename_i hasks
      refine ⟨fun htakes => ?_, by simp, by simp⟩
      cases r with
      | updateMatrixForUser userId actorUserId body => exact absurd rfl hasks
      | updateUser userId body =>
        obtain ⟨hbody, hactive⟩ := htakes
        simp [Request.asksPermissions, hbody, hactive] at hasks
      | deleteUser userId => exact absurd rfl hasks

/-- A commit leaves an administrator. -/
theorem hasAdmin_commit (ha : HasAdmin cat a)
    (hs : Session.Sound cat ⟨r, .writing user names w []⟩ a) :
    HasAdmin cat (w.commit r.userId a) := by
  by_cases htakes : r.Takes cat user names
  · obtain ⟨h, hh, hne⟩ := hs.another htakes
    exact ⟨h, (mem_activeUsers_commit_of_ne hne).mpr hh⟩
  · have hkeeps : Keeps cat w [] := hs.keeps user names w [] rfl htakes
    obtain ⟨h, hh⟩ := ha
    by_cases hne : h = r.userId
    · subst hne
      exact ⟨r.userId, hkeeps.commit hh⟩
    · exact ⟨h, (mem_activeUsers_commit_of_ne hne).mpr hh⟩

/-- The next statement of a session keeps what it relies on. -/
theorem sound_next {phase phase' : Phase} (ha : HasAdmin cat a)
    (hs : Session.Sound cat ⟨r, phase⟩ a) (hnext : phase.next cat r a = some phase') :
    HasAdmin cat (phase.store r a) ∧ Session.Sound cat ⟨r, phase'⟩ (phase.store r a) := by
  cases phase with
  | begun =>
    refine ⟨ha, ?_⟩
    simp only [Phase.next] at hnext
    split at hnext
    · obtain rfl := Option.some.inj hnext
      exact .refused
    · rename_i user hu
      obtain rfl := Option.some.inj hnext
      refine ⟨fun hcleared => ?_, by simp, by simp⟩
      exact ha.exists_ne (notMem_admins_of_inactive hu hcleared.1)
  | selected user =>
    obtain rfl := Option.some.inj hnext
    exact ⟨ha, sound_afterLoad ha hs.another⟩
  | asking user permissions =>
    refine ⟨ha, ?_⟩
    obtain rfl := Option.some.inj hnext
    have hcheck : (r.check cat).toBool = true := hs.checked user permissions rfl
    exact sound_afterNames ha hcheck (fun _ _ => Iff.rfl) hs.another
  | counting user permissions names =>
    refine ⟨ha, ?_⟩
    simp only [Phase.next] at hnext
    split at hnext
    · obtain rfl := Option.some.inj hnext
      exact .refused
    · rename_i hcount
      obtain rfl := Option.some.inj hnext
      exact ⟨fun _ => exists_ne_of_countActiveUsers hcount _, by simp, by simp⟩
  | passed user permissions names =>
    refine ⟨ha, ?_⟩
    simp only [Phase.next] at hnext
    split at hnext
    · obtain rfl := Option.some.inj hnext
      exact .refused
    · rename_i statements hstatements
      split at hnext
      · obtain rfl := Option.some.inj hnext
        exact .refused
      · obtain rfl := Option.some.inj hnext
        refine ⟨hs.another, ?_, by simp⟩
        rintro _ _ _ _ ⟨⟩ hkeeps
        exact keeps_statements hstatements hkeeps
  | writing user names w rest =>
    cases rest with
    | nil =>
      obtain rfl := Option.some.inj hnext
      exact ⟨hasAdmin_commit ha hs, False.elim, by simp, by simp⟩
    | cons statement rest =>
      refine ⟨ha, ?_⟩
      obtain rfl := Option.some.inj hnext
      refine ⟨hs.another, ?_, by simp⟩
      rintro _ _ _ _ ⟨⟩ hkeeps
      exact (hs.keeps user names w (statement :: rest) rfl hkeeps).execute
  | committed => cases hnext
  | refused e => cases hnext

theorem sessions_outline :
    Interleaving.Outline (sessions cat) (HasAdmin cat) (Session.Sound cat) where
  init r a ha := ⟨False.elim, by simp [sessions], by simp [sessions]⟩
  next s a s' a' ha hs hnext := by
    obtain ⟨phase', hphase, heq⟩ := Option.map_eq_some_iff.mp hnext
    obtain ⟨rfl, rfl⟩ := Prod.mk.inj heq
    exact sound_next ha hs hphase

/-- What a commit does to the other sessions, when it leaves another administrator. -/
theorem sessions_undisturbed :
    Interleaving.Undisturbed (sessions cat) (HasAdmin cat) (Session.Sound cat)
      (LeavesAnother cat) := by
  intro c i s s' a' hc hcond hs hnext j t _ ht
  obtain ⟨phase', -, heq⟩ := Option.map_eq_some_iff.mp hnext
  obtain ⟨-, rfl⟩ := Prod.mk.inj heq
  have hsmem : s ∈ c.running := List.mem_of_getElem? hs
  have htmem : t ∈ c.running := List.mem_of_getElem? ht
  have htsound : t.Sound cat c.store := hc.running t htmem
  have hssound : s.Sound cat c.store := hc.running s hsmem
  refine ⟨fun hcleared => ?_, htsound.keeps, htsound.checked⟩
  obtain ⟨h, hh, hne⟩ := htsound.another hcleared
  obtain ⟨r, phase⟩ := s
  unfold Phase.store
  split
  · rename_i user names w hphase
    obtain rfl : phase = .writing user names w [] := hphase
    by_cases htakes : r.Takes cat user names
    · by_cases hsame : t.request.userId = r.userId
      · -- the users are the same, and the administrator is another one
        rw [hsame] at hne
        exact ⟨h, (mem_activeUsers_commit_of_ne hne).mpr hh, hsame ▸ hne⟩
      · obtain ⟨h', hh', hnes, hnet⟩ :=
          hcond ⟨r, .writing user names w []⟩ hs trivial htakes t htmem hcleared hsame
        exact ⟨h', (mem_activeUsers_commit_of_ne hnes).mpr hh', hnet⟩
    · have hkeeps : Keeps cat w [] := hssound.keeps user names w [] rfl htakes
      by_cases hown : h = r.userId
      · subst hown
        exact ⟨r.userId, hkeeps.commit hh, hne⟩
      · exact ⟨h, (mem_activeUsers_commit_of_ne hown).mpr hh, hne⟩
  · exact ⟨h, hh, hne⟩

/-- In every state of a run that starts with an administrator there is one, as long as every
commit leaves another one to the sessions that rely on it. -/
theorem hasAdmin_of_leavesAnother (ha : HasAdmin cat a) {es : List Event}
    (hes : Tx.AllAccepted (sessions cat).serve (LeavesAnother cat) es (.idle a)) (n : ℕ) :
    HasAdmin cat (Tx.attemptAll (sessions cat).serve (es.take n) (.idle a)).store := by
  have hstart : (Interleaving.Config.idle a).Holds (HasAdmin cat) (Session.Sound cat) :=
    Interleaving.holds_idle ha
  exact (hstart.run sessions_outline sessions_undisturbed (Tx.allAccepted_take hes n)).store

/-! ## Two administrators who deactivate each other -/

/-- The page of the administration with its two permissions. -/
def adminCatalogue : Catalogue where
  permissions := ⟨[⟨1, "page.admin.read"⟩, ⟨2, "page.admin.write"⟩], by decide⟩
  pages := [⟨"admin", "系统管理", 1, true, false, some 1, some 2⟩]

/-- Active users with the given identifiers, who hold both permissions. -/
def adminUsers (ids : Finset ℕ) (rows : List User) (h : rows.Pairwise fun a b => a.id ≠ b.id) :
    Accounts where
  users := ⟨rows, h⟩
  userPermissions := (ids ×ˢ {1, 2}).image fun p => ⟨p.1, p.2⟩

def adminUser (id : ℕ) : User := ⟨id, true, none, none, none⟩

def twoAdmins : Accounts := adminUsers {1, 2} [adminUser 1, adminUser 2] (by decide)

def threeAdmins : Accounts :=
  adminUsers {1, 2, 3} [adminUser 1, adminUser 2, adminUser 3] (by decide)

def deactivate (userId : ℕ) : Request := .updateUser userId ⟨none, none, none, some false⟩

/-- The requests of two administrators, a statement of each in turn. -/
def deactivateEachOther : List Event :=
  [.start (deactivate 2), .start (deactivate 1)] ++
    (List.replicate 7 [Interleaving.Event.exec 0, .exec 1]).flatten

/-- Each counts two administrators and commits. -/
theorem not_hasAdmin_deactivateEachOther :
    HasAdmin adminCatalogue twoAdmins ∧
      ¬HasAdmin adminCatalogue (Tx.attemptAll (sessions adminCatalogue).serve deactivateEachOther
        (.idle twoAdmins)).store := by
  have hstart : 1 ∈ twoAdmins.admins adminCatalogue := by decide +kernel
  have hend : (Tx.attemptAll (sessions adminCatalogue).serve deactivateEachOther
      (.idle twoAdmins)).store.admins adminCatalogue = [] := by decide +kernel
  refine ⟨⟨1, hstart⟩, ?_⟩
  rintro ⟨h, hh⟩
  rw [hend] at hh
  cases hh

/-- A third administrator remains to both. -/
theorem hasAdmin_of_leavesAnother_three :
    HasAdmin adminCatalogue (Tx.attemptAll (sessions adminCatalogue).serve
      (deactivateEachOther.take 16) (.idle threeAdmins)).store :=
  hasAdmin_of_leavesAnother ⟨1, by decide +kernel⟩
    (Tx.Along.allAccepted (by decide +kernel)) 16

end Wms.Users
