import Wms.Foundation.Dict
import Wms.Users.Sessions

/-!
# The matrix of permissions

Saving a user's row of the matrix replaces his permissions: he keeps those that no column of the
matrix manages and gets those that the request asks for. The matrix that is read afterwards is
made from his permissions, column by column. Columns may share a permission, and what is asked for
in one of them then shows in the other one too.
-/

namespace Wms.Users

open Foundation

variable (cat : Catalogue)

/-! ## Reading and saving -/

/-- A cell of the matrix that is read. -/
structure PagePermissionCellOut where
  read : Bool
  write : Bool
  deriving DecidableEq

/-- `_build_page_cell`. Who may write may also read. -/
def buildPageCell (page : PageRow) (names : List String) : PagePermissionCellOut where
  read := page.selfWritePermission.any (· ∈ names) || page.selfReadPermission.any (· ∈ names)
  write := page.selfWritePermission.any (· ∈ names)

/-- `_build_user_row`: the cells by column. -/
def Accounts.buildUserRow (a : Accounts) (userId : ℕ) : List (String × PagePermissionCellOut) :=
  Dict.assign (cat.listRootPages.map fun page =>
    (page.code, buildPageCell page (permissionNames (a.permissionsOf cat userId))))

/-- `get_matrix`: the rows of all users. -/
def Accounts.getMatrix (a : Accounts) : List (ℕ × List (String × PagePermissionCellOut)) :=
  (orderBy User.id a.users.rows).map fun user => (user.id, a.buildUserRow cat user.id)

/-- Execute statements one after the other. -/
def Pending.executeAll (w : Pending) (userId : ℕ) (a : Accounts) (statements : List Statement) :
    Pending :=
  statements.foldl (fun w statement => w.execute userId a statement) w

/-- The refusal of a request that takes the right from the last active administrator. -/
def Request.leavesAdmin (r : Request) (a : Accounts) (counts : Bool) : Except Err PUnit :=
  if counts ∧ a.countActiveUsersWithPermission cat adminWritePermission ≤ 1 then .error r.lastAdmin
  else .ok ⟨⟩

/-- `update_matrix_for_user` while no other request runs: what is left in the tables. -/
def Accounts.updateMatrixForUser (a : Accounts) (userId actorUserId : ℕ)
    (body : UserPermissionMatrixUpdateIn) : Except Err Accounts := do
  let r : Request := .updateMatrixForUser userId actorUserId body
  match a.getUserById userId with
  | none => throw (.notFoundError "用户不存在")
  | some user => do
    r.check cat
    let permissions := a.permissionsOf cat userId
    let names := permissionNames permissions
    let counts ← r.guard cat user names
    r.leavesAdmin cat a counts
    let statements ← r.statements cat user permissions names
    return (({} : Pending).executeAll userId a statements).commit userId a

variable {cat} {a a' : Accounts} {userId actorUserId : ℕ} {body : UserPermissionMatrixUpdateIn}
  {p : Permission} {page : PageRow} {name : String}

/-- The inserts of a list of permissions. -/
theorem executeAll_insertUserPermission (w : Pending) (ids : List ℕ) :
    w.executeAll userId a (ids.map Statement.insertUserPermission) =
      { w with granted := w.granted ∪ ids.toFinset } := by
  induction ids generalizing w with
  | nil =>
    unfold Pending.executeAll
    simp
  | cons i ids ih =>
    have hstep : w.executeAll userId a ((i :: ids).map Statement.insertUserPermission) =
        (w.execute userId a (.insertUserPermission i)).executeAll userId a
          (ids.map Statement.insertUserPermission) := rfl
    have hgranted : insert i w.granted ∪ ids.toFinset = w.granted ∪ (i :: ids).toFinset := by
      rw [List.toFinset_cons, Finset.insert_union, Finset.union_insert]
    rw [hstep, ih, ← hgranted]
    rfl

/-- After an accepted request the user has the permissions that are kept or asked for. -/
theorem updateMatrixForUser_eq_ok
    (h : a.updateMatrixForUser cat userId actorUserId body = .ok a') :
    (∃ user, a'.getUserById userId = some user) ∧ checkColumns cat body = .ok ⟨⟩ ∧
      ∀ p ∈ cat.permissions.rows, p ∈ a'.permissionsOf cat userId ↔
        p.name ∈ finalPermissionNames cat body (permissionNames (a.permissionsOf cat userId)) := by
  unfold Accounts.updateMatrixForUser at h
  cases huser : a.getUserById userId with
  | none =>
    rw [huser] at h
    cases h
  | some user =>
    rw [huser] at h
    obtain ⟨_, hcheck, h⟩ := except_bind_eq_ok.mp h
    obtain ⟨counts, -, h⟩ := except_bind_eq_ok.mp h
    obtain ⟨_, -, h⟩ := except_bind_eq_ok.mp h
    obtain ⟨statements, hstatements, h⟩ := except_bind_eq_ok.mp h
    obtain ⟨ids, hids, hrest⟩ := except_bind_eq_ok.mp hstatements
    obtain rfl := Except.ok.inj hrest
    obtain rfl := Except.ok.inj h
    have hpending : ({} : Pending).executeAll userId a
        (.deleteUserPermissions :: ids.eraseDups.map .insertUserPermission) =
          { revoked := (a.userPermissions.filter fun r => r.userId = userId).image
              UserPermission.permissionId
            granted := ids.eraseDups.toFinset } := by
      change (Pending.execute {} userId a .deleteUserPermissions).executeAll userId a _ = _
      rw [executeAll_insertUserPermission]
      simp [Pending.execute]
    rw [hpending]
    refine ⟨⟨_, getUserById_commit rfl huser⟩, hcheck, fun p hp => ?_⟩
    have hrevoked : p ∈ a.permissionsOf cat userId →
        p.id ∈ (a.userPermissions.filter fun r => r.userId = userId).image
          UserPermission.permissionId := by
      intro hmem
      have hrow := of_decide_eq_true (List.mem_filter.mp hmem).2
      exact Finset.mem_image.mpr ⟨_, Finset.mem_filter.mpr ⟨hrow, rfl⟩, rfl⟩
    have hgranted : p.id ∈ ids.eraseDups.toFinset ↔ p.id ∈ ids := by
      rw [List.mem_toFinset, List.mem_eraseDups]
    rw [mem_permissionsOf_commit rfl, hgranted, id_mem_resolved_iff hids hp]
    constructor
    · rintro ⟨-, ⟨hmem, hkept⟩ | hname⟩
      · exact absurd (hrevoked hmem) hkept
      · exact hname
    · exact fun hname => ⟨hp, .inr hname⟩

/-! ## What the request asks for -/

/-- The request asks to write in a column. -/
def UserPermissionMatrixUpdateIn.WantsWrite (body : UserPermissionMatrixUpdateIn) (code : String) :
    Prop := ∃ cell ∈ body.pages.lookup code, cell.write = true

/-- The request asks to read in a column, or to write. -/
def UserPermissionMatrixUpdateIn.WantsRead (body : UserPermissionMatrixUpdateIn) (code : String) :
    Prop := ∃ cell ∈ body.pages.lookup code, cell.read = true ∨ cell.write = true

/-- In some column the request asks for what needs the permission. -/
def Asked (cat : Catalogue) (body : UserPermissionMatrixUpdateIn) (name : String) : Prop :=
  ∃ page ∈ cat.listRootPages,
    (body.WantsRead page.code ∧ page.selfReadPermission = some name) ∨
      (body.WantsWrite page.code ∧ page.selfWritePermission = some name)

/-- The permission belongs to a column of the matrix. -/
def Managed (cat : Catalogue) (name : String) : Prop :=
  ∃ page ∈ cat.listRootPages,
    page.selfReadPermission = some name ∨ page.selfWritePermission = some name

/-- The permissions of the column are two, and no other column has them. -/
def Unshared (cat : Catalogue) (page : PageRow) : Prop :=
  ∀ q ∈ cat.listRootPages,
    (q.selfReadPermission = page.selfReadPermission → q.code = page.code) ∧
      (q.selfWritePermission = page.selfWritePermission → q.code = page.code) ∧
      q.selfReadPermission ≠ page.selfWritePermission ∧
      q.selfWritePermission ≠ page.selfReadPermission

theorem Asked.managed (h : Asked cat body name) : Managed cat name := by
  obtain ⟨page, hpage, ⟨-, hread⟩ | ⟨-, hwrite⟩⟩ := h
  · exact ⟨page, hpage, .inl hread⟩
  · exact ⟨page, hpage, .inr hwrite⟩

theorem mem_managedPermissionNames (hname : name ≠ "") :
    name ∈ cat.managedPermissionNames ↔ Managed cat name := by
  unfold Catalogue.managedPermissionNames Managed
  simp [List.mem_flatMap, hname, Option.mem_toList]

theorem mem_desiredManagedPermissionNames (hname : name ≠ "") :
    name ∈ desiredManagedPermissionNames cat body ↔ Asked cat body name := by
  unfold desiredManagedPermissionNames Asked UserPermissionMatrixUpdateIn.WantsRead
    UserPermissionMatrixUpdateIn.WantsWrite
  simp only [List.mem_flatMap]
  refine exists_congr fun page => and_congr_right fun _ => ?_
  cases body.pages.lookup page.code with
  | none => simp
  | some cell =>
    cases hwrite : cell.write <;> cases hread : cell.read <;>
      simp [hname, Option.mem_toList, hwrite, hread]

/-- What a user has of the managed permissions after the request is what was asked for. -/
theorem mem_finalPermissionNames (hname : name ≠ "") {current : List String} :
    name ∈ finalPermissionNames cat body current ↔
      (name ∈ current ∧ ¬Managed cat name) ∨ Asked cat body name := by
  unfold finalPermissionNames
  rw [List.mem_append, List.mem_filter, decide_eq_true_eq, mem_managedPermissionNames hname,
    mem_desiredManagedPermissionNames hname]

/-! ## Columns -/

theorem ne_empty_of_filled {s : Option String} (h : Filled s) : ∃ name, s = some name ∧ name ≠ "" := by
  obtain ⟨name, hname, hstrip⟩ := h
  refine ⟨name, hname, ?_⟩
  rintro rfl
  exact hstrip (by decide)

/-- The permissions of a column have names. -/
theorem permissions_of_mem_listRootPages (h : page ∈ cat.listRootPages) :
    (∃ name, page.selfReadPermission = some name ∧ name ≠ "") ∧
      ∃ name, page.selfWritePermission = some name ∧ name ≠ "" := by
  obtain ⟨q, hq, rfl⟩ := List.mem_map.mp h
  have hgrantable := of_decide_eq_true (List.mem_filter.mp hq).2
  exact ⟨ne_empty_of_filled hgrantable.2.2.2.2.1, ne_empty_of_filled hgrantable.2.2.2.2.2⟩

theorem exists_of_permissionName {permissionId : Option ℕ}
    (h : cat.permissionName permissionId = some name) : ∃ p ∈ cat.permissions.rows, p.name = name := by
  obtain ⟨i, -, hi⟩ := Option.bind_eq_some_iff.mp h
  obtain ⟨p, hp, hname⟩ := Option.map_eq_some_iff.mp hi
  exact ⟨p, List.mem_of_find?_eq_some hp, hname⟩

/-- The permissions of a column exist. -/
theorem Managed.exists (h : Managed cat name) : ∃ p ∈ cat.permissions.rows, p.name = name := by
  obtain ⟨page, hpage, hname⟩ := h
  obtain ⟨q, hq, rfl⟩ := List.mem_map.mp hpage
  obtain ⟨registered, -, rfl⟩ := List.mem_map.mp (List.mem_of_mem_filter hq)
  rcases hname with hread | hwrite
  · exact exists_of_permissionName hread
  · exact exists_of_permissionName hwrite

/-- Every name is once among the names without repetitions. -/
theorem nodup_eraseDups (texts : List String) : texts.eraseDups.Nodup := by
  induction hlength : texts.length using Nat.strong_induction_on generalizing texts with
  | h n ih =>
    cases texts with
    | nil => simp
    | cons text rest =>
      rw [List.eraseDups_cons]
      refine List.nodup_cons.mpr ⟨?_, ih _ ?_ _ rfl⟩
      · simp [List.mem_eraseDups]
      · have hfilter := List.length_filter_le (fun other => !(other == text)) rest
        rw [List.length_cons] at hlength
        omega

/-- A request is only accepted when no two columns have one code. -/
theorem nodup_codes_of_checkColumns (h : checkColumns cat body = .ok ⟨⟩) :
    (cat.listRootPages.map PageRow.code).Nodup := by
  obtain ⟨_, hcodes, -⟩ := except_bind_eq_ok.mp h
  unfold ensurePageCodesMatch at hcodes
  simp only at hcodes
  split at hcodes
  · rename_i hsame
    have hincoming : (normalizePageCodes body.pageCodes).Nodup := nodup_eraseDups _
    unfold sorted at hsame
    have hperm := (List.perm_insertionSort (· ≤ ·) (cat.listRootPages.map PageRow.code)).symm
    rw [← hsame] at hperm
    exact (hperm.trans (List.perm_insertionSort _ _)).nodup_iff.mpr hincoming
  · cases hcodes

/-- What the matrix shows of a user in a column. -/
theorem lookup_buildUserRow (hcodes : (cat.listRootPages.map PageRow.code).Nodup)
    (hpage : page ∈ cat.listRootPages) :
    (a.buildUserRow cat userId).lookup page.code =
      some (buildPageCell page (permissionNames (a.permissionsOf cat userId))) := by
  have hkeys : ((cat.listRootPages.map fun page =>
      (page.code, buildPageCell page (permissionNames (a.permissionsOf cat userId)))).map
        Prod.fst).Nodup := by
    rw [List.map_map]
    exact hcodes
  exact Dict.lookup_assign_of_mem hkeys (List.mem_map_of_mem hpage)

/-! ## The matrix after a request -/

/-- After an accepted request the user has a permission of the matrix when it was asked for. -/
theorem mem_names_iff_asked (h : a.updateMatrixForUser cat userId actorUserId body = .ok a')
    (hname : name ≠ "") (hmanaged : Managed cat name) :
    name ∈ permissionNames (a'.permissionsOf cat userId) ↔ Asked cat body name := by
  obtain ⟨-, -, hmem⟩ := updateMatrixForUser_eq_ok h
  have hfinal : name ∈ finalPermissionNames cat body (permissionNames (a.permissionsOf cat userId)) ↔
      Asked cat body name := by
    rw [mem_finalPermissionNames hname]
    simp [hmanaged]
  rw [mem_permissionNames hname, ← hfinal]
  constructor
  · rintro ⟨p, hp, rfl⟩
    exact (hmem p (List.mem_of_mem_filter hp)).mp hp
  · intro hin
    obtain ⟨p, hp, rfl⟩ := hmanaged.exists
    exact ⟨p, (hmem p hp).mpr hin, rfl⟩

/-- A column that shares no permission is asked for what it shows. -/
theorem Unshared.asked_iff (h : Unshared cat page) (hpage : page ∈ cat.listRootPages) :
    (page.selfWritePermission = some name → (Asked cat body name ↔ body.WantsWrite page.code)) ∧
      (page.selfReadPermission = some name →
        (Asked cat body name ↔ body.WantsRead page.code)) := by
  constructor
  · intro hwrite
    constructor
    · rintro ⟨q, hq, ⟨-, hread⟩ | ⟨hwants, hsame⟩⟩
      · exact absurd (hread.trans hwrite.symm) (h q hq).2.2.1
      · rwa [← (h q hq).2.1 (hsame.trans hwrite.symm)]
    · exact fun hwants => ⟨page, hpage, .inr ⟨hwants, hwrite⟩⟩
  · intro hread
    constructor
    · rintro ⟨q, hq, ⟨hwants, hsame⟩ | ⟨-, hwrite⟩⟩
      · rwa [← (h q hq).1 (hsame.trans hread.symm)]
      · exact absurd (hwrite.trans hread.symm) (h q hq).2.2.2
    · exact fun hwants => ⟨page, hpage, .inl ⟨hwants, hread⟩⟩

/-- After an accepted request the user's permissions that belong to no column are as before. In
every column the matrix shows the right to write when its permission was asked for in some column,
and the right to read when one of its permissions was. Where the column shares no permission with
another one, this is what was asked for in the column itself. -/
theorem matrix_shows_asked (h : a.updateMatrixForUser cat userId actorUserId body = .ok a') :
    (∀ p ∈ cat.permissions.rows, p.name ≠ "" → ¬Managed cat p.name →
      (p ∈ a'.permissionsOf cat userId ↔ p ∈ a.permissionsOf cat userId)) ∧
    ∃ row, (userId, row) ∈ a'.getMatrix cat ∧ ∀ page ∈ cat.listRootPages,
      ∃ cell, row.lookup page.code = some cell ∧
        (cell.write = true ↔ ∃ name ∈ page.selfWritePermission, Asked cat body name) ∧
        (cell.read = true ↔ ∃ name, (page.selfReadPermission = some name ∨
          page.selfWritePermission = some name) ∧ Asked cat body name) ∧
        (Unshared cat page → (cell.write = true ↔ body.WantsWrite page.code) ∧
          (cell.read = true ↔ body.WantsRead page.code)) := by
  obtain ⟨⟨user, huser⟩, hcheck, hmem⟩ := updateMatrixForUser_eq_ok h
  refine ⟨fun p hp hname hfree => ?_, a'.buildUserRow cat userId, ?_, fun page hpage => ?_⟩
  · have hcurrent : p.name ∈ permissionNames (a.permissionsOf cat userId) ↔
        p ∈ a.permissionsOf cat userId := by
      rw [mem_permissionNames hname]
      constructor
      · rintro ⟨q, hq, hsame⟩
        rwa [cat.eq_of_clashes hp (List.mem_of_mem_filter hq) (.inr hsame.symm)]
      · exact fun hmem => ⟨p, hmem, rfl⟩
    have hasked : ¬Asked cat body p.name := fun hasked => hfree hasked.managed
    rw [hmem p hp, mem_finalPermissionNames hname, hcurrent]
    simp [hfree, hasked]
  · obtain ⟨hrow, hid⟩ := Table.find_eq_some.mp huser
    apply List.mem_map.mpr
    exact ⟨user, mem_orderBy.mpr hrow, by rw [hid]⟩
  · obtain ⟨⟨read, hread, hreadne⟩, write, hwrite, hwritene⟩ := permissions_of_mem_listRootPages hpage
    have hasksRead := mem_names_iff_asked h hreadne ⟨page, hpage, .inl hread⟩
    have hasksWrite := mem_names_iff_asked h hwritene ⟨page, hpage, .inr hwrite⟩
    have hcellWrite : (buildPageCell page (permissionNames (a'.permissionsOf cat userId))).write = true ↔
        Asked cat body write := by
      simp [buildPageCell, hwrite, hasksWrite]
    have hcellRead : (buildPageCell page (permissionNames (a'.permissionsOf cat userId))).read = true ↔
        Asked cat body write ∨ Asked cat body read := by
      simp [buildPageCell, hwrite, hread, hasksWrite, hasksRead]
    refine ⟨_, lookup_buildUserRow (nodup_codes_of_checkColumns hcheck) hpage, ?_, ?_, fun hfree => ?_⟩
    · rw [hcellWrite]
      simp [hwrite]
    · rw [hcellRead, hread, hwrite]
      constructor
      · rintro (hasked | hasked)
        · exact ⟨write, .inr rfl, hasked⟩
        · exact ⟨read, .inl rfl, hasked⟩
      · rintro ⟨name, hname | hname, hasked⟩
        · obtain rfl := Option.some.inj hname
          exact .inr hasked
        · obtain rfl := Option.some.inj hname
          exact .inl hasked
    · rw [hcellWrite, hcellRead, (hfree.asked_iff hpage).1 hwrite, (hfree.asked_iff hpage).2 hread]
      refine ⟨Iff.rfl, ⟨?_, .inr⟩⟩
      rintro (⟨cell, hcell, hwants⟩ | hwants)
      · exact ⟨cell, hcell, .inr hwants⟩
      · exact hwants

/-! ## Columns that share a permission -/

/-- Two pages with one permission to write, a permission that belongs to no page, and one without
a name. -/
def sharedCatalogue : Catalogue where
  permissions := ⟨[⟨1, "page.oms.read"⟩, ⟨2, "page.pms.read"⟩, ⟨3, "page.write"⟩, ⟨4, "export"⟩,
    ⟨5, ""⟩], by decide⟩
  pages := [⟨"oms", "订单", 1, true, false, some 1, some 3⟩,
    ⟨"pms", "商品", 1, true, false, some 2, some 3⟩]

/-- A user who holds the permissions that belong to no page. -/
def exporter : Accounts where
  users := ⟨[⟨1, true, none, none, none⟩], by decide⟩
  userPermissions := {⟨1, 4⟩, ⟨1, 5⟩}

/-- Ask to write in the first column and to read in the second one. -/
def writeOrders : UserPermissionMatrixUpdateIn where
  pageCodes := ["oms", "pms"]
  pages := [("oms", ⟨false, true⟩), ("pms", ⟨true, false⟩)]

/-- What is read when the matrix has been saved. -/
theorem updateMatrixForUser_exporter :
    ∃ a', exporter.updateMatrixForUser sharedCatalogue 1 2 writeOrders = .ok a' ∧
      a'.permissionsOf sharedCatalogue 1 =
        [⟨1, "page.oms.read"⟩, ⟨2, "page.pms.read"⟩, ⟨3, "page.write"⟩, ⟨4, "export"⟩] ∧
      a'.getMatrix sharedCatalogue = [(1, [("oms", ⟨true, true⟩), ("pms", ⟨true, true⟩)])] := by
  have hread : (exporter.updateMatrixForUser sharedCatalogue 1 2 writeOrders).toOption.map
      (fun a' => (a'.permissionsOf sharedCatalogue 1, a'.getMatrix sharedCatalogue)) =
        some ([⟨1, "page.oms.read"⟩, ⟨2, "page.pms.read"⟩, ⟨3, "page.write"⟩, ⟨4, "export"⟩],
          [(1, [("oms", ⟨true, true⟩), ("pms", ⟨true, true⟩)])]) := by
    decide +kernel
  cases h : exporter.updateMatrixForUser sharedCatalogue 1 2 writeOrders with
  | error e =>
    rw [h] at hread
    cases hread
  | ok a' =>
    rw [h] at hread
    have hpair := Option.some.inj hread
    exact ⟨a', rfl, congrArg Prod.fst hpair, congrArg Prod.snd hpair⟩

/-- The permission without a name is lost, and the right to write shows in both columns. -/
theorem not_matrix_shows_own_column :
    (¬∀ (cat : Catalogue) (a a' : Accounts) (userId actorUserId : ℕ)
      (body : UserPermissionMatrixUpdateIn),
      a.updateMatrixForUser cat userId actorUserId body = .ok a' →
        ∀ p ∈ cat.permissions.rows, ¬Managed cat p.name →
          (p ∈ a'.permissionsOf cat userId ↔ p ∈ a.permissionsOf cat userId)) ∧
    ¬∀ (cat : Catalogue) (a a' : Accounts) (userId actorUserId : ℕ)
      (body : UserPermissionMatrixUpdateIn),
      a.updateMatrixForUser cat userId actorUserId body = .ok a' →
        ∃ row, (userId, row) ∈ a'.getMatrix cat ∧ ∀ page ∈ cat.listRootPages,
          ∃ cell, row.lookup page.code = some cell ∧
            (cell.write = true ↔ body.WantsWrite page.code) ∧
            (cell.read = true ↔ body.WantsRead page.code) := by
  obtain ⟨a', h, hpermissions, hmatrix⟩ := updateMatrixForUser_exporter
  constructor
  · intro hclaim
    have hfree : ¬Managed sharedCatalogue "" := by
      rintro ⟨page, hpage, hread | hwrite⟩
      · obtain ⟨⟨name, hname, hne⟩, -⟩ := permissions_of_mem_listRootPages hpage
        exact hne (Option.some.inj (hname.symm.trans hread))
      · obtain ⟨-, name, hname, hne⟩ := permissions_of_mem_listRootPages hpage
        exact hne (Option.some.inj (hname.symm.trans hwrite))
    have hlost := (hclaim _ _ _ _ _ _ h ⟨5, ""⟩ (by decide) hfree).mpr (by decide)
    rw [hpermissions] at hlost
    revert hlost
    decide
  · intro hclaim
    obtain ⟨row, hrow, hcells⟩ := hclaim _ _ _ _ _ _ h
    rw [hmatrix] at hrow
    obtain ⟨-, rfl⟩ := Prod.mk.inj (List.mem_singleton.mp hrow)
    let pms : PageRow := ⟨"pms", "商品", 1, false, some "page.pms.read", some "page.write"⟩
    have hpms : sharedCatalogue.listRootPages[1]? = some pms := by rfl
    obtain ⟨cell, hcell, hwrite, -⟩ := hcells pms (List.mem_of_getElem? hpms)
    have hshown : cell = ⟨true, true⟩ := (Option.some.inj hcell).symm
    obtain ⟨asked, hasked, hwants⟩ := hwrite.mp (by rw [hshown])
    obtain rfl := Option.some.inj hasked
    cases hwants

theorem matrix_shows_asked_exporter :
    ∃ a', exporter.updateMatrixForUser sharedCatalogue 1 2 writeOrders = .ok a' ∧
      ∃ row, (1, row) ∈ a'.getMatrix sharedCatalogue ∧ ∀ page ∈ sharedCatalogue.listRootPages,
        ∃ cell, row.lookup page.code = some cell ∧
          (cell.write = true ↔ ∃ name ∈ page.selfWritePermission,
            Asked sharedCatalogue writeOrders name) := by
  obtain ⟨a', h, -⟩ := updateMatrixForUser_exporter
  obtain ⟨-, row, hrow, hcells⟩ := matrix_shows_asked h
  refine ⟨a', h, row, hrow, fun page hpage => ?_⟩
  obtain ⟨cell, hcell, hwrite, -⟩ := hcells page hpage
  exact ⟨cell, hcell, hwrite⟩

end Wms.Users
