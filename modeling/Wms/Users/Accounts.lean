import Wms.Foundation.Table
import Wms.Text

/-!
# User accounts

The users with their permissions, and the three requests that can take a permission away: a
user's row of the permission matrix is saved, a user is updated, a user is deleted. What a
request reads is an argument here, and what it writes is a list of statements.
-/

namespace Wms.Users

open Foundation

/-! ## Tables -/

/-- `ADMIN_WRITE_PERMISSION`. -/
def adminWritePermission : String := "page.admin.write"

/-- A row of `permissions`. -/
structure Permission where
  id : ℕ
  name : String
  deriving DecidableEq

/-- Two rows with one identifier or one name. -/
def Permission.Clashes (p q : Permission) : Prop := p.id = q.id ∨ p.name = q.name

instance : DecidableRel Permission.Clashes := fun _ _ => inferInstanceAs (Decidable (_ ∨ _))

/-- A row of `page_registry`. -/
structure PageRegistry where
  code : String
  name : String
  level : ℕ
  isActive : Bool
  inheritPermissions : Bool
  readPermissionId : Option ℕ
  writePermissionId : Option ℕ

/-- The tables that the requests only read. -/
structure Catalogue where
  permissions : Table Permission Permission.Clashes
  pages : List PageRegistry

/-- A row of `users`, without what the login needs. -/
structure User where
  id : ℕ
  isActive : Bool
  fullName : Option String
  phone : Option String
  email : Option String
  deriving DecidableEq

/-- A row of `user_permissions`. The pair is the primary key. -/
structure UserPermission where
  userId : ℕ
  permissionId : ℕ
  deriving DecidableEq

/-- The tables that the requests write. -/
structure Accounts where
  users : Table User (SameKey User.id)
  userPermissions : Finset UserPermission

/-! ## Queries -/

variable (cat : Catalogue)

/-- `get_user_by_id`. -/
def Accounts.getUserById (a : Accounts) (userId : ℕ) : Option User := a.users.find userId

/-- The permissions of a user. -/
def Accounts.permissionsOf (a : Accounts) (userId : ℕ) : List Permission :=
  cat.permissions.rows.filter fun p => (⟨userId, p.id⟩ : UserPermission) ∈ a.userPermissions

/-- The names of permissions, each once and none empty. -/
def permissionNames (permissions : List Permission) : List String :=
  ((permissions.map Permission.name).filter (· ≠ "")).eraseDups

/-- The active users who have the permission. -/
def Accounts.activeUsersWithPermission (a : Accounts) (name : String) : List ℕ :=
  ((a.users.rows.filter fun u =>
    u.isActive ∧ ∃ p ∈ a.permissionsOf cat u.id, p.name = name).map User.id).dedup

/-- `count_active_users_with_permission`. -/
def Accounts.countActiveUsersWithPermission (a : Accounts) (name : String) : ℕ :=
  (a.activeUsersWithPermission cat name).length

section Queries

variable {cat} {a : Accounts} {userId : ℕ} {name : String}

theorem mem_permissionNames {permissions : List Permission} (hname : name ≠ "") :
    name ∈ permissionNames permissions ↔ ∃ p ∈ permissions, p.name = name := by
  simp [permissionNames, List.mem_eraseDups, hname]

theorem mem_activeUsersWithPermission : userId ∈ a.activeUsersWithPermission cat name ↔
    ∃ u, a.getUserById userId = some u ∧ u.isActive = true ∧
      ∃ p ∈ a.permissionsOf cat userId, p.name = name := by
  unfold Accounts.activeUsersWithPermission Accounts.getUserById
  rw [List.mem_dedup, List.mem_map]
  constructor
  · rintro ⟨u, hu, rfl⟩
    obtain ⟨hmem, hp⟩ := List.mem_filter.mp hu
    obtain ⟨hactive, hright⟩ := of_decide_eq_true hp
    exact ⟨u, Table.find_eq_some.mpr ⟨hmem, rfl⟩, hactive, hright⟩
  · rintro ⟨u, hu, hactive, hright⟩
    obtain ⟨hmem, rfl⟩ := Table.find_eq_some.mp hu
    exact ⟨u, List.mem_filter.mpr ⟨hmem, decide_eq_true ⟨hactive, hright⟩⟩, rfl⟩

/-- Where two users are counted, one of them is another than any given one. -/
theorem exists_ne_of_countActiveUsers (h : ¬a.countActiveUsersWithPermission cat name ≤ 1)
    (userId : ℕ) : ∃ h ∈ a.activeUsersWithPermission cat name, h ≠ userId := by
  by_contra hnone
  push Not at hnone
  have hsub : a.activeUsersWithPermission cat name ⊆ [userId] := by
    intro x hx
    rw [hnone x hx]
    exact List.mem_singleton_self userId
  have hnodup : (a.activeUsersWithPermission cat name).Nodup := List.nodup_dedup _
  have hlength := (hnodup.subperm hsub).length_le
  simp only [List.length_singleton] at hlength
  exact h hlength

end Queries

/-- A row of `list_pages`: an active page with the names of its own permissions. -/
structure PageRow where
  code : String
  name : String
  level : ℕ
  inheritPermissions : Bool
  selfReadPermission : Option String
  selfWritePermission : Option String

/-- The name of the permission that a page refers to. -/
def Catalogue.permissionName (permissionId : Option ℕ) : Option String :=
  permissionId.bind fun i => (cat.permissions.rows.find? fun p => p.id = i).map Permission.name

/-- `list_pages`. -/
def Catalogue.listPages : List PageRow :=
  (cat.pages.filter (·.isActive)).map fun page =>
    { code := page.code
      name := page.name
      level := page.level
      inheritPermissions := page.inheritPermissions
      selfReadPermission := cat.permissionName page.readPermissionId
      selfWritePermission := cat.permissionName page.writePermissionId }

/-! ## The permission matrix -/

/-- A text that is there and not blank. -/
def Filled (s : Option String) : Prop := ∃ t ∈ s, strip t ≠ ""

instance : DecidablePred Filled := fun s =>
  match s with
  | none => .isFalse (by simp [Filled])
  | some t => decidable_of_iff (strip t ≠ "") (by simp [Filled])

/-- `_is_grantable_root_page`. -/
def isGrantableRootPage (page : PageRow) : Bool :=
  page.level = 1 ∧ strip page.code ≠ "" ∧ strip page.name ≠ "" ∧ page.inheritPermissions = false ∧
    Filled page.selfReadPermission ∧ Filled page.selfWritePermission

/-- `_list_root_pages`. -/
def Catalogue.listRootPages : List PageRow :=
  (cat.listPages.filter isGrantableRootPage).map fun page => { page with code := strip page.code }

/-- A cell of the matrix in a request. -/
structure PagePermissionCellIn where
  read : Bool
  write : Bool

/-- A row of the matrix in a request: the columns it was made for, and the cells by column. -/
structure UserPermissionMatrixUpdateIn where
  pageCodes : List String
  pages : List (String × PagePermissionCellIn)

/-- Python's `sorted`. -/
def sorted (texts : List String) : List String := texts.insertionSort (· ≤ ·)

/-- A list of texts as Python writes it. -/
def pyTexts (texts : List String) : String := "[" ++ ", ".intercalate (texts.map pyText) ++ "]"

/-- `_normalize_page_codes`. -/
def normalizePageCodes (pageCodes : List String) : List String :=
  ((pageCodes.map strip).filter (· ≠ "")).eraseDups

/-- `_ensure_page_codes_match`. -/
def ensurePageCodesMatch (expectedPageCodes incomingPageCodes : List String) :
    Except Err PUnit :=
  let expected := sorted expectedPageCodes
  let incoming := sorted (normalizePageCodes incomingPageCodes)
  if incoming = expected then pure ()
  else
    throw (.valueError ("矩阵列已过期，请刷新页面后重试" ++
      " 缺失列=" ++ pyTexts (expected.filter (· ∉ incoming)) ++
      " 多余列=" ++ pyTexts (incoming.filter (· ∉ expected))))

/-- The columns of the request are the ones there are, and it has cells in no others. -/
def checkColumns (body : UserPermissionMatrixUpdateIn) : Except Err PUnit := do
  let codes := cat.listRootPages.map PageRow.code
  ensurePageCodesMatch codes body.pageCodes
  let unknown := sorted (((body.pages.map Prod.fst).eraseDups).filter (· ∉ codes))
  if unknown ≠ [] then throw (.valueError ("非法一级页面: " ++ pyTexts unknown))

/-- `_collect_managed_permission_names`. -/
def Catalogue.managedPermissionNames : List String :=
  cat.listRootPages.flatMap fun page =>
    (page.selfReadPermission.toList ++ page.selfWritePermission.toList).filter (· ≠ "")

/-- `_build_desired_managed_permission_names`. Who may write may also read. -/
def desiredManagedPermissionNames (body : UserPermissionMatrixUpdateIn) : List String :=
  cat.listRootPages.flatMap fun page =>
    let cell := body.pages.lookup page.code
    let wantWrite := (cell.map PagePermissionCellIn.write).getD false
    let wantRead := wantWrite || (cell.map PagePermissionCellIn.read).getD false
    ((if wantRead then page.selfReadPermission.toList else []) ++
      (if wantWrite then page.selfWritePermission.toList else [])).filter (· ≠ "")

/-- `final_permission_names`: what the matrix does not manage stays. -/
def finalPermissionNames (body : UserPermissionMatrixUpdateIn) (current : List String) :
    List String :=
  current.filter (· ∉ cat.managedPermissionNames) ++ desiredManagedPermissionNames cat body

/-- `_resolve_permission_ids_by_names`. -/
def resolvePermissionIdsByNames (names : List String) : Except Err (List ℕ) :=
  let distinct := sorted names.eraseDups
  let missing := distinct.filter fun name => ∀ p ∈ cat.permissions.rows, p.name ≠ name
  if missing ≠ [] then throw (.valueError ("权限不存在: " ++ pyTexts missing))
  else
    pure (distinct.filterMap fun name =>
      (cat.permissions.rows.find? fun p => p.name = name).map Permission.id)

section Names

variable {cat} {names : List String}

/-- Names that are resolved give the identifier of each of them. -/
theorem exists_of_resolvePermissionIdsByNames {ids : List ℕ} {name : String}
    (hids : resolvePermissionIdsByNames cat names = .ok ids) (hname : name ∈ names) :
    ∃ p ∈ cat.permissions.rows, p.name = name ∧ p.id ∈ ids := by
  have hsorted : name ∈ sorted names.eraseDups := by
    unfold sorted
    rw [List.mem_insertionSort, List.mem_eraseDups]
    exact hname
  unfold resolvePermissionIdsByNames at hids
  simp only at hids
  split at hids
  · cases hids
  · rename_i hmissing
    obtain rfl := Except.ok.inj hids
    have hexists : ∃ p ∈ cat.permissions.rows, p.name = name := by
      by_contra hnone
      push Not at hnone
      apply hmissing
      apply List.ne_nil_of_mem (a := name)
      exact List.mem_filter.mpr ⟨hsorted, decide_eq_true hnone⟩
    cases hfind : cat.permissions.rows.find? fun p => p.name = name with
    | none =>
      obtain ⟨p, hp, hpname⟩ := hexists
      have := List.find?_eq_none.mp hfind p hp
      simp [hpname] at this
    | some p =>
      have hpname : p.name = name := by simpa using List.find?_some hfind
      refine ⟨p, List.mem_of_find?_eq_some hfind, hpname, ?_⟩
      apply List.mem_filterMap.mpr
      exact ⟨name, hsorted, by rw [hfind]; rfl⟩

/-- An identifier that is resolved is that of a permission with one of the names. -/
theorem mem_of_resolvePermissionIdsByNames {ids : List ℕ}
    (hids : resolvePermissionIdsByNames cat names = .ok ids) {i : ℕ} (hi : i ∈ ids) :
    ∃ p ∈ cat.permissions.rows, p.id = i ∧ p.name ∈ names := by
  unfold resolvePermissionIdsByNames at hids
  simp only at hids
  split at hids
  · cases hids
  · obtain rfl := Except.ok.inj hids
    obtain ⟨name, hname, hfind⟩ := List.mem_filterMap.mp hi
    obtain ⟨p, hp, hid⟩ := Option.map_eq_some_iff.mp hfind
    have hpname : p.name = name := by simpa using List.find?_some hp
    unfold sorted at hname
    rw [List.mem_insertionSort, List.mem_eraseDups, ← hpname] at hname
    exact ⟨p, List.mem_of_find?_eq_some hp, hid, hname⟩

/-- Two permissions with one identifier or one name are the same. -/
theorem Catalogue.eq_of_clashes {p q : Permission} (hp : p ∈ cat.permissions.rows)
    (hq : q ∈ cat.permissions.rows) (h : p.Clashes q) : p = q :=
  cat.permissions.eq_of_conflict (fun _ _ hab => hab.imp Eq.symm Eq.symm) hp hq h

/-- The identifiers that names are resolved to are those of the permissions with these names. -/
theorem id_mem_resolved_iff {ids : List ℕ} (hids : resolvePermissionIdsByNames cat names = .ok ids)
    {p : Permission} (hp : p ∈ cat.permissions.rows) : p.id ∈ ids ↔ p.name ∈ names := by
  constructor
  · intro hid
    obtain ⟨q, hq, hqid, hqname⟩ := mem_of_resolvePermissionIdsByNames hids hid
    rwa [cat.eq_of_clashes hp hq (.inl hqid.symm)]
  · intro hname
    obtain ⟨q, hq, hqname, hqid⟩ := exists_of_resolvePermissionIdsByNames hids hname
    rwa [cat.eq_of_clashes hp hq (.inr hqname.symm)]

end Names

/-! ## Requests -/

/-- The body of an update of a user. -/
structure UserUpdateMulti where
  fullName : Option String
  phone : Option String
  email : Option String
  isActive : Option Bool

/-- A request that may take a permission away from its user. -/
inductive Request
  | updateMatrixForUser (userId actorUserId : ℕ) (body : UserPermissionMatrixUpdateIn)
  | updateUser (userId : ℕ) (body : UserUpdateMulti)
  | deleteUser (userId : ℕ)

/-- The user whose rows the request writes. -/
def Request.userId : Request → ℕ
  | .updateMatrixForUser userId _ _ => userId
  | .updateUser userId _ => userId
  | .deleteUser userId => userId

/-- What is checked once the user has been read. -/
def Request.check : Request → Except Err PUnit
  | .updateMatrixForUser _ _ body => checkColumns cat body
  | .updateUser _ _ => pure ()
  | .deleteUser _ => pure ()

/-- The check of the other users, or the audit record, calls `get_user_permissions`. -/
def Request.asksPermissions : Request → User → Bool
  | .updateMatrixForUser _ _ _, _ => true
  | .updateUser _ body, user => body.isActive = some false && user.isActive
  | .deleteUser _, _ => true

/-- `_is_active_admin_write_user`. -/
def isActiveAdminWriteUser (user : User) (names : List String) : Bool :=
  user.isActive && adminWritePermission ∈ names

/-- Whether the other users have to be counted: the user is an active administrator, who will
not be one any more. Nobody takes this from himself by the matrix. -/
def Request.guard (user : User) (names : List String) : Request → Except Err Bool
  | .updateMatrixForUser userId actorUserId body =>
    let removes := adminWritePermission ∈ names ∧
      adminWritePermission ∉ finalPermissionNames cat body names
    if actorUserId = userId ∧ removes then
      throw (.valueError "不能移除当前登录用户自己的 page.admin.write")
    else pure (user.isActive && removes)
  | .updateUser _ body =>
    pure (body.isActive = some false && isActiveAdminWriteUser user names)
  | .deleteUser _ => pure (isActiveAdminWriteUser user names)

/-- The refusal when the user is the last active administrator. -/
def Request.lastAdmin : Request → Err
  | .updateMatrixForUser _ _ _ => .valueError "不能移除最后一个仍拥有 page.admin.write 的有效用户"
  | .updateUser _ _ => .valueError "不能停用最后一个仍拥有 page.admin.write 的有效用户"
  | .deleteUser _ => .valueError "不能删除最后一个仍拥有 page.admin.write 的有效用户"

/-! ## Statements -/

/-- The columns that an `UPDATE` of a user sets. -/
structure UserChanges where
  isActive : Option Bool
  fullName : Option (Option String)
  phone : Option (Option String)
  email : Option (Option String)
  deriving DecidableEq

/-- A text column that is given becomes null when it is empty. -/
def assignText (old : Option String) (given : Option String) : Option String :=
  match given with
  | none => old
  | some s => if s = "" then none else some s

/-- The assignments of `update_user_profile`. -/
def User.assign (user : User) (body : UserUpdateMulti) : User :=
  { user with
    fullName := assignText user.fullName body.fullName
    phone := assignText user.phone body.phone
    email := assignText user.email body.email
    isActive := body.isActive.getD user.isActive }

/-- The columns of the object that differ from what was loaded. -/
def User.changes (loaded new : User) : UserChanges where
  isActive := if new.isActive = loaded.isActive then none else some new.isActive
  fullName := if new.fullName = loaded.fullName then none else some new.fullName
  phone := if new.phone = loaded.phone then none else some new.phone
  email := if new.email = loaded.email then none else some new.email

/-- Set the columns in a row. -/
def UserChanges.apply (c : UserChanges) (user : User) : User :=
  { user with
    isActive := c.isActive.getD user.isActive
    fullName := c.fullName.getD user.fullName
    phone := c.phone.getD user.phone
    email := c.email.getD user.email }

/-- A statement that writes to the rows of one user. -/
inductive Statement
  | updateUser (changes : UserChanges)
  | deleteUser
  | deleteUserPermissions
  | deleteUserPermission (permissionId : ℕ)
  | insertUserPermission (permissionId : ℕ)

/-- `update_user_profile` writes the columns that have changed. -/
def updateStatements (user : User) (body : UserUpdateMulti) : List Statement :=
  let changes := user.changes (user.assign body)
  if changes = ⟨none, none, none, none⟩ then [] else [.updateUser changes]

/-- The statements that write what the request asks for, from what it has read of its user. -/
def Request.statements (user : User) (permissions : List Permission) (names : List String) :
    Request → Except Err (List Statement)
  -- `replace_user_permissions`
  | .updateMatrixForUser _ _ body => do
    let ids ← resolvePermissionIdsByNames cat (finalPermissionNames cat body names)
    pure (.deleteUserPermissions :: ids.eraseDups.map .insertUserPermission)
  | .updateUser _ body => pure (updateStatements user body)
  -- the rows of the relationship are deleted before the row of the user
  | .deleteUser _ =>
    pure (permissions.map (fun p => .deleteUserPermission p.id) ++ [.deleteUser])

end Wms.Users
