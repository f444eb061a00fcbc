import Wms.Foundation.Interleaving
import Wms.Users.Accounts

/-!
# Sessions

A request runs as a session of the database. Its statements take their turns with those of
other sessions. A statement sees what has been committed when it runs, as under
`READ COMMITTED`; what a session writes is seen by the others once it commits. Row locks only
delay a statement, so they exclude some orders of the statements and add none. A session may be
broken off at any time, which stands for every failure of the database.
-/

namespace Wms.Users

open Foundation

/-! ## What a session has written -/

/-- The uncommitted writes of a session to the rows of its user. -/
structure Pending where
  changes : UserChanges := ⟨none, none, none, none⟩
  /-- The permissions whose rows were deleted. -/
  revoked : Finset ℕ := ∅
  /-- The permissions for which rows were inserted. -/
  granted : Finset ℕ := ∅
  /-- The row of the user was deleted. -/
  deleted : Bool := false

/-- Execute a statement. A `DELETE` finds the rows that are committed when it starts. -/
def Pending.execute (w : Pending) (userId : ℕ) (a : Accounts) : Statement → Pending
  | .updateUser changes => { w with changes := changes }
  | .deleteUser => { w with deleted := true }
  | .deleteUserPermissions =>
    { w with
      revoked := (a.userPermissions.filter fun r => r.userId = userId).image
        UserPermission.permissionId }
  | .deleteUserPermission permissionId => { w with revoked := insert permissionId w.revoked }
  | .insertUserPermission permissionId => { w with granted := insert permissionId w.granted }

/-- The tables after the writes were committed. Deleting a user deletes what refers to him. -/
def Pending.commit (w : Pending) (userId : ℕ) (a : Accounts) : Accounts :=
  if w.deleted then
    { users := a.users.filter fun u => u.id ≠ userId
      userPermissions := a.userPermissions.filter fun r => r.userId ≠ userId }
  else
    { users := match a.getUserById userId with
        | none => a.users
        | some u => a.users.replace (w.changes.apply u)
      userPermissions :=
        (a.userPermissions.filter fun r => ¬(r.userId = userId ∧ r.permissionId ∈ w.revoked)) ∪
          w.granted.image fun p => ⟨userId, p⟩ }

section Commit

variable {cat : Catalogue} {w : Pending} {a : Accounts} {userId h : ℕ} {name : String} {u : User}
  {p : Permission}

@[simp] theorem UserChanges.apply_id (c : UserChanges) (u : User) : (c.apply u).id = u.id := rfl

theorem getUserById_commit_of_ne (hne : h ≠ userId) :
    (w.commit userId a).getUserById h = a.getUserById h := by
  unfold Pending.commit
  split
  · ext u
    unfold Accounts.getUserById
    rw [Table.find_eq_some, Table.find_eq_some]
    constructor
    · rintro ⟨hmem, rfl⟩
      exact ⟨List.mem_of_mem_filter hmem, rfl⟩
    · rintro ⟨hmem, rfl⟩
      exact ⟨List.mem_filter.mpr ⟨hmem, decide_eq_true hne⟩, rfl⟩
  · unfold Accounts.getUserById
    split
    · rfl
    · rename_i u hu
      apply Table.find_replace_of_ne
      rw [UserChanges.apply_id, (Table.find_eq_some.mp hu).2]
      exact hne

theorem permissionsOf_commit_of_ne (hne : h ≠ userId) :
    (w.commit userId a).permissionsOf cat h = a.permissionsOf cat h := by
  unfold Accounts.permissionsOf Pending.commit
  apply List.filter_congr
  intro p _
  split
  · simp [hne]
  · simp [hne, Ne.symm hne]

/-- Committing changes nothing for other users. -/
theorem mem_activeUsers_commit_of_ne (hne : h ≠ userId) :
    h ∈ (w.commit userId a).activeUsersWithPermission cat name ↔
      h ∈ a.activeUsersWithPermission cat name := by
  rw [mem_activeUsersWithPermission, mem_activeUsersWithPermission, getUserById_commit_of_ne hne,
    permissionsOf_commit_of_ne hne]

theorem getUserById_commit (hw : w.deleted = false) (hu : a.getUserById userId = some u) :
    (w.commit userId a).getUserById userId = some (w.changes.apply u) := by
  unfold Pending.commit
  rw [if_neg (by simp [hw])]
  simp only [hu]
  obtain ⟨hmem, hid⟩ := Table.find_eq_some.mp hu
  have hid' : (w.changes.apply u).id = userId := hid
  have hfind := Table.find_replace (r := w.changes.apply u) ⟨u, hmem, rfl⟩
  rwa [hid'] at hfind

theorem mem_permissionsOf_commit (hw : w.deleted = false) :
    p ∈ (w.commit userId a).permissionsOf cat userId ↔
      p ∈ cat.permissions.rows ∧
        ((p ∈ a.permissionsOf cat userId ∧ p.id ∉ w.revoked) ∨ p.id ∈ w.granted) := by
  unfold Accounts.permissionsOf Pending.commit
  rw [if_neg (by simp [hw])]
  simp only [List.mem_filter, decide_eq_true_eq, Finset.mem_union, Finset.mem_filter,
    Finset.mem_image, UserPermission.mk.injEq, true_and, exists_eq_right]
  tauto

end Commit

/-! ## The course of a request -/

/-- How far a session has come, and what it has read on the way. -/
inductive Phase
  | begun
  /-- The row of the user was selected, and the relationship is loaded next. -/
  | selected (user : User)
  /-- The relationship is empty, and the names of the permissions are selected next. -/
  | asking (user : User) (permissions : List Permission)
  /-- The active administrators are counted next. -/
  | counting (user : User) (permissions : List Permission) (names : List String)
  /-- The request goes ahead, and the row of the user is selected again. -/
  | passed (user : User) (permissions : List Permission) (names : List String)
  /-- The remaining statements are executed, and then the session commits. -/
  | writing (user : User) (names : List String) (pending : Pending) (rest : List Statement)
  | committed
  | refused (e : Err)

/-- A request under way. -/
structure Session where
  request : Request
  phase : Phase

variable (cat : Catalogue) (r : Request)

/-- The names of the permissions are known. -/
def afterNames (user : User) (permissions : List Permission) (names : List String) : Phase :=
  match r.guard cat user names with
  | .error e => .refused e
  | .ok true => .counting user permissions names
  | .ok false => .passed user permissions names

/-- `get_user_permissions`: the relationship, unless it is empty. -/
def afterLoad (user : User) (permissions : List Permission) : Phase :=
  match r.check cat with
  | .error e => .refused e
  | .ok _ =>
    if r.asksPermissions user then
      match permissionNames permissions with
      | [] => .asking user permissions
      | name :: names => afterNames cat r user permissions (name :: names)
    else .passed user permissions []

/-- The phase after the next statement, on what is committed. A session that has executed its
statements commits. -/
def Phase.next (a : Accounts) : Phase → Option Phase
  | .begun =>
    match a.getUserById r.userId with
    | none => some (.refused (.notFoundError "用户不存在"))
    | some user => some (.selected user)
  | .selected user => some (afterLoad cat r user (a.permissionsOf cat r.userId))
  | .asking user permissions =>
    some (afterNames cat r user permissions (permissionNames (a.permissionsOf cat r.userId)))
  | .counting user permissions names =>
    if a.countActiveUsersWithPermission cat adminWritePermission ≤ 1 then some (.refused r.lastAdmin)
    else some (.passed user permissions names)
  | .passed user permissions names =>
    match r.statements cat user permissions names with
    | .error e => some (.refused e)
    | .ok statements =>
      match a.getUserById r.userId with
      | none => some (.refused (.notFoundError "用户不存在"))
      | some _ => some (.writing user names {} statements)
  | .writing user names w (statement :: rest) =>
    some (.writing user names (w.execute r.userId a statement) rest)
  | .writing _ _ _ [] => some .committed
  | .committed => none
  | .refused _ => none

/-- The tables after the next statement: only a commit changes them. -/
def Phase.store (a : Accounts) : Phase → Accounts
  | .writing _ _ w [] => w.commit r.userId a
  | _ => a

/-- Requests under way on the tables. -/
def sessions : Interleaving.Semantics Accounts Session Request where
  init r := ⟨r, .begun⟩
  next s a := (s.phase.next cat s.request a).map fun phase =>
    (⟨s.request, phase⟩, s.phase.store s.request a)

/-- Requests that arrive, execute a statement or are broken off. -/
abbrev Event := Interleaving.Event Request

/-- The tables with the sessions on them. -/
abbrev Config := Interleaving.Config Accounts Session

end Wms.Users
