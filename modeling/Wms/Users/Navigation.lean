import Wms.Foundation.Dict
import Wms.Foundation.Walk

/-!
# Navigation of the current user

A page has permissions of its own or inherits those of its parent. The permissions that are in
effect are looked for along the parents, every result is kept in a cache that all pages share,
and the pages that are being looked at are remembered, so that a circle of parents is noticed.
-/

namespace Wms.Users

open Foundation Walk

/-- A row of `list_pages` as the navigation reads it. -/
structure NavigationPage where
  parentCode : Option String
  inheritPermissions : Bool
  selfReadPermission : Option String
  selfWritePermission : Option String
  deriving DecidableEq

/-- The read and the write permission of a page. -/
abbrev PagePermissions := Option String × Option String

/-- `rows_by_code`. -/
abbrev PageTable := List (String × NavigationPage)

/-- The results that are known. -/
abbrev PermissionCache := String → Option PagePermissions

/-- The permissions of the page itself. -/
def NavigationPage.own (page : NavigationPage) : PagePermissions :=
  (page.selfReadPermission, page.selfWritePermission)

/-- The parent of a page; a code that is empty names none. -/
def NavigationPage.parent (page : NavigationPage) : Option String :=
  page.parentCode.filter (· ≠ "")

/-- Where the search goes from a page, or what it answers. -/
def permissionWalk (rows : PageTable) (code : String) : PagePermissions ⊕ String :=
  match rows.lookup code with
  | none => .inl (none, none)
  | some row =>
    if row.inheritPermissions then
      match row.parent with
      | none => .inl (none, none)
      | some parent => .inr parent
    else .inl row.own

/-- The codes of the pages that are not being looked at. -/
def unvisited (rows : PageTable) (visiting : Finset String) : Finset String :=
  (rows.map Prod.fst).toFinset \ visiting

theorem unvisited_insert {rows : PageTable} {visiting : Finset String} {code : String}
    {row : NavigationPage} (hrow : rows.lookup code = some row) (hcode : code ∉ visiting) :
    (unvisited rows (insert code visiting)).card < (unvisited rows visiting).card := by
  have hkey : code ∈ (rows.map Prod.fst).toFinset :=
    List.mem_toFinset.mpr (List.mem_map_of_mem (Dict.mem_of_lookup hrow))
  apply Finset.card_lt_card
  refine Finset.ssubset_iff_of_subset ?_ |>.mpr ⟨code, ?_, ?_⟩
  · exact Finset.sdiff_subset_sdiff (Finset.Subset.refl _) (Finset.subset_insert _ _)
  · exact Finset.mem_sdiff.mpr ⟨hkey, hcode⟩
  · simp [unvisited]

/-- `cache[code] = result`. -/
def PermissionCache.keep (cache : PermissionCache) (code : String) (result : PagePermissions) :
    PagePermissions × PermissionCache :=
  (result, Function.update cache code (some result))

/-- `_resolve_effective_permissions`, with the cache that it leaves. -/
def resolveEffectivePermissions (rows : PageTable) (code : String) (cache : PermissionCache)
    (visiting : Finset String) : PagePermissions × PermissionCache :=
  match cache code with
  | some cached => (cached, cache)
  | none =>
    match _hrow : rows.lookup code with
    | none => cache.keep code (none, none)
    | some row =>
      if row.inheritPermissions then
        match row.parent with
        | none => cache.keep code (none, none)
        | some parent =>
          if _hcode : code ∈ visiting then cache.keep code (none, none)
          else
            let (result, cache') :=
              resolveEffectivePermissions rows parent cache (insert code visiting)
            cache'.keep code result
      else cache.keep code row.own
termination_by (unvisited rows visiting).card
decreasing_by exact unvisited_insert _hrow _hcode

/-- Resolve pages one after the other with a shared cache. -/
def resolveInOrder (rows : PageTable) : List String → PermissionCache → List PagePermissions
  | [], _ => []
  | code :: codes, cache =>
    let (result, cache') := resolveEffectivePermissions rows code cache ∅
    result :: resolveInOrder rows codes cache'

/-- The pages that `get_my_navigation` shows to a user, with their permissions: those whose read
permission the user has. -/
def visiblePages (rows : PageTable) (userPermissions : List String) :
    List (String × PagePermissions) :=
  let codes := rows.map Prod.fst
  (codes.zip (resolveInOrder (Dict.assign rows) codes fun _ => none)).filter fun p =>
    ∃ read ∈ p.2.1, read ≠ "" ∧ read ∈ userPermissions

/-! ## What is resolved -/

variable {rows : PageTable} {code : String} {cache : PermissionCache} {visiting : Finset String}
  {result : PagePermissions} {page : NavigationPage}

/-- Every result in the cache is that of its page. -/
def PermissionCache.Sound (rows : PageTable) (cache : PermissionCache) : Prop :=
  ∀ code result, cache code = some result →
    Result (permissionWalk rows) (none, none) code result

theorem PermissionCache.sound_empty (rows : PageTable) :
    PermissionCache.Sound rows fun _ => none := by
  intro code result h
  cases h

/-- The result of a page may be kept. -/
theorem PermissionCache.Sound.keep (h : cache.Sound rows)
    (hresult : Result (permissionWalk rows) (none, none) code result) :
    Result (permissionWalk rows) (none, none) code (cache.keep code result).1 ∧
      PermissionCache.Sound rows (cache.keep code result).2 := by
  refine ⟨hresult, fun code' result' hkept => ?_⟩
  change Function.update cache code (some result) code' = some result' at hkept
  by_cases hcode : code' = code
  · rw [hcode, Function.update_self] at hkept
    rw [hcode, ← Option.some.inj hkept]
    exact hresult
  · rw [Function.update_of_ne hcode] at hkept
    exact h code' result' hkept

/-- The pages that are being looked at are those from which the search came. -/
theorem resolveEffectivePermissions_spec (hcache : cache.Sound rows)
    (hvisiting : ∀ v ∈ visiting, Relation.TransGen (Next (permissionWalk rows)) v code) :
    Result (permissionWalk rows) (none, none) code
        (resolveEffectivePermissions rows code cache visiting).1 ∧
      PermissionCache.Sound rows (resolveEffectivePermissions rows code cache visiting).2 := by
  fun_induction resolveEffectivePermissions rows code cache visiting with
  | case1 code visiting cached hcached => exact ⟨hcache code cached hcached, hcache⟩
  | case2 code visiting _ hrow =>
    exact hcache.keep (.of_answer (by simp [permissionWalk, hrow]))
  | case3 code visiting _ row hrow hinherits hparent =>
    exact hcache.keep (.of_answer (by simp [permissionWalk, hrow, hinherits, hparent]))
  | case4 code visiting _ row hrow hinherits parent hparent hseen =>
    -- the search has come back to a page that it came from
    exact hcache.keep (.of_cycle (hvisiting code hseen))
  | case5 code visiting _ row hrow hinherits parent hparent hnew result cache' hrest ih =>
    have hnext : permissionWalk rows code = .inr parent := by
      simp [permissionWalk, hrow, hinherits, hparent]
    have hfrom : ∀ v ∈ insert code visiting,
        Relation.TransGen (Next (permissionWalk rows)) v parent := by
      intro v hv
      rcases Finset.mem_insert.mp hv with rfl | hold
      · exact .single hnext
      · exact (hvisiting v hold).tail hnext
    obtain ⟨hresult, hcache'⟩ := ih hfrom
    rw [hrest] at hresult hcache'
    exact hcache'.keep (.of_next hnext hresult)
  | case6 code visiting _ row hrow hinherits =>
    exact hcache.keep (.of_answer (by simp [permissionWalk, hrow, hinherits]))

/-- Whatever order the pages are resolved in, each result is that of its page. -/
theorem resolveInOrder_results (hcache : cache.Sound rows) (codes : List String) :
    List.Forall₂ (Result (permissionWalk rows) (none, none)) codes
      (resolveInOrder rows codes cache) := by
  induction codes generalizing cache with
  | nil => exact .nil
  | cons code codes ih =>
    obtain ⟨hresult, hcache'⟩ :=
      resolveEffectivePermissions_spec hcache (fun v hv => absurd hv (Finset.notMem_empty v))
    exact .cons hresult (ih hcache')

/-! ## The nearest page with permissions of its own -/

section Nearest

variable (rows) (link : NavigationPage → Option String)

/-- The page itself, or the nearest page on the way along its parents, does not inherit. -/
inductive Nearest : String → NavigationPage → Prop
  | self {code : String} {page : NavigationPage} (hrow : rows.lookup code = some page)
      (hown : page.inheritPermissions = false) : Nearest code page
  | ancestor {code parent : String} {row page : NavigationPage} (hrow : rows.lookup code = some row)
      (hinherits : row.inheritPermissions = true) (hparent : link row = some parent)
      (hnearest : Nearest parent page) : Nearest code page

/-- The permissions in effect: those of the nearest page that does not inherit, and none where
there is no such page. -/
def Effective (code : String) (result : PagePermissions) : Prop :=
  (∃ page, Nearest rows link code page ∧ result = page.own) ∨
    (∀ page, ¬Nearest rows link code page) ∧ result = (none, none)

end Nearest

/-- There is at most one nearest page. -/
theorem Nearest.unique {link : NavigationPage → Option String} {page' : NavigationPage}
    (h : Nearest rows link code page) (h' : Nearest rows link code page') : page = page' := by
  induction h with
  | self hrow hown =>
    cases h' with
    | self hrow' _ => exact Option.some.inj (hrow.symm.trans hrow')
    | ancestor hrow' hinherits _ _ =>
      rw [← Option.some.inj (hrow.symm.trans hrow'), hown] at hinherits
      cases hinherits
  | ancestor hrow hinherits hparent _ ih =>
    cases h' with
    | self hrow' hown =>
      rw [← Option.some.inj (hrow.symm.trans hrow'), hinherits] at hown
      cases hown
    | ancestor hrow' _ hparent' hrest =>
      rw [← Option.some.inj (hrow.symm.trans hrow'), hparent] at hparent'
      rw [← Option.some.inj hparent'] at hrest
      exact ih hrest

theorem Nearest.reaches (h : Nearest rows NavigationPage.parent code page) :
    Reaches (permissionWalk rows) code page.own := by
  induction h with
  | self hrow hown => exact .answer (by simp [permissionWalk, hrow, hown])
  | ancestor hrow hinherits hparent _ ih =>
    exact .next (by simp [permissionWalk, hrow, hinherits, hparent]) ih

theorem nearest_iff_of_next {parent : String} (h : permissionWalk rows code = .inr parent) :
    Nearest rows NavigationPage.parent code page ↔
      Nearest rows NavigationPage.parent parent page := by
  unfold permissionWalk at h
  split at h
  · cases h
  · rename_i row hrow
    split at h
    · rename_i hinherits
      split at h
      · cases h
      · rename_i parent' hparent
        obtain rfl := Sum.inr.inj h
        refine ⟨fun hnearest => ?_, fun hnearest => .ancestor hrow hinherits hparent hnearest⟩
        cases hnearest with
        | self hrow' hown =>
          rw [hrow] at hrow'
          rw [← Option.some.inj hrow', hinherits] at hown
          cases hown
        | ancestor hrow' _ hparent' hrest =>
          rw [hrow] at hrow'
          rw [← Option.some.inj hrow', hparent] at hparent'
          rwa [Option.some.inj hparent']
    · cases h

/-- An answer of the walk is that of the nearest page, or says that there is none. -/
theorem Effective.of_reaches (h : Reaches (permissionWalk rows) code result) :
    Effective rows NavigationPage.parent code result := by
  induction h with
  | @answer code result h =>
    by_cases hnearest : ∃ page, Nearest rows NavigationPage.parent code page
    · obtain ⟨page, hpage⟩ := hnearest
      exact .inl ⟨page, hpage, ((reaches_iff_of_answer h).mp hpage.reaches).symm⟩
    · push Not at hnearest
      refine .inr ⟨hnearest, ?_⟩
      unfold permissionWalk at h
      split at h
      · exact (Sum.inl.inj h).symm
      · rename_i row hrow
        split at h
        · split at h
          · exact (Sum.inl.inj h).symm
          · cases h
        · rename_i hown
          exact absurd (.self hrow (by simpa using hown)) (hnearest row)
  | next h _ ih =>
    unfold Effective
    simp only [nearest_iff_of_next h]
    exact ih

theorem Effective.of_result (h : Result (permissionWalk rows) (none, none) code result) :
    Effective rows NavigationPage.parent code result := by
  rcases h with hreaches | ⟨rfl, hnone⟩
  · exact .of_reaches hreaches
  · exact .inr ⟨fun page hpage => hnone page.own hpage.reaches, rfl⟩

/-- Whatever pages there are and in whatever order they are resolved with one cache, every page has
the permissions of the nearest page that does not inherit, where an empty code names no parent. -/
theorem resolved_effective (rows : PageTable) (codes : List String) :
    List.Forall₂ (Effective rows NavigationPage.parent) codes
      (resolveInOrder rows codes fun _ => none) :=
  (resolveInOrder_results (PermissionCache.sound_empty rows) codes).imp fun _ _ => Effective.of_result

/-- What a user is shown has the permissions in effect, of which he has the one to read. -/
theorem effective_of_mem_visiblePages {userPermissions : List String}
    {p : String × PagePermissions} (h : p ∈ visiblePages rows userPermissions) :
    Effective (Dict.assign rows) NavigationPage.parent p.1 p.2 ∧
      ∃ read ∈ p.2.1, read ∈ userPermissions := by
  obtain ⟨hzip, hread⟩ := List.mem_filter.mp h
  have hresults := resolveInOrder_results (PermissionCache.sound_empty (Dict.assign rows))
    (rows.map Prod.fst)
  have hresult := (List.forall₂_iff_zip.mp hresults).2 hzip
  obtain ⟨read, hsome, -, hmem⟩ := of_decide_eq_true hread
  exact ⟨.of_result hresult, read, hsome, hmem⟩

/-- A page that inherits from the page with an empty code. -/
def emptyParent : PageTable :=
  [("wms", ⟨some "", true, none, none⟩), ("", ⟨none, false, some "page.read", some "page.write"⟩)]

/-- It has no permissions although its parent has some. -/
theorem not_effective_emptyParent :
    ¬∀ (rows : PageTable) (codes : List String),
      List.Forall₂ (Effective rows NavigationPage.parentCode) codes
        (resolveInOrder rows codes fun _ => none) := by
  intro h
  have hwalk : permissionWalk emptyParent "wms" = .inl (none, none) := by decide
  have hrow : emptyParent.lookup "wms" = some ⟨some "", true, none, none⟩ := by decide
  have hparent : emptyParent.lookup "" =
      some ⟨none, false, some "page.read", some "page.write"⟩ := by decide
  have hnearest := @Nearest.ancestor _ NavigationPage.parentCode _ _ _ _ hrow rfl rfl (.self hparent rfl)
  have hresults := resolveInOrder_results (PermissionCache.sound_empty emptyParent) ["wms"]
  have heffective := h emptyParent ["wms"]
  generalize resolveInOrder emptyParent ["wms"] (fun _ => none) = results at hresults heffective
  cases hresults with
  | cons hresult _ =>
    cases heffective with
    | cons heffective _ =>
      rw [hresult.unique (.of_answer hwalk)] at heffective
      rcases heffective with ⟨page, hpage, hown⟩ | ⟨hnone, -⟩
      · rw [hpage.unique hnearest] at hown
        cases hown
      · exact hnone _ hnearest

end Wms.Users
