import CtrlRecovery.Types

/-!
# Roles and tenants

What the roles of a tenant's users are permitted to do, and who owns a resource. No role may mark a
recovery.
-/

namespace CtrlRecovery

/-! ### Roles -/

inductive UserRole | viewer | analyst | operator | admin | owner
  deriving DecidableEq, Repr

/-- The text of a role, as the columns and tokens hold it. -/
def UserRole.text : UserRole → String
  | .viewer   => "Viewer"
  | .analyst  => "Analyst"
  | .operator => "Operator"
  | .admin    => "Admin"
  | .owner    => "Owner"

structure RolePermissions where
  canReadData : Bool
  canTriggerRuns : Bool
  canReviewDrafts : Bool
  canConfigureIntegrations : Bool
  canManageApiKeys : Bool
  canRotateOwnerCredentials : Bool
  canModifySafetyCeilings : Bool
  canMarkProviderRecovery : Bool
  deriving DecidableEq, Repr

namespace RbacService

def ROLE_PERMISSIONS : UserRole → RolePermissions
  | .viewer   =>
    { canReadData := true
      canTriggerRuns := false
      canReviewDrafts := false
      canConfigureIntegrations := false
      canManageApiKeys := false
      canRotateOwnerCredentials := false
      canModifySafetyCeilings := false
      canMarkProviderRecovery := false }
  | .analyst  =>
    { canReadData := true
      canTriggerRuns := false
      canReviewDrafts := true
      canConfigureIntegrations := false
      canManageApiKeys := false
      canRotateOwnerCredentials := false
      canModifySafetyCeilings := false
      canMarkProviderRecovery := false }
  | .operator =>
    { canReadData := true
      canTriggerRuns := true
      canReviewDrafts := true
      canConfigureIntegrations := false
      canManageApiKeys := true
      canRotateOwnerCredentials := false
      canModifySafetyCeilings := false
      canMarkProviderRecovery := false }
  | .admin    =>
    { canReadData := true
      canTriggerRuns := true
      canReviewDrafts := true
      canConfigureIntegrations := true
      canManageApiKeys := true
      canRotateOwnerCredentials := true
      canModifySafetyCeilings := false
      canMarkProviderRecovery := false }
  | .owner    =>
    { canReadData := true
      canTriggerRuns := true
      canReviewDrafts := true
      canConfigureIntegrations := true
      canManageApiKeys := true
      canRotateOwnerCredentials := true
      canModifySafetyCeilings := true
      canMarkProviderRecovery := false }

def hasPermission (role : UserRole) (permission : RolePermissions → Bool) : Bool :=
  permission (ROLE_PERMISSIONS role)

/-- No role has the permission to mark a recovery. -/
theorem not_hasPermission_canMarkProviderRecovery (role : UserRole) :
    hasPermission role (·.canMarkProviderRecovery) = false := by
  cases role <;> rfl

end RbacService

/-! ### Tenants -/

/-- What an authenticated request carries. -/
structure TenantContext where
  tenantId : String
  environment : Environment
  role : Option UserRole
  deriving DecidableEq, Repr

namespace TenancyEnforcer

/-- The check that a resource belongs to the authenticated tenant. -/
def assertTenantOwnership (authenticatedTenantId resourceTenantId resourceId : String) :
    Except String Unit :=
  if authenticatedTenantId = "" ∨ authenticatedTenantId ≠ resourceTenantId then
    .error ("Tenant Isolation Violation: Tenant '" ++ authenticatedTenantId ++
      "' cannot access resource '" ++ resourceId ++ "' owned by '" ++ resourceTenantId ++
      "'. Access Denied.")
  else .ok ()

lemma eq_of_assertTenantOwnership {authenticatedTenantId resourceTenantId resourceId : String}
    (h : assertTenantOwnership authenticatedTenantId resourceTenantId resourceId = .ok ()) :
    resourceTenantId = authenticatedTenantId := by
  rw [assertTenantOwnership] at h
  split_ifs at h with hforeign
  rw [not_or, not_not] at hforeign
  exact hforeign.2.symm

end TenancyEnforcer

end CtrlRecovery
