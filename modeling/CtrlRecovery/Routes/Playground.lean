import CtrlRecovery.Db.OpportunityRepository
import CtrlRecovery.Security.Tenancy
import CtrlRecovery.Security.WebhookValidator

/-!
# The playground's settlement

`POST /v1/playground/reconcile-link` marks an opportunity as recovered without asking the provider.
Visitors without a token are let in as viewers of the default tenant, and the route looks neither at
the role of its caller nor at the tenant of the opportunity.
-/

namespace CtrlRecovery

namespace Playground

/-- Who calls a route: a visitor without a bearer token, or the bearer of one, with what the
tenancy enforcer makes of it. -/
inductive Caller
  | visitor
  | bearer (checked : Except WebhookValidator.Rejection TenantContext)

def authenticatePlaygroundTenant : Caller → Except WebhookValidator.Rejection TenantContext
  | .visitor        =>
    .ok { tenantId := "tenant_system_default", environment := .test, role := some .viewer }
  | .bearer checked => checked

structure ReconcileLinkResponse where
  opportunityId : String
  ledgerEntryId : String
  amountRecoveredDisplay : String
  status : String
  reconciledAt : Timestamp
  deriving DecidableEq, Repr

/-- The audit entry of a simulated settlement. -/
def settlementEntry (opp : RecoveryOpportunity) (entryId : String) (now : Timestamp) :
    LedgerEntry where
  id := entryId
  opportunityId := opp.id
  eventType := .recovered
  amountPaise := opp.amountPaise
  timestamp := now

/-- `POST /v1/playground/reconcile-link`. -/
def reconcileLink (db : Db) (caller : Caller) (opportunityId : Option String) (entryId : String)
    (now : Timestamp) : Except WebhookValidator.Rejection ReconcileLinkResponse × Db :=
  match authenticatePlaygroundTenant caller with
  | .error rejection => (.error rejection, db)
  | .ok _            =>
    match opportunityId.filter (· ≠ "") with
    | none    => (.error ⟨400, "Missing opportunity_id"⟩, db)
    | some id =>
      match db.getOpportunityById id with
      | none     => (.error ⟨404, "Opportunity not found"⟩, db)
      | some opp =>
        (.ok
          { opportunityId := opp.id
            ledgerEntryId := entryId
            amountRecoveredDisplay := "₹" ++ Js.rupees opp.amountPaise
            status := "recovered"
            reconciledAt := now },
          (db.updateStatus id .recovered).insertLedgerEntry (settlementEntry opp entryId now))

/-- A call changes nothing, or is let in and marks the opportunity that it names. -/
lemma reconcileLink_snd (db : Db) (caller : Caller) (opportunityId : Option String)
    (entryId : String) (now : Timestamp) :
    (reconcileLink db caller opportunityId entryId now).2 = db ∨
      ∃ context id opp, authenticatePlaygroundTenant caller = .ok context ∧
        opportunityId = some id ∧ db.getOpportunityById id = some opp ∧
        (reconcileLink db caller opportunityId entryId now).2 =
          (db.updateStatus id .recovered).insertLedgerEntry (settlementEntry opp entryId now) := by
  rw [reconcileLink]
  split
  · exact .inl rfl
  next context hcontext =>
    split
    · exact .inl rfl
    next id hid =>
      split
      · exact .inl rfl
      next opp hopp =>
        exact .inr ⟨context, id, opp, hcontext, (Option.filter_eq_some_iff.mp hid).1, hopp, rfl⟩

/-- The route does not look at who its caller is, once the caller is let in. -/
theorem reconcileLink_congr_caller (db : Db) {caller caller' : Caller}
    {context context' : TenantContext} (h : authenticatePlaygroundTenant caller = .ok context)
    (h' : authenticatePlaygroundTenant caller' = .ok context') (opportunityId : Option String)
    (entryId : String) (now : Timestamp) :
    reconcileLink db caller opportunityId entryId now =
      reconcileLink db caller' opportunityId entryId now := by
  rw [reconcileLink, h, reconcileLink, h']

end Playground

end CtrlRecovery
