import CentralSystem.Proofs.Mirror
import CentralSystem.Proofs.Ledger.Connectors

namespace CentralSystem

def Response.refuses : Response → Bool
  | .bootNotification _ _ status => status == .rejected
  | .startTransaction info _ => info.status == .concurrentTx
  | _ => false

namespace Ledger

variable (settings : Settings) (now : Timestamp) (station : String) (l : Ledger)

/-- Whether a request that uses a tag puts it on record. -/
def registersTag (idTag : String) : Bool :=
  settings.autoRegisterTags && !idTag.isEmpty && !l.database.tags.contains idTag &&
    decide (l.storage.Works .getUserTag) && decide (l.storage.Works .addUserTag)

/-- The database once the tag of a request is looked up. -/
def tagged (idTag : String) : Database :=
  if l.registersTag settings idTag then l.database.putTag (.onFirstUse idTag) else l.database

theorem tagged_of_not_registersTag {idTag : String} (h : l.registersTag settings idTag = false) :
    l.quiet.setDatabase (l.tagged settings idTag) = l.quiet := by
  rw [tagged, h]
  rfl

theorem quiet_resolveTag (idTag : String) : (l.resolveTag settings idTag).2.quiet =
    l.quiet.setDatabase (l.tagged settings idTag) := by
  unfold resolveTag
  split
  · next he => exact (tagged_of_not_registersTag settings l (by simp [registersTag, he])).symm
  · next he =>
    by_cases hget : l.storage.Works .getUserTag
    · rw [Storage.tag?, Storage.attempt_of_works hget]
      cases ht : l.storage.database.tags.get? idTag with
      | some tag =>
        have hknown : l.registersTag settings idTag = false := by
          simp [registersTag, Table.contains, database, ht]
        exact (tagged_of_not_registersTag settings l hknown).symm
      | none =>
        cases hauto : settings.autoRegisterTags with
        | false =>
          exact (tagged_of_not_registersTag settings l (by simp [registersTag, hauto])).symm
        | true =>
          by_cases hadd : l.storage.Works .addUserTag
          · have hnew : l.registersTag settings idTag = true := by
              simp [registersTag, Table.contains, database, hauto, he, ht, hget, hadd]
            simp only [↓reduceIte, Storage.addTag, Storage.write, Storage.attempt_of_works hadd,
              tagged, hnew]
            rfl
          · have hlost : l.registersTag settings idTag = false := by simp [registersTag, hadd]
            simp only [↓reduceIte, Storage.addTag, Storage.write,
              Storage.attempt_of_not_works hadd, tagged_of_not_registersTag settings l hlost]
            rfl
    · rw [Storage.tag?, Storage.attempt_of_not_works hget]
      exact (tagged_of_not_registersTag settings l (by simp [registersTag, hget])).symm

theorem quiet_start_of_refuses (r : Request.StartTransaction)
    (h : (l.start settings station r).1.refuses = true) :
    (l.start settings station r).2.quiet = l.quiet.setDatabase (l.tagged settings r.idTag) := by
  rw [← quiet_resolveTag]
  unfold start at h ⊢
  generalize l.resolveTag settings r.idTag = resolved at h ⊢
  obtain ⟨tag, m⟩ := resolved
  dsimp only at h ⊢
  cases hk : m.registry.knows station with
  | false =>
    rw [hk] at h
    cases h
  | true =>
    simp only [hk, ↓reduceIte] at h ⊢
    cases hc : m.registry.connector? station r.connectorId with
    | none =>
      simp only [provideConnector, hc] at h
      cases h
    | some c =>
      simp only [provideConnector, hc] at h ⊢
      cases ha : c.isActive with
      | false =>
        rw [ha] at h
        cases h
      | true =>
        rw [ha] at h
        cases hp : settings.busyPolicy with
        | accept =>
          rw [hp] at h
          cases h
        | reject => rfl

theorem quiet_boot_of_refuses (r : Request.BootNotification)
    (h : (l.boot settings now station r).1.refuses = true) :
    (l.boot settings now station r).2.quiet = l.quiet := by
  unfold boot at h ⊢
  dsimp only at h ⊢
  generalize hm : (if settings.autoRegisterChargePoints && !l.registry.knows station then
    l.enroll station else l) = m at h ⊢
  cases hcp : m.registry.chargePoint? station with
  | some cp =>
    rw [hcp] at h
    cases h
  | none =>
    split at hm
    · next hnew =>
      have hunknown : l.registry.knows station = false := by simp_all
      have htaken : m.registry.chargePoint? station = some { id := station } := by
        rw [← hm, enroll, Registry.chargePoint?_register, if_pos rfl]
        rwa [registry_write]
      rw [htaken] at hcp
      cases hcp
    · exact hm ▸ rfl

/-- A request that is refused leaves all as it was, but for the tag of a start. -/
theorem quiet_answer_of_refuses (r : Request)
    (h : (l.answer settings now station r).1.refuses = true) :
    (l.answer settings now station r).2.quiet = l.quiet.setDatabase (match r with
      | .startTransaction r => l.tagged settings r.idTag
      | _ => l.database) := by
  cases r with
  | startTransaction r => exact quiet_start_of_refuses settings station l r h
  | bootNotification r => exact quiet_boot_of_refuses settings now station l r h
  | stopTransaction r =>
    rw [answer, stop_fst] at h
    cases h
  | _ => cases h

end Ledger

def Settings.strictDepot : Settings := { Hub.depot.settings with busyPolicy := .reject }

def Request.StartTransaction.visit : Request.StartTransaction where
  connectorId := 1
  idTag := "visitor"
  meterStart := 0
  reservationId := none
  timestamp := .epoch

namespace Ledger

theorem quiet_answer_of_refuses_depot :
    (Ledger.depot.answer .strictDepot .epoch "north" (.startTransaction .visit)).2.quiet =
      Ledger.depot.quiet.setDatabase (Database.depot.putTag (.onFirstUse "visitor")) := by
  have hrefused : (Ledger.depot.answer .strictDepot .epoch "north"
      (.startTransaction .visit)).1.refuses = true := by decide +kernel
  have htagged : Ledger.depot.tagged .strictDepot "visitor" =
      Database.depot.putTag (.onFirstUse "visitor") := by decide +kernel
  exact htagged ▸ quiet_answer_of_refuses .strictDepot .epoch "north" .depot _ hrefused

/-- A start is refused because its connector is busy, and its tag is on record all the same. -/
theorem refused_start_registers_tag :
    let answer := Ledger.depot.answer .strictDepot .epoch "north" (.startTransaction .visit)
    answer.1.refuses = true ∧ Ledger.depot.database.tags.get? "visitor" = none ∧
      answer.2.database.tags.get? "visitor" = some (.onFirstUse "visitor") := by
  decide +kernel

end Ledger

end CentralSystem
