import CentralSystem.Proofs.Isolation

namespace CentralSystem

namespace Glance

variable {settings : Settings} {now : Timestamp} {station : String} {g : Glance} {e : Entry}

theorem mem_boot {r : Request.BootNotification} (h : e ∈ (g.boot settings now station r).2) :
    e = .enroll station ∨ ∃ cp, e = .see cp ∨ e = .amend cp := by
  have hentry (cp : ChargePoint) : ∃ cp', identification now cp r = .see cp' ∨
      identification now cp r = .amend cp' := by
    unfold identification
    dsimp only
    split
    · exact ⟨_, .inl rfl⟩
    · exact ⟨_, .inr rfl⟩
  unfold boot at h
  dsimp only at h
  split at h
  · obtain rfl := List.mem_singleton.1 h
    exact .inr (hentry _)
  · split at h
    · rcases List.mem_cons.1 h with rfl | h
      · exact .inl rfl
      · obtain rfl := List.mem_singleton.1 h
        exact .inr (hentry _)
    · cases h

theorem mem_provision {idTag : String} (h : e ∈ provision settings idTag) : e = .tag idTag := by
  unfold provision at h
  split at h
  · exact List.mem_singleton.1 h
  · cases h

theorem mem_authorize {r : Request.Authorize} (h : e ∈ (g.authorize settings r).2) :
    e = .tag r.idTag := by
  unfold authorize at h
  split at h
  · cases h
  · exact mem_provision h

theorem mem_start {r : Request.StartTransaction} (h : e ∈ (g.start settings station r).2) :
    e ∈ provision settings r.idTag ∨ (∃ s c, e = .put s c) ∨ (∃ t, e = .enter t) ∨
      ∃ id, e = .forget id := by
  have hfirst (h : e ∈ if g.connector.isSome then []
      else [Entry.put station { id := r.connectorId }]) : ∃ s c, e = .put s c := by
    split at h
    · cases h
    · exact ⟨_, _, List.mem_singleton.1 h⟩
  have hoccupy (c : Connector) (t : Transaction) (h : e ∈ occupation station c t) :
      (∃ s c, e = .put s c) ∨ (∃ t, e = .enter t) ∨ ∃ id, e = .forget id := by
    rcases List.mem_append.1 h with h | h
    · rcases List.mem_cons.1 h with rfl | h
      · exact .inr (.inl ⟨_, rfl⟩)
      · exact .inl ⟨_, _, List.mem_singleton.1 h⟩
    · split at h
      · exact .inr (.inr ⟨_, List.mem_singleton.1 h⟩)
      · cases h
  rcases start_cases settings station g r with hs | hs | hs
  · rw [hs] at h
    exact (List.mem_append.1 h).imp_right fun h => .inl (hfirst h)
  · rw [hs] at h
    refine (List.mem_append.1 h).imp_right fun h => ?_
    exact (List.mem_append.1 h).elim (fun h => .inl (hfirst h)) (hoccupy _ _)
  · rw [hs] at h
    exact (List.mem_append.1 h).imp_right fun h => .inr (.inl ⟨_, List.mem_singleton.1 h⟩)

theorem mem_stop {r : Request.StopTransaction} (h : e ∈ g.stop r) :
    (∃ s c, e = .put s c) ∨ (∃ t, e = .settle t) ∨ ∃ id, e = .forget id := by
  unfold stop at h
  split at h
  · cases h
  · split at h
    · exact .inr (.inr ⟨_, List.mem_singleton.1 h⟩)
    · rcases List.mem_append.1 h with h | h
      · obtain ⟨c, -, rfl⟩ := List.mem_map.1 h
        exact .inl ⟨_, _, rfl⟩
      · exact .inr (.inl ⟨_, List.mem_singleton.1 h⟩)

theorem mem_reportStatus {r : Request.StatusNotification} (h : e ∈ g.reportStatus now station r) :
    (∃ cp, e = .amend cp) ∨ (∃ s c, e = .put s c) ∨ ∃ id, e = .forget id := by
  unfold reportStatus at h
  split at h
  · obtain ⟨cp, -, rfl⟩ := List.mem_map.1 h
    exact .inl ⟨_, rfl⟩
  · rcases List.mem_cons.1 h with rfl | h
    · exact .inr (.inl ⟨_, _, rfl⟩)
    · obtain ⟨id, -, rfl⟩ := List.mem_map.1 h
      exact .inr (.inr ⟨_, rfl⟩)

end Glance

namespace Hub

variable {h : Hub}

def posts (h : Hub) (now : Timestamp) : HandlerStep → List Entry
  | .answer station r =>
    ((h.plant.ledger.glance h.settings station r).outcome h.settings now station r).2
  | _ => []

section Whole

variable (hw : h.plant.ledger.storage.broken = []) {p : Place} (hp : p.holdsConnectors = false)
include hw hp

theorem content_followUp (now : Timestamp) (station : String) (r : Request) :
    (h.followUp now station r).plant.ledger.content p = h.plant.ledger.content p := by
  rw [← Ledger.content_books, books_followUp hw now station r, Ledger.content_books]
  refine Ledger.content_postAll_of_not_mem (fun e he => ?_) _
  obtain ⟨_, -, a, -, rfl⟩ := Ledger.mem_limits he
  exact Ledger.not_mem_places_limit hp a.1.1 a.1.2 a.2

theorem content_balance (now : Timestamp) (station : String) :
    (h.balance now station).plant.ledger.content p = h.plant.ledger.content p := by
  cases ht : h.settings.tiers with
  | none => rw [balance_of_tiers_eq_none now ht]
  | some tiers =>
    have hbooks := (Ledger.books_of_quiet (quiet_balance hw ht now station)).trans
      (Plant.books_shared hw tiers station)
    rw [← Ledger.content_books, hbooks, Ledger.content_books]
    refine Ledger.content_postAll_of_not_mem (fun e he => ?_) _
    unfold Plant.limits at he
    cases hl : h.plant.ledger.database.locationOf? station with
    | none => simp [hl] at he
    | some location =>
      rw [hl] at he
      obtain ⟨a, -, rfl⟩ := List.mem_map.1 he
      exact Ledger.not_mem_places_limit hp a.1.1 a.1.2 a.2

/-- A place without connectors becomes what the answers make of it. -/
theorem content_handlerStep (hk : h.plant.ledger.Keyed) (now : Timestamp) (w : HandlerStep) :
    (h.handlerStep now w).2.plant.ledger.content p =
      Entry.changeAll (h.posts now w) p (h.plant.ledger.content p) := by
  cases w with
  | answer station r =>
    have hcomes : Ledger.ComesTo h.plant.ledger
        (h.plant.ledger.answer h.settings now station r) _ :=
      Ledger.answer_eq now station hw hk r
    refine (Ledger.content_books _ p).symm.trans ((congrArg (·.content p) hcomes.2).trans ?_)
    exact (Ledger.content_books _ p).trans (Ledger.content_postAll ..)
  | followUp station r => exact content_followUp hw hp now station r
  | balance station => exact content_balance hw hp now station

end Whole

end Hub

end CentralSystem
