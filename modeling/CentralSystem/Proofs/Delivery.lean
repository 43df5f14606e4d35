import CentralSystem.Proofs.Sessions

namespace CentralSystem

namespace Errand

/-- Errands for one charge point whose commands are the same but for the clock. -/
def Same (e e' : Errand) : Prop := e.1 = e'.1 ∧ e.2.untimed = e'.2.untimed

theorem Same.symm {e e' : Errand} (h : e.Same e') : e'.Same e := ⟨h.1.symm, h.2.symm⟩

/-- A text is the Call for the command of an errand. -/
def Writes (e : Errand) (text : String) : Prop := ∃ uniqueId, text = e.2.encode uniqueId

end Errand

/-- Texts that write the same command, but for the clock and for the unique id, which every Call has
to itself. -/
def SameCall (text text' : String) : Prop :=
  ∃ (c c' : Command) (id id' : String), c.untimed = c'.untimed ∧ text = c.encode id ∧
    text' = c'.encode id'

theorem SameCall.of_writes {es es' : List Errand} (h : List.Forall₂ Errand.Same es es')
    {texts texts' : List String} (ht : List.Forall₂ Errand.Writes es texts)
    (ht' : List.Forall₂ Errand.Writes es' texts') : List.Forall₂ SameCall texts texts' := by
  induction h generalizing texts texts' with
  | nil =>
    cases ht
    cases ht'
    exact .nil
  | cons hsame _ ih =>
    cases ht with
    | cons hwrites hrest =>
      cases ht' with
      | cons hwrites' hrest' =>
        obtain ⟨id, rfl⟩ := hwrites
        obtain ⟨id', rfl⟩ := hwrites'
        exact .cons ⟨_, _, id, id', hsame.2, rfl, rfl⟩ (ih hrest hrest')

namespace Switchboard

variable {s s' s'' : Switchboard}

def routes (s : Switchboard) (id : Nat) (e : Errand) : Bool :=
  s.online.get? e.1 == some id && s.reaches e.1

theorem routes_of_face (ho : s'.online = s.online) (hf : ∀ id,
    (s'.connection? id).map Connection.face = (s.connection? id).map Connection.face) :
    s'.routes = s.routes := by
  funext id e
  rw [routes, routes, ho, reaches_of_face ho hf]

theorem Placed.eq_of_routes (hp : s.Placed) {e e' : Errand} {id : Nat}
    (h : s.routes id e = true) (h' : s.routes id e' = true) : e.1 = e'.1 := by
  have hown {e : Errand} (h : s.routes id e = true) :
      (s.connection? id).map (·.station) = some e.1 :=
    hp e.1 id (beq_iff_eq.1 (Bool.and_eq_true_iff.1 h).1)
  exact Option.some.inj ((hown h).symm.trans (hown h'))

/-- The Calls for these errands were queued in between, each where it goes. -/
structure Delivers (s s' : Switchboard) (es : List Errand) : Prop where
  outbox : ∀ id, ∃ texts, s'.outbox id = s.outbox id ++ texts ∧
    List.Forall₂ Errand.Writes (es.filter (s.routes id)) texts
  routes : s'.routes = s.routes

namespace Delivers

theorem refl (s : Switchboard) : s.Delivers s [] :=
  ⟨fun _ => ⟨[], (List.append_nil _).symm, .nil⟩, rfl⟩

theorem trans {es es' : List Errand} (h : s.Delivers s' es) (h' : s'.Delivers s'' es') :
    s.Delivers s'' (es ++ es') where
  outbox id := by
    obtain ⟨texts, he, hw⟩ := h.outbox id
    obtain ⟨texts', he', hw'⟩ := h'.outbox id
    rw [h.routes] at hw'
    refine ⟨texts ++ texts', by rw [he', he, List.append_assoc], ?_⟩
    rw [List.filter_append]
    exact List.rel_append hw hw'
  routes := h'.routes.trans h.routes

end Delivers

section Sound

variable (hs : s.Sound)
include hs

theorem delivers_give (e : Errand) : s.Delivers (s.give e) [e] := by
  have hstays (hr : s.reaches e.1 = false) (hg : s.give e = s) : s.Delivers (s.give e) [e] := by
    rw [hg]
    exact ⟨fun id => ⟨[], (List.append_nil _).symm, by simp [routes, hr]⟩, rfl⟩
  cases hc : s.session? e.1 with
  | none =>
    refine hstays ?_ ?_
    · rw [reaches, ← session?, hc]
      rfl
    · rw [give, (request_of_none e.2 hc).1]
      rfl
  | some c =>
    have hr : s.reaches e.1 = c.isOpen := by
      rw [reaches, ← session?, hc]
      rfl
    cases ho : c.isOpen with
    | false =>
      refine hstays (hr.trans ho) ?_
      have hconnection : s.connections.get? c.id = some c := connection?_of_session? hs hc
      rw [give, request, ← session?, hc]
      simp only [send, connection?, hconnection, ho]
      rfl
    | true =>
      have honline : s.online.get? e.1 = some c.id := by
        obtain ⟨id, hid, hcon⟩ := Option.bind_eq_some_iff.1 hc
        rw [hid, hs.id hcon]
      have hface (id : Nat) : ((s.sent c e.1 e.2).connection? id).map Connection.face =
          (s.connection? id).map Connection.face := by
        rw [connection?_sent e.2 hs hc, Option.map_map]
        rfl
      rw [give_of_request (request_of_open e.2 hs hc ho).1]
      refine ⟨fun id => ⟨_, outbox_sent e.2 hs hc id, ?_⟩, routes_of_face rfl hface⟩
      by_cases hid : id = c.id
      · subst hid
        have hroutes : s.routes c.id e = true := by simp [routes, honline, hr, ho]
        rw [if_pos rfl, List.filter_cons_of_pos hroutes]
        exact .cons ⟨_, rfl⟩ .nil
      · have hroutes : ¬ s.routes id e = true := by simp [routes, honline, Ne.symm hid]
        rw [if_neg hid, List.filter_cons_of_neg hroutes]
        exact .nil

theorem delivers_giveAll (es : List Errand) : s.Delivers (s.giveAll es) es := by
  induction es generalizing s with
  | nil => exact .refl s
  | cons e rest ih => exact (delivers_give hs e).trans (ih (sound_give hs e))

theorem giveAll_comm (hp : s.Placed) {es₁ es₁' es₂ es₂' : List Errand}
    (h₁ : List.Forall₂ Errand.Same es₁ es₁') (h₂ : List.Forall₂ Errand.Same es₂ es₂')
    (hne : ∀ e ∈ es₁, ∀ e' ∈ es₂, e.1 ≠ e'.1) (id : Nat) : ∃ texts texts',
      ((s.giveAll es₁).giveAll es₂').outbox id = s.outbox id ++ texts ∧
      ((s.giveAll es₂).giveAll es₁').outbox id = s.outbox id ++ texts' ∧
      List.Forall₂ SameCall texts texts' := by
  obtain ⟨texts, he, hw⟩ := (delivers_giveAll hs (es₁ ++ es₂')).outbox id
  obtain ⟨texts', he', hw'⟩ := (delivers_giveAll hs (es₂ ++ es₁')).outbox id
  rw [giveAll_append] at he he'
  refine ⟨texts, texts', he, he', SameCall.of_writes ?_ hw hw'⟩
  have hfilter {es es' : List Errand} (h : List.Forall₂ Errand.Same es es') :
      List.Forall₂ Errand.Same (es.filter (s.routes id)) (es'.filter (s.routes id)) :=
    List.rel_filter (fun e e' hsame => by simp only [routes, hsame.1]) h
  have hempty : es₁.filter (s.routes id) = [] ∨ es₂.filter (s.routes id) = [] := by
    by_contra hboth
    obtain ⟨hne₁, hne₂⟩ := not_or.1 hboth
    obtain ⟨e, he⟩ := List.exists_mem_of_ne_nil _ hne₁
    obtain ⟨e', he'⟩ := List.exists_mem_of_ne_nil _ hne₂
    obtain ⟨hmem, hroutes⟩ := List.mem_filter.1 he
    obtain ⟨hmem', hroutes'⟩ := List.mem_filter.1 he'
    exact hne e hmem e' hmem' (hp.eq_of_routes hroutes hroutes')
  have hfirst := hfilter h₁
  have hsecond := hfilter h₂
  rw [List.filter_append, List.filter_append]
  rcases hempty with hnil | hnil
  · rw [hnil] at hfirst ⊢
    rw [List.forall₂_nil_left_iff.1 hfirst, List.nil_append, List.append_nil]
    exact hsecond.flip.imp fun _ _ (hsame : Errand.Same _ _) => hsame.symm
  · rw [hnil] at hsecond ⊢
    rw [List.forall₂_nil_left_iff.1 hsecond, List.nil_append, List.append_nil]
    exact hfirst

end Sound

end Switchboard

end CentralSystem
