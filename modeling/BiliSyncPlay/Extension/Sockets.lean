import BiliSyncPlay.Extension.Moves

/-!
# Probes and sockets

What every event keeps: one probe at a time can still open a socket, and no socket but the current
one is live.
-/

namespace BiliSyncPlay.Connection

open Json Protocol

/-! ## What the moves keep -/

structure Linked (P : Platform) (l : Link) : Prop where
  fresh : ∀ p, l.probeCount ≤ p → l.probes p = none
  probing : ∀ p, l.connectProbe = some p →
    ∃ probe, l.probes p = some probe ∧ probe.epoch = l.connectEpoch
  only : ∀ p probe, l.probes p = some probe → probe.epoch = l.connectEpoch →
    l.connectProbe = some p
  past : ∀ p probe, l.probes p = some probe → probe.epoch ≤ l.connectEpoch
  standing : ∀ p probe, l.probes p = some probe → probe.epoch = l.connectEpoch →
    probe.teardowns = l.teardowns
  generations : ∀ g, l.socketGeneration < g → l.sockets g = none
  current : ∀ g, l.socket = some g → (l.sockets g).isSome
  latest : ∀ g, l.socket = some g → g = l.socketGeneration
  live : ∀ g socket, l.sockets g = some socket → socket.isLive = true → l.socket = some g
  alive : ∀ g socket, l.sockets g = some socket → socket.isLive = true → socket.closed = false
  waiting : l.connectProbe.isSome = true → l.isLive = false
  settled : trim l.serverUrl ≠ [] ∨ l.serverUrl = P.defaultServerUrl

namespace Linked

variable {P : Platform} {l m : Link}

theorem begins (linked : Linked P l) (dead : l.isLive = false) (idle : l.connectProbe = none)
    (serverUrl : JsString) : Linked P (l.begin serverUrl) := by
  have held (p : Nat) : (l.begin serverUrl).probes p =
      if p = l.probeCount then
        some { serverUrl, epoch := l.connectEpoch, teardowns := l.teardowns }
      else l.probes p := Function.update_apply ..
  refine {
    generations := linked.generations, current := linked.current, latest := linked.latest
    live := linked.live, alive := linked.alive, settled := linked.settled
    waiting := fun _ => dead, fresh := ?_, probing := ?_, only := ?_, past := ?_, standing := ?_ }
  · intro p later
    have bound : l.probeCount + 1 ≤ p := later
    rw [held, if_neg (by omega)]
    exact linked.fresh p (by omega)
  · intro p probing
    obtain rfl : l.probeCount = p := Option.some.inj probing
    exact ⟨_, by rw [held, if_pos rfl], rfl⟩
  · intro p probe is_probe current
    rw [held] at is_probe
    split at is_probe
    · next same => exact congrArg some same.symm
    · rw [linked.only p probe is_probe current] at idle
      cases idle
  · intro p probe is_probe
    rw [held] at is_probe
    split at is_probe
    · cases is_probe
      exact Nat.le_refl _
    · exact linked.past p probe is_probe
  · intro p probe is_probe current
    rw [held] at is_probe
    split at is_probe
    · cases is_probe
      rfl
    · exact linked.standing p probe is_probe current

theorem advances (linked : Linked P l) {id : Nat} {probe : Probe} (held : l.probes id = some probe)
    (stage : Stage) : Linked P (l.setProbe id { probe with stage }) := by
  have at_id (p : Nat) : (l.setProbe id { probe with stage }).probes p =
      if p = id then some { probe with stage } else l.probes p := Function.update_apply ..
  -- A probe is, but for its stage, the one that it was.
  have was (p : Nat) (q : Probe)
      (is_q : (l.setProbe id { probe with stage }).probes p = some q) :
      ∃ r, l.probes p = some r ∧ r.epoch = q.epoch ∧ r.teardowns = q.teardowns := by
    rw [at_id] at is_q
    split at is_q
    · next same =>
      cases is_q
      exact ⟨probe, by rw [same, held], rfl, rfl⟩
    · exact ⟨q, is_q, rfl, rfl⟩
  refine {
    generations := linked.generations, current := linked.current, latest := linked.latest
    live := linked.live, alive := linked.alive, settled := linked.settled
    waiting := linked.waiting, fresh := ?_, probing := ?_, only := ?_, past := ?_, standing := ?_ }
  · intro p later
    rw [at_id]
    split
    · next same =>
      have absent := linked.fresh p later
      rw [same, held] at absent
      cases absent
    · exact linked.fresh p later
  · intro p probing
    obtain ⟨r, is_r, epoch⟩ := linked.probing p probing
    rw [at_id]
    split
    · next same =>
      rw [same, held] at is_r
      cases is_r
      exact ⟨_, rfl, epoch⟩
    · exact ⟨r, is_r, epoch⟩
  · intro p q is_q current
    obtain ⟨r, is_r, epoch, -⟩ := was p q is_q
    exact linked.only p r is_r (epoch.trans current)
  · intro p q is_q
    obtain ⟨r, is_r, epoch, -⟩ := was p q is_q
    exact epoch ▸ linked.past p r is_r
  · intro p q is_q current
    obtain ⟨r, is_r, epoch, teardowns⟩ := was p q is_q
    rw [← teardowns]
    exact linked.standing p r is_r (epoch.trans current)

/-- What is left of the probes when one of them is over. -/
theorem of_endProbe {id p : Nat} {probe : Probe} (held : (l.endProbe id).probes p = some probe) :
    p ≠ id ∧ l.probes p = some probe := by
  have at_id : (l.endProbe id).probes p = if p = id then none else l.probes p :=
    Function.update_apply ..
  rw [at_id] at held
  split at held
  · cases held
  · next other => exact ⟨other, held⟩

theorem connectProbe_endProbe {id p : Nat} (held : (l.endProbe id).connectProbe = some p) :
    p ≠ id ∧ l.connectProbe = some p := by
  have at_id : (l.endProbe id).connectProbe =
      if l.connectProbe = some id then none else l.connectProbe := rfl
  rw [at_id] at held
  split at held
  · cases held
  · next other => exact ⟨fun same => other (by rw [held, same]), held⟩

section
variable (linked : Linked P l)
include linked

theorem ends (id : Nat) : Linked P (l.endProbe id) := by
  refine {
    generations := linked.generations, current := linked.current, latest := linked.latest
    live := linked.live, alive := linked.alive, settled := linked.settled
    fresh := ?_, probing := ?_, only := ?_, waiting := ?_
    past := fun p probe held => linked.past p probe (of_endProbe held).2
    standing := fun p probe held => linked.standing p probe (of_endProbe held).2 }
  · intro p later
    by_contra held
    obtain ⟨probe, is_probe⟩ := Option.ne_none_iff_exists'.mp held
    have absent := linked.fresh p later
    rw [(of_endProbe is_probe).2] at absent
    cases absent
  · intro p held
    obtain ⟨other, probing⟩ := connectProbe_endProbe held
    obtain ⟨probe, is_probe, epoch⟩ := linked.probing p probing
    have still : (l.endProbe id).probes p = l.probes p := Function.update_of_ne other ..
    exact ⟨probe, still.trans is_probe, epoch⟩
  · intro p probe held current
    obtain ⟨other, is_probe⟩ := of_endProbe held
    have probing := linked.only p probe is_probe current
    have still : (l.endProbe id).connectProbe = l.connectProbe := by
      refine if_neg fun same => other ?_
      rw [probing] at same
      exact Option.some.inj same
    rw [still, probing]
  · intro probing
    obtain ⟨p, held⟩ := Option.isSome_iff_exists.mp probing
    exact linked.waiting (by rw [(connectProbe_endProbe held).2]; rfl)

theorem fades {generation : Nat} {socket faded : Socket} (held : l.sockets generation = some socket)
    (stays : faded.isLive = true → socket.isLive = true ∧ faded.closed = socket.closed) :
    Linked P (l.setSocket generation faded) := by
  have at_g (g : Nat) : (l.setSocket generation faded).sockets g =
      if g = generation then some faded else l.sockets g := Function.update_apply ..
  refine {
    fresh := linked.fresh, probing := linked.probing, only := linked.only, past := linked.past
    standing := linked.standing, settled := linked.settled, latest := linked.latest
    generations := ?_, current := ?_
    live := ?_, alive := ?_, waiting := ?_ }
  · intro g later
    rw [at_g]
    split
    · next same =>
      have absent := linked.generations g later
      rw [same, held] at absent
      cases absent
    · exact linked.generations g later
  · intro g is_current
    rw [at_g]
    split
    · rfl
    · exact linked.current g is_current
  · intro g other is_other is_live
    rw [at_g] at is_other
    split at is_other
    · next same =>
      cases is_other
      exact linked.live g socket (by rw [same, held]) (stays is_live).1
    · exact linked.live g other is_other is_live
  · intro g other is_other is_live
    rw [at_g] at is_other
    split at is_other
    · cases is_other
      obtain ⟨was_live, same⟩ := stays is_live
      rw [same]
      exact linked.alive generation socket held was_live
    · exact linked.alive g other is_other is_live
  · intro probing
    have dead := linked.waiting probing
    unfold Link.isLive at dead ⊢
    have same : (l.setSocket generation faded).socket = l.socket := rfl
    rw [same]
    cases is_current : l.socket with
    | none => rfl
    | some g =>
      rw [is_current] at dead
      rw [Option.bind_some, at_g]
      split
      · next is_g =>
        rw [Option.bind_some, is_g, held] at dead
        exact Bool.eq_false_of_not_eq_true fun is_live =>
          Bool.eq_false_iff.mp dead (stays is_live).1
      · exact dead

theorem drops (dead : l.isLive = false) :
    Linked P { l with socket := none } where
  fresh := linked.fresh
  probing := linked.probing
  only := linked.only
  past := linked.past
  standing := linked.standing
  settled := linked.settled
  generations := linked.generations
  alive := linked.alive
  current := fun g absent => by cases absent
  latest := fun g absent => by cases absent
  waiting := fun _ => rfl
  live := fun g socket held is_live => by
    have is_current := linked.live g socket held is_live
    unfold Link.isLive at dead
    rw [is_current, Option.bind_some, held, Option.any_some, is_live] at dead
    cases dead

theorem tearsDown : Linked P l.tearDown := by
  -- No probe is of an epoch that begins now.
  have passed (p : Nat) (probe : Probe) (held : l.probes p = some probe) :
      probe.epoch ≠ l.connectEpoch + 1 := by
    have bound := linked.past p probe held
    omega
  exact {
    fresh := linked.fresh, settled := linked.settled, generations := linked.generations
    latest := linked.latest, current := linked.current, live := linked.live, alive := linked.alive
    probing := fun p absent => by cases absent
    waiting := fun absent => by cases absent
    past := fun p probe held => Nat.le_succ_of_le (linked.past p probe held)
    only := fun p probe held current => absurd current (passed p probe held)
    standing := fun p probe held current => absurd current (passed p probe held) }

theorem move (move : Move P l m) : Linked P m := by
  cases move with
  | begins dead idle _ serverUrl => exact linked.begins dead idle serverUrl
  | advances id probe held stage => exact linked.advances held stage
  | ends id probe held => exact linked.ends id
  | fades generation socket faded held stays same =>
    exact linked.fades held fun live => ⟨stays live, same⟩
  | drops dead => exact linked.drops dead
  | tearsDown => exact linked.tearsDown

theorem moves (moved : Moves P l m) : Linked P m := by
  induction moved with
  | refl => exact linked
  | tail _ last ih => exact ih.move last

theorem creates {id : Nat} {probe : Probe} (held : l.probes id = some probe)
    (current : probe.epoch = l.connectEpoch) : Linked P ((l.create id probe).endProbe id) := by
  have probing := linked.only id probe held current
  have dead := linked.waiting (by rw [probing]; rfl)
  have ended := linked.ends id
  have idle : ((l.create id probe).endProbe id).connectProbe = none := if_pos probing
  have at_g (g : Nat) : ((l.create id probe).endProbe id).sockets g =
      if g = l.socketGeneration + 1 then some { url := probe.serverUrl, probe := id }
      else l.sockets g := Function.update_apply ..
  refine {
    fresh := ended.fresh, probing := ended.probing, only := ended.only, past := ended.past
    standing := ended.standing, settled := linked.settled
    latest := fun g is_current => (Option.some.inj is_current).symm, generations := ?_, current := ?_
    live := ?_, alive := ?_, waiting := ?_ }
  · intro g later
    have bound : l.socketGeneration + 1 < g := later
    rw [at_g, if_neg (by omega)]
    exact linked.generations g (by omega)
  · intro g is_current
    obtain rfl : l.socketGeneration + 1 = g := Option.some.inj is_current
    rw [at_g, if_pos rfl]
    rfl
  · intro g socket is_socket is_live
    rw [at_g] at is_socket
    split at is_socket
    · next same => exact congrArg some same.symm
    · have was := linked.live g socket is_socket is_live
      unfold Link.isLive at dead
      rw [was, Option.bind_some, is_socket, Option.any_some, is_live] at dead
      cases dead
  · intro g socket is_socket is_live
    rw [at_g] at is_socket
    split at is_socket
    · cases is_socket
      rfl
    · exact linked.alive g socket is_socket is_live
  · intro still
    rw [idle] at still
    cases still

theorem redirects {serverUrl : JsString}
    (settled : trim serverUrl ≠ [] ∨ serverUrl = P.defaultServerUrl) :
    Linked P { l with serverUrl } :=
  { linked with settled }

end

theorem changes {s t : Worker} {event : Event} (linked : Linked P s.link)
    (changes : s.Changes P t event) : Linked P t.link := by
  cases changes with
  | moves _ moved => exact linked.moves moved
  | closes g socket held _ _ moved =>
    exact (linked.fades held fun live => by cases live).moves moved
  | creates id probe held current _ created =>
    rw [created]
    exact linked.creates held current
  | redirects _ serverUrl valid _ redirected =>
    rw [redirected]
    exact linked.redirects (settled_of_validate valid)

end Linked

/-! ## Runs -/

section
variable {P : Platform} {s t : Worker}

theorem take_of_exec {now : Rat} {event : Event} (step : s.exec P now event = some t) :
    (s.atTime now).take P event = some t := by
  unfold Worker.exec at step
  split at step
  · cases step
  · split at step
    · cases step
    · exact step

theorem changes_exec {now : Rat} {event : Event} (step : s.exec P now event = some t) :
    (s.atTime now).Changes P t event := Worker.changes_take (take_of_exec step)

theorem linked_empty (sockets : s.sockets = fun _ => none) (probes : s.probes = fun _ => none)
    (socket : s.connection.socket = none) (idle : s.connection.connectProbe = none)
    (settled : trim s.connection.serverUrl ≠ [] ∨ s.connection.serverUrl = P.defaultServerUrl) :
    Linked P s.link where
  fresh := fun _ _ => congrFun probes _
  probing := fun p held => by cases idle.symm.trans held
  only := fun p probe held => by cases (congrFun probes p).symm.trans held
  past := fun p probe held => by cases (congrFun probes p).symm.trans held
  standing := fun p probe held => by cases (congrFun probes p).symm.trans held
  generations := fun _ _ => congrFun sockets _
  current := fun g held => by cases socket.symm.trans held
  latest := fun g held => by cases socket.symm.trans held
  live := fun g held is_held => by cases (congrFun sockets g).symm.trans is_held
  alive := fun g held is_held => by cases (congrFun sockets g).symm.trans is_held
  waiting := fun probing => by
    have absent : s.link.connectProbe = none := idle
    rw [absent] at probing
    cases probing
  settled := settled

/-- The background starts with no probe and no socket, and may begin to connect. -/
theorem moves_bootstrap (persisted : PersistedSnapshot) :
    ∃ l, Linked P l ∧ (∀ p, l.probes p = none) ∧
      Moves P l (bootstrapBackground P persisted).link := by
  have settled : trim (resolvePersistedServerUrl P persisted.serverUrl).1 ≠ [] ∨
      (resolvePersistedServerUrl P persisted.serverUrl).1 = P.defaultServerUrl := by
    unfold resolvePersistedServerUrl
    dsimp only
    split
    · exact .inr rfl
    · next filled =>
      split
      · next normalizedUrl valid => exact settled_of_validate valid
      · exact .inl (by rwa [trim_trim])
  unfold bootstrapBackground
  dsimp only
  split
  · exact ⟨_, linked_empty rfl rfl rfl rfl settled, fun _ => rfl, Worker.moves_connect _⟩
  · exact ⟨_, linked_empty rfl rfl rfl rfl settled, fun _ => rfl, .refl⟩

theorem linked_bootstrap (persisted : PersistedSnapshot) :
    Linked P (bootstrapBackground P persisted).link := by
  obtain ⟨l, linked, -, moved⟩ := moves_bootstrap (P := P) persisted
  exact linked.moves moved

theorem Linked.exec (linked : Linked P s.link) {now : Rat} {event : Event}
    (step : s.exec P now event = some t) : Linked P t.link :=
  Linked.changes (s := s.atTime now) linked (changes_exec step)

end
end BiliSyncPlay.Connection
