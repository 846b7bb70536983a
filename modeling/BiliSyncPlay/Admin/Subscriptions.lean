import BiliSyncPlay.Admin.BusSteps

/-!
# The bus's subscriptions follow its registries

What is subscribed once every command is executed is set against the desired set, in every state
that owes no reset.
-/

namespace BiliSyncPlay.CommandBus

open Json RedisRoomStore Protocol AdminCommands

/-! ## Connections -/

theorem eventually_queued (connection : Connection) (number : Nat) (operation : Operation) :
    ({ connection with queue := connection.queue ++ [(number, operation)] } :
      Connection).eventually = operation.apply connection.eventually := by
  simp [Connection.eventually]

variable {b t : Bus}

/-! ## The invariant -/

/-- But for a channel on its way out, what is subscribed is desired, and nothing that is desired is
missing, unless it is known that the connection has to be rebuilt. -/
structure Core (leaving : Channel → Prop) (b : Bus) : Prop where
  keys : (b.handlers.map Prod.fst).Nodup
  extra : b.subscriberResetOwed = false → b.subscriberResetInProgress = false →
    ∀ c ∈ b.connection.eventually, c ∈ b.desired ∨ leaving c
  missing : b.subscriberResetOwed = false → b.subscriberResetInProgress = false →
    b.connection.reconnecting = false → b.subscriberGeneration ∉ b.restoreWaits →
    ∀ c ∈ b.desired, c ∈ b.connection.eventually
  resets : b.subscriberResetInProgress = true → b.subscriberResetOwed = true ∧
    (b.connection.reconnecting = true ∨ b.subscriberGeneration ∈ b.resetWaits)
  restores : b.subscriberRestoring = true → b.subscriberResetOwed = true ∨
    b.connection.reconnecting = true ∨ b.subscriberGeneration ∈ b.restoreWaits ∨
    ∃ a ∈ b.awaiting, a.owner = .restore ∧ a.submittedGeneration = b.subscriberGeneration

structure Sound (leaving : Channel → Prop) (b : Bus) : Prop extends Core leaving b where
  owes : b.subscriberResetOwed = true → b.subscriberResetInProgress = false →
    b.activeReplyChannels ≠ []

/-- Nothing is on its way out. -/
def nothing (_ : Channel) : Prop := False

variable {leaving : Channel → Prop}

theorem Core.owing (core : Core leaving b)
    (set : b.subscriberResetOwed = true ∨ b.subscriberResetInProgress = true) :
    b.subscriberResetOwed = true := by
  rcases set with owed | progress
  · exact owed
  · exact (core.resets progress).1

/-- While a reset is owed it does not matter what leaves. -/
theorem Core.any (core : Core leaving b) (owed : b.subscriberResetOwed = true)
    (other : Channel → Prop) : Core other b :=
  { core with
    extra := fun clear => by
      rw [owed] at clear
      cases clear }

theorem mem_desired {c : Channel} : c ∈ b.desired ↔
    (∃ entry ∈ b.handlers, c = .command entry.1) ∨
      ∃ requestId ∈ b.activeReplyChannels, c = .result requestId := by
  simp only [Bus.desired, List.mem_append, List.mem_map, eq_comm (a := c)]

/-! ### Resets -/

theorem maybeReset_owed (b : Bus) :
    b.maybeResetSubscriber.subscriberResetOwed = b.subscriberResetOwed := by
  rcases maybeReset_cases b with ⟨same, -⟩ | ⟨-, -, made | made⟩
  · rw [same]
  · rw [made]
  · rw [made]

/-- A reset starts once the last reply is in. -/
theorem Core.maybeReset (core : Core leaving b) (opened : b.closing = false) :
    Sound leaving b.maybeResetSubscriber := by
  rcases maybeReset_cases b with ⟨same, skip⟩ | ⟨owed, -, made | made⟩
  · rw [same]
    refine { core with owes := fun owed idle => ?_ }
    rw [opened, idle, owed] at skip
    simpa using skip
  · rw [made]
    exact {
      keys := core.keys
      extra := fun _ progress => by cases progress
      missing := fun _ progress => by cases progress
      resets := fun _ => ⟨owed, .inr (by simp)⟩
      restores := fun _ => .inl owed
      owes := fun _ progress => by cases progress }
  · rw [made]
    exact {
      keys := core.keys
      extra := fun _ progress => by cases progress
      missing := fun _ progress => by cases progress
      resets := fun _ => ⟨owed, .inl rfl⟩
      restores := fun _ => .inl owed
      owes := fun _ progress => by cases progress }

/-- The debt covers whatever is wrong with the connection. -/
theorem Core.indebted (core : Core leaving b) (idle : b.subscriberResetInProgress = false)
    (other : Channel → Prop) : Core other { b with subscriberResetOwed := true } where
  keys := core.keys
  extra owed := by cases owed
  missing owed := by cases owed
  resets progress := by
    rw [show b.subscriberResetInProgress = true from progress] at idle
    cases idle
  restores _ := .inl rfl

theorem Core.mark_current (core : Core leaving b) (opened : b.closing = false)
    (other : Channel → Prop) :
    Sound other (b.markSubscriberStateUnknown b.subscriberGeneration) := by
  rcases mark_cases b b.subscriberGeneration with ⟨same, skip⟩ | ⟨-, idle, made⟩
  · have progress : b.subscriberResetInProgress = true := by
      rw [opened] at skip
      simpa using skip
    rw [same]
    refine { core.any (core.resets progress).1 other with owes := fun _ idle => ?_ }
    rw [progress] at idle
    cases idle
  · rw [made]
    exact (core.indebted idle other).maybeReset opened

theorem Sound.mark (sound : Sound leaving b) (opened : b.closing = false) (g : Nat) :
    Sound leaving (b.markSubscriberStateUnknown g) := by
  rcases mark_cases b g with ⟨same, -⟩ | ⟨-, idle, made⟩
  · rw [same]
    exact sound
  · rw [made]
    exact (sound.indebted idle leaving).maybeReset opened

/-! ### Registries -/

def orLeaving (leaving : Channel → Prop) (channel c : Channel) : Prop := leaving c ∨ c = channel

theorem Core.withoutReply (core : Core leaving b) (requestId : JsString) :
    Core (orLeaving leaving (.result requestId)) (b.withoutReply requestId) where
  keys := core.keys
  extra owed idle c mem := by
    rcases core.extra owed idle c mem with wanted | gone
    · rcases mem_desired.mp wanted with command | ⟨other, active, rfl⟩
      · exact .inl (mem_desired.mpr (.inl command))
      · by_cases same : other = requestId
        · exact .inr (.inr (by rw [same]))
        · have kept : other ∈ (b.withoutReply requestId).activeReplyChannels :=
            List.mem_filter.mpr ⟨active, by simp [same]⟩
          exact .inl (mem_desired.mpr (.inr ⟨other, kept, rfl⟩))
    · exact .inr (.inl gone)
  missing owed idle connected settled c mem := by
    apply core.missing owed idle connected settled c
    rcases mem_desired.mp mem with command | ⟨other, active, rfl⟩
    · exact mem_desired.mpr (.inl command)
    · exact mem_desired.mpr (.inr ⟨other, List.mem_of_mem_filter active, rfl⟩)
  resets := core.resets
  restores := core.restores

theorem Core.unregister (core : Core leaving b) (instanceId : JsString) (handler : Nat) :
    Core (orLeaving leaving (.command instanceId)) (b.unregister instanceId handler) where
  keys := core.keys.sublist (List.Sublist.map _ List.filter_sublist)
  extra owed idle c mem := by
    rcases core.extra owed idle c mem with wanted | gone
    · rcases mem_desired.mp wanted with ⟨entry, known, rfl⟩ | reply
      · by_cases same : entry = (instanceId, handler)
        · exact .inr (.inr (by rw [same]))
        · have kept : entry ∈ (b.unregister instanceId handler).handlers :=
            List.mem_filter.mpr ⟨known, by simp [same]⟩
          exact .inl (mem_desired.mpr (.inl ⟨entry, kept, rfl⟩))
      · exact .inl (mem_desired.mpr (.inr reply))
    · exact .inr (.inl gone)
  missing owed idle connected settled c mem := by
    apply core.missing owed idle connected settled c
    rcases mem_desired.mp mem with ⟨entry, known, rfl⟩ | reply
    · exact mem_desired.mpr (.inl ⟨entry, List.mem_of_mem_filter known, rfl⟩)
    · exact mem_desired.mpr (.inr reply)
  resets := core.resets
  restores := core.restores

theorem Sound.setPhase (sound : Sound leaving b) (call : Nat) (phase : CallPhase) :
    Sound leaving (b.setPhase call phase) :=
  ⟨⟨sound.keys, sound.extra, sound.missing, sound.resets, sound.restores⟩, sound.owes⟩

/-- What is gone from the connection need not leave any more. -/
theorem Core.gone (core : Core leaving b) (gone : b.subscriberResetOwed = false →
    b.subscriberResetInProgress = false → ∀ c, leaving c → c ∉ b.connection.eventually) :
    Core nothing b :=
  { core with
    extra := fun owed idle c mem => by
      rcases core.extra owed idle c mem with wanted | left
      · exact .inl wanted
      · exact absurd mem (gone owed idle c left) }

/-! ### Commands -/

/-- A command that takes a channel off takes nothing that is desired. -/
theorem Core.submitUnsubscribe {channel : Channel} (core : Core (orLeaving nothing channel) b)
    (undesired : channel ∉ b.desired) {owner : Owner}
    (submitted : b.submit owner (.unsubscribe channel) = some t) : Core nothing t := by
  obtain rfl := submit_eq_some submitted
  have eventually := eventually_queued b.connection b.submitted (.unsubscribe channel)
  exact {
    keys := core.keys
    extra := fun owed idle c mem => by
      rw [eventually] at mem
      obtain ⟨mem, other⟩ := List.mem_filter.mp mem
      rcases core.extra owed idle c mem with wanted | gone | same
      · exact .inl wanted
      · exact .inr gone
      · simp [same] at other
    missing := fun owed idle connected settled c mem => by
      rw [eventually]
      refine List.mem_filter.mpr ⟨core.missing owed idle connected settled c mem, ?_⟩
      apply decide_eq_true
      rintro rfl
      exact undesired mem
    resets := core.resets
    restores := fun restoring => by
      rcases core.restores restoring with owed | connecting | waiting | ⟨a, mem, restore⟩
      · exact .inl owed
      · exact .inr (.inl connecting)
      · exact .inr (.inr (.inl waiting))
      · exact .inr (.inr (.inr ⟨a, List.mem_append_left _ mem, restore⟩)) }

theorem submit_fields {owner : Owner} {operation : Operation}
    (submitted : b.submit owner operation = some t) :
    t.subscriberResetOwed = b.subscriberResetOwed ∧
      t.subscriberResetInProgress = b.subscriberResetInProgress ∧
      t.activeReplyChannels = b.activeReplyChannels ∧ t.closing = b.closing := by
  obtain rfl := submit_eq_some submitted
  exact ⟨rfl, rfl, rfl, rfl⟩

theorem Sound.submitUnsubscribe {channel : Channel} (sound : Sound (orLeaving nothing channel) b)
    (undesired : channel ∉ b.desired) {owner : Owner}
    (submitted : b.submit owner (.unsubscribe channel) = some t) : Sound nothing t := by
  obtain ⟨owed, progress, active, -⟩ := submit_fields submitted
  have core := sound.toCore.submitUnsubscribe undesired submitted
  refine { core with owes := ?_ }
  rw [owed, progress, active]
  exact sound.owes

/-! ### Requests -/

theorem maybeReset_desired (b : Bus) : b.maybeResetSubscriber.desired = b.desired := by
  rcases maybeReset_cases b with ⟨same, -⟩ | ⟨-, -, made | made⟩
  · rw [same]
  · rw [made]
    rfl
  · rw [made]
    rfl

/-- Without a debt nothing was reset. -/
theorem maybeReset_of_clear (b : Bus) (owed : b.maybeResetSubscriber.subscriberResetOwed = false) :
    b.maybeResetSubscriber = b := by
  rcases maybeReset_cases b with ⟨same, -⟩ | ⟨debt, -⟩
  · exact same
  · rw [maybeReset_owed, debt] at owed
    cases owed

theorem undesired_withoutReply (b : Bus) (requestId : JsString) :
    .result requestId ∉ (b.withoutReply requestId).desired := by
  rw [mem_desired]
  rintro (⟨entry, -, other⟩ | ⟨other, active, same⟩)
  · cases other
  · cases same
    have kept := (List.mem_filter.mp active).2
    simp at kept

theorem Sound.any (sound : Sound leaving b) (owed : b.subscriberResetOwed = true) :
    Sound nothing b :=
  { sound.toCore.any owed nothing with owes := sound.owes }

theorem Sound.finish (sound : Sound nothing b) (opened : b.closing = false) (call : Nat)
    {requestId : JsString} (replySubscriptionMayExist : Bool)
    (known : replySubscriptionMayExist = true ∨ .result requestId ∉ b.connection.eventually)
    (answer : Answer) :
    Sound nothing (b.finish call requestId replySubscriptionMayExist answer) := by
  have reset := (sound.toCore.withoutReply requestId).maybeReset opened
  have undesired := undesired_withoutReply b requestId
  have still : (b.withoutReply requestId).maybeResetSubscriber.closing = false := by
    rw [(maybeReset_only _).closing]
    exact opened
  have clear := maybeReset_of_clear (b.withoutReply requestId)
  rw [← maybeReset_desired] at undesired
  unfold Bus.finish
  dsimp only
  generalize (b.withoutReply requestId).maybeResetSubscriber = after at *
  split
  · next clean =>
    split
    · next submitted => exact (reset.submitUnsubscribe undesired submitted).setPhase ..
    · exact (reset.mark_current still nothing).setPhase ..
  · next skip =>
    apply Sound.setPhase
    by_cases owed : after.subscriberResetOwed = true
    · exact reset.any owed
    · rw [Bool.not_eq_true] at owed
      have same := clear owed
      have idle : after.subscriberResetInProgress = false := by
        by_contra progress
        rw [Bool.not_eq_false] at progress
        rw [(reset.resets progress).1] at owed
        cases owed
      have absent : replySubscriptionMayExist = false := by
        simpa [still, owed, idle] using skip
      have unknown : .result requestId ∉ b.connection.eventually := by
        rcases known with present | unknown
        · rw [present] at absent
          cases absent
        · exact unknown
      refine { reset.toCore.gone ?_ with owes := reset.owes }
      rintro - - c (impossible | rfl)
      · exact impossible.elim
      · rw [same]
        exact unknown

/-- A bus that wants one channel more, and asks for it. -/
theorem Sound.submitSubscribe (sound : Sound nothing b) (wants : Bus) {channel : Channel}
    (keys : (wants.handlers.map Prod.fst).Nodup)
    (desired : ∀ c, c ∈ wants.desired ↔ c ∈ b.desired ∨ c = channel)
    (active : b.activeReplyChannels ≠ [] → wants.activeReplyChannels ≠ [])
    (same : wants = { b with
      handlers := wants.handlers, activeReplyChannels := wants.activeReplyChannels
      calls := wants.calls })
    {owner : Owner} (submitted : wants.submit owner (.subscribe [channel]) = some t) :
    Sound nothing t := by
  have connection : wants.connection = b.connection := by rw [same]
  have owed : wants.subscriberResetOwed = b.subscriberResetOwed := by rw [same]
  have progress : wants.subscriberResetInProgress = b.subscriberResetInProgress := by rw [same]
  have restoring : wants.subscriberRestoring = b.subscriberRestoring := by rw [same]
  have generation : wants.subscriberGeneration = b.subscriberGeneration := by rw [same]
  have waits : wants.restoreWaits = b.restoreWaits := by rw [same]
  have resetWaits : wants.resetWaits = b.resetWaits := by rw [same]
  have awaiting : wants.awaiting = b.awaiting := by rw [same]
  obtain rfl := submit_eq_some submitted
  have eventually := eventually_queued wants.connection wants.submitted (.subscribe [channel])
  have spread (c : Channel) : c ∈ (Operation.subscribe [channel]).apply
      wants.connection.eventually ↔ c ∈ b.connection.eventually ∨ c = channel := by
    rw [connection]
    simp [Operation.apply]
  exact {
    keys
    extra := fun clear idle c mem => by
      rw [eventually, spread] at mem
      refine .inl ((desired c).mpr ?_)
      rcases mem with mem | rfl
      · rcases sound.extra (owed ▸ clear) (progress ▸ idle) c mem with wanted | gone
        · exact .inl wanted
        · exact gone.elim
      · exact .inr rfl
    missing := fun clear idle connected settled c mem => by
      rw [eventually, spread]
      rcases (desired c).mp mem with wanted | rfl
      · exact .inl (sound.missing (owed ▸ clear) (progress ▸ idle) (connection ▸ connected)
          (by rw [← generation, ← waits]; exact settled) c wanted)
      · exact .inr rfl
    resets := fun inProgress => by
      have held := sound.resets (progress ▸ inProgress)
      rw [← owed, ← connection, ← generation, ← resetWaits] at held
      exact held
    restores := fun restored => by
      have held := sound.restores (restoring ▸ restored)
      rw [← owed, ← connection, ← generation, ← waits, ← awaiting] at held
      rcases held with debt | connecting | waiting | ⟨a, mem, restore⟩
      · exact .inl debt
      · exact .inr (.inl connecting)
      · exact .inr (.inr (.inl waiting))
      · exact .inr (.inr (.inr ⟨a, List.mem_append_left _ mem, restore⟩))
    owes := fun debt idle => active (sound.owes (owed ▸ debt) (progress ▸ idle)) }

theorem clear_of_settled (settled : ¬ b.subscriberUnsettled = true) :
    b.subscriberResetOwed = false ∧ b.subscriberResetInProgress = false := by
  simp only [Bus.subscriberUnsettled, Bool.or_eq_true, not_or, Bool.not_eq_true] at settled
  exact ⟨settled.1.2, settled.2⟩

theorem Sound.turnedAway (sound : Sound leaving b) (command : AdminCommand) (answer : Answer) :
    Sound leaving (b.turnedAway command answer) :=
  ⟨⟨sound.keys, sound.extra, sound.missing, sound.resets, sound.restores⟩, sound.owes⟩

theorem withoutReply_entered (b : Bus) (command : AdminCommand) :
    (b.entered command).withoutReply command.requestId =
      ({ b with calls := b.calls ++ [b.entry command .subscribing] } : Bus).withoutReply
        command.requestId := by
  simp [Bus.entered, Bus.withoutReply]

section
variable (sound : Sound nothing b)
include sound

theorem Sound.request (opened : b.closing = false) (now : Rat) (command : AdminCommand) :
    Sound nothing (b.request now command) := by
  unfold Bus.request
  dsimp only
  split
  · exact sound.turnedAway ..
  · split
    · exact sound.turnedAway ..
    · next settled =>
      split
      · exact sound.turnedAway ..
      · split
        · exact sound.turnedAway ..
        · next fresh =>
          split
          · next submitted =>
            refine sound.submitSubscribe (b.entered command) sound.keys (fun c => ?_) (fun _ => ?_)
              rfl submitted
            · simp [Bus.desired, Bus.entered, or_assoc]
            · simp [Bus.entered]
          · have sound' : Sound nothing
                { b with calls := b.calls ++ [b.entry command .subscribing] } :=
              ⟨⟨sound.keys, sound.extra, sound.missing, sound.resets, sound.restores⟩, sound.owes⟩
            have unknown : .result command.requestId ∉ b.connection.eventually := by
              intro subscribed
              obtain ⟨owed, progress⟩ := clear_of_settled settled
              rcases sound.extra owed progress _ subscribed with wanted | gone
              · rcases mem_desired.mp wanted with ⟨entry, -, other⟩ | ⟨other, active, same⟩
                · cases other
                · cases same
                  exact fresh active
              · exact gone
            have finished := sound'.finish opened b.calls.length false (.inr unknown)
              (Bus.busUnavailable command now b.admissionRefused)
            unfold Bus.finish at finished ⊢
            rw [withoutReply_entered]
            exact finished

theorem Sound.replySettled (opened : b.closing = false) (now : Rat) (call submittedGeneration : Nat)
    (error : Option JsString) :
    Sound nothing (b.replySettled now call submittedGeneration error) := by
  unfold Bus.replySettled
  split
  · exact sound
  · dsimp only
    split
    · exact (sound.mark opened _).finish (by rw [(mark_only _ _).closing, opened]) call true (.inl rfl) _
    · split
      · exact sound.finish opened call true (.inl rfl) _
      · split
        · exact sound.finish opened call true (.inl rfl) _
        · apply Sound.setPhase
          exact ⟨⟨sound.keys, sound.extra, sound.missing, sound.resets, sound.restores⟩,
            sound.owes⟩

/-! ### Registrations -/

theorem Sound.subscribe (opened : b.closing = false) (instanceId : JsString) (handler : Nat) :
    Sound nothing (b.subscribe instanceId handler) := by
  unfold Bus.subscribe
  split
  · exact sound
  · next enter =>
    simp only [not_or] at enter
    obtain ⟨-, settled, fresh⟩ := enter
    have absent : instanceId ∉ b.handlers.map Prod.fst := by
      intro mem
      obtain ⟨entry, known, same⟩ := List.mem_map.mp mem
      exact fresh (List.any_eq_true.mpr ⟨entry, known, decide_eq_true same⟩)
    dsimp only
    split
    · next submitted =>
      refine sound.submitSubscribe (b.register instanceId handler) ?_ (fun c => ?_) id rfl submitted
      · rw [Bus.register, List.map_append, List.nodup_append]
        refine ⟨sound.keys, List.nodup_singleton _, ?_⟩
        rintro key known other mem rfl
        obtain rfl := List.mem_singleton.mp mem
        exact absent known
      · simp only [mem_desired, Bus.register, List.mem_append, List.mem_singleton]
        constructor
        · rintro (⟨entry, known | rfl, rfl⟩ | reply)
          · exact .inl (.inl ⟨entry, known, rfl⟩)
          · exact .inr rfl
          · exact .inl (.inr reply)
        · rintro ((⟨entry, known, rfl⟩ | reply) | rfl)
          · exact .inl ⟨entry, .inl known, rfl⟩
          · exact .inr reply
          · exact .inl ⟨_, .inr rfl, rfl⟩
    · have others : b.handlers.filter (· ≠ (instanceId, handler)) = b.handlers := by
        apply List.filter_eq_self.mpr
        intro entry known
        apply decide_eq_true
        rintro rfl
        exact absent (List.mem_map_of_mem known)
      have kept : (b.register instanceId handler).unregister instanceId handler = b := by
        simp only [Bus.register, Bus.unregister, List.filter_append, others]
        simp
      rw [kept]
      exact sound.toCore.maybeReset opened

/-- A registration that fails leaves no channel behind, unless its command came to an older
connection. -/
theorem Sound.registrationSettled (opened : b.closing = false) (instanceId : JsString)
    (handler registrationGeneration : Nat) (error : Option JsString)
    (known : error.isSome = true → registrationGeneration = b.subscriberGeneration ∨
      b.subscriberResetOwed = true ∨ b.subscriberResetInProgress = true ∨
      .command instanceId ∉ b.connection.eventually) :
    Sound nothing (b.registrationSettled instanceId handler registrationGeneration error) := by
  unfold Bus.registrationSettled
  split
  · have marked := sound.mark opened registrationGeneration
    have still := (mark_only b registrationGeneration).closing
    rw [opened] at still
    have left := (marked.toCore.unregister instanceId handler).maybeReset still
    by_cases owed : (b.markSubscriberStateUnknown registrationGeneration).subscriberResetOwed = true
    · apply left.any
      rw [maybeReset_owed]
      exact owed
    · rw [Bool.not_eq_true] at owed
      have unmarked : b.markSubscriberStateUnknown registrationGeneration = b ∧
          registrationGeneration ≠ b.subscriberGeneration := by
        rcases mark_cases b registrationGeneration with ⟨same, skip⟩ | ⟨-, -, made⟩
        · refine ⟨same, ?_⟩
          rw [same] at owed
          rcases skip with closed | other | progress
          · rw [opened] at closed
            cases closed
          · exact other
          · rw [(sound.resets progress).1] at owed
            cases owed
        · rw [made, maybeReset_owed] at owed
          cases owed
      rw [unmarked.1] at owed
      have unknown : .command instanceId ∉ b.connection.eventually := by
        rcases known rfl with current | debt | progress | unknown
        · exact absurd current unmarked.2
        · rw [owed] at debt
          cases debt
        · rw [(sound.resets progress).1] at owed
          cases owed
        · exact unknown
      refine { left.toCore.gone ?_ with owes := left.owes }
      rintro owed' - c (impossible | rfl)
      · exact impossible.elim
      · rw [maybeReset_of_clear _ owed', unmarked.1]
        exact unknown
  · split
    · dsimp only
      split
      · next closed =>
        rw [show b.closing = true from closed] at opened
        cases opened
      · exact (sound.toCore.unregister instanceId handler).mark_current opened nothing
    · exact ⟨⟨sound.keys, sound.extra, sound.missing, sound.resets, sound.restores⟩, sound.owes⟩

theorem Sound.unsubscribe (opened : b.closing = false) (instanceId : JsString) (handler : Nat) :
    Sound nothing (b.unsubscribe instanceId handler) := by
  have left := sound.toCore.unregister instanceId handler
  unfold Bus.unsubscribe
  split
  · exact sound
  · next registered =>
    rw [not_not] at registered
    dsimp only
    split
    · next closed =>
      rw [show b.closing = true from closed] at opened
      cases opened
    · split
      · next set =>
        have owed := left.owing set
        apply (left.maybeReset opened).any
        rw [maybeReset_owed]
        exact owed
      · next clean =>
        simp only [not_or, Bool.not_eq_true] at clean
        split
        · next submitted =>
          have sound' : Sound (orLeaving nothing (.command instanceId))
              (b.unregister instanceId handler) := { left with owes := sound.owes }
          refine sound'.submitUnsubscribe ?_ submitted
          rw [mem_desired]
          rintro (⟨entry, known, same⟩ | ⟨requestId, -, other⟩)
          · obtain ⟨held, apart⟩ := List.mem_filter.mp known
            have key : (instanceId, handler).1 = entry.1 := Channel.command.inj same
            have one := List.inj_on_of_nodup_map sound.keys registered held key
            simp [one] at apart
          · cases other
        · exact left.mark_current opened nothing

/-! ### Answers -/

theorem Sound.cleanupSettled (opened : b.closing = false) (call submittedGeneration : Nat)
    (error : Option JsString) :
    Sound nothing (b.cleanupSettled call submittedGeneration error) := by
  have marked := sound.mark opened submittedGeneration
  unfold Bus.cleanupSettled
  dsimp only
  split
  · exact ⟨⟨marked.keys, marked.extra, marked.missing, marked.resets, marked.restores⟩,
      marked.owes⟩
  · exact ⟨⟨sound.keys, sound.extra, sound.missing, sound.resets, sound.restores⟩, sound.owes⟩

end

/-- An answer that is in is no longer waited for. -/
theorem Core.answered (core : Core leaving b) {a : Submitted} (fine : a.owner ≠ .restore ∨
      a.submittedGeneration ≠ b.subscriberGeneration ∨ b.subscriberResetOwed = true)
    (subscriptionRestoreFailures : Nat) : Core leaving
      { b with awaiting := b.awaiting.erase a, subscriptionRestoreFailures } where
  keys := core.keys
  extra := core.extra
  missing := core.missing
  resets := core.resets
  restores restoring := by
    rcases core.restores restoring with owed | connecting | waiting | ⟨r, mem, restore, current⟩
    · exact .inl owed
    · exact .inr (.inl connecting)
    · exact .inr (.inr (.inl waiting))
    · by_cases same : r = a
      · subst same
        rcases fine with other | old | owed
        · exact absurd restore other
        · exact absurd current old
        · exact .inl owed
      · exact .inr (.inr (.inr ⟨r, (List.mem_erase_of_ne same).mpr mem, restore, current⟩))

theorem Sound.answered (sound : Sound leaving b) {a : Submitted} (fine : a.owner ≠ .restore ∨
      a.submittedGeneration ≠ b.subscriberGeneration ∨ b.subscriberResetOwed = true) :
    Sound leaving { b with awaiting := b.awaiting.erase a } :=
  { sound.toCore.answered fine b.subscriptionRestoreFailures with owes := sound.owes }

theorem Sound.restoreSettled (sound : Sound nothing b) (opened : b.closing = false)
    (a : Submitted) (error : Option JsString) :
    Sound nothing ({ b with awaiting := b.awaiting.erase a }.restoreSettled a.submittedGeneration
      error) := by
  unfold Bus.restoreSettled
  dsimp only
  split
  · split
    · exact ⟨⟨sound.keys, sound.extra, sound.missing, sound.resets, fun restoring => by
        cases restoring⟩, sound.owes⟩
    · next old => exact sound.answered (.inr (.inl old))
  · generalize b.subscriptionRestoreFailures + _ = failures
    by_cases old : a.submittedGeneration ≠ b.subscriberGeneration
    · have core := sound.toCore.answered (.inr (.inl old)) failures
      have settled : Sound nothing { b with
          awaiting := b.awaiting.erase a, subscriptionRestoreFailures := failures } :=
        { core with owes := sound.owes }
      exact settled.mark opened _
    · by_cases progress : b.subscriberResetInProgress = true
      · have core := sound.toCore.answered (a := a) (.inr (.inr (sound.resets progress).1)) failures
        have settled : Sound nothing { b with
            awaiting := b.awaiting.erase a, subscriptionRestoreFailures := failures } :=
          { core with owes := sound.owes }
        exact settled.mark opened _
      · rw [Bool.not_eq_true] at progress
        have core := (sound.toCore.indebted progress nothing).answered (a := a)
          (.inr (.inr rfl)) failures
        rcases mark_cases { b with
            awaiting := b.awaiting.erase a, subscriptionRestoreFailures := failures }
            a.submittedGeneration with ⟨-, skip⟩ | ⟨-, -, made⟩
        · rw [not_not] at old
          simp [opened, progress, old] at skip
        · rw [made]
          exact core.maybeReset opened

/-! ### Restores -/

/-- A restore asks for all that is desired. -/
theorem sound_attempt (keys : (b.handlers.map Prod.fst).Nodup) (extra : b.subscriberResetOwed = false →
      b.subscriberResetInProgress = false → ∀ c ∈ b.connection.eventually, c ∈ b.desired)
    (resets : b.subscriberResetInProgress = true → b.subscriberResetOwed = true ∧
      (b.connection.reconnecting = true ∨ b.subscriberGeneration ∈ b.resetWaits))
    (owes : b.subscriberResetOwed = true → b.subscriberResetInProgress = false →
      b.activeReplyChannels ≠ []) (opened : b.closing = false) :
    Sound nothing (b.attemptRestoreDesiredSubscriptions b.subscriberGeneration) := by
  unfold Bus.attemptRestoreDesiredSubscriptions
  rw [if_neg (by simp [opened])]
  split
  · next none_desired =>
    exact {
      keys, resets, owes
      extra := fun owed idle c mem => .inl (extra owed idle c mem)
      missing := fun _ _ _ _ c mem => by
        change c ∈ b.desired at mem
        rw [none_desired] at mem
        cases mem
      restores := fun restoring => by cases restoring }
  · split
    · next submitted =>
      obtain rfl := submit_eq_some submitted
      have eventually := eventually_queued b.connection b.submitted (.subscribe b.desired)
      exact {
        keys, resets, owes
        extra := fun owed idle c mem => by
          rw [eventually] at mem
          rcases List.mem_append.mp mem with mem | mem
          · exact .inl (extra owed idle c mem)
          · exact .inl mem
        missing := fun _ _ _ _ c mem => by
          rw [eventually]
          exact List.mem_append_right _ mem
        restores := fun _ => .inr (.inr (.inr ⟨_, List.mem_append_right _ List.mem_cons_self, rfl,
          rfl⟩)) }
    · exact {
        keys, resets, owes
        extra := fun owed idle c mem => .inl (extra owed idle c mem)
        missing := fun _ _ _ settled => absurd (by simp) settled
        restores := fun _ => .inr (.inr (.inl (by simp))) }

theorem Sound.restoreWaitEnds (sound : Sound nothing b) (opened : b.closing = false) (g : Nat) :
    Sound nothing ({ b with
      restoreWaits := b.restoreWaits.erase g }.attemptRestoreDesiredSubscriptions g) := by
  have extra (owed : b.subscriberResetOwed = false) (idle : b.subscriberResetInProgress = false)
      (c : Channel) (mem : c ∈ b.connection.eventually) : c ∈ b.desired := by
    rcases sound.extra owed idle c mem with wanted | gone
    · exact wanted
    · exact gone.elim
  by_cases current : g = b.subscriberGeneration
  · subst current
    exact sound_attempt sound.keys extra sound.resets sound.owes opened
  · unfold Bus.attemptRestoreDesiredSubscriptions
    rw [if_pos (.inr current)]
    have waits : b.subscriberGeneration ∈ b.restoreWaits.erase g ↔
        b.subscriberGeneration ∈ b.restoreWaits := List.mem_erase_of_ne (Ne.symm current)
    exact {
      keys := sound.keys, extra := sound.extra, resets := sound.resets, owes := sound.owes
      missing := fun owed idle connected settled =>
        sound.missing owed idle connected fun waiting => settled (waits.mpr waiting)
      restores := fun restoring => by
        rcases sound.restores restoring with owed | connecting | waiting | pending
        · exact .inl owed
        · exact .inr (.inl connecting)
        · exact .inr (.inr (.inl (waits.mpr waiting)))
        · exact .inr (.inr (.inr pending)) }

/-- A connection that is ready is rebuilt from the registries. -/
theorem Sound.ready (sound : Sound nothing b) (opened : b.closing = false)
    (wanted : ∀ c ∈ b.connection.eventually, c ∈ b.desired) :
    Sound nothing ({ b with
      connection := { b.connection with reconnecting := false } }.restoreDesiredSubscriptions) := by
  unfold Bus.restoreDesiredSubscriptions
  dsimp only
  split
  · next empty =>
    have none_desired : b.desired = [] := by simp [Bus.desired, empty.1, empty.2]
    exact {
      keys := sound.keys
      extra := fun _ _ c mem => .inl (wanted c mem)
      missing := fun _ _ _ _ c mem => by
        change c ∈ b.desired at mem
        rw [none_desired] at mem
        cases mem
      resets := fun progress => by cases progress
      restores := fun restoring => by cases restoring
      owes := fun owed => by cases owed }
  · split
    · exact {
        keys := sound.keys
        extra := fun _ _ c mem => .inl (wanted c mem)
        missing := fun _ _ _ settled => absurd (by simp) settled
        resets := fun progress => by cases progress
        restores := fun _ => .inr (.inr (.inl (by simp)))
        owes := fun owed => by cases owed }
    · exact sound_attempt sound.keys (fun _ _ => wanted) (fun progress => by cases progress)
        (fun owed => by cases owed) opened

/-! ### Resets that failed -/

theorem Sound.resetWaitEnds (sound : Sound nothing b) (opened : b.closing = false) (g : Nat) :
    Sound nothing ({ b with resetWaits := b.resetWaits.erase g }.resetWaitEnds g) := by
  unfold Bus.resetWaitEnds
  split
  · next stale =>
    exact {
      keys := sound.keys, extra := sound.extra, missing := sound.missing
      restores := sound.restores, owes := sound.owes
      resets := fun progress => by
        obtain ⟨owed, pending⟩ := sound.resets progress
        refine ⟨owed, ?_⟩
        rcases pending with connecting | waiting
        · exact .inl connecting
        · rcases stale with closed | other | clear
          · rw [show b.closing = true from closed] at opened
            cases opened
          · exact .inr ((List.mem_erase_of_ne (Ne.symm other)).mpr waiting)
          · exact absurd owed clear }
  · next act =>
    simp only [not_or, not_not] at act
    have core : Core nothing { b with
        resetWaits := b.resetWaits.erase g, subscriberResetInProgress := false } := {
      keys := sound.keys
      extra := fun clear => by
        rw [show b.subscriberResetOwed = false from clear] at act
        simp at act
      missing := fun clear => by
        rw [show b.subscriberResetOwed = false from clear] at act
        simp at act
      resets := fun progress => by cases progress
      restores := fun _ => .inl act.2.2 }
    exact core.maybeReset opened

/-! ## Runs -/

/-- A registration whose command came to an older connection fails while the one that is open has
the channel; a connection is ready with a channel that is not desired any more. Neither happens. -/
def Meets (b : Bus) : Event → Prop
  | .settles number (some _) => b.closing = false →
    ∀ a, b.awaiting.find? (·.number = number) = some a → ∀ instanceId handler,
      a.owner = .registration instanceId handler →
        a.submittedGeneration = b.subscriberGeneration ∨ b.subscriberResetOwed = true ∨
          b.subscriberResetInProgress = true ∨ .command instanceId ∉ b.connection.eventually
  | .ready => b.closing = false → ∀ c ∈ b.connection.eventually, c ∈ b.desired
  | _ => True

def Step (b t : Bus) : Prop := ∃ now event, b.exec now event = some t

def StepMeeting (b t : Bus) : Prop := ∃ now event, Meets b event ∧ b.exec now event = some t

abbrev Run := Relation.ReflTransGen Step

abbrev RunMeeting := Relation.ReflTransGen StepMeeting

theorem Sound.settles (sound : Sound nothing b) (opened : b.closing = false) (now : Rat)
    {number : Nat} {error : Option JsString} (meets : Meets b (.settles number error))
    (settled : b.settles now number error = some t) : Sound nothing t := by
  unfold Bus.settles at settled
  split at settled
  · cases settled
  · next a found =>
    split at settled
    · cases settled
    · dsimp only at settled
      cases Option.some.inj settled
      have answered (other : a.owner ≠ .restore) := sound.answered (a := a) (.inl other)
      split
      · next owner => exact (answered (by simp [owner])).replySettled opened ..
      · next owner => exact (answered (by simp [owner])).cleanupSettled opened ..
      · next owner =>
        refine (answered (by simp [owner])).registrationSettled opened _ _ _ _ fun failed => ?_
        obtain ⟨text, rfl⟩ := Option.isSome_iff_exists.mp failed
        exact meets opened a found _ _ owner
      · next owner =>
        have clean := answered (by simp [owner])
        split
        · exact clean.mark opened _
        · exact clean
      · exact sound.restoreSettled opened a error

/-! ### The invariant, over runs -/

theorem Sound.elsewhere (sound : Sound leaving b) (elsewhere : Elsewhere b t) :
    Sound leaving t := by
  rw [elsewhere]
  exact ⟨⟨sound.keys, sound.extra, sound.missing, sound.resets, sound.restores⟩, sound.owes⟩

theorem Sound.connectionLost (sound : Sound leaving b) :
    Sound leaving { b with connection := .dropped } where
  keys := sound.keys
  extra _ _ c mem := by cases mem
  missing _ _ connected := by cases connected
  resets progress := ⟨(sound.resets progress).1, .inl rfl⟩
  restores _ := .inr (.inl rfl)
  owes := sound.owes

theorem Sound.executes (sound : Sound leaving b) {number : Nat} {operation : Operation}
    {queue : List (Nat × Operation)} (queued : b.connection.queue = (number, operation) :: queue) :
    Sound leaving { b with connection := { b.connection with
      subscribed := operation.apply b.connection.subscribed, queue } } := by
  have same : ({ b.connection with
      subscribed := operation.apply b.connection.subscribed, queue } : Connection).eventually =
      b.connection.eventually := by
    simp [Connection.eventually, queued]
  exact {
    keys := sound.keys
    extra := by
      rw [same]
      exact sound.extra
    missing := by
      rw [same]
      exact sound.missing
    resets := sound.resets
    restores := sound.restores
    owes := sound.owes }

theorem Sound.exec (sound : Sound nothing b) (opened : b.closing = false) {event : Event}
    (meets : Meets b event) (step : b.exec now event = some t) (still : t.closing = false) :
    Sound nothing t := by
  cases event with
  | request command =>
    cases Option.some.inj step
    exact sound.request opened now command
  | subscribe instanceId handler =>
    cases Option.some.inj step
    exact sound.subscribe opened instanceId handler
  | unsubscribe instanceId handler =>
    obtain ⟨-, made⟩ := Option.ite_none_right_eq_some.mp step
    cases made
    exact sound.unsubscribe opened instanceId handler
  | close =>
    cases Option.some.inj step
    cases still
  | settles number error => exact sound.settles opened now meets step
  | publishAnswered call recipientCount =>
    rcases publishAnswered_cases step with ⟨requestId, answer, rfl⟩ | ⟨phase, rfl⟩
    · exact sound.finish opened call true (.inl rfl) answer
    · exact sound.setPhase call phase
  | replyTimesOut call => exact sound.elsewhere (replyTimesOut_elsewhere step)
  | resumes call =>
    obtain ⟨requestId, answer, rfl⟩ := resumes_eq_some step
    exact sound.finish opened call true (.inl rfl) answer
  | deliver channel payload =>
    cases Option.some.inj step
    exact sound.elsewhere (deliver_elsewhere _ _ _)
  | handlerSettles execution outcome => exact sound.elsewhere (handlerSettles_only step).elsewhere
  | resultRetries execution => exact sound.elsewhere (resultRetries_only step).elsewhere
  | resultAnswered execution published => exact sound.elsewhere (resultAnswered_only step).elsewhere
  | resetWaitEnds g =>
    obtain ⟨-, made⟩ := Option.ite_none_right_eq_some.mp step
    cases Option.some.inj made
    exact sound.resetWaitEnds opened g
  | restoreWaitEnds g =>
    obtain ⟨-, made⟩ := Option.ite_none_right_eq_some.mp step
    cases Option.some.inj made
    exact sound.restoreWaitEnds opened g
  | executes =>
    simp only [Bus.exec] at step
    split at step
    · cases step
    · next queued =>
      cases Option.some.inj step
      exact sound.executes queued
  | connectionLost =>
    cases Option.some.inj step
    exact sound.connectionLost
  | ready =>
    obtain ⟨-, made⟩ := Option.ite_none_right_eq_some.mp step
    dsimp only at made
    rw [if_neg (by rw [opened]; simp)] at made
    cases Option.some.inj made
    exact sound.ready opened (meets opened)
  | turns disconnectThrows publisherResetting =>
    cases Option.some.inj step
    exact ⟨⟨sound.keys, sound.extra, sound.missing, sound.resets, sound.restores⟩, sound.owes⟩

/-- A bus before its first step. -/
def created (maxActiveRequests maxPendingCommandsPerConnection : Nat) : Bus :=
  { maxActiveRequests, maxPendingCommandsPerConnection }

theorem sound_created (requests commands : Nat) : Sound nothing (created requests commands) where
  keys := List.nodup_nil
  extra _ _ c mem := by cases mem
  missing _ _ _ _ c mem := by cases mem
  resets progress := by cases progress
  restores restoring := by cases restoring
  owes owed := by cases owed

theorem replayed_run {events : List Event}
    (replayed : events.foldlM (Bus.exec · now) b = some t) : Run b t := by
  induction events generalizing b with
  | nil =>
    cases Option.some.inj replayed
    exact .refl
  | cons event events ih =>
    obtain ⟨middle, step, rest⟩ := Option.bind_eq_some_iff.mp replayed
    exact .head ⟨now, event, step⟩ (ih rest)

theorem StepMeeting.step (step : StepMeeting b t) : Step b t := by
  obtain ⟨now, event, -, step⟩ := step
  exact ⟨now, event, step⟩

theorem sound_run {requests commands : Nat} (run : RunMeeting (created requests commands) b)
    (opened : b.closing = false) : Sound nothing b := by
  induction run with
  | refl => exact sound_created requests commands
  | tail _ step ih =>
    obtain ⟨now, event, meets, step⟩ := step
    have before := Bool.eq_false_iff.mpr fun closed =>
      absurd (exec_closing step closed) (by simp [opened])
    exact (ih before).exec before meets step opened

/-! ### The requests behind the reply channels -/

def isUnfinished (c : Call) : Bool :=
  match c.phase with
  | .cleaning _ | .answered _ => false
  | _ => true

/-- Every active reply channel is that of a request still to finish. -/
def Answering (b : Bus) : Prop :=
  ∀ r ∈ b.activeReplyChannels, ∃ c ∈ b.calls, c.command.requestId = r ∧ isUnfinished c = true

namespace Answering

section
variable (answering : Answering b)
include answering

theorem of_same (active : t.activeReplyChannels = b.activeReplyChannels) (calls : t.calls = b.calls) :
    Answering t := by
  unfold Answering at *
  rw [active, calls]
  exact answering

/-- The calls may go on, as long as those that are unfinished stay so. -/
theorem mapped {f : Call → Call}
    (kept : ∀ c, (f c).command = c.command ∧ (isUnfinished c = true → isUnfinished (f c) = true)) :
    Answering { b with calls := b.calls.map f } := by
  intro r active
  obtain ⟨c, mem, same, unfinished⟩ := answering r active
  obtain ⟨command, still⟩ := kept c
  refine ⟨f c, List.mem_map_of_mem mem, ?_, ?_⟩
  · rw [command, same]
  · exact still unfinished

theorem modified (call : Nat) {f : Call → Call}
    (kept : ∀ c, (f c).command = c.command ∧ (isUnfinished c = true → isUnfinished (f c) = true)) :
    Answering { b with calls := b.calls.modify call f } := by
  intro r active
  obtain ⟨c, mem, same, unfinished⟩ := answering r active
  obtain ⟨k, at_k⟩ := List.mem_iff_getElem?.mp mem
  by_cases here : call = k
  · subst here
    obtain ⟨command, still⟩ := kept c
    refine ⟨f c, ?_, by rw [command, same], still unfinished⟩
    rw [List.mem_iff_getElem?]
    exact ⟨call, by simp [at_k]⟩
  · refine ⟨c, ?_, same, unfinished⟩
    rw [List.mem_iff_getElem?]
    exact ⟨k, by simp [at_k, here]⟩

/-- A request that has its answer gives up the channel of its own. -/
theorem finish {call : Nat} {c : Call} (held : b.calls[call]? = some c) (mayExist : Bool)
    (answer : Answer) :
    Answering (b.finish call c.command.requestId mayExist answer) := by
  obtain ⟨phase, -, only⟩ := finish_cases b call c.command.requestId mayExist answer
  refine of_same (b := (b.withoutReply c.command.requestId).setPhase call phase) ?_
    only.activeReplyChannels only.calls
  intro r active
  obtain ⟨active, other⟩ := List.mem_filter.mp active
  obtain ⟨d, mem, same, unfinished⟩ := answering r active
  obtain ⟨k, at_k⟩ := List.mem_iff_getElem?.mp mem
  refine ⟨d, ?_, same, unfinished⟩
  rw [List.mem_iff_getElem?]
  have apart : call ≠ k := by
    rintro rfl
    rw [held] at at_k
    cases at_k
    simp [same] at other
  exact ⟨k, by simp [Bus.setPhase, Bus.withoutReply, at_k, apart]⟩

theorem request (now : Rat) (command : AdminCommand) :
    Answering (b.request now command) := by
  have later (entry : Call) : Answering { b with calls := b.calls ++ [entry] } := by
    intro r active
    obtain ⟨c, mem, held⟩ := answering r active
    exact ⟨c, List.mem_append_left _ mem, held⟩
  have entered : Answering (b.entered command) := by
    intro r active
    rcases List.mem_append.mp active with active | new
    · exact later _ r active
    · obtain rfl := List.mem_singleton.mp new
      exact ⟨_, List.mem_append_right _ List.mem_cons_self, rfl, rfl⟩
  unfold Bus.request
  dsimp only
  split
  · exact later _
  · split
    · exact later _
    · split
      · exact later _
      · split
        · exact later _
        · split
          · next submitted =>
            have only := submit_only submitted
            exact entered.of_same only.activeReplyChannels only.calls
          · have held : (b.entered command).calls[b.calls.length]? =
                some (b.entry command .subscribing) := by simp [Bus.entered]
            exact entered.finish held _ _

theorem replySettled (call g : Nat) (error : Option JsString) :
    Answering (b.replySettled now call g error) := by
  unfold Bus.replySettled
  split
  · exact answering
  · next c held =>
    dsimp only
    split
    · have only := mark_only b g
      refine (answering.of_same only.activeReplyChannels only.calls).finish ?_ _ _
      rw [only.calls]
      exact held
    · split
      · exact answering.finish held _ _
      · split
        · exact answering.finish held _ _
        · exact modified (b := { b with outbox := _ }) answering call fun d => ⟨rfl, fun _ => rfl⟩

theorem cleanupSettled (call g : Nat) (error : Option JsString) :
    Answering (b.cleanupSettled call g error) := by
  have only := mark_only b g
  have marked := answering.of_same only.activeReplyChannels only.calls
  have before : Answering (if error.isSome then b.markSubscriberStateUnknown g else b) := by
    split
    · exact marked
    · exact answering
  unfold Bus.cleanupSettled
  refine before.modified call fun c => ?_
  obtain ⟨command, generation, phase⟩ := c
  cases phase with
  | cleaning answer => exact ⟨rfl, fun unfinished => by cases unfinished⟩
  | _ => exact ⟨rfl, id⟩

end

theorem respond_kept (c : Call) (answer : Answer) : (Bus.respond c answer).command = c.command ∧
    (isUnfinished c = true → isUnfinished (Bus.respond c answer) = true) := by
  unfold Bus.respond
  split
  · exact ⟨rfl, fun _ => rfl⟩
  · exact ⟨rfl, fun _ => rfl⟩
  · exact ⟨rfl, id⟩

theorem deliver (answering : Answering b) (channel : Channel) (payload : Json.Source) :
    Answering (b.deliver channel payload) := by
  unfold Bus.deliver
  split
  · split
    · exact answering
    · exact answering
  · split
    · exact answering
    · apply answering.mapped
      intro c
      split
      · exact respond_kept _ _
      · exact ⟨rfl, id⟩

theorem exec (answering : Answering b) {event : Event} (step : b.exec now event = some t) :
    Answering t := by
  cases event with
  | subscribe _ _ | unsubscribe _ _ | resetWaitEnds _ | restoreWaitEnds _ | executes
  | connectionLost | ready | turns _ _ =>
    obtain ⟨active, calls⟩ := (exec_traffic rfl step).requests
    exact answering.of_same active calls
  | request command =>
    cases Option.some.inj step
    exact answering.request now command
  | close =>
    cases Option.some.inj step
    intro r active
    cases active
  | settles number error =>
    obtain ⟨a, -, rest, rfl, same | ⟨call, -, rfl⟩ | ⟨call, -, rfl⟩⟩ := settles_eq_some step
    · obtain ⟨active, calls⟩ := same.requests
      exact answering.of_same active calls
    · have rest : Answering { b with awaiting := b.awaiting.erase a } := answering
      exact rest.replySettled _ _ _
    · have rest : Answering { b with awaiting := b.awaiting.erase a } := answering
      exact rest.cleanupSettled _ _ _
  | publishAnswered call recipientCount =>
    simp only [Bus.exec, Bus.publishAnswered, Option.bind_eq_bind, Option.bind_eq_some_iff] at step
    obtain ⟨c, held, step⟩ := step
    split at step
    · split at step
      · cases Option.some.inj step
        exact answering.finish held _ _
      · cases Option.some.inj step
        exact answering.finish held _ _
      · cases Option.some.inj step
        exact answering.modified call fun c => ⟨rfl, fun _ => rfl⟩
    · cases step
  | replyTimesOut call =>
    simp only [Bus.exec, Bus.replyTimesOut, Option.bind_eq_bind, Option.bind_eq_some_iff,
      Option.ite_none_right_eq_some] at step
    obtain ⟨c, -, -, made⟩ := step
    cases Option.some.inj made
    exact answering.modified call fun c => respond_kept c _
  | resumes call =>
    simp only [Bus.exec, Bus.resumes, Option.bind_eq_bind, Option.bind_eq_some_iff] at step
    obtain ⟨c, held, step⟩ := step
    split at step
    · cases Option.some.inj step
      exact answering.finish held _ _
    · cases step
  | deliver channel payload =>
    cases Option.some.inj step
    exact answering.deliver channel payload
  | handlerSettles execution outcome =>
    obtain ⟨active, calls⟩ := (handlerSettles_only step).requests
    exact answering.of_same active calls
  | resultRetries execution =>
    obtain ⟨active, calls⟩ := (resultRetries_only step).requests
    exact answering.of_same active calls
  | resultAnswered execution published =>
    obtain ⟨active, calls⟩ := (resultAnswered_only step).requests
    exact answering.of_same active calls

theorem run {requests commands : Nat} (run : Run (created requests commands) b) :
    Answering b := by
  induction run with
  | refl =>
    intro r active
    cases active
  | tail _ step ih =>
    obtain ⟨now, event, step⟩ := step
    exact ih.exec step

end Answering

/-! ### Quiescent buses -/

/-- No command of the subscriber's connection is in flight, and the bus is open. -/
structure Quiet (b : Bus) : Prop where
  opened : b.closing = false
  executed : b.connection.queue = []
  settled : b.awaiting = []

instance (b : Bus) : Decidable (Quiet b) :=
  decidable_of_iff (b.closing = false ∧ b.connection.queue = [] ∧ b.awaiting = [])
    ⟨fun ⟨opened, executed, settled⟩ => ⟨opened, executed, settled⟩,
      fun quiet => ⟨quiet.opened, quiet.executed, quiet.settled⟩⟩

/-- A reconnect or a wait is pending, or a request is still to finish. -/
def Unfinished (b : Bus) : Prop :=
  b.connection.reconnecting = true ∨ b.resetWaits ≠ [] ∨ b.restoreWaits ≠ [] ∨
    ∃ c ∈ b.calls, isUnfinished c = true

theorem Sound.unfinished (sound : Sound nothing b) (answering : Answering b) (quiet : Quiet b)
    (unsettled : b.subscriberUnsettled = true) : Unfinished b := by
  have owing (owed : b.subscriberResetOwed = true) : Unfinished b := by
    by_cases progress : b.subscriberResetInProgress = true
    · rcases (sound.resets progress).2 with connecting | waiting
      · exact .inl connecting
      · exact .inr (.inl (List.ne_nil_of_mem waiting))
    · rw [Bool.not_eq_true] at progress
      obtain ⟨r, active⟩ := List.exists_mem_of_ne_nil _ (sound.owes owed progress)
      obtain ⟨c, mem, -, unfinished⟩ := answering r active
      exact .inr (.inr (.inr ⟨c, mem, unfinished⟩))
  simp only [Bus.subscriberUnsettled, Bool.or_eq_true] at unsettled
  rcases unsettled with (restoring | owed) | progress
  · rcases sound.restores restoring with owed | connecting | waiting | ⟨a, mem, -⟩
    · exact owing owed
    · exact .inl connecting
    · exact .inr (.inr (.inl (List.ne_nil_of_mem waiting)))
    · rw [quiet.settled] at mem
      cases mem
  · exact owing owed
  · exact owing (sound.resets progress).1

theorem Sound.subscribed (sound : Sound nothing b) (quiet : Quiet b)
    (settled : ¬ b.subscriberUnsettled = true) (connected : b.connection.reconnecting = false)
    (waits : b.restoreWaits = []) (c : Channel) :
    c ∈ b.connection.subscribed ↔ c ∈ b.desired := by
  obtain ⟨owed, progress⟩ := clear_of_settled settled
  have all : b.connection.eventually = b.connection.subscribed := by
    simp [Connection.eventually, quiet.executed]
  rw [← all]
  constructor
  · intro mem
    rcases sound.extra owed progress c mem with wanted | gone
    · exact wanted
    · exact gone.elim
  · exact sound.missing owed progress connected (by simp [waits]) c

/-- With all commands answered, a bus that knows its subscriptions has just what it desires, and one
that does not has something still to come. -/
def Matches (b : Bus) : Prop :=
  Quiet b →
    (b.subscriberUnsettled = false → b.connection.reconnecting = false → b.resetWaits = [] →
      b.restoreWaits = [] → ∀ c, c ∈ b.connection.subscribed ↔ c ∈ b.desired) ∧
    (b.subscriberUnsettled = true → Unfinished b)

theorem subscriptions_match_the_registries {requests commands : Nat}
    (run : RunMeeting (created requests commands) b) : Matches b := by
  intro quiet
  have sound := sound_run run quiet.opened
  have answering := Answering.run (run.lift id fun _ _ step => step.step)
  exact ⟨fun settled connected _ waits => sound.subscribed quiet (by simp [settled]) connected waits,
    sound.unfinished answering quiet⟩

/-- A check of what steps have to meet, which looks at every command that waits. -/
def inOrder (b : Bus) : Event → Bool
  | .settles _ (some _) => b.awaiting.all fun a => a.submittedGeneration = b.subscriberGeneration
  | .ready => b.connection.eventually.all (· ∈ b.desired)
  | _ => true

theorem meets_of_inOrder {event : Event} (checked : inOrder b event = true) : Meets b event := by
  cases event with
  | settles number error =>
    cases error with
    | none => trivial
    | some error =>
      intro _ a found _ _ _
      exact .inl (of_decide_eq_true (List.all_eq_true.mp checked a (List.mem_of_find?_eq_some found)))
  | ready =>
    intro _ c mem
    exact of_decide_eq_true (List.all_eq_true.mp checked c mem)
  | _ => trivial

theorem replayed_meeting {events : List Event} (replayed : events.foldlM (fun b event =>
    if inOrder b event then b.exec now event else none) b = some t) : RunMeeting b t := by
  induction events generalizing b with
  | nil =>
    cases Option.some.inj replayed
    exact .refl
  | cons event events ih =>
    obtain ⟨middle, step, rest⟩ := Option.bind_eq_some_iff.mp replayed
    obtain ⟨checked, step⟩ := Option.ite_none_right_eq_some.mp step
    exact .head ⟨now, event, meets_of_inOrder checked, step⟩ (ih rest)

/-- A registration that goes through, and one that fails. The subscriber is then reset at the
second try, its first restore fails too, and the next one brings back what was registered. -/
def restoredRegistration : List Event :=
  [.subscribe (js "a") 0, .executes, .settles 0 none, .turns true false, .subscribe (js "b") 1,
    .executes, .settles 1 (some (js "Command timed out")), .turns false false, .resetWaitEnds 0,
    .ready, .executes, .settles 2 (some (js "Command timed out")), .ready, .restoreWaitEnds 2,
    .executes, .settles 3 none]

theorem registration_matches : ∃ b, Matches b ∧ Quiet b ∧ b.subscriberGeneration = 2 ∧
    b.subscriberUnsettled = false ∧ b.connection.subscribed = [.command (js "a")] ∧
    b.desired = [.command (js "a")] := by
  have ends : (restoredRegistration.foldlM (fun b event =>
      if inOrder b event then b.exec 0 event else none) (created 1 2)).any (fun b =>
        decide (Quiet b ∧ b.subscriberGeneration = 2 ∧ b.subscriberUnsettled = false ∧
          b.connection.subscribed = [.command (js "a")] ∧ b.desired = [.command (js "a")])) =
      true := by
    decide +kernel
  obtain ⟨b, replayed, holds⟩ := (Option.any_eq_true ..).mp ends
  exact ⟨b, subscriptions_match_the_registries (replayed_meeting replayed), of_decide_eq_true holds⟩

/-- Its connection is lost before a SUBSCRIBE is answered, the next one is given the channel, and
then the SUBSCRIBE times out. -/
def lateRegistration : List Event :=
  [.subscribe (js "a") 0, .connectionLost, .ready, .executes, .settles 1 none,
    .settles 0 (some (js "Command timed out"))]

theorem late_registration_stays_subscribed :
    ∃ b, Run (created 1 2) b ∧ ¬ Matches b := by
  have ends : (lateRegistration.foldlM (Bus.exec · 0) (created 1 2)).any (fun b =>
      decide (Quiet b ∧ b.subscriberUnsettled = false ∧ b.connection.reconnecting = false ∧
        b.resetWaits = [] ∧ b.restoreWaits = [] ∧
        b.connection.subscribed = [.command (js "a")] ∧ b.desired = [])) = true := by
    decide +kernel
  obtain ⟨b, replayed, holds⟩ := (Option.any_eq_true ..).mp ends
  obtain ⟨quiet, settled, connected, resets, restores, subscribed, desired⟩ :=
    of_decide_eq_true holds
  refine ⟨b, replayed_run replayed, fun all => ?_⟩
  have same := (all quiet).1 settled connected resets restores (.command (js "a"))
  rw [subscribed, desired] at same
  simp at same

end BiliSyncPlay.CommandBus
