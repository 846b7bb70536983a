import BiliSyncPlay.Service.Versions

/-!
# What plays is what is shared

A share writes its video and the playback of it at once, and an update is judged against the
video of the record that its write expects.
-/

namespace BiliSyncPlay

open Interleave

/-- Whatever plays is the shared video, by its normalized address. -/
def PersistedRoom.Coherent (cfg : Config) (room : PersistedRoom) : Prop :=
  ∀ playback, room.playback = some playback → ∃ video url, room.sharedVideo = some video ∧
    cfg.normalizeBilibiliUrl playback.url = some url ∧
    cfg.normalizeBilibiliUrl video.url = some url

/-- Nobody creates rooms, and what is shared is the address of a video: `isBilibiliUrl` takes
what `normalizeBilibiliUrl` has an answer for. -/
def Req.sharable (cfg : Config) (req : Req) : Prop :=
  req.creates = false ∧ ∀ shared ∈ req.share?, (cfg.normalizeBilibiliUrl shared.1.url).isSome

instance (cfg : Config) : DecidablePred (Req.sharable cfg) := by
  unfold Req.sharable
  infer_instance

theorem effect_sharable (cfg : Config) (n : NodeId) (id : EffectId) (task : Task) :
    (Req.effect n id task).sharable cfg := by
  simp [Req.sharable, Req.creates, Req.share?]

theorem urlsMatch_iff {cfg : Config} {shared : SharedVideo} {playback : PlaybackState} :
    urlsMatch cfg shared playback = true ↔ ∃ url,
      cfg.normalizeBilibiliUrl playback.url = some url ∧
      cfg.normalizeBilibiliUrl shared.url = some url := by
  unfold urlsMatch
  cases cfg.normalizeBilibiliUrl shared.url <;>
    cases cfg.normalizeBilibiliUrl playback.url <;> simp [eq_comm]

section
variable {cfg : Config} {p₀ p q : Pool (machine cfg)}

/-- A patch that touches neither leaves them what they were. -/
theorem Coherent.untouched {room : PersistedRoom} {patch : PersistedRoomPatch} {t : Time}
    (h : room.Coherent cfg)
    (untouched : (patch.sharedVideo.isNone && patch.playback.isNone) = true) :
    (room.patched patch t).Coherent cfg := by
  simp only [Bool.and_eq_true, Option.isNone_iff_eq_none] at untouched
  simpa [PersistedRoom.Coherent, PersistedRoom.patched, untouched] using h

theorem Coherent.shared {room : PersistedRoom} {patch : PersistedRoomPatch} {t : Time}
    {video : SharedVideo} {playback : PlaybackState}
    (video_ : patch.sharedVideo = some (some video))
    (playback_ : patch.playback = some (some playback)) (same : playback.url = video.url)
    (normalizes : (cfg.normalizeBilibiliUrl video.url).isSome) :
    (room.patched patch t).Coherent cfg := by
  obtain ⟨url, known⟩ := Option.isSome_iff_exists.mp normalizes
  intro stored now
  simp only [PersistedRoom.patched, playback_, Option.getD_some, Option.some.injEq] at now
  subst now
  exact ⟨video, url, by simp [PersistedRoom.patched, video_], same ▸ known, known⟩

/-- A warranted write leaves a coherent record behind. -/
theorem coherent_of_warranted {req : Req} {past : Past} {code : Code}
    {expected : RoomUpdateGuard} {patch : PersistedRoomPatch} {room : PersistedRoom} {t : Time}
    (warranted : Warranted cfg req past (.updateRoom code expected patch))
    (sharable : req.sharable cfg) (passes : expected.refusal room = none)
    (current : ∀ access, WasRead past access → access.code = code →
      room.version = access.version → room = access)
    (coherent : room.Coherent cfg) : (room.patched patch t).Coherent cfg := by
  cases warranted with
  | plain plain => exact Coherent.untouched coherent plain
  | clears => exact fun _ now => nomatch now
  | shares bears shares =>
    have normalizes := sharable.2 _ shares
    exact Coherent.shared rfl rfl (sharedPlayback_url ..) normalizes
  | updates bears updates admitted taken shown same acts =>
    rename_i access shared playback actorId takenAt
    cases current access taken.read rfl (refusal_version_eq_none.mp passes)
    rintro stored now
    cases now
    obtain ⟨url, playing, showing⟩ := urlsMatch_iff.mp same
    exact ⟨shared, url, shown, playing, showing⟩

/-- Rooms that are all coherent, and no call or write under way. -/
structure Quietly (cfg : Config) (p₀ : Pool (machine cfg)) : Prop where
  idle : p₀.calls = []
  settled : p₀.shared.lateWrites = []
  keyed : p₀.shared.roomStore.Keyed
  coherent : ∀ code room, p₀.shared.roomStore.getRoom code = some room → room.Coherent cfg

/-- In every room that is ever stored, whatever plays is the shared video: through any shares of
addresses of videos, updates, joins, leaves, clearings and whatever else the service does but
create rooms, at any pace and with any faults of the stores, writes that land late included. -/
theorem playback_is_of_the_shared_video (start : Quietly cfg p₀)
    (run : Run (asking (Req.sharable cfg)) p₀ p) (code : Code) (room : PersistedRoom)
    (stored : p.shared.roomStore.getRoom code = some room) : room.Coherent cfg := by
  have unfounded : Unfounded (Req.sharable cfg) p₀ :=
    ⟨fun _ sharable => sharable.1, effect_sharable cfg, start.idle, start.settled, start.keyed⟩
  induction run generalizing code room with
  | refl => exact start.coherent code room stored
  | step mv run allowed step ih =>
    cases step_moved unfounded run step code with
    | same still => exact ih code room (still ▸ stored)
    | deleted now => cases now.symm.trans stored
    | updated lands vouched found passes now =>
      rename_i old
      cases now.symm.trans stored
      obtain ⟨call, mem, past, issued, warranted⟩ := vouched
      have sharable := calls_asked start.idle (effect_sharable cfg) run call mem
      apply coherent_of_warranted warranted sharable passes _ (ih code old found)
      rintro access read rfl version
      have known := told_known unfounded run call mem access (.inl (read.mono issued.suffix))
      exact known.current found version

end

theorem updated_share_is_coherent : ∃ (p : Pool (machine oneNode)) (room : PersistedRoom),
    Run (asking (Req.sharable oneNode)) ⟨twoInRoom, []⟩ p ∧
    p.shared.roomStore.getRoom 1 = some room ∧
    (room.version, room.playback.map (·.seq)) = (2, some 2) ∧ room.Coherent oneNode := by
  have ran : ((Pool.replay (asking (Req.sharable oneNode)) ⟨twoInRoom, []⟩ sharedThenUpdated).map
      fun p => (p.shared.roomStore.getRoom 1).map fun room =>
        (room.version, room.playback.map (·.seq))) = some (some (2, some 2)) := by
    decide +kernel
  obtain ⟨p, run, seen⟩ := Pool.replay_spec _ _ _ _ ran
  obtain ⟨room, stored, shown⟩ := Option.map_eq_some_iff.mp seen
  refine ⟨p, room, run, stored, shown, ?_⟩
  refine playback_is_of_the_shared_video ⟨rfl, rfl, ?_, ?_⟩ run 1 room stored
  · exact twoInRoom_room (P := fun c r => r.code = c) rfl
  · exact twoInRoom_room (P := fun _ r => r.Coherent oneNode) fun _ plays => nomatch plays

end BiliSyncPlay
