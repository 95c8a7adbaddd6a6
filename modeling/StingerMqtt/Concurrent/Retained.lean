import StingerMqtt.Concurrent.Identity
import StingerMqtt.Concurrent.Ledger

/-!
# No retained message is lost

A message is stored before it is fanned out, and a row is pushed before its
subscribe replays. So for every row and every entry of the retained store that
matches, whichever came second: the message was sent, or the thread that is
going to send it has not got there yet.
-/

namespace StingerMqtt

open Kit Mock MockWorld

variable {B : Broadcast MqttMessage} {p : Profile} {cfg cfg' : Config B} {t : ThreadId}
  {move : Move} {ls : List Label} {s : Subscription} {m : MqttMessage} {topic : String}

/-- The row was sent the message, or a thread is about to replay to it, or to
fan the message out. -/
def Config.Gets (cfg : Config B) (s : Subscription) (m : MqttMessage) : Prop :=
  m.tagged s.subId ∈ cfg.world.channels.sent s.tx ∨
    (∃ t call iter, cfg.threads t = .replay call s.topic s.tx iter s.subId) ∨
    ∃ t call, cfg.threads t = .fanOut call m

/-- Each row gets each retained message it matches. -/
def Config.NoneLost (cfg : Config B) : Prop :=
  ∀ s ∈ cfg.world.table, ∀ topic m, cfg.world.retained.lookup topic = some m →
    topicMatches s.topic topic = true → cfg.Gets s m

/-- The replay sends what the store holds. -/
theorem Moves.replay_sent (hg : cfg.Good) (hmoves : Moves p cfg t move cfg')
    (hlive : cfg.world.channels.Live s.tx) {call : CallId} {iter : IterOrder String MqttMessage}
    (hpc : cfg.threads t = .replay call s.topic s.tx iter s.subId)
    (hlookup : cfg.world.retained.lookup topic = some m)
    (hmatch : topicMatches s.topic topic = true) :
    m.tagged s.subId ∈ cfg'.world.channels.sent s.tx := by
  obtain rfl := hg.sound.keys topic m hlookup
  cases hmoves with
  | replay hpc' htook =>
      obtain ⟨rfl, rfl, rfl, rfl, rfl⟩ := Pc.replay.inj (hpc.symm.trans hpc')
      have hmem : (s, m) ∈ replays cfg.world s iter :=
        (mem_replays hg.sound).mpr ⟨rfl, hlive, hlookup, hmatch⟩
      show _ ∈ (cfg.world.setChannels _).channels.sent s.tx
      rw [channels_setChannels, htook.sent]
      exact List.mem_append_right _ (Bank.mem_onChannel.mpr (List.mem_map_of_mem hmem))
  | invoke hpc' | store hpc' | fanOutPanicked hpc' | fanOut hpc' | lockPanicked hpc' | lock hpc'
  | allocateOverflow hpc' | allocate hpc' | atomic hpc' | ret hpc' =>
      rw [hpc] at hpc'
      cases hpc'

/-- The fan-out sends to every row that matches. -/
theorem Moves.fanOut_sent (hmoves : Moves p cfg t move cfg') (hlive : cfg.AllLive)
    (hhealthy : cfg.world.poisoned = false) {call : CallId} (hpc : cfg.threads t = .fanOut call m)
    (hs : s ∈ cfg.world.table) (hmatch : topicMatches s.topic m.topic = true) :
    m.tagged s.subId ∈ cfg'.world.channels.sent s.tx := by
  cases hmoves with
  | fanOut hpc' hfree hp htook =>
      obtain ⟨rfl, rfl⟩ := Pc.fanOut.inj (hpc.symm.trans hpc')
      have hmem : (s, m) ∈ fanOuts cfg.world m :=
        mem_fanOuts.mpr ⟨rfl, (mem_reached_of_allLive hlive m s).mpr ⟨hs, hmatch⟩⟩
      show _ ∈ (cfg.world.setChannels _).channels.sent s.tx
      rw [channels_setChannels, htook.sent]
      exact List.mem_append_right _ (Bank.mem_onChannel.mpr (List.mem_map_of_mem hmem))
  | fanOutPanicked hpc' hfree hp =>
      rw [hhealthy] at hp
      cases hp
  | invoke hpc' | store hpc' | lockPanicked hpc' | lock hpc' | allocateOverflow hpc'
  | allocate hpc' | replay hpc' | atomic hpc' | ret hpc' =>
      rw [hpc] at hpc'
      cases hpc'

/-- Who was about to send has sent, or still is. -/
theorem Config.Gets.step (hg : cfg.Good) (hmoves : Moves p cfg t move cfg')
    (hlive : cfg.AllLive) (hhealthy : cfg.world.poisoned = false)
    (hs : s ∈ cfg.world.table) (hlookup : cfg.world.retained.lookup topic = some m)
    (hmatch : topicMatches s.topic topic = true) (h : cfg.Gets s m) : cfg'.Gets s m := by
  obtain ⟨pc, hthreads, -, -⟩ := hmoves.thread
  -- if the step is that of the thread about to send, this is when it sends
  rcases h with hsent | ⟨t', call, iter, hpc⟩ | ⟨t', call, hpc⟩
  · exact .inl (hmoves.sent_mono hg hsent)
  · rcases Config.threads_cases hthreads t' with ⟨rfl, -⟩ | ⟨-, hsame⟩
    · exact .inl (hmoves.replay_sent hg (hlive s hs) hpc hlookup hmatch)
    · exact .inr (.inl ⟨t', call, iter, hsame.trans hpc⟩)
  · rcases Config.threads_cases hthreads t' with ⟨rfl, -⟩ | ⟨-, hsame⟩
    · obtain rfl := hg.sound.keys topic m hlookup
      exact .inl (hmoves.fanOut_sent hlive hhealthy hpc hs hmatch)
    · exact .inr (.inr ⟨t', call, hsame.trans hpc⟩)

/-- A new row is about to be replayed to, and a new entry to be fanned out. -/
theorem Moves.new_pair (hg : cfg.Good) (hmoves : Moves p cfg t move cfg')
    (hs : s ∈ cfg'.world.table) (hlookup : cfg'.world.retained.lookup topic = some m) :
    (s ∈ cfg.world.table ∧ cfg.world.retained.lookup topic = some m) ∨ cfg'.Gets s m := by
  cases hmoves with
  | invoke | fanOutPanicked | fanOut | lockPanicked | lock | allocateOverflow | replay | ret =>
      exact .inl ⟨hs, hlookup⟩
  | @store call m' hpc =>
      have hlookup : (cfg.world.retained.insert m'.topic m').lookup topic = some m := hlookup
      by_cases htopic : topic = m'.topic
      · subst htopic
        rw [AList.lookup_insert] at hlookup
        obtain rfl := Option.some_inj.mp hlookup
        exact .inr (.inr (.inr ⟨t, call, Config.goto_threads_self _ _⟩))
      · rw [AList.lookup_insert_ne htopic] at hlookup
        exact .inl ⟨hs, hlookup⟩
  | @allocate call filter tx iter nextId' hpc hadd =>
      rcases List.mem_append.mp hs with hs | hs
      · exact .inl ⟨hs, hlookup⟩
      · obtain rfl := List.mem_singleton.mp hs
        exact .inr (.inr (.inl ⟨t, call, iter, Config.goto_threads_self _ _⟩))
  | atomic hpc _ heffect =>
      have hone := hg.oneSection hpc
      exact .inl ⟨heffect.oneSection_table hone hg.rows hs,
        (heffect.oneSection_retained hone hlookup cfg.origin).1⟩

theorem Moves.noneLost (hg : cfg.Good) (hmoves : Moves p cfg t move cfg')
    (hlive : cfg.AllLive) (hhealthy : cfg.world.poisoned = false) (h : cfg.NoneLost) :
    cfg'.NoneLost := by
  intro s hs topic m hlookup hmatch
  rcases hmoves.new_pair hg hs hlookup with ⟨hold, hentry⟩ | hnew
  · exact (h s hold topic m hentry hmatch).step hg hmoves hlive hhealthy hold hentry hmatch
  · exact hnew

theorem clones_noneLost {clientId : String}
    (h : ((clones B p clientId).within Config.AllLive).Trace ls cfg)
    (hcount : (subscribeCalls ls).length < 2 ^ 32 - 1) : cfg.NoneLost := by
  let I : List Label → Config B → Prop := fun ls cfg =>
    (subscribeCalls ls).length < 2 ^ 32 - 1 → cfg.NoneLost
  have hI : I ls cfg := by
    refine TSys.Trace.induct ?_ ?_ h
    · rintro cfg ⟨rfl, -⟩ - s hs
      exact absurd hs List.not_mem_nil
    · intro ls cfg l cfg' htrace hI hstep hcount
      have hcount : (subscribeCalls ls).length < 2 ^ 32 - 1 := by
        rw [subscribeCalls_snoc, List.length_append] at hcount
        omega
      have hclones := TSys.within_trace htrace
      have hg := clones_good ⟨ls, hclones⟩
      have hlive : cfg.AllLive := TSys.within_trace_last htrace
      -- too few subscribes to overflow the counter, so nothing is poisoned
      have hhealthy := (clones_inOrder hclones hcount).numbered.healthy
      exact (step_moves hg hstep.1).noneLost hg hlive hhealthy (hI hcount)
  exact hI hcount

/-- Once every call has returned, every subscription was sent every message of
the retained store that its filter matches. -/
theorem retained_not_lost {clientId : String}
    (h : ((clones B p clientId).within Config.AllLive).Trace ls cfg)
    (hcount : (subscribeCalls ls).length < 2 ^ 32 - 1)
    (hreturned : ∀ t, cfg.threads t = .idle) :
    ∀ s ∈ cfg.world.table, ∀ topic m, cfg.world.retained.lookup topic = some m →
      topicMatches s.topic topic = true → m.tagged s.subId ∈ cfg.world.channels.sent s.tx := by
  intro s hs topic m hlookup hmatch
  rcases clones_noneLost h hcount s hs topic m hlookup hmatch with
    hsent | ⟨t, call, iter, hpc⟩ | ⟨t, call, hpc⟩
  · exact hsent
  · rw [hreturned] at hpc
    cases hpc
  · rw [hreturned] at hpc
    cases hpc

/-- A message is stored while a subscribe waits to replay. -/
def storeBetween : List Turn :=
  [.call 0 (.channel 4), .go 0, .go 0,
    .call 0 (.subscribe "a/+" .atMostOnce 0 (.stored _ _)), .go 0, .go 0,
    .call 1 (.simulateReceive (.simple "a/b" .atMostOnce true [1])), .go 1,
    .go 0, .go 1, .go 0, .go 1]

theorem retained_not_lost_run :
    let run := ((Config.new (.log MqttMessage) "mock-client").play .debug Config.AllLive
      storeBetween).get (by decide)
    ∀ s ∈ run.2.world.table, ∀ topic m, run.2.world.retained.lookup topic = some m →
      topicMatches s.topic topic = true → m.tagged s.subId ∈ run.2.world.channels.sent s.tx := by
  intro run
  have hrun : ((clones (.log MqttMessage) .debug "mock-client").within
      Config.AllLive).Trace run.1 run.2 :=
    Config.play_trace (by decide) (Option.some_get _).symm
  have hreturned : ∀ t, run.2.threads t = .idle := by
    obtain ⟨_, ⟨rfl, -⟩, hsteps⟩ := hrun
    exact run_idle ⟨[], _, rfl, .nil⟩ (fun _ => rfl) (TSys.within_run hsteps) (by decide)
  exact retained_not_lost hrun (by decide) hreturned

end StingerMqtt
